import XcpCephRbd.Gc.Collect

/-!
# What a worker leaves of the cluster

`Collects` says what a worker may do by the requests that it makes; `Spares` says what that leaves:
no image comes or goes, contents stay, and no snapshot goes but those of the job. `WellFormed` is
what Ceph keeps up by itself, through every request.
-/

namespace XcpCephRbd.Gc

open Volume (Job)
open Relation (ReflTransGen)

/-- The snapshot is the same but for its protection and for a link that a flatten took away. -/
structure Snap.Reduced (s s' : Snap) : Prop where
  id : s'.id = s.id
  name : s'.name = s.name
  size : s'.size = s.size
  content : s'.content = s.content
  parent : s'.parent = s.parent ∨ s'.parent = none

/-- The image is the same but for a link that a flatten took away and for its snapshots, each of
which it had before. -/
structure Image.Reduced (img img' : Image) : Prop where
  id : img'.id = img.id
  size : img'.size = img.size
  features : img'.features = img.features
  metadata : img'.metadata = img.metadata
  content : img'.content = img.content
  parent : img'.parent = img.parent ∨ img'.parent = none
  snapshots : ∀ s' ∈ img'.snapshots, ∃ s ∈ img.snapshots, s.Reduced s'

/-- Every image is one from before, reduced. -/
def Graph.Shrinks (g g' : Graph) : Prop :=
  ∀ spec img', g'.images.lookup spec = some img' →
    ∃ img, g.images.lookup spec = some img ∧ img.Reduced img'

/-- No image comes or goes, each keeps its content, and each keeps its snapshots but for those that
the job covers. -/
structure Spares (pool ns : String) (job : Job) (g g' : Graph) : Prop where
  only : ∀ spec, spec ∈ g'.images → spec ∈ g.images
  kept : ∀ spec img, g.images.lookup spec = some img → ∃ img', g'.images.lookup spec = some img' ∧
    img.Reduced img' ∧ ∀ s ∈ img.snapshots,
      (spec = ⟨pool, ns, job.image⟩ ∧ Covers job s.name) ∨ ∃ s' ∈ img'.snapshots, s.Reduced s'

section Spares

variable {pool ns : String} {job : Job} {scope : List Spec} {g g' g'' : Graph}
  {img img' img'' : Image}

@[refl] theorem Snap.Reduced.refl (s : Snap) : s.Reduced s := ⟨rfl, rfl, rfl, rfl, .inl rfl⟩

/-- A snapshot that was reduced twice. -/
theorem Snap.Reduced.trans {s s' s'' : Snap} (h : s.Reduced s') (h' : s'.Reduced s'') :
    s.Reduced s'' where
  id := h'.id.trans h.id
  name := h'.name.trans h.name
  size := h'.size.trans h.size
  content := h'.content.trans h.content
  parent := by
    obtain hsame | hnone := h'.parent
    · rw [hsame]
      exact h.parent
    · exact .inr hnone

@[refl] theorem Image.Reduced.refl (img : Image) : img.Reduced img :=
  ⟨rfl, rfl, rfl, rfl, rfl, .inl rfl, fun s hs => ⟨s, hs, .refl s⟩⟩

/-- An image that was reduced twice. -/
theorem Image.Reduced.trans (h : img.Reduced img') (h' : img'.Reduced img'') :
    img.Reduced img'' where
  id := h'.id.trans h.id
  size := h'.size.trans h.size
  features := h'.features.trans h.features
  metadata := h'.metadata.trans h.metadata
  content := h'.content.trans h.content
  parent := by
    obtain hsame | hnone := h'.parent
    · rw [hsame]
      exact h.parent
    · exact .inr hnone
  snapshots := by
    intro s'' hs''
    obtain ⟨s', hs', hred'⟩ := h'.snapshots s'' hs''
    obtain ⟨s, hs, hred⟩ := h.snapshots s' hs'
    exact ⟨s, hs, hred.trans hred'⟩

/-- A reduced image has no new links. -/
theorem Image.Reduced.linksTo (h : img.Reduced img') {link : Link}
    (hlinks : img'.linksTo link = true) : img.linksTo link = true := by
  rw [linksTo_iff] at hlinks ⊢
  obtain hhead | ⟨s', hs', hparent⟩ := hlinks
  · obtain hsame | hnone := h.parent
    · exact .inl (hsame ▸ hhead)
    · rw [hnone] at hhead
      cases hhead
  · obtain ⟨s, hs, hred⟩ := h.snapshots s' hs'
    obtain hsame | hnone := hred.parent
    · exact .inr ⟨s, hs, hsame ▸ hparent⟩
    · rw [hnone] at hparent
      cases hparent

@[refl] theorem Spares.refl (g : Graph) : Spares pool ns job g g :=
  ⟨fun _ h => h, fun _ img himg => ⟨img, himg, .refl img, fun s hs => .inr ⟨s, hs, .refl s⟩⟩⟩

/-- What is spared twice is spared. -/
theorem Spares.trans (h : Spares pool ns job g g') (h' : Spares pool ns job g' g'') :
    Spares pool ns job g g'' := by
  refine ⟨fun spec hspec => h.only spec (h'.only spec hspec), fun spec img himg => ?_⟩
  obtain ⟨img', himg', hred, hsnaps⟩ := h.kept spec img himg
  obtain ⟨img'', himg'', hred', hsnaps'⟩ := h'.kept spec img' himg'
  refine ⟨img'', himg'', hred.trans hred', fun s hs => ?_⟩
  obtain hcovered | ⟨s', hs', hsred⟩ := hsnaps s hs
  · exact .inl hcovered
  · obtain ⟨hspec, hcovered⟩ | ⟨s'', hs'', hsred'⟩ := hsnaps' s' hs'
    · exact .inl ⟨hspec, hsred.name ▸ hcovered⟩
    · exact .inr ⟨s'', hs'', hsred.trans hsred'⟩

/-- Where all is spared, no image is new. -/
theorem Spares.shrinks (h : Spares pool ns job g g') : g.Shrinks g' := by
  intro spec img' himg'
  have hmem : spec ∈ g.images := h.only spec (AList.lookup_isSome.mp (by rw [himg']; rfl))
  obtain ⟨img, himg⟩ := Option.isSome_iff_exists.mp (AList.lookup_isSome.mpr hmem)
  obtain ⟨img'', himg'', hred, -⟩ := h.kept spec img himg
  cases himg'.symm.trans himg''
  exact ⟨img, himg, hred⟩

@[refl] theorem Graph.Shrinks.refl (g : Graph) : g.Shrinks g :=
  fun _ img himg => ⟨img, himg, .refl img⟩

/-- What shrinks twice shrinks. -/
theorem Graph.Shrinks.trans (h : g.Shrinks g') (h' : g'.Shrinks g'') : g.Shrinks g'' := by
  intro spec img'' himg''
  obtain ⟨img', himg', hred'⟩ := h' spec img'' himg''
  obtain ⟨img, himg, hred⟩ := h spec img' himg'
  exact ⟨img, himg, hred.trans hred'⟩

/-- The removal of an image leaves the others. -/
theorem shrinks_of_remove {spec : Spec} (h : g.apply (.remove spec) = some g') : g.Shrinks g' := by
  intro other img' himg'
  obtain ⟨img, -, hif⟩ := Option.bind_eq_some_iff.mp h
  obtain ⟨-, hgraph⟩ := Option.ite_none_right_eq_some.mp hif
  cases hgraph
  have hother : other ≠ spec := by
    rintro rfl
    rw [AList.lookup_erase] at himg'
    cases himg'
  rw [AList.lookup_erase_ne hother] at himg'
  exact ⟨img', himg', .refl img'⟩

/-- No snapshot gets a clone. -/
theorem Graph.Shrinks.children (h : g.Shrinks g') {link : Link} {spec : Spec}
    (hchild : spec ∈ g'.children link) : spec ∈ g.children link := by
  obtain ⟨img', himg', hlinks⟩ := mem_children_iff.mp hchild
  obtain ⟨img, himg, hred⟩ := h spec img' himg'
  exact mem_children_iff.mpr ⟨img, himg, hred.linksTo hlinks⟩

/-- A snapshot without clones gets none. -/
theorem Graph.Shrinks.childless (h : g.Shrinks g') {s s' : Snap} (himg : img'.id = img.id)
    (hs : s'.id = s.id) (hchildless : g.hasChildren img s = false) :
    g'.hasChildren img' s' = false := by
  simp only [Graph.hasChildren, Bool.not_eq_false', List.isEmpty_iff,
    List.eq_nil_iff_forall_not_mem, himg, hs] at hchildless ⊢
  exact fun spec hspec => hchildless spec (h.children hspec)

/-- The clones that pin an object were there before. -/
theorem Graph.Shrinks.pinning (h : g.Shrinks g') {spec child : Spec} {snapFilter : Option String}
    (hchild : child ∈ g'.pinning spec snapFilter) : child ∈ g.pinning spec snapFilter := by
  unfold Graph.pinning at hchild ⊢
  cases himg' : g'.images.lookup spec with
  | none => simp [himg'] at hchild
  | some img' =>
      obtain ⟨img, himg, hred⟩ := h spec img' himg'
      simp only [himg', himg, Option.map_some, Option.getD_some, List.mem_flatMap,
        List.mem_filter] at hchild ⊢
      obtain ⟨s', ⟨hs', hpasses⟩, hchild⟩ := hchild
      obtain ⟨s, hs, hsred⟩ := hred.snapshots s' hs'
      refine ⟨s, ⟨hs, hsred.name ▸ hpasses⟩, ?_⟩
      rw [← hred.id, ← hsred.id]
      exact h.children hchild

/-- A change of one image spares the others. -/
theorem spares_insert {spec : Spec} {nextId : Nat} (himg : g.images.lookup spec = some img)
    (hred : img.Reduced img')
    (hsnaps : ∀ s ∈ img.snapshots, (spec = ⟨pool, ns, job.image⟩ ∧ Covers job s.name) ∨
      ∃ s' ∈ img'.snapshots, s.Reduced s') :
    Spares pool ns job g { images := g.images.insert spec img', nextId := nextId } := by
  refine ⟨fun other hother => ?_, fun other oimg hoimg => ?_⟩
  · obtain rfl | hmem := AList.mem_insert _ |>.mp hother
    · exact AList.lookup_isSome.mp (by rw [himg]; rfl)
    · exact hmem
  · by_cases hsame : other = spec
    · subst hsame
      cases himg.symm.trans hoimg
      exact ⟨img', AList.lookup_insert _, hred, hsnaps⟩
    · exact ⟨oimg, by rw [AList.lookup_insert_ne hsame, hoimg], .refl oimg,
        fun s hs => .inr ⟨s, hs, .refl s⟩⟩

/-- A flattened image is reduced, with all its snapshots. -/
theorem reduced_flatten (img : Image) : img.Reduced img.flatten ∧
    ∀ s ∈ img.snapshots, ∃ s' ∈ img.flatten.snapshots, s.Reduced s' := by
  refine ⟨⟨rfl, rfl, rfl, rfl, rfl, .inr rfl, fun s' hs' => ?_⟩, fun s hs => ?_⟩
  · dsimp only [Image.flatten] at hs'
    split at hs'
    · obtain ⟨s, hs, rfl⟩ := List.mem_map.mp hs'
      exact ⟨s, hs, rfl, rfl, rfl, rfl, .inr rfl⟩
    · exact ⟨s', hs', .refl s'⟩
  · dsimp only [Image.flatten]
    split
    · exact ⟨_, List.mem_map.mpr ⟨s, hs, rfl⟩, rfl, rfl, rfl, rfl, .inr rfl⟩
    · exact ⟨s, hs, .refl s⟩

/-- An image with a snapshot unprotected is reduced, with all its snapshots. -/
theorem reduced_protect (img : Image) (snap : String) (on : Bool) :
    img.Reduced (img.mapSnap snap fun s => { s with isProtected := on }) ∧
    ∀ s ∈ img.snapshots,
      ∃ s' ∈ (img.mapSnap snap fun s => { s with isProtected := on }).snapshots, s.Reduced s' := by
  have hsnap :
      ∀ s : Snap, s.Reduced (if s.name == snap then { s with isProtected := on } else s) := by
    intro s
    split
    · exact ⟨rfl, rfl, rfl, rfl, .inl rfl⟩
    · exact .refl s
  refine ⟨⟨rfl, rfl, rfl, rfl, rfl, .inl rfl, fun s' hs' => ?_⟩, fun s hs => ?_⟩
  · obtain ⟨s, hs, rfl⟩ := List.mem_map.mp hs'
    exact ⟨s, hs, hsnap s⟩
  · exact ⟨_, List.mem_map.mpr ⟨s, hs, rfl⟩, hsnap s⟩

/-- What a worker may do spares the rest. -/
theorem Collects.spares (h : Collects pool ns job scope g g') : Spares pool ns job g g' := by
  cases h with
  | @flatten child _ happly =>
      obtain ⟨img, himg, hmap⟩ := Option.bind_eq_some_iff.mp happly
      obtain ⟨img', hedit, rfl⟩ := Option.map_eq_some_iff.mp hmap
      obtain ⟨-, rfl⟩ := edit_flatten hedit
      obtain ⟨hred, hsnaps⟩ := reduced_flatten img
      exact spares_insert himg hred fun s hs => .inr (hsnaps s hs)
  | @unprotect snap _ happly =>
      obtain ⟨img, himg, hmap⟩ := Option.bind_eq_some_iff.mp happly
      obtain ⟨img', hedit, rfl⟩ := Option.map_eq_some_iff.mp hmap
      obtain ⟨-, -, rfl⟩ := edit_snapSetProtected hedit
      obtain ⟨hred, hsnaps⟩ := reduced_protect img snap false
      exact spares_insert himg hred fun s hs => .inr (hsnaps s hs)
  | @removeSnap snap hcovers happly =>
      obtain ⟨img, himg, hmap⟩ := Option.bind_eq_some_iff.mp happly
      obtain ⟨img', hedit, rfl⟩ := Option.map_eq_some_iff.mp hmap
      obtain ⟨-, -, rfl⟩ := edit_snapRemove hedit
      refine spares_insert himg ⟨rfl, rfl, rfl, rfl, rfl, .inl rfl, fun s hs => ?_⟩ fun s hs => ?_
      · exact ⟨s, (List.mem_filter.mp hs).1, .refl s⟩
      · by_cases hname : s.name = snap
        · exact .inl ⟨rfl, hname ▸ hcovers⟩
        · exact .inr ⟨s, by simp [hs, hname], .refl s⟩

/-- A worker spares the rest as long as its `run` has not returned. -/
theorem spares_of_collects (h : ReflTransGen (Collects pool ns job scope) g g') :
    Spares pool ns job g g' := by
  induction h with
  | refl => exact .refl g
  | tail _ hstep ih => exact ih.trans hstep.spares

end Spares

/-- What Ceph keeps up: names are not empty, an image has one snapshot of a name, and where an image
with `deep-flatten` is flat, so are its snapshots. -/
structure Graph.WellFormed (g : Graph) : Prop where
  named : ∀ spec, spec ∈ g.images → spec.image ≠ ""
  unique : ∀ spec img, g.images.lookup spec = some img → (img.snapshots.map Snap.name).Nodup
  flat : ∀ spec img, g.images.lookup spec = some img → img.deep = true → img.parent = none →
    ∀ s ∈ img.snapshots, s.parent = none

/-- The request gives no image an empty name. -/
def Req.Named : Req → Prop
  | .create spec _ _ => spec.image ≠ ""
  | .imageRename _ newName => newName ≠ ""
  | .clone _ _ dst _ => dst.image ≠ ""
  | _ => True

section WellFormed

variable {g g' : Graph} {img img' : Image}

/-- Changing the snapshots of a name leaves the names, where it leaves that one. -/
theorem map_name_mapSnap {snap : String} {f : Snap → Snap} (hname : ∀ s, (f s).name = s.name) :
    (img.mapSnap snap f).snapshots.map Snap.name = img.snapshots.map Snap.name := by
  simp only [Image.mapSnap, List.map_map]
  refine List.map_congr_left fun s _ => ?_
  simp only [Function.comp_apply]
  split
  · exact hname s
  · rfl

/-- An edit keeps names unique. -/
theorem edit_unique {r : Req} (h : g.edit r img = some img')
    (hunique : (img.snapshots.map Snap.name).Nodup) : (img'.snapshots.map Snap.name).Nodup := by
  cases r with
  | put spec body =>
      cases h
      rwa [put_snapshots]
  | snapCreate spec snap =>
      obtain ⟨hnew, rfl⟩ := edit_snapCreate h
      have hfresh : ∀ s ∈ img.snapshots, s.name ≠ snap := by
        simpa [Image.named, List.filter_eq_nil_iff] using hnew
      rw [List.map_append, List.nodup_append]
      refine ⟨hunique, List.nodup_singleton _, fun name hname other hother => ?_⟩
      obtain ⟨s, hs, rfl⟩ := List.mem_map.mp hname
      obtain rfl := List.mem_singleton.mp hother
      exact hfresh s hs
  | snapRemove spec snap =>
      obtain ⟨-, -, rfl⟩ := edit_snapRemove h
      exact hunique.sublist (List.filter_sublist.map _)
  | snapSetProtected spec snap on =>
      obtain ⟨-, -, rfl⟩ := edit_snapSetProtected h
      have hnames :
          (img.mapSnap snap fun s => { s with isProtected := on }).snapshots.map Snap.name =
          img.snapshots.map Snap.name := map_name_mapSnap fun _ => rfl
      rwa [hnames]
  | snapRollback spec snap =>
      obtain ⟨s, -, rfl⟩ := edit_snapRollback h
      exact hunique
  | snapRename spec snap newSnap =>
      obtain ⟨-, hnew, rfl⟩ := edit_snapRename h
      have hfresh : ∀ s ∈ img.snapshots, s.name ≠ newSnap := by
        simpa [Image.named, List.filter_eq_nil_iff] using hnew
      have hnames : (img.mapSnap snap fun s => { s with name := newSnap }).snapshots.map Snap.name =
          (img.snapshots.map Snap.name).map fun name => if name == snap then newSnap else name := by
        simp only [Image.mapSnap, List.map_map]
        refine List.map_congr_left fun s _ => ?_
        simp only [Function.comp_apply]
        split <;> rfl
      rw [hnames]
      refine hunique.map_on fun name hname other hother heq => ?_
      obtain ⟨s, hs, rfl⟩ := List.mem_map.mp hname
      obtain ⟨t, ht, rfl⟩ := List.mem_map.mp hother
      have hs' := hfresh s hs
      have ht' := hfresh t ht
      grind
  | flatten spec =>
      obtain ⟨-, rfl⟩ := edit_flatten h
      have hnames : img.flatten.snapshots.map Snap.name = img.snapshots.map Snap.name := by
        dsimp only [Image.flatten]
        split
        · simp [Function.comp_def]
        · rfl
      rwa [hnames]
  | create spec size features => cases h
  | remove spec => cases h
  | imageRename spec newName => cases h
  | clone spec snap dst features => cases h

/-- An edit keeps flat images flat. -/
theorem edit_flat {r : Req} (h : g.edit r img = some img')
    (hflat : img.deep = true → img.parent = none → ∀ s ∈ img.snapshots, s.parent = none) :
    img'.deep = true → img'.parent = none → ∀ s ∈ img'.snapshots, s.parent = none := by
  cases r with
  | put spec body =>
      cases h
      have hdeep : (img.put body).deep = img.deep := by
        obtain ⟨_, _, _, h⟩ := @put_eq img body
        rw [h]
        rfl
      simpa only [put_snapshots, put_parent, hdeep] using hflat
  | snapCreate spec snap =>
      obtain ⟨-, rfl⟩ := edit_snapCreate h
      intro hdeep hparent s hs
      obtain hold | hnew := List.mem_append.mp hs
      · exact hflat hdeep hparent s hold
      · obtain rfl := List.mem_singleton.mp hnew
        exact hparent
  | snapRemove spec snap =>
      obtain ⟨-, -, rfl⟩ := edit_snapRemove h
      intro hdeep hparent s hs
      exact hflat hdeep hparent s (List.mem_filter.mp hs).1
  | snapSetProtected spec snap on =>
      obtain ⟨-, -, rfl⟩ := edit_snapSetProtected h
      intro hdeep hparent s' hs'
      obtain ⟨s, hs, hred⟩ := (reduced_protect img snap on).1.snapshots s' hs'
      rw [hred.parent.elim id fun hnone => hnone.trans (hflat hdeep hparent s hs).symm]
      exact hflat hdeep hparent s hs
  | snapRollback spec snap =>
      obtain ⟨s, -, rfl⟩ := edit_snapRollback h
      exact hflat
  | snapRename spec snap newSnap =>
      obtain ⟨-, -, rfl⟩ := edit_snapRename h
      intro hdeep hparent s' hs'
      obtain ⟨s, hs, rfl⟩ := List.mem_map.mp hs'
      have hs := hflat hdeep hparent s hs
      split <;> exact hs
  | flatten spec =>
      obtain ⟨-, rfl⟩ := edit_flatten h
      intro hdeep _ s hs
      have hdeep' : img.deep = true := hdeep
      simp only [Image.flatten, hdeep', if_true] at hs
      obtain ⟨t, -, rfl⟩ := List.mem_map.mp hs
      rfl
  | create spec size features => cases h
  | remove spec => cases h
  | imageRename spec newName => cases h
  | clone spec snap dst features => cases h

/-- A graph stays well formed when an image is set to a well-formed one. -/
theorem Graph.WellFormed.insert (hw : g.WellFormed) {spec : Spec} {nextId : Nat}
    (hname : spec.image ≠ "") (hunique : (img.snapshots.map Snap.name).Nodup)
    (hflat : img.deep = true → img.parent = none → ∀ s ∈ img.snapshots, s.parent = none) :
    Graph.WellFormed { images := g.images.insert spec img, nextId := nextId } := by
  refine ⟨fun other hother => ?_, fun other oimg hoimg => ?_, fun other oimg hoimg => ?_⟩
  · obtain rfl | hmem := AList.mem_insert _ |>.mp hother
    · exact hname
    · exact hw.named other hmem
  · by_cases hsame : other = spec
    · subst hsame
      cases (AList.lookup_insert _).symm.trans hoimg
      exact hunique
    · rw [AList.lookup_insert_ne hsame] at hoimg
      exact hw.unique other oimg hoimg
  · by_cases hsame : other = spec
    · subst hsame
      cases (AList.lookup_insert _).symm.trans hoimg
      exact hflat
    · rw [AList.lookup_insert_ne hsame] at hoimg
      exact hw.flat other oimg hoimg

/-- A graph stays well formed when an image is taken out. -/
theorem Graph.WellFormed.erase (hw : g.WellFormed) (spec : Spec) :
    Graph.WellFormed { g with images := g.images.erase spec } := by
  have hlookup : ∀ {other : Spec} {oimg : Image},
      (g.images.erase spec).lookup other = some oimg → g.images.lookup other = some oimg := by
    intro other oimg hoimg
    by_cases hsame : other = spec
    · subst hsame
      rw [AList.lookup_erase] at hoimg
      cases hoimg
    · rwa [AList.lookup_erase_ne hsame] at hoimg
  exact ⟨fun other hother => hw.named other (AList.mem_erase.mp hother).2,
    fun other oimg hoimg => hw.unique other oimg (hlookup hoimg),
    fun other oimg hoimg => hw.flat other oimg (hlookup hoimg)⟩

/-- Every request that Ceph grants keeps the graph well formed. -/
theorem Change.wellFormed {r : Req} (h : Change g r g') (hnamed : r.Named) (hw : g.WellFormed) :
    g'.WellFormed := by
  cases h with
  | @edit r img img' himg hedit =>
      have hname := hw.named r.spec (AList.lookup_isSome.mp (by rw [himg]; rfl))
      exact hw.insert hname (edit_unique hedit (hw.unique _ _ himg))
        (edit_flat hedit (hw.flat _ _ himg))
  | create hnew => exact hw.insert hnamed List.nodup_nil fun _ _ _ hs => by cases hs
  | remove himg hempty => exact hw.erase _
  | rename himg hnew =>
      exact (hw.erase _).insert hnamed (hw.unique _ _ himg) (hw.flat _ _ himg)
  | clone himg hs hnew hprotected =>
      exact hw.insert hnamed List.nodup_nil fun _ _ _ hs => by cases hs

/-- What a worker does keeps the graph well formed. -/
theorem wellFormed_of_collects {pool ns : String} {job : Job} {scope : List Spec}
    (h : ReflTransGen (Collects pool ns job scope) g g') (hw : g.WellFormed) : g'.WellFormed := by
  induction h with
  | refl => exact hw
  | tail _ hstep ih =>
      cases hstep with
      | flatten _ happly => exact (change_of_apply happly).wellFormed trivial ih
      | unprotect _ happly => exact (change_of_apply happly).wellFormed trivial ih
      | removeSnap _ happly => exact (change_of_apply happly).wellFormed trivial ih

end WellFormed

end XcpCephRbd.Gc
