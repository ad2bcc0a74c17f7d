import XcpCephRbd.Gc.Destroyed

/-!
# What the life cycle of volumes must not take away

`Harmless` says of one request what keeps it from taking away what nobody asked to destroy: which
images it may remove or rename, which snapshots, and which contents it may change. `Retains` is what
is kept, of every image that is neither trash nor a CBT log and of every snapshot named by a UUID.
`Tidy` is the invariant that makes the removal of trash harmless: an image in the trash has no
snapshot named by a UUID.
-/

namespace XcpCephRbd.Gc

open Volume (uuidMatch)

/-- The name of an object that the GC removes. -/
def isTrash (name : String) : Bool := Text.startsWith name Volume.trashPrefix

/-- The name of a CBT log. -/
def isLog (name : String) : Bool := Text.startsWith name Volume.Cbtlog.companionPrefix

/-- An image that is not the plugin's own. -/
def Spec.kept (spec : Spec) : Prop := isTrash spec.image = false ∧ isLog spec.image = false

/-- What was ordered: the images and the snapshots that are to be destroyed, and the images whose
content is to be changed. -/
structure Orders where
  base : Spec → Prop
  snap : Spec → String → Prop
  edited : Spec → Prop

/-- The request takes away and changes nothing but what was ordered. -/
def Harmless (o : Orders) (g : Graph) : Req → Prop
  | .put spec body => ∀ img size, g.images.lookup spec = some img → body.size = some size →
      size ≠ img.size → o.edited spec
  | .remove spec => spec.kept → o.base spec
  | .snapCreate spec _ => isTrash spec.image = false
  | .snapRemove spec snap => uuidMatch snap = true → isTrash spec.image = true ∨ o.snap spec snap
  | .snapRollback spec _ => o.edited spec
  | .snapRename spec snap newSnap => uuidMatch newSnap = false ∧
      (uuidMatch snap = true → o.snap spec snap)
  | .imageRename spec _ => (spec.kept → o.base spec) ∧ ∀ img, g.images.lookup spec = some img →
      ∀ s ∈ img.snapshots, uuidMatch s.name = false
  | .create _ _ _ | .clone _ _ _ _ | .flatten _ | .snapSetProtected _ _ _ => True

/-- An image in the trash has no snapshot of a user. -/
def Graph.Tidy (g : Graph) : Prop :=
  ∀ spec img, g.images.lookup spec = some img → isTrash spec.image = true →
    ∀ s ∈ img.snapshots, uuidMatch s.name = false

/-- What is left of an image: it is the same one, and its content was changed only by order. -/
def SameImage (o : Orders) (spec : Spec) (img img' : Image) : Prop :=
  img'.id = img.id ∧ (¬o.edited spec → img'.size = img.size ∧ img'.content = img.content)

/-- The snapshot is the same one, with the same content. -/
def SameSnap (s s' : Snap) : Prop :=
  s'.id = s.id ∧ s'.name = s.name ∧ s'.size = s.size ∧ s'.content = s.content

/-- Nothing was taken away or changed but what was ordered. -/
structure Retains (o : Orders) (g g' : Graph) : Prop where
  images : ∀ spec img, g.images.lookup spec = some img → spec.kept → ¬o.base spec →
    ∃ img', g'.images.lookup spec = some img' ∧ SameImage o spec img img'
  snapshots : ∀ spec img s, g.images.lookup spec = some img → s ∈ img.snapshots →
    uuidMatch s.name = true → ¬o.snap spec s.name →
    ∃ img' s', g'.images.lookup spec = some img' ∧ s' ∈ img'.snapshots ∧ SameSnap s s'

section Step

variable {o : Orders} {g g' g'' : Graph} {img img' : Image}

@[refl] theorem Retains.refl (g : Graph) : Retains o g g :=
  ⟨fun _ img himg _ _ => ⟨img, himg, rfl, fun _ => ⟨rfl, rfl⟩⟩,
    fun _ img s himg hs _ _ => ⟨img, s, himg, hs, rfl, rfl, rfl, rfl⟩⟩

/-- What is retained twice is retained. -/
theorem Retains.trans (h : Retains o g g') (h' : Retains o g' g'') : Retains o g g'' := by
  constructor
  · intro spec img himg hkept hbase
    obtain ⟨img', himg', hid, hsame⟩ := h.images spec img himg hkept hbase
    obtain ⟨img'', himg'', hid', hsame'⟩ := h'.images spec img' himg' hkept hbase
    refine ⟨img'', himg'', hid'.trans hid, fun hedited => ?_⟩
    exact ⟨(hsame' hedited).1.trans (hsame hedited).1, (hsame' hedited).2.trans (hsame hedited).2⟩
  · intro spec img s himg hs huuid hsnap
    obtain ⟨img', s', himg', hs', hid, hname, hsize, hcontent⟩ :=
      h.snapshots spec img s himg hs huuid hsnap
    obtain ⟨img'', s'', himg'', hs'', hid', hname', hsize', hcontent'⟩ :=
      h'.snapshots spec img' s' himg' hs' (hname ▸ huuid) (hname ▸ hsnap)
    exact ⟨img'', s'', himg'', hs'', hid'.trans hid, hname'.trans hname, hsize'.trans hsize,
      hcontent'.trans hcontent⟩

/-- What a harmless edit does to the image. -/
structure EditKeeps (o : Orders) (spec : Spec) (img img' : Image) : Prop where
  image : SameImage o spec img img'
  snapshots : ∀ s ∈ img.snapshots, uuidMatch s.name = true → ¬o.snap spec s.name →
    isTrash spec.image = false → ∃ s' ∈ img'.snapshots, SameSnap s s'
  named : ∀ s' ∈ img'.snapshots, uuidMatch s'.name = true → isTrash spec.image = true →
    ∃ s ∈ img.snapshots, uuidMatch s.name = true

/-- An edit that leaves the snapshots alone. -/
theorem EditKeeps.of_snapshots {spec : Spec} (himage : SameImage o spec img img')
    (hsnaps : img'.snapshots = img.snapshots) : EditKeeps o spec img img' := by
  refine ⟨himage, fun s hs _ _ _ => ?_, fun s hs huuid _ => ?_⟩
  · exact ⟨s, hsnaps ▸ hs, rfl, rfl, rfl, rfl⟩
  · exact ⟨s, hsnaps ▸ hs, huuid⟩

/-- An edit that changes no name and no content of the snapshots. -/
theorem EditKeeps.of_map {spec : Spec} {f : Snap → Snap} (himage : SameImage o spec img img')
    (hsnaps : img'.snapshots = img.snapshots.map f) (hf : ∀ s, SameSnap s (f s)) :
    EditKeeps o spec img img' := by
  refine ⟨himage, fun s hs _ _ _ => ?_, fun s' hs' huuid _ => ?_⟩
  · exact ⟨f s, hsnaps ▸ List.mem_map_of_mem hs, hf s⟩
  · rw [hsnaps] at hs'
    obtain ⟨s, hs, rfl⟩ := List.mem_map.mp hs'
    exact ⟨s, hs, (hf s).2.1 ▸ huuid⟩

/-- A harmless edit keeps what was not ordered away. -/
theorem Harmless.edit {r : Req} (h : Harmless o g r) (himg : g.images.lookup r.spec = some img)
    (hedit : g.edit r img = some img') : EditKeeps o r.spec img img' := by
  have hsame : SameImage o r.spec img img := ⟨rfl, fun _ => ⟨rfl, rfl⟩⟩
  cases r with
  | put spec body =>
      cases hedit
      refine .of_snapshots ⟨put_id body, fun hedited => put_content fun size hsize => ?_⟩
        (put_snapshots body)
      by_contra hne
      exact hedited (h img size himg hsize hne)
  | snapCreate spec snap =>
      obtain ⟨-, rfl⟩ := edit_snapCreate hedit
      refine ⟨hsame, fun s hs _ _ _ => ?_, fun s _ _ htrash => ?_⟩
      · exact ⟨s, List.mem_append_left _ hs, rfl, rfl, rfl, rfl⟩
      · cases Eq.trans (show false = isTrash spec.image from h.symm) htrash
  | snapRemove spec snap =>
      obtain ⟨-, -, rfl⟩ := edit_snapRemove hedit
      refine ⟨hsame, fun s hs huuid hsnap htrash => ?_, fun s hs huuid _ => ?_⟩
      · by_cases hname : s.name = snap
        · subst hname
          obtain hgone | hordered := h huuid
          · cases htrash.symm.trans hgone
          · exact absurd hordered hsnap
        · exact ⟨s, by simp [hs, hname], rfl, rfl, rfl, rfl⟩
      · exact ⟨s, (List.mem_filter.mp hs).1, huuid⟩
  | snapSetProtected spec snap on =>
      obtain ⟨-, -, rfl⟩ := edit_snapSetProtected hedit
      refine .of_map hsame rfl fun s => ?_
      split
      · exact ⟨rfl, rfl, rfl, rfl⟩
      · exact ⟨rfl, rfl, rfl, rfl⟩
  | snapRollback spec snap =>
      obtain ⟨s, -, rfl⟩ := edit_snapRollback hedit
      exact .of_snapshots ⟨rfl, fun hedited => absurd h hedited⟩ rfl
  | snapRename spec snap newSnap =>
      obtain ⟨-, -, rfl⟩ := edit_snapRename hedit
      refine ⟨hsame, fun s hs huuid hsnap _ => ?_, fun s' hs' huuid _ => ?_⟩
      · by_cases hname : s.name = snap
        · subst hname
          exact absurd (h.2 huuid) hsnap
        · refine ⟨s, List.mem_map.mpr ⟨s, hs, by simp [hname]⟩, rfl, rfl, rfl, rfl⟩
      · obtain ⟨s, hs, rfl⟩ := List.mem_map.mp hs'
        refine ⟨s, hs, ?_⟩
        split at huuid
        · rw [show uuidMatch newSnap = false from h.1] at huuid
          cases huuid
        · exact huuid
  | flatten spec =>
      obtain ⟨-, rfl⟩ := edit_flatten hedit
      by_cases hdeep : img.deep = true
      · have hsnap : ∀ s : Snap, SameSnap s { s with parent := none } :=
          fun s => ⟨rfl, rfl, rfl, rfl⟩
        refine .of_map hsame ?_ hsnap
        simp [Image.flatten, hdeep]
      · refine .of_snapshots hsame ?_
        simp [Image.flatten, hdeep]
  | create spec size features => cases hedit
  | remove spec => cases hedit
  | imageRename spec newName => cases hedit
  | clone spec snap dst features => cases hedit

/-- An image that is set anew keeps what is kept of it, and the others are as they were. -/
theorem retains_insert {spec : Spec} {nextId : Nat} (ht : g.Tidy)
    (himg : g.images.lookup spec = some img) (hkeeps : EditKeeps o spec img img') :
    Retains o g { images := g.images.insert spec img', nextId := nextId } ∧
      Graph.Tidy { images := g.images.insert spec img', nextId := nextId } := by
  refine ⟨⟨fun other oimg hoimg _ _ => ?_, fun other oimg s hoimg hs huuid hsnap => ?_⟩,
    fun other oimg hoimg htrash s hs => ?_⟩
  · by_cases hother : other = spec
    · subst hother
      cases himg.symm.trans hoimg
      exact ⟨img', AList.lookup_insert _, hkeeps.image⟩
    · exact ⟨oimg, by rwa [AList.lookup_insert_ne hother], rfl, fun _ => ⟨rfl, rfl⟩⟩
  · by_cases hother : other = spec
    · subst hother
      cases himg.symm.trans hoimg
      have htrash : isTrash other.image = false := by
        by_contra htrash
        have hnone := ht other img himg (Bool.not_eq_false _ ▸ htrash) s hs
        rw [huuid] at hnone
        cases hnone
      obtain ⟨s', hs', hsame⟩ := hkeeps.snapshots s hs huuid hsnap htrash
      exact ⟨img', s', AList.lookup_insert _, hs', hsame⟩
    · exact ⟨oimg, s, by rwa [AList.lookup_insert_ne hother], hs, rfl, rfl, rfl, rfl⟩
  · by_cases hother : other = spec
    · subst hother
      cases (AList.lookup_insert _).symm.trans hoimg
      by_contra huuid
      obtain ⟨t, htmem, htuuid⟩ := hkeeps.named s hs (Bool.not_eq_false _ ▸ huuid) htrash
      rw [ht other img himg htrash t htmem] at htuuid
      cases htuuid
    · rw [AList.lookup_insert_ne hother] at hoimg
      exact ht other oimg hoimg htrash s hs

/-- A new image takes nothing away. -/
theorem retains_new {spec : Spec} {nextId : Nat} (ht : g.Tidy) (hnew : spec ∉ g.images)
    (hempty : img.snapshots = []) :
    Retains o g { images := g.images.insert spec img, nextId := nextId } ∧
      Graph.Tidy { images := g.images.insert spec img, nextId := nextId } := by
  have hother : ∀ other oimg, g.images.lookup other = some oimg → other ≠ spec := by
    rintro other oimg hoimg rfl
    exact hnew (AList.lookup_isSome.mp (by rw [hoimg]; rfl))
  refine ⟨⟨fun other oimg hoimg _ _ => ?_, fun other oimg s hoimg hs _ _ => ?_⟩,
    fun other oimg hoimg htrash s hs => ?_⟩
  · exact ⟨oimg, by rwa [AList.lookup_insert_ne (hother other oimg hoimg)], rfl,
      fun _ => ⟨rfl, rfl⟩⟩
  · exact ⟨oimg, s, by rwa [AList.lookup_insert_ne (hother other oimg hoimg)], hs, rfl, rfl, rfl,
      rfl⟩
  · by_cases hsame : other = spec
    · subst hsame
      cases (AList.lookup_insert _).symm.trans hoimg
      rw [hempty] at hs
      cases hs
    · rw [AList.lookup_insert_ne hsame] at hoimg
      exact ht other oimg hoimg htrash s hs

/-- A harmless request that was granted retains what was not ordered away. -/
theorem Harmless.retains {r : Req} (h : Harmless o g r) (ht : g.Tidy) (hchange : Change g r g') :
    Retains o g g' ∧ g'.Tidy := by
  cases hchange with
  | edit himg hedit => exact retains_insert ht himg (h.edit himg hedit)
  | create hnew => exact retains_new ht hnew rfl
  | clone himg hs hnew hprotected => exact retains_new ht hnew rfl
  | @remove spec img himg hempty =>
      refine ⟨⟨fun other oimg hoimg hkept hbase => ?_, fun other oimg s hoimg hs _ _ => ?_⟩,
        fun other oimg hoimg htrash s hs => ?_⟩
      · have hother : other ≠ spec := by
          rintro rfl
          exact hbase (h hkept)
        exact ⟨oimg, by rwa [AList.lookup_erase_ne hother], rfl, fun _ => ⟨rfl, rfl⟩⟩
      · have hother : other ≠ spec := by
          rintro rfl
          cases himg.symm.trans hoimg
          rw [hempty] at hs
          cases hs
        exact ⟨oimg, s, by rwa [AList.lookup_erase_ne hother], hs, rfl, rfl, rfl, rfl⟩
      · have hother : other ≠ spec := by
          rintro rfl
          rw [AList.lookup_erase] at hoimg
          cases hoimg
        rw [AList.lookup_erase_ne hother] at hoimg
        exact ht other oimg hoimg htrash s hs
  | @rename spec newName img himg hnew =>
      have hfresh : ∀ other oimg, g.images.lookup other = some oimg →
          other ≠ { spec with image := newName } := by
        rintro other oimg hoimg rfl
        exact hnew (AList.lookup_isSome.mp (by rw [hoimg]; rfl))
      refine ⟨⟨fun other oimg hoimg hkept hbase => ?_, fun other oimg s hoimg hs huuid _ => ?_⟩,
        fun other oimg hoimg htrash s hs => ?_⟩
      · have hother : other ≠ spec := by
          rintro rfl
          exact hbase (h.1 hkept)
        refine ⟨oimg, ?_, rfl, fun _ => ⟨rfl, rfl⟩⟩
        rwa [AList.lookup_insert_ne (hfresh other oimg hoimg), AList.lookup_erase_ne hother]
      · have hother : other ≠ spec := by
          rintro rfl
          cases himg.symm.trans hoimg
          rw [h.2 img himg s hs] at huuid
          cases huuid
        refine ⟨oimg, s, ?_, hs, rfl, rfl, rfl, rfl⟩
        rwa [AList.lookup_insert_ne (hfresh other oimg hoimg), AList.lookup_erase_ne hother]
      · by_cases hsame : other = { spec with image := newName }
        · subst hsame
          cases (AList.lookup_insert _).symm.trans hoimg
          exact h.2 img himg s hs
        · rw [AList.lookup_insert_ne hsame] at hoimg
          have hother : other ≠ spec := by
            rintro rfl
            rw [AList.lookup_erase] at hoimg
            cases hoimg
          rw [AList.lookup_erase_ne hother] at hoimg
          exact ht other oimg hoimg htrash s hs

end Step

end XcpCephRbd.Gc
