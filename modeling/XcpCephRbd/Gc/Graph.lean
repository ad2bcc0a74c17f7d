import XcpCephRbd.Volume.Cluster

/-!
# Images, snapshots and clones

The cluster as the destruction of volumes and the garbage collector see it. Images are kept by pool,
namespace and name. Images and snapshots have identifiers of their own, and a clone refers to its
parent snapshot by these, so that renaming the parent does not detach it. A snapshot of a clone
refers to the parent as the clone did when it was taken. `apply` performs one request of Ceph's,
under Ceph's rules: a snapshot that is protected or has children is not removed, one that has
children is not unprotected, an image that has snapshots is not removed, and a flatten copies the
parent's data into the clone, and with `deep-flatten` into the clone's snapshots too.

The content of a clone is kept with the clone and is what a read through its parent gives as long as
the parent is there: `Readable` says that it is.
-/

namespace XcpCephRbd.Gc

open Volume (Content Dict Desired PutBody)

/-- An image by pool, namespace and name. -/
structure Spec where
  pool : String
  ns : String
  image : String
  deriving DecidableEq, Repr

/-- A reference to a snapshot by the identifiers of its image and of itself. -/
structure Link where
  image : Nat
  snap : Nat
  deriving DecidableEq, Repr

/-- A snapshot. -/
structure Snap where
  id : Nat
  name : String
  size : Nat
  isProtected : Bool := false
  content : Content
  parent : Option Link := none

/-- An image with its snapshots. -/
structure Image where
  id : Nat
  size : Nat
  features : List String := []
  metadata : Dict := ∅
  content : Content := fun _ => 0
  parent : Option Link := none
  snapshots : List Snap := []

/-- The cluster: its images, and the next identifier. -/
structure Graph where
  images : AList fun _ : Spec => Image
  nextId : Nat := 0

/-- A request that changes the cluster. -/
inductive Req where
  | put (spec : Spec) (body : PutBody)
  | create (spec : Spec) (size : Nat) (features : List String)
  | remove (spec : Spec)
  | snapCreate (spec : Spec) (snap : String)
  | snapRemove (spec : Spec) (snap : String)
  | snapSetProtected (spec : Spec) (snap : String) (on : Bool)
  | snapRollback (spec : Spec) (snap : String)
  | snapRename (spec : Spec) (snap newSnap : String)
  | imageRename (spec : Spec) (newName : String)
  | clone (spec : Spec) (snap : String) (dst : Spec) (features : List String)
  | flatten (spec : Spec)

/-- The image that a request names. -/
def Req.spec : Req → Spec
  | .put spec _ | .create spec _ _ | .remove spec | .snapCreate spec _ | .snapRemove spec _
  | .snapSetProtected spec _ _ | .snapRollback spec _ | .snapRename spec _ _ | .imageRename spec _
  | .clone spec _ _ _ | .flatten spec => spec

namespace Image

/-- The snapshots with this name; there is at most one. -/
def named (img : Image) (snap : String) : List Snap := img.snapshots.filter fun s => s.name == snap

/-- The image or one of its snapshots refers to the snapshot. -/
def linksTo (img : Image) (link : Link) : Bool :=
  img.parent == some link || img.snapshots.any fun s => s.parent == some link

/-- Change the snapshots with this name. -/
def mapSnap (snap : String) (f : Snap → Snap) (img : Image) : Image :=
  { img with snapshots := img.snapshots.map fun s => if s.name == snap then f s else s }

/-- Set the size; what lies beyond a smaller one is cut off. The dashboard leaves an image alone
that has the size already. -/
def resize (img : Image) (size : Nat) : Image :=
  if size = img.size then img
  else { img with
    size := size
    content := fun i => if i < size then img.content i else 0 }

/-- PUT: the size is set when the body has one, the metadata is edited when it has one. -/
def put (img : Image) (body : PutBody) : Image :=
  let img := match body.size with
    | some size => img.resize size
    | none => img
  match body.metadata with
  | some given => { img with metadata := Volume.Image.setMetadata img.metadata given }
  | none => img

/-- `deep-flatten` is enabled. -/
def deep (img : Image) : Bool := img.features.contains "deep-flatten"

/-- The image no longer refers to a parent; with `deep-flatten` neither do its snapshots. -/
def flatten (img : Image) : Image :=
  { img with
    parent := none
    snapshots := if img.deep then img.snapshots.map fun s => { s with parent := none }
      else img.snapshots }

end Image

namespace Graph

/-- The clones of a snapshot: the images that refer to it, or one of whose snapshots does. -/
def children (g : Graph) (link : Link) : List Spec :=
  (g.images.entries.filter fun entry => entry.2.linksTo link).map fun entry => entry.1

/-- The snapshot has clones. -/
def hasChildren (g : Graph) (img : Image) (s : Snap) : Bool :=
  !(g.children ⟨img.id, s.id⟩).isEmpty

/-- What a request does to the image that it names; `none` where Ceph refuses, and for the requests
that make, remove or rename an image. -/
def edit (g : Graph) : Req → Image → Option Image
  | .put _ body, img => some (img.put body)
  | .snapCreate _ snap, img =>
      if (img.named snap).isEmpty then
        some { img with snapshots := img.snapshots ++
          [{ id := g.nextId, name := snap, size := img.size, content := img.content,
             parent := img.parent }] }
      else none
  | .snapRemove _ snap, img =>
      if (img.named snap).isEmpty || (img.named snap).any fun s =>
        s.isProtected || g.hasChildren img s
      then none
      else some { img with snapshots := img.snapshots.filter fun s => s.name != snap }
  | .snapSetProtected _ snap on, img =>
      if (img.named snap).isEmpty ||
          (img.named snap).any fun s => s.isProtected == on || (!on && g.hasChildren img s)
      then none
      else some (img.mapSnap snap fun s => { s with isProtected := on })
  | .snapRollback _ snap, img =>
      (img.named snap).head?.map fun s => { img with size := s.size, content := s.content }
  | .snapRename _ snap newSnap, img =>
      if (img.named snap).isEmpty || !(img.named newSnap).isEmpty then none
      else some (img.mapSnap snap fun s => { s with name := newSnap })
  | .flatten _, img => if img.parent.isNone then none else some img.flatten
  | _, _ => none

/-- A request that Ceph grants; `none` where it refuses. -/
def apply (g : Graph) (r : Req) : Option Graph :=
  match r with
  | .create spec size features =>
      if spec ∈ g.images then none
      else some
        { images := g.images.insert spec { id := g.nextId, size := size, features := features }
          nextId := g.nextId + 1 }
  | .remove spec =>
      (g.images.lookup spec).bind fun img =>
        if img.snapshots.isEmpty then some { g with images := g.images.erase spec } else none
  | .imageRename spec newName =>
      let newSpec := { spec with image := newName }
      (g.images.lookup spec).bind fun img =>
        if newSpec ∈ g.images then none
        else some { g with images := (g.images.erase spec).insert newSpec img }
  | .clone spec snap dst features =>
      (g.images.lookup spec).bind fun img => (img.named snap).head?.bind fun s =>
        if dst ∈ g.images || !s.isProtected then none
        else some
          { images := g.images.insert dst
              { id := g.nextId, size := s.size, features := features, content := s.content
                parent := some ⟨img.id, s.id⟩ }
            nextId := g.nextId + 1 }
  | r =>
      (g.images.lookup r.spec).bind fun img => (g.edit r img).map fun img' =>
        { images := g.images.insert r.spec img', nextId := g.nextId + 1 }

/-- The image or the snapshot that a request is about exists. -/
def found (g : Graph) : Req → Bool
  | .snapRemove spec snap | .snapSetProtected spec snap _ | .snapRollback spec snap
  | .snapRename spec snap _ | .clone spec snap _ _ =>
      (g.images.lookup spec).any fun img => !(img.named snap).isEmpty
  | .create _ _ _ => true
  | r => decide (r.spec ∈ g.images)

end Graph

/-- A request that was granted, with what it did. -/
inductive Change (g : Graph) : Req → Graph → Prop where
  | edit {r : Req} {img img' : Image} : g.images.lookup r.spec = some img →
      g.edit r img = some img' →
      Change g r { images := g.images.insert r.spec img', nextId := g.nextId + 1 }
  | create {spec : Spec} {size : Nat} {features : List String} : spec ∉ g.images →
      Change g (.create spec size features)
        { images := g.images.insert spec { id := g.nextId, size := size, features := features }
          nextId := g.nextId + 1 }
  | remove {spec : Spec} {img : Image} : g.images.lookup spec = some img → img.snapshots = [] →
      Change g (.remove spec) { g with images := g.images.erase spec }
  | rename {spec : Spec} {newName : String} {img : Image} : g.images.lookup spec = some img →
      { spec with image := newName } ∉ g.images →
      Change g (.imageRename spec newName)
        { g with images := (g.images.erase spec).insert { spec with image := newName } img }
  | clone {spec dst : Spec} {snap : String} {features : List String} {img : Image} {s : Snap} :
      g.images.lookup spec = some img → (img.named snap).head? = some s → dst ∉ g.images →
      s.isProtected = true →
      Change g (.clone spec snap dst features)
        { images := g.images.insert dst
            { id := g.nextId, size := s.size, features := features, content := s.content
              parent := some ⟨img.id, s.id⟩ }
          nextId := g.nextId + 1 }

/-- A request that was granted is one of these changes. -/
theorem change_of_apply {g g' : Graph} {r : Req} (h : g.apply r = some g') : Change g r g' := by
  have hedit : ∀ r : Req, ((g.images.lookup r.spec).bind fun img => (g.edit r img).map fun img' =>
      ({ images := g.images.insert r.spec img', nextId := g.nextId + 1 } : Graph)) = some g' →
      Change g r g' := by
    intro r hr
    obtain ⟨img, himg, hmap⟩ := Option.bind_eq_some_iff.mp hr
    obtain ⟨img', hsome, rfl⟩ := Option.map_eq_some_iff.mp hmap
    exact .edit himg hsome
  cases r with
  | create spec size features =>
      simp only [Graph.apply, Option.ite_none_left_eq_some, Option.some.injEq] at h
      obtain ⟨hnew, rfl⟩ := h
      exact .create hnew
  | remove spec =>
      obtain ⟨img, himg, hif⟩ := Option.bind_eq_some_iff.mp h
      simp only [Option.ite_none_right_eq_some, Option.some.injEq, List.isEmpty_iff] at hif
      obtain ⟨hempty, rfl⟩ := hif
      exact .remove himg hempty
  | imageRename spec newName =>
      obtain ⟨img, himg, hif⟩ := Option.bind_eq_some_iff.mp h
      simp only [Option.ite_none_left_eq_some, Option.some.injEq] at hif
      obtain ⟨hnew, rfl⟩ := hif
      exact .rename himg hnew
  | clone spec snap dst features =>
      obtain ⟨img, himg, hbind⟩ := Option.bind_eq_some_iff.mp h
      obtain ⟨s, hs, hif⟩ := Option.bind_eq_some_iff.mp hbind
      simp only [Option.ite_none_left_eq_some, Option.some.injEq, Bool.or_eq_true, not_or,
        decide_eq_true_eq, Bool.not_eq_true', Bool.not_eq_false] at hif
      obtain ⟨⟨hnew, hprotected⟩, rfl⟩ := hif
      exact .clone himg hs hnew hprotected
  | put spec body => exact hedit _ h
  | snapCreate spec snap => exact hedit _ h
  | snapRemove spec snap => exact hedit _ h
  | snapSetProtected spec snap on => exact hedit _ h
  | snapRollback spec snap => exact hedit _ h
  | snapRename spec snap newSnap => exact hedit _ h
  | flatten spec => exact hedit _ h

section Edits

variable {g : Graph} {img img' : Image}

/-- A new snapshot, taken apart. -/
theorem edit_snapCreate {spec : Spec} {snap : String}
    (h : g.edit (.snapCreate spec snap) img = some img') :
    img.named snap = [] ∧ img' = { img with snapshots := img.snapshots ++
      [{ id := g.nextId, name := snap, size := img.size, content := img.content,
         parent := img.parent }] } := by
  simp only [Graph.edit, Option.ite_none_right_eq_some, List.isEmpty_iff, Option.some.injEq] at h
  exact ⟨h.1, h.2.symm⟩

/-- The removal of a snapshot, taken apart. -/
theorem edit_snapRemove {spec : Spec} {snap : String}
    (h : g.edit (.snapRemove spec snap) img = some img') :
    img.named snap ≠ [] ∧
      (∀ s ∈ img.named snap, s.isProtected = false ∧ g.hasChildren img s = false) ∧
      img' = { img with snapshots := img.snapshots.filter fun s => s.name != snap } := by
  simp only [Graph.edit, Option.ite_none_left_eq_some, Option.some.injEq, Bool.or_eq_true, not_or,
    List.isEmpty_iff, List.any_eq_true, not_exists, not_and, Bool.not_eq_true] at h
  exact ⟨h.1.1, h.1.2, h.2.symm⟩

/-- A change of protection, taken apart. -/
theorem edit_snapSetProtected {spec : Spec} {snap : String} {on : Bool}
    (h : g.edit (.snapSetProtected spec snap on) img = some img') :
    img.named snap ≠ [] ∧
      (∀ s ∈ img.named snap, s.isProtected = !on ∧ (on = false → g.hasChildren img s = false)) ∧
      img' = img.mapSnap snap fun s => { s with isProtected := on } := by
  simp only [Graph.edit, Option.ite_none_left_eq_some, Option.some.injEq, Bool.or_eq_true, not_or,
    List.isEmpty_iff, List.any_eq_true, not_exists, not_and] at h
  refine ⟨h.1.1, fun s hs => ?_, h.2.symm⟩
  obtain ⟨hprotected, hchildren⟩ := h.1.2 s hs
  cases on <;> simp_all

/-- A rollback, taken apart. -/
theorem edit_snapRollback {spec : Spec} {snap : String}
    (h : g.edit (.snapRollback spec snap) img = some img') :
    ∃ s, (img.named snap).head? = some s ∧
      img' = { img with size := s.size, content := s.content } := by
  obtain ⟨s, hs, rfl⟩ := Option.map_eq_some_iff.mp h
  exact ⟨s, hs, rfl⟩

/-- A renaming of a snapshot, taken apart. -/
theorem edit_snapRename {spec : Spec} {snap newSnap : String}
    (h : g.edit (.snapRename spec snap newSnap) img = some img') :
    img.named snap ≠ [] ∧ img.named newSnap = [] ∧
      img' = img.mapSnap snap fun s => { s with name := newSnap } := by
  simp only [Graph.edit, Option.ite_none_left_eq_some, Option.some.injEq, Bool.or_eq_true, not_or,
    List.isEmpty_iff, Bool.not_eq_true', Bool.not_eq_false] at h
  exact ⟨h.1.1, h.1.2, h.2.symm⟩

/-- A flatten, taken apart. -/
theorem edit_flatten {spec : Spec} (h : g.edit (.flatten spec) img = some img') :
    img.parent ≠ none ∧ img' = img.flatten := by
  simp only [Graph.edit, Option.ite_none_left_eq_some, Option.some.injEq,
    Option.isNone_iff_eq_none] at h
  exact ⟨h.1, h.2.symm⟩

/-- A resize changes the size and the content only. -/
theorem resize_eq (size : Nat) :
    ∃ content, img.resize size = { img with size := size, content := content } := by
  unfold Image.resize
  split
  next hsize =>
      subst hsize
      exact ⟨img.content, rfl⟩
  next => exact ⟨_, rfl⟩

/-- A PUT changes the size, the content and the metadata only. -/
theorem put_eq (body : PutBody) : ∃ size content metadata,
    img.put body = { img with size := size, content := content, metadata := metadata } := by
  obtain ⟨size, metadata⟩ := body
  cases size with
  | none => cases metadata <;> exact ⟨_, _, _, rfl⟩
  | some size =>
      obtain ⟨content, hresize⟩ := @resize_eq img size
      cases metadata <;> (dsimp only [Image.put]; rw [hresize]; exact ⟨_, _, _, rfl⟩)

/-- A PUT changes neither the identifier nor the links nor the snapshots. -/
@[simp] theorem put_id (body : PutBody) : (img.put body).id = img.id := by
  obtain ⟨_, _, _, h⟩ := @put_eq img body
  rw [h]

@[simp] theorem put_parent (body : PutBody) : (img.put body).parent = img.parent := by
  obtain ⟨_, _, _, h⟩ := @put_eq img body
  rw [h]

@[simp] theorem put_snapshots (body : PutBody) : (img.put body).snapshots = img.snapshots := by
  obtain ⟨_, _, _, h⟩ := @put_eq img body
  rw [h]

/-- A PUT without a size, or with the size that the image has, leaves the content. -/
theorem put_content {body : PutBody} (hsize : ∀ size, body.size = some size → size = img.size) :
    (img.put body).size = img.size ∧ (img.put body).content = img.content := by
  obtain ⟨size, metadata⟩ := body
  cases size with
  | none => cases metadata <;> exact ⟨rfl, rfl⟩
  | some size =>
      have hsame : img.resize size = img := if_pos (hsize size rfl)
      cases metadata <;> (dsimp only [Image.put]; rw [hsame]; exact ⟨rfl, rfl⟩)

end Edits

/-- The snapshot that a link refers to exists. -/
def Graph.Resolves (g : Graph) (link : Link) : Prop :=
  ∃ spec img s, g.images.lookup spec = some img ∧ img.id = link.image ∧ s ∈ img.snapshots ∧
    s.id = link.snap

/-- Every link of an image or of a snapshot of it resolves, so that the image can be read. -/
def Graph.Readable (g : Graph) (img : Image) : Prop := ∀ link, img.linksTo link = true →
    g.Resolves link

/-- Every image can be read. -/
def Graph.Intact (g : Graph) : Prop :=
  ∀ spec img, g.images.lookup spec = some img → g.Readable img

section Intact

variable {g g' : Graph} {img img' : Image}

/-- The clones of a snapshot are the images with a link to it. -/
theorem mem_children_iff {link : Link} {spec : Spec} :
    spec ∈ g.children link ↔ ∃ img, g.images.lookup spec = some img ∧ img.linksTo link = true := by
  simp only [Graph.children, List.mem_map, List.mem_filter]
  constructor
  · rintro ⟨⟨name, img⟩, ⟨hmem, hlinks⟩, rfl⟩
    exact ⟨img, AList.mem_lookup_iff.mpr hmem, hlinks⟩
  · rintro ⟨img, himg, hlinks⟩
    exact ⟨⟨spec, img⟩, ⟨AList.mem_lookup_iff.mp himg, hlinks⟩, rfl⟩

/-- A snapshot without clones is referred to by no image. -/
theorem not_linksTo_of_childless {owner : Image} {s : Snap} {spec : Spec}
    (hchildless : g.hasChildren owner s = false) (himg : g.images.lookup spec = some img) :
    img.linksTo ⟨owner.id, s.id⟩ = false := by
  by_contra hlinks
  have hmem := mem_children_iff.mpr ⟨img, himg, Bool.not_eq_false _ ▸ hlinks⟩
  simp only [Graph.hasChildren, Bool.not_eq_false', List.isEmpty_iff] at hchildless
  rw [hchildless] at hmem
  cases hmem

/-- The links of an image, one by one. -/
theorem linksTo_iff {link : Link} :
    img.linksTo link = true ↔ img.parent = some link ∨ ∃ s ∈ img.snapshots,
    s.parent = some link := by
  simp [Image.linksTo]

/-- An edit keeps the identifier of the image, makes no new link, and takes away no snapshot but a
childless one. -/
theorem edit_links {r : Req} (h : g.edit r img = some img') :
    img'.id = img.id ∧ (∀ link, img'.linksTo link = true → img.linksTo link = true) ∧
      ∀ s ∈ img.snapshots, (∃ s' ∈ img'.snapshots, s'.id = s.id) ∨ g.hasChildren img s = false := by
  -- protecting and renaming touch each snapshot but neither its identifier nor its parent
  have hmap : ∀ (snap : String) (f : Snap → Snap), (∀ s, (f s).id = s.id) →
      (∀ s, (f s).parent = s.parent) →
      (∀ link, (img.mapSnap snap f).linksTo link = true → img.linksTo link = true) ∧
      ∀ s ∈ img.snapshots, ∃ s' ∈ (img.mapSnap snap f).snapshots, s'.id = s.id := by
    intro snap f hid hparent
    constructor
    · intro link hlink
      rw [linksTo_iff] at hlink ⊢
      refine hlink.imp_right ?_
      rintro ⟨s', hs', hs'parent⟩
      obtain ⟨s, hs, rfl⟩ := List.mem_map.mp hs'
      refine ⟨s, hs, ?_⟩
      split at hs'parent
      · rwa [hparent] at hs'parent
      · exact hs'parent
    · intro s hs
      refine ⟨_, List.mem_map.mpr ⟨s, hs, rfl⟩, ?_⟩
      split
      · exact hid s
      · rfl
  cases r with
  | put spec body =>
      cases h
      refine ⟨put_id body, fun link hlink => ?_, fun s hs => .inl ⟨s, by simpa using hs, rfl⟩⟩
      simpa [linksTo_iff] using hlink
  | snapCreate spec snap =>
      obtain ⟨-, rfl⟩ := edit_snapCreate h
      refine ⟨rfl, fun link hlink => ?_, fun s hs => .inl ⟨s, by simp [hs], rfl⟩⟩
      rw [linksTo_iff] at hlink ⊢
      obtain hhead | ⟨s, hs, hparent⟩ := hlink
      · exact .inl hhead
      · obtain hold | hnew := List.mem_append.mp hs
        · exact .inr ⟨s, hold, hparent⟩
        · obtain rfl := List.mem_singleton.mp hnew
          exact .inl hparent
  | snapRemove spec snap =>
      obtain ⟨-, hnamed, rfl⟩ := edit_snapRemove h
      refine ⟨rfl, fun link hlink => ?_, fun s hs => ?_⟩
      · rw [linksTo_iff] at hlink ⊢
        refine hlink.imp_right ?_
        rintro ⟨s, hs, hparent⟩
        exact ⟨s, (List.mem_filter.mp hs).1, hparent⟩
      · by_cases hname : s.name = snap
        · exact .inr (hnamed s (by simp [Image.named, hs, hname])).2
        · exact .inl ⟨s, by simp [hs, hname], rfl⟩
  | snapSetProtected spec snap on =>
      obtain ⟨-, -, rfl⟩ := edit_snapSetProtected h
      obtain ⟨hlinks, hids⟩ := hmap snap (fun s => { s with isProtected := on }) (fun _ => rfl)
        (fun _ => rfl)
      exact ⟨rfl, hlinks, fun s hs => .inl (hids s hs)⟩
  | snapRollback spec snap =>
      obtain ⟨s, -, rfl⟩ := edit_snapRollback h
      exact ⟨rfl, fun _ hlink => hlink, fun s hs => .inl ⟨s, hs, rfl⟩⟩
  | snapRename spec snap newSnap =>
      obtain ⟨-, -, rfl⟩ := edit_snapRename h
      obtain ⟨hlinks, hids⟩ := hmap snap (fun s => { s with name := newSnap }) (fun _ => rfl)
        (fun _ => rfl)
      exact ⟨rfl, hlinks, fun s hs => .inl (hids s hs)⟩
  | flatten spec =>
      obtain ⟨-, rfl⟩ := edit_flatten h
      refine ⟨rfl, fun link hlink => ?_, fun s hs => ?_⟩
      · rw [linksTo_iff] at hlink ⊢
        obtain hhead | ⟨s, hs, hparent⟩ := hlink
        · cases hhead
        · dsimp only [Image.flatten] at hs
          split at hs
          · obtain ⟨t, -, rfl⟩ := List.mem_map.mp hs
            cases hparent
          · exact .inr ⟨s, hs, hparent⟩
      · dsimp only [Image.flatten]
        split
        · exact .inl ⟨_, List.mem_map.mpr ⟨s, hs, rfl⟩, rfl⟩
        · exact .inl ⟨s, hs, rfl⟩
  | create spec size features => cases h
  | remove spec => cases h
  | imageRename spec newName => cases h
  | clone spec snap dst features => cases h

/-- What a request that was granted leaves of a reference: a snapshot that is referred to stays. -/
theorem Change.resolves {r : Req} (h : Change g r g') {link : Link} {spec : Spec}
    (himg : g.images.lookup spec = some img) (hlinks : img.linksTo link = true)
    (hresolves : g.Resolves link) : g'.Resolves link := by
  obtain ⟨owner, oimg, s, howner, hid, hs, hsid⟩ := hresolves
  have hlinked : img.linksTo ⟨oimg.id, s.id⟩ = true := by rwa [hid, hsid]
  cases h with
  | @edit r eimg eimg' heimg hedit =>
      by_cases hother : owner = r.spec
      · subst hother
        rw [howner] at heimg
        cases heimg
        obtain ⟨hid', -, hsnaps⟩ := edit_links hedit
        obtain ⟨s', hs', hsid'⟩ | hchildless := hsnaps s hs
        · exact ⟨_, eimg', s', AList.lookup_insert _, hid'.trans hid, hs', hsid'.trans hsid⟩
        · rw [not_linksTo_of_childless hchildless himg] at hlinked
          cases hlinked
      · exact ⟨owner, oimg, s, by rwa [AList.lookup_insert_ne hother], hid, hs, hsid⟩
  | @create new size features hnew =>
      have hother : owner ≠ new := by
        rintro rfl
        exact hnew (AList.lookup_isSome.mp (by rw [howner]; rfl))
      exact ⟨owner, oimg, s, by rwa [AList.lookup_insert_ne hother], hid, hs, hsid⟩
  | @remove gone rimg hrimg hempty =>
      have hother : owner ≠ gone := by
        rintro rfl
        rw [howner] at hrimg
        cases hrimg
        rw [hempty] at hs
        cases hs
      exact ⟨owner, oimg, s, by rwa [AList.lookup_erase_ne hother], hid, hs, hsid⟩
  | @rename old newName rimg hrimg hnew =>
      by_cases hother : owner = old
      · subst hother
        rw [howner] at hrimg
        cases hrimg
        exact ⟨_, oimg, s, AList.lookup_insert _, hid, hs, hsid⟩
      · have hne : owner ≠ { old with image := newName } := by
          rintro rfl
          exact hnew (AList.lookup_isSome.mp (by rw [howner]; rfl))
        exact ⟨owner, oimg, s, by rwa [AList.lookup_insert_ne hne, AList.lookup_erase_ne hother],
          hid, hs, hsid⟩
  | @clone src dst snap features cimg cs hcimg hcs hnew hprotected =>
      have hother : owner ≠ dst := by
        rintro rfl
        exact hnew (AList.lookup_isSome.mp (by rw [howner]; rfl))
      exact ⟨owner, oimg, s, by rwa [AList.lookup_insert_ne hother], hid, hs, hsid⟩

/-- An image after a request that was granted has the links of an image before it, or it is a new
one, which has none, or it is a clone of a snapshot that exists. -/
theorem Change.links {r : Req} (h : Change g r g') {spec : Spec}
    (himg : g'.images.lookup spec = some img') {link : Link} (hlinks : img'.linksTo link = true) :
    (∃ old img, g.images.lookup old = some img ∧ img.linksTo link = true) ∨ g'.Resolves link := by
  cases h with
  | @edit r eimg eimg' heimg hedit =>
      by_cases hother : spec = r.spec
      · subst hother
        rw [AList.lookup_insert] at himg
        cases himg
        exact .inl ⟨_, eimg, heimg, (edit_links hedit).2.1 link hlinks⟩
      · rw [AList.lookup_insert_ne hother] at himg
        exact .inl ⟨spec, img', himg, hlinks⟩
  | @create new size features hnew =>
      by_cases hother : spec = new
      · subst hother
        rw [AList.lookup_insert] at himg
        cases himg
        simp [linksTo_iff] at hlinks
      · rw [AList.lookup_insert_ne hother] at himg
        exact .inl ⟨spec, img', himg, hlinks⟩
  | @remove gone rimg hrimg hempty =>
      have hother : spec ≠ gone := by
        rintro rfl
        rw [AList.lookup_erase] at himg
        cases himg
      rw [AList.lookup_erase_ne hother] at himg
      exact .inl ⟨spec, img', himg, hlinks⟩
  | @rename old newName rimg hrimg hnew =>
      by_cases hsame : spec = { old with image := newName }
      · subst hsame
        rw [AList.lookup_insert] at himg
        cases himg
        exact .inl ⟨old, img', hrimg, hlinks⟩
      · rw [AList.lookup_insert_ne hsame] at himg
        have hother : spec ≠ old := by
          rintro rfl
          rw [AList.lookup_erase] at himg
          cases himg
        rw [AList.lookup_erase_ne hother] at himg
        exact .inl ⟨spec, img', himg, hlinks⟩
  | @clone src dst snap features cimg cs hcimg hcs hnew hprotected =>
      by_cases hother : spec = dst
      · subst hother
        rw [AList.lookup_insert] at himg
        cases himg
        have hmem : cs ∈ cimg.snapshots :=
          (List.mem_filter.mp (List.mem_of_head? hcs)).1
        have hsrc : src ≠ spec := by
          rintro rfl
          exact hnew (AList.lookup_isSome.mp (by rw [hcimg]; rfl))
        obtain hhead | ⟨s, hs, -⟩ := linksTo_iff.mp hlinks
        · cases hhead
          exact .inr ⟨src, cimg, cs, by rwa [AList.lookup_insert_ne hsrc], rfl, hmem, rfl⟩
        · cases hs
      · rw [AList.lookup_insert_ne hother] at himg
        exact .inl ⟨spec, img', himg, hlinks⟩

/-- Every request that Ceph grants keeps every image readable. -/
theorem Change.intact {r : Req} (h : Change g r g') (hi : g.Intact) : g'.Intact := by
  intro spec img' himg link hlinks
  obtain ⟨old, img, hold, holdlinks⟩ | hresolves := h.links himg hlinks
  · exact h.resolves hold holdlinks (hi old img hold link holdlinks)
  · exact hresolves

end Intact

end XcpCephRbd.Gc
