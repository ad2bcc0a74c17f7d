import XcpCephRbd.Gc.Worker
import XcpCephRbd.Volume.Ops

/-!
# The operations that make, clone and destroy volumes

`Volume.create`, `clone` and `destroy` of `volume.py` and `CephRBDVDI.delete` of `RBDSR.py`, and
what the calls of all volume operations do to the graph of images. The calls of the operations that
do not touch the cluster (maps, tapdisks, the companion's log) are answered by the environment.
-/

namespace XcpCephRbd.Gc

open Volume (BackendError Info Job VolumeDict trashPrefix uuidMatch)
open Datapath (SrMeta splitKey)
open Text (truthy)

/-- The calls of the volume operations, with the two that only these operations make. -/
inductive OpCall where
  | call (c : Volume.Call)
  | imageRename (image newName : String)
  | clone (image snap dst : String) (features : List String)

/-- What a call returns. -/
abbrev OpCall.Result : OpCall → Type
  | .call c => Volume.Result c
  | _ => Unit

/-- A volume operation. -/
abbrev Op := Prog Volume.Exc OpCall OpCall.Result

/-- An operation of the plugin that makes none of the other calls. -/
def lift {α : Type} : Volume.Op α → Op α
  | .ret value => .ret value
  | .raise error => .raise error
  | .call c resume => .call (.call c) fun reply => lift (resume reply)

/-- Make one call. -/
def perform (c : OpCall) : Op c.Result := Prog.perform c

/-- Run the handler on an `RbdBackendError`; other exceptions go through. -/
def catchBackend {α : Type} (p : Op α) (handler : BackendError → Op α) : Op α :=
  tryCatch p fun
    | .backend error => handler error
    | error => throw error

/-- A new UUID. -/
def uuid4 : Op String := perform (.call .uuid4)

/-- `image_info`. -/
def opInfo (image : String) : Op Info := perform (.call (.imageInfo image))

/-- `_from_sxm(dbg)`. -/
def fromSxm (dbg : String) : Bool :=
  Text.contains (Text.lower dbg) "migrate" || Text.contains (Text.lower dbg) "sxm"

/-- `Volume.create(dbg, sr, name, description, size, sharable)`. -/
def create (sr : SrMeta) (features : List String) (name description : String) (size : Nat)
    (sharable : Bool) : Op VolumeDict := do
  let vdiUuid ← uuid4
  catchBackend (perform (.call (.create vdiUuid size features))) fun error =>
    throw (.other ("VDI create failed: " ++ error.message))
  let (nk, dk, _) := Volume.metaNames none
  let named : Volume.Desired := if name = "" then ∅ else AList.insert nk (some name) ∅
  let metadata := if description = "" then named else named.insert dk (some description)
  if name = "" && description = "" then pure ()
  else catchBackend (lift (Volume.RestBackend.imageMetaSet vdiUuid metadata size)) fun _ => pure ()
  return Volume.volumeDict sr.srUuid vdiUuid vdiUuid name description size { sharable := sharable }

/-- `CLONE_SNAP_PREFIX`. -/
def cloneSnapPrefix : String := "xcp-clonebase-"

/-- `clone`'s undoing of its transient snapshot. -/
def dropTransient (base snap : String) : Op Unit :=
  catchBackend (do
    perform (.call (.snapSetProtected base snap false))
    perform (.call (.snapRemove base snap))) fun _ => pure ()

/-- `clone` of a live image, through a transient snapshot. -/
def cloneLive (base clone : String) (features : List String) : Op Unit := do
  let uuid ← uuid4
  let snap := cloneSnapPrefix ++ uuid
  catchBackend (do
    perform (.call (.snapCreate base snap))
    perform (.call (.snapSetProtected base snap true))
    perform (.clone base snap clone features)) fun error => do
      dropTransient base snap
      throw (.other ("VDI clone failed: " ++ error.message))

/-- `clone` of a snapshot. -/
def cloneSnap (base snap clone : String) (features : List String) : Op Unit :=
  catchBackend (perform (.clone base snap clone features)) fun error =>
    throw (.other ("VDI clone failed: " ++ error.message))

/-- `_size_of(be, pool, ns, image)`. -/
def sizeOf (image : String) : Op Nat :=
  catchBackend (do
    let info ← opInfo image
    return info.size) fun _ => pure 0

/-- `Volume.clone(dbg, sr, key)`. -/
def clone (sr : SrMeta) (features : List String) (key : String) : Op VolumeDict := do
  let (base, snap) := splitKey key
  let cloneUuid ← uuid4
  match snap with
  | none => cloneLive base cloneUuid features
  | some snap => cloneSnap base snap cloneUuid features
  let size ← sizeOf base
  return Volume.volumeDict sr.srUuid cloneUuid cloneUuid cloneUuid "" size {}

/-- `_force_release(dbg, pool, ns, image)`: the krbd map; the servers it stops are the host's. -/
def forceRelease (image : String) : Op Unit :=
  tryCatch (do
    let mapped : Bool ← perform (.call (.findDevice image))
    if mapped then perform (.call (.unmap image))) fun _ => pure ()

/-- `_release_and_remove(dbg, be, pool, ns, image)`. -/
def releaseAndRemove (image : String) : Op Unit := do
  forceRelease image
  catchBackend (perform (.call (.remove image))) fun error =>
    if error.notFound then pure ()
    else do
      forceRelease image
      perform (.call (.remove image))

/-- The removal of the snapshots of a listing. -/
def removeSnaps (base : String) : List String → Op Unit
  | [] => pure ()
  | snap :: rest => do
      lift (Volume.removeSnap base snap)
      removeSnaps base rest

/-- Rename the image out of the UUID space and leave it to the GC. -/
def trashImage (image : String) : Op Unit := do
  let uuid ← uuid4
  perform (.imageRename image (trashPrefix ++ uuid))
  perform (.call (.gcSpawn { kind := "image", image := trashPrefix ++ uuid }))

/-- The image as `destroy` reads it: `none` where it is gone. -/
def infoOrGone (image : String) : Op (Option Info) :=
  catchBackend (do
    let info ← opInfo image
    return some info) fun error =>
      if error.notFound then pure none else throw (.backend error)

/-- The snapshots that belong to the user. -/
def realSnaps (info : Info) : List String :=
  (info.snapshots.map Volume.SnapInfo.name).filter uuidMatch

/-- A snapshot of the image has clones. -/
def anyChildren (info : Info) : Bool := info.snapshots.any fun s => !s.children.isEmpty

/-- `destroy`'s removal of the companions of a base on the tapdisk route. -/
def dropCompanions (base : String) (metadata : Volume.Dict) : Op Unit :=
  if Volume.Cbtlog.isTapdisk metadata then
    lift (Volume.Cbtlog.removeAllCompanions base metadata)
  else pure ()

/-- `destroy`'s removal of a base that may go: one with clones is left to the GC. -/
def disposeBase (base : String) (info : Info) : Op Unit :=
  if anyChildren info then trashImage base
  else do
    removeSnaps base (info.snapshots.map Volume.SnapInfo.name)
    releaseAndRemove base

/-- `destroy` of a base image, inside the outer handler. -/
def destroyBase (sxm : Bool) (base : String) : Op Unit := do
  match ← infoOrGone base with
  | some info =>
      if !(realSnaps info).isEmpty && !sxm then
        throw (.other ("VDI has " ++ toString (realSnaps info).length ++
          " snapshot(s); delete those first"))
      else do
        dropCompanions base info.metadata
        disposeBase base info
  | none => releaseAndRemove base

/-- `Volume.destroy(dbg, sr, key)`. -/
def destroy (dbg key : String) : Op Unit :=
  let (base, snap) := splitKey key
  match snap with
  | some snap =>
      if snap = "" then
        catchBackend (destroyBase (fromSxm dbg) base) fun error =>
          if error.notFound then pure ()
          else throw (.other ("VDI destroy failed: " ++ error.message))
      else lift (Volume.destroySnap base snap)
  | none =>
      catchBackend (destroyBase (fromSxm dbg) base) fun error =>
        if error.notFound then pure ()
        else throw (.other ("VDI destroy failed: " ++ error.message))

/-- `CephRBDVDI.delete` of a snapshot, inside the outer handler. -/
def deleteSnap (base snap : String) : Op Unit := lift (Volume.releaseSnap base snap)

/-- `CephRBDVDI.delete` of an image, inside the outer handler. -/
def deleteImage (image : String) : Op Unit := do
  match ← infoOrGone image with
  | some info =>
      if !(realSnaps info).isEmpty then
        throw (.other ("VDIInUse: image has " ++ toString (realSnaps info).length ++
          " snapshot(s); delete the snapshot VDIs first"))
      else if anyChildren info then trashImage image
      else do
        removeSnaps image (info.snapshots.map Volume.SnapInfo.name)
        perform (.call (.remove image))
  | none => perform (.call (.remove image))

/-- The error that `delete` raises for one of the backend: an image that is mapped somewhere is in
use. -/
def deleteError (message : String) : String :=
  if Text.contains (Text.lower message) "watchers" || Text.contains (Text.lower message) "in use"
  then
    "VDIInUse: image still mapped somewhere: " ++ message
  else "VDIDelete: " ++ message

/-- `CephRBDVDI.delete` of a VDI that is not attached, up to its records in the database: an image,
or a snapshot of one. -/
def delete (image : String) (snap : Option String) : Op Unit :=
  catchBackend (match snap with
    | some snap => deleteSnap image snap
    | none => deleteImage image) fun error =>
      if error.notFound then pure ()
      else throw (.other (deleteError error.message))

/-- The pool and the namespace of an SR. -/
structure Sr where
  pool : String
  ns : String
  deriving DecidableEq, Repr

/-- An image of the SR. -/
def Sr.spec (sr : Sr) (image : String) : Spec := ⟨sr.pool, sr.ns, image⟩

/-- How a backend shows a clone in a listing; the operations only ask whether there is one. -/
def Shape.text : Shape → Spec → String
  | .rest, spec => spec.pool ++ "/" ++ spec.ns ++ "/" ++ spec.image
  | .local, spec => "(" ++ spec.pool ++ ", " ++ spec.image ++ ")"

/-- What a backend reports of an image; the usage is not modelled. -/
def Graph.volumeInfo (g : Graph) (shape : Shape) (name : String) (img : Image) : Info where
  name := name
  size := img.size
  featuresName := img.features
  metadata := img.metadata
  snapshots := img.snapshots.map fun s =>
    { name := s.name, size := s.size, isProtected := s.isProtected
      children := (g.children ⟨img.id, s.id⟩).map shape.text }
  totalDiskUsage := 0
  diskUsage := 0

/-- The images of the SR. -/
def Graph.listing (g : Graph) (shape : Shape) (sr : Sr) : List Info :=
  (g.images.entries.filter fun entry => entry.1.pool == sr.pool && entry.1.ns == sr.ns).map
    fun entry => g.volumeInfo shape entry.1.image entry.2

/-- The images of a listing. -/
theorem mem_listing_iff {g : Graph} {shape : Shape} {sr : Sr} {info : Info} :
    info ∈ g.listing shape sr ↔
    ∃ img, g.images.lookup (sr.spec info.name) = some img ∧
      info = g.volumeInfo shape info.name img := by
  simp only [Graph.listing, List.mem_map, List.mem_filter, Bool.and_eq_true, beq_iff_eq]
  constructor
  · rintro ⟨⟨⟨pool, ns, image⟩, img⟩, ⟨hmem, rfl, rfl⟩, rfl⟩
    exact ⟨img, AList.mem_lookup_iff.mpr hmem, rfl⟩
  · rintro ⟨img, himg, hinfo⟩
    exact ⟨⟨sr.spec info.name, img⟩, ⟨AList.mem_lookup_iff.mp himg, rfl, rfl⟩, hinfo.symm⟩

/-- The request that a call makes of Ceph. -/
def reqOf (sr : Sr) : OpCall → Option Req
  | .imageRename image newName => some (.imageRename (sr.spec image) newName)
  | .clone image snap dst features =>
      some (.clone (sr.spec image) snap (sr.spec dst) features)
  | .call (.putImage image body) => some (.put (sr.spec image) body)
  | .call (.create image size features) => some (.create (sr.spec image) size features)
  | .call (.remove image) => some (.remove (sr.spec image))
  | .call (.snapCreate image snap) => some (.snapCreate (sr.spec image) snap)
  | .call (.snapRemove image snap) => some (.snapRemove (sr.spec image) snap)
  | .call (.snapSetProtected image snap on) => some (.snapSetProtected (sr.spec image) snap on)
  | .call (.snapRollback image snap) => some (.snapRollback (sr.spec image) snap)
  | .call (.snapRename image snap newSnap) => some (.snapRename (sr.spec image) snap newSnap)
  | _ => none

/-- What the environment decides about a call of an operation: it succeeds, it fails, or it answers
with a new identifier, a diff, or what the host says. -/
inductive OpChoice where
  | ok
  | fail (error : Volume.Exc)
  | fresh (text : String)
  | diff (extents : List Volume.Extent)
  | flag (value : Bool)
  | tap (found : Option String)
  | bytes (value : Bitmap.Bytes)

/-- What the operations run against: the cluster, and the GC jobs that have been queued. -/
structure Cluster where
  graph : Graph
  jobs : List Job := []

/-- What a call that succeeds returns and does; `none` where it cannot succeed, and for the calls
that the environment answers. -/
def opEffect (shape : Shape) (sr : Sr) (w : Cluster) : (c : OpCall) → Option (c.Result × Cluster)
  | .call (.imageInfo image) => (w.graph.images.lookup (sr.spec image)).map fun img =>
      (w.graph.volumeInfo shape image img, w)
  | .call (.metaRead image) => (w.graph.images.lookup (sr.spec image)).map fun img =>
      (w.graph.volumeInfo shape image img, w)
  | .call .listImages => some (w.graph.listing shape sr, w)
  | .call (.gcSpawn job) => some ((), { w with jobs := w.jobs ++ [job] })
  | .call .gcSweep => some (w.jobs, w)
  | .call (.map _) => some ((), w)
  | .call (.unmap _) => some ((), w)
  | .call (.cbtCreate _ _) => some ((), w)
  | .call (.cbtSet _ _) => some ((), w)
  | .call (.tapPause _) => some ((), w)
  | .call (.tapUnpause _ _) => some ((), w)
  | .imageRename image newName =>
      (w.graph.apply (.imageRename (sr.spec image) newName)).map fun graph =>
        ((), { w with graph := graph })
  | .clone image snap dst features =>
      (w.graph.apply (.clone (sr.spec image) snap (sr.spec dst) features)).map fun graph =>
        ((), { w with graph := graph })
  | .call (.putImage image body) =>
      (w.graph.apply (.put (sr.spec image) body)).map fun graph => ((), { w with graph := graph })
  | .call (.create image size features) =>
      (w.graph.apply (.create (sr.spec image) size features)).map fun graph =>
        ((), { w with graph := graph })
  | .call (.remove image) =>
      (w.graph.apply (.remove (sr.spec image))).map fun graph => ((), { w with graph := graph })
  | .call (.snapCreate image snap) =>
      (w.graph.apply (.snapCreate (sr.spec image) snap)).map fun graph =>
        ((), { w with graph := graph })
  | .call (.snapRemove image snap) =>
      (w.graph.apply (.snapRemove (sr.spec image) snap)).map fun graph =>
        ((), { w with graph := graph })
  | .call (.snapSetProtected image snap on) =>
      (w.graph.apply (.snapSetProtected (sr.spec image) snap on)).map fun graph =>
        ((), { w with graph := graph })
  | .call (.snapRollback image snap) =>
      (w.graph.apply (.snapRollback (sr.spec image) snap)).map fun graph =>
        ((), { w with graph := graph })
  | .call (.snapRename image snap newSnap) =>
      (w.graph.apply (.snapRename (sr.spec image) snap newSnap)).map fun graph =>
        ((), { w with graph := graph })
  | .call .uuid4 | .call .gen | .call (.imageDiff _ _ _ _ _ _) | .call (.findDevice _)
  | .call (.tapFind _) | .call (.cbtGet _) => none

/-- The answer to a call of an operation. A call that fails changes nothing. -/
def opHandle (shape : Shape) (sr : Sr) :
    OpChoice → Cluster → (c : OpCall) → Option (Except Volume.Exc c.Result × Cluster)
  | .fresh text, w, .call .uuid4 =>
      if Volume.isUuid text.toList then some (.ok text, w) else none
  | .fresh text, w, .call .gen => if Volume.isGen text.toList then some (.ok text, w) else none
  | .diff extents, w, .call (.imageDiff _ _ _ _ _ _) => some (.ok extents, w)
  | .flag value, w, .call (.findDevice _) => some (.ok value, w)
  | .tap found, w, .call (.tapFind _) => some (.ok found, w)
  | .bytes value, w, .call (.cbtGet _) => some (.ok value, w)
  | .ok, w, c => (opEffect shape sr w c).map fun (result, after) => (.ok result, after)
  | .fail _, _, .call .uuid4 => none
  | .fail _, _, .call .gen => none
  | .fail _, _, .call .gcSweep => none
  | .fail error, w, _ => some (.error error, w)
  | _, _, _ => none

/-- The image or the snapshot that a call is about exists. -/
def opFound (sr : Sr) (w : Cluster) (c : OpCall) : Bool :=
  match c with
  | .call (.imageInfo image) | .call (.metaRead image) => decide (sr.spec image ∈ w.graph.images)
  | c => ((reqOf sr c).map w.graph.found).getD true

/-- The answer to a call when the environment's choices are given by an oracle: what Ceph refuses is
an error, and a not-found one exactly where the object does not exist. -/
def opAnswer (shape : Shape) (sr : Sr) (oracle : Cluster → OpCall → OpChoice) (w : Cluster)
    (c : OpCall) : Option (Except Volume.Exc c.Result × Cluster) :=
  match opHandle shape sr (oracle w c) w c with
  | some answered => some answered
  | none => some (.error (.backend { message := "refused", notFound := !opFound sr w c }), w)

/-- A call that the environment lets succeed has its effect. -/
theorem opHandle_granted {shape : Shape} {sr : Sr} {w : Cluster} {c : OpCall} :
    opHandle shape sr .ok w c =
      (opEffect shape sr w c).map fun (result, after) => (.ok result, after) := by
  cases c with
  | call c => cases c <;> rfl
  | imageRename image newName => rfl
  | clone image snap dst features => rfl

/-- A call succeeds with its effect, or it changes nothing. -/
theorem opHandle_cases {shape : Shape} {sr : Sr} {choice : OpChoice} {w after : Cluster}
    {c : OpCall}
    {reply : Except Volume.Exc c.Result} (h : opHandle shape sr choice w c = some (reply, after)) :
    (∃ result, reply = .ok result ∧ opEffect shape sr w c = some (result, after)) ∨
      (after = w ∧ ((∃ error, choice = .fail error ∧ reply = .error error) ∨
        ∃ result, reply = .ok result ∧ opEffect shape sr w c = none)) := by
  cases choice with
  | ok =>
      rw [opHandle_granted] at h
      obtain ⟨⟨result, after'⟩, heffect, heq⟩ := Option.map_eq_some_iff.mp h
      simp only [Prod.mk.injEq] at heq
      obtain ⟨rfl, rfl⟩ := heq
      exact .inl ⟨result, rfl, heffect⟩
  | fail error =>
      refine .inr ?_
      cases c with
      | call c => cases c <;> cases h <;> exact ⟨rfl, .inl ⟨error, rfl, rfl⟩⟩
      | imageRename image newName =>
          cases h
          exact ⟨rfl, .inl ⟨error, rfl, rfl⟩⟩
      | clone image snap dst features =>
          cases h
          exact ⟨rfl, .inl ⟨error, rfl, rfl⟩⟩
  | fresh text =>
      refine .inr ?_
      cases c with
      | call c =>
          cases c <;> simp only [opHandle, Option.ite_none_right_eq_some, Option.some.injEq,
            Prod.mk.injEq, reduceCtorEq] at h
          · exact ⟨h.2.2.symm, .inr ⟨text, h.2.1.symm, rfl⟩⟩
          · exact ⟨h.2.2.symm, .inr ⟨text, h.2.1.symm, rfl⟩⟩
      | imageRename image newName => cases h
      | clone image snap dst features => cases h
  | diff extents =>
      refine .inr ?_
      cases c with
      | call c =>
          cases c <;> cases h
          all_goals exact ⟨rfl, .inr ⟨extents, rfl, rfl⟩⟩
      | imageRename image newName => cases h
      | clone image snap dst features => cases h
  | flag value =>
      refine .inr ?_
      cases c with
      | call c =>
          cases c <;> cases h
          all_goals exact ⟨rfl, .inr ⟨value, rfl, rfl⟩⟩
      | imageRename image newName => cases h
      | clone image snap dst features => cases h
  | tap found =>
      refine .inr ?_
      cases c with
      | call c =>
          cases c <;> cases h
          all_goals exact ⟨rfl, .inr ⟨found, rfl, rfl⟩⟩
      | imageRename image newName => cases h
      | clone image snap dst features => cases h
  | bytes value =>
      refine .inr ?_
      cases c with
      | call c =>
          cases c <;> cases h
          all_goals exact ⟨rfl, .inr ⟨value, rfl, rfl⟩⟩
      | imageRename image newName => cases h
      | clone image snap dst features => cases h

/-- What a call that succeeds does to the graph: it makes its request, or nothing. -/
theorem opEffect_graph {shape : Shape} {sr : Sr} {w after : Cluster} {c : OpCall}
    {result : c.Result} (h : opEffect shape sr w c = some (result, after)) :
    (∃ r, reqOf sr c = some r ∧ w.graph.apply r = some after.graph) ∨
      (reqOf sr c = none ∧ after.graph = w.graph) := by
  cases c with
  | imageRename image newName =>
      obtain ⟨graph, happly, hpair⟩ := Option.map_eq_some_iff.mp h
      cases hpair
      exact .inl ⟨_, rfl, happly⟩
  | clone image snap dst features =>
      obtain ⟨graph, happly, hpair⟩ := Option.map_eq_some_iff.mp h
      cases hpair
      exact .inl ⟨_, rfl, happly⟩
  | call c =>
      cases c <;> first
        | (cases h; done)
        | (cases h; exact .inr ⟨rfl, rfl⟩)
        | (obtain ⟨graph, happly, hpair⟩ := Option.map_eq_some_iff.mp h
           cases hpair
           first
             | exact .inl ⟨_, rfl, happly⟩
             | exact .inr ⟨rfl, rfl⟩)

end XcpCephRbd.Gc
