import XcpCephRbd.Lib.Base64
import XcpCephRbd.Lib.Prog
import XcpCephRbd.Volume.Meta

/-!
# The cluster and the host as the volume plugin sees them

The images of one pool and namespace with their snapshots, their image-meta and, on a companion
image, the log that cbt-util keeps there; the krbd maps, the running tapdisks and the queued GC jobs
of the host. `Call` lists the single calls the plugin makes: those of the REST backend, one HTTP
request each, and those of `rbd_sysfs`, `cbt-util`, `tap-ctl` and `gcjob`. `effect` is what a call
that succeeds does; `handle` adds the choices of the environment, which may let a call fail, choose
a new identifier or answer a diff. A mapped device is named by the image it maps, and a tapdisk by
the image it serves.
-/

namespace XcpCephRbd.Volume

open Bitmap (Bytes)

/-- The bytes of one state of an image; beyond its end it reads as zeros. -/
abbrev Content := Nat → BitVec 8

/-- What the dashboard reports of a snapshot. -/
structure SnapInfo where
  name : String
  size : Nat
  isProtected : Bool := false
  children : List String := []

/-- A snapshot with the content it captured. -/
structure Snap extends SnapInfo where
  content : Content

/-- A cbt-util log: the size and the consistency flag of its header, and its bitmap. -/
structure Log where
  size : Nat := 0
  consistent : Bool := false
  bitmap : Bytes

/-- An RBD image; a companion image holds a log. Its snapshots stand in the order they were made. -/
structure Image where
  size : Nat
  features : List String := []
  metadata : Dict := ∅
  snapshots : List Snap := []
  totalDiskUsage : Nat := 0
  diskUsage : Nat := 0
  content : Content := fun _ => 0
  log : Option Log := none

/-- What the dashboard reports of an image. -/
structure Info where
  name : String
  size : Nat
  featuresName : List String
  metadata : Dict
  snapshots : List SnapInfo
  totalDiskUsage : Nat
  diskUsage : Nat

/-- The body of a PUT on an image. -/
structure PutBody where
  size : Option Nat := none
  metadata : Option Desired := none

/-- A job of the garbage collector: its kind, the image and the snapshot. -/
structure Job where
  kind : String
  image : String
  snap : Option String := none
  deriving DecidableEq, Repr

/-- A changed extent of `image_diff`; `present` is its `exists` flag. -/
structure Extent where
  offset : Nat
  length : Nat
  present : Bool
  deriving DecidableEq, Repr

/-- `RbdBackendError`. -/
structure BackendError where
  message : String
  notSupported : Bool := false
  notFound : Bool := false
  deriving DecidableEq, Repr

/-- What an operation raises; `calledProcess` is `subprocess.CalledProcessError`. -/
inductive Exc where
  | backend (error : BackendError)
  | unimplemented (message : String)
  | calledProcess (message : String)
  | other (message : String)
  deriving DecidableEq, Repr

/-- The single calls. `metaRead` is the `image_info` that `image_meta_set` makes by itself, which
looks at the metadata only. -/
inductive Call where
  | uuid4
  | gen
  | imageInfo (image : String)
  | metaRead (image : String)
  | listImages
  | putImage (image : String) (body : PutBody)
  | create (image : String) (size : Nat) (features : List String)
  | remove (image : String)
  | snapCreate (image snap : String)
  | snapRemove (image snap : String)
  | snapSetProtected (image snap : String) (on : Bool)
  | snapRollback (image snap : String)
  | snapRename (image snap newSnap : String)
  | imageDiff (image : String) (fromSnap toSnap : Option String) (offset length : Nat)
      (wholeObject : Bool)
  | map (image : String)
  | unmap (image : String)
  | findDevice (image : String)
  | cbtCreate (image : String) (blocks : Nat)
  | cbtSet (image : String) (size : Nat)
  | cbtGet (image : String)
  | tapFind (image : String)
  | tapPause (image : String)
  | tapUnpause (image log : String)
  | gcSpawn (job : Job)
  | gcSweep

/-- What a call returns. -/
abbrev Result : Call → Type
  | .uuid4 | .gen => String
  | .imageInfo _ | .metaRead _ => Info
  | .listImages => List Info
  | .imageDiff _ _ _ _ _ _ => List Extent
  | .findDevice _ => Bool
  | .tapFind _ => Option String
  | .cbtGet _ => Bytes
  | .gcSweep => List Job
  | _ => Unit

/-- An operation of the plugin. -/
abbrev Op := Prog Exc Call Result

/-- A tapdisk: the companion image its log layer writes to, and whether it is paused. -/
structure Tap where
  log : Option String := none
  paused : Bool := false
  deriving DecidableEq, Repr

/-- The images of the SR and the host's maps, tapdisks and GC jobs. -/
structure World where
  images : AList fun _ : String => Image
  mapped : List String := []
  taps : AList (fun _ : String => Tap) := ∅
  jobs : List Job := []

namespace Image

/-- The JSON of an image. -/
def info (img : Image) (name : String) : Info where
  name := name
  size := img.size
  featuresName := img.features
  metadata := img.metadata
  snapshots := img.snapshots.map Snap.toSnapInfo
  totalDiskUsage := img.totalDiskUsage
  diskUsage := img.diskUsage

/-- Set the size; what lies beyond a smaller one is cut off. -/
def resize (img : Image) (size : Nat) : Image :=
  { img with
    size := size
    content := fun i => if i < size then img.content i else 0 }

/-- The dashboard's edit of the image-meta: given keys are set, keys given as null removed. -/
def setMetadata (metadata : Dict) (given : Desired) : Dict :=
  given.entries.foldr (fun entry rest =>
    match entry.2 with
    | some value => rest.insert entry.1 value
    | none => rest.erase entry.1) metadata

/-- PUT: the size is set when the body has one, the metadata is edited when it has one. -/
def put (img : Image) (body : PutBody) : Image :=
  let img := match body.size with
    | some size => img.resize size
    | none => img
  match body.metadata with
  | some given => { img with metadata := setMetadata img.metadata given }
  | none => img

/-- The snapshot with this name. -/
def findSnap (img : Image) (snap : String) : Option Snap :=
  img.snapshots.find? fun s => s.name == snap

/-- A new snapshot captures the size and the content of the image. -/
def snapCreate (snap : String) (img : Image) : Option Image :=
  if (img.findSnap snap).isSome then none
  else some { img with snapshots :=
    img.snapshots ++ [{ name := snap, size := img.size, content := img.content }] }

/-- A snapshot that is protected or has children stays. -/
def snapRemove (snap : String) (img : Image) : Option Image :=
  (img.findSnap snap).bind fun s =>
    if s.isProtected || !s.children.isEmpty then none
    else some { img with snapshots := img.snapshots.filter fun s => s.name != snap }

/-- Change one snapshot. -/
def mapSnap (snap : String) (f : Snap → Snap) (img : Image) : Image :=
  { img with snapshots := img.snapshots.map fun s => if s.name == snap then f s else s }

/-- Protecting a protected snapshot fails, and so does unprotecting one that is not, or that has
children. -/
def snapSetProtected (snap : String) (on : Bool) (img : Image) : Option Image :=
  (img.findSnap snap).bind fun s =>
    if s.isProtected == on || (!on && !s.children.isEmpty) then none
    else some (img.mapSnap snap fun s => { s with isProtected := on })

/-- A rollback restores the content and the size that the snapshot captured. -/
def snapRollback (snap : String) (img : Image) : Option Image :=
  (img.findSnap snap).map fun s => { img with size := s.size, content := s.content }

/-- A snapshot is renamed to a name that no other one has. -/
def snapRename (snap newSnap : String) (img : Image) : Option Image :=
  (img.findSnap snap).bind fun _ =>
    if (img.findSnap newSnap).isSome then none
    else some (img.mapSnap snap fun s => { s with name := newSnap })

/-- `cbt-util create -s blocks`: a log with no bit set. -/
def cbtCreate (blocks : Nat) (img : Image) : Image :=
  { img with log := some { bitmap := Bitmap.zeros ((blocks + 7) / 8) } }

/-- `cbt-util set -s size -f 1`. -/
def cbtSet (size : Nat) (img : Image) : Option Image :=
  img.log.map fun log => { img with log := some { log with size := size, consistent := true } }

variable {img img' : Image} {snap newSnap : String} {on : Bool} {size : Nat}

/-- A new snapshot, taken apart. -/
theorem snapCreate_eq_some_iff : snapCreate snap img = some img' ↔
    img.findSnap snap = none ∧ img' = { img with snapshots :=
      img.snapshots ++ [{ name := snap, size := img.size, content := img.content }] } := by
  rw [snapCreate, Option.ite_none_left_eq_some, Option.some.injEq, Option.not_isSome_iff_eq_none,
    eq_comm (b := img')]

/-- The removal of a snapshot, taken apart. -/
theorem snapRemove_eq_some_iff : snapRemove snap img = some img' ↔
    ∃ s, img.findSnap snap = some s ∧ ¬(s.isProtected || !s.children.isEmpty) = true ∧
      img' = { img with snapshots := img.snapshots.filter fun s => s.name != snap } := by
  simp only [snapRemove, Option.bind_eq_some_iff, Option.ite_none_left_eq_some, Option.some.injEq,
    eq_comm (b := img')]

/-- A change of protection, taken apart. -/
theorem snapSetProtected_eq_some_iff : snapSetProtected snap on img = some img' ↔
    ∃ s, img.findSnap snap = some s ∧
      ¬(s.isProtected == on || (!on && !s.children.isEmpty)) = true ∧
        img' = img.mapSnap snap fun s => { s with isProtected := on } := by
  simp only [snapSetProtected, Option.bind_eq_some_iff, Option.ite_none_left_eq_some,
    Option.some.injEq, eq_comm (b := img')]

/-- A rollback, taken apart. -/
theorem snapRollback_eq_some_iff : snapRollback snap img = some img' ↔
    ∃ s, img.findSnap snap = some s ∧
      img' = { img with size := s.size, content := s.content } := by
  simp only [snapRollback, Option.map_eq_some_iff, eq_comm (b := img')]

/-- A renaming of a snapshot, taken apart. -/
theorem snapRename_eq_some_iff : snapRename snap newSnap img = some img' ↔
    (∃ s, img.findSnap snap = some s) ∧ img.findSnap newSnap = none ∧
      img' = img.mapSnap snap fun s => { s with name := newSnap } := by
  simp only [snapRename, Option.bind_eq_some_iff, Option.ite_none_left_eq_some, Option.some.injEq,
    Option.not_isSome_iff_eq_none, eq_comm (b := img'), exists_and_right]

/-- A change of a log's header, taken apart. -/
theorem cbtSet_eq_some_iff : cbtSet size img = some img' ↔
    ∃ log, img.log = some log ∧
      img' = { img with log := some { log with size := size, consistent := true } } := by
  simp only [cbtSet, Option.map_eq_some_iff, eq_comm (b := img')]

end Image

namespace World

/-- Change an image that exists, where the change is possible. -/
def update (w : World) (image : String) (f : Image → Option Image) : Option World :=
  (w.images.lookup image).bind fun img =>
    (f img).map fun img' => { w with images := w.images.insert image img' }

/-- A tapdisk logs to the image. -/
def isLog (w : World) (image : String) : Bool :=
  w.taps.entries.any fun entry => entry.2.log == some image

/-- Change a tapdisk that is running. -/
def updateTap (w : World) (image : String) (f : Tap → Tap) : Option World :=
  (w.taps.lookup image).map fun tap => { w with taps := w.taps.insert image (f tap) }

/-- A change of an image, taken apart. -/
theorem update_eq_some_iff {w after : World} {image : String} {f : Image → Option Image} :
    w.update image f = some after ↔
      ∃ img img', w.images.lookup image = some img ∧ f img = some img' ∧
        after = { w with images := w.images.insert image img' } := by
  simp only [update, Option.bind_eq_some_iff, Option.map_eq_some_iff]
  constructor
  · rintro ⟨img, himg, img', hf, rfl⟩
    exact ⟨img, img', himg, hf, rfl⟩
  · rintro ⟨img, img', himg, hf, rfl⟩
    exact ⟨img, himg, img', hf, rfl⟩

/-- A change of a tapdisk, taken apart. -/
theorem updateTap_eq_some_iff {w after : World} {image : String} {f : Tap → Tap} :
    w.updateTap image f = some after ↔
      ∃ tap, w.taps.lookup image = some tap ∧
        after = { w with taps := w.taps.insert image (f tap) } := by
  rw [updateTap, Option.map_eq_some_iff]
  constructor
  · rintro ⟨tap, htap, rfl⟩
    exact ⟨tap, htap, rfl⟩
  · rintro ⟨tap, htap, rfl⟩
    exact ⟨tap, htap, rfl⟩

end World

/-- What a call that succeeds returns and does; `none` where it cannot succeed. -/
def effect (w : World) : (c : Call) → Option (Result c × World)
  | .uuid4 => none
  | .gen => none
  | .imageInfo image => (w.images.lookup image).map fun img => (img.info image, w)
  | .metaRead image => (w.images.lookup image).map fun img => (img.info image, w)
  | .listImages => some (w.images.entries.map fun entry => entry.2.info entry.1, w)
  | .putImage image body => (w.update image fun img => some (img.put body)).map ((), ·)
  | .create image size features =>
      if image ∈ w.images then none
      else some ((), { w with
        images := w.images.insert image { size := size, features := features } })
  | .remove image =>
      (w.images.lookup image).bind fun img =>
        if img.snapshots.isEmpty then some ((), { w with images := w.images.erase image })
        else none
  | .snapCreate image snap => (w.update image (Image.snapCreate snap)).map ((), ·)
  | .snapRemove image snap => (w.update image (Image.snapRemove snap)).map ((), ·)
  | .snapSetProtected image snap on =>
      (w.update image (Image.snapSetProtected snap on)).map ((), ·)
  | .snapRollback image snap => (w.update image (Image.snapRollback snap)).map ((), ·)
  | .snapRename image snap newSnap =>
      (w.update image (Image.snapRename snap newSnap)).map ((), ·)
  | .imageDiff _ _ _ _ _ _ => none
  | .map image => if image ∈ w.images then some ((), { w with mapped := w.mapped.insert image })
      else none
  | .unmap image =>
      -- a device that a tapdisk logs to is busy; `_unmap` passes over the error
      some ((), if w.isLog image then w else { w with mapped := w.mapped.erase image })
  | .findDevice image => some (w.mapped.contains image, w)
  | .cbtCreate image blocks =>
      (w.update image fun img => some (img.cbtCreate blocks)).map ((), ·)
  | .cbtSet image size => (w.update image (Image.cbtSet size)).map ((), ·)
  | .cbtGet image =>
      (w.images.lookup image).bind fun img => img.log.map fun log => (log.bitmap, w)
  | .tapFind image => some (if image ∈ w.taps then some image else none, w)
  | .tapPause image => (w.updateTap image fun tap => { tap with paused := true }).map ((), ·)
  | .tapUnpause image log =>
      (w.updateTap image fun _ => { log := some log, paused := false }).map ((), ·)
  | .gcSpawn job => some ((), { w with jobs := w.jobs ++ [job] })
  | .gcSweep => some (w.jobs, w)

/-- What the environment decides about a call: it succeeds, it fails, or it answers with a new
identifier or a diff. `tap` is a listing of the tapdisks that shows, before one of the image itself
on `/dev/rbd<number>`, the tapdisk of `found` on `/dev/rbd<other>`. -/
inductive Choice where
  | ok
  | fail (error : Exc)
  | fresh (text : String)
  | diff (extents : List Extent)
  | tap (number other : Nat) (found : String)

/-- `_tap_find` looks for the text of a device, which is also a part of the text of another device
whose number begins with the same digits. -/
def alike (number other : Nat) : Bool :=
  number != other && number.repr.toList.isPrefixOf other.repr.toList

/-- `uuid.uuid4().hex[:12]`. -/
def isGen (text : List Char) : Bool := text.length == 12 && text.all isHex

/-- The answer to a call under a choice of the environment, and the state after it. A call that
fails changes nothing. -/
def handle : Choice → World → (c : Call) → Option (Except Exc (Result c) × World)
  | .fresh text, w, .uuid4 => if isUuid text.toList then some (.ok text, w) else none
  | .fresh text, w, .gen => if isGen text.toList then some (.ok text, w) else none
  | .diff extents, w, .imageDiff _ _ _ _ _ _ => some (.ok extents, w)
  | .tap number other found, w, .tapFind image =>
      if found ≠ image ∧ found ∈ w.taps ∧ alike number other then some (.ok (some found), w)
      else none
  | .ok, w, c => (effect w c).map fun (result, after) => (.ok result, after)
  | .fail _, _, .uuid4 => none
  | .fail _, _, .gen => none
  | .fail _, _, .gcSweep => none
  | .fail error, w, _ => some (.error error, w)
  | _, _, _ => none

/-- A call that the environment lets succeed has its effect. -/
theorem handle_ok (w : World) (c : Call) :
    handle .ok w c = (effect w c).map fun (result, after) => (.ok result, after) := by
  cases c <;> rfl

/-- A call succeeds with its effect, or it changes nothing: it fails, it is one that only the
environment answers, or the tapdisk of another image is found. -/
theorem handle_cases {choice : Choice} {w after : World} {c : Call} {reply : Except Exc (Result c)}
    (h : handle choice w c = some (reply, after)) :
    (∃ result, choice = .ok ∧ reply = .ok result ∧ effect w c = some (result, after)) ∨
      (choice ≠ .ok ∧ after = w ∧ ((∃ error, choice = .fail error ∧ reply = .error error) ∨
        c = .uuid4 ∨ c = .gen ∨
          (∃ image fromSnap toSnap offset length whole,
            c = .imageDiff image fromSnap toSnap offset length whole) ∨
          ∃ image number other found, c = .tapFind image ∧ choice = .tap number other found)) := by
  cases choice with
  | ok =>
      rw [handle_ok] at h
      obtain ⟨⟨result, after'⟩, heffect, heq⟩ := Option.map_eq_some_iff.mp h
      simp only [Prod.mk.injEq] at heq
      obtain ⟨rfl, rfl⟩ := heq
      exact .inl ⟨result, rfl, rfl, heffect⟩
  | fail error =>
      refine .inr ⟨by simp, ?_⟩
      cases c <;> cases h <;> exact ⟨rfl, .inl ⟨error, rfl, rfl⟩⟩
  | fresh text =>
      refine .inr ⟨by simp, ?_⟩
      cases c <;> simp_all [handle]
  | diff extents =>
      refine .inr ⟨by simp, ?_⟩
      cases c <;> simp_all [handle]
  | tap number other found =>
      refine .inr ⟨by simp, ?_⟩
      cases c <;> simp_all [handle]

/-- Only the search for a tapdisk finds one. -/
theorem call_of_handle_tap {number other : Nat} {found : String} {w after : World} {c : Call}
    {reply : Except Exc (Result c)}
    (h : handle (.tap number other found) w c = some (reply, after)) :
    ∃ image, c = .tapFind image := by
  cases c with
  | tapFind image => exact ⟨image, rfl⟩
  | _ => cases h

/-- Where the tapdisk of another image is found. -/
theorem handle_tap {number other : Nat} {found image : String} {w after : World}
    {reply : Except Exc (Option String)}
    (h : handle (.tap number other found) w (.tapFind image) = some (reply, after)) :
    found ≠ image ∧ found ∈ w.taps ∧ reply = .ok (some found) ∧ after = w := by
  simp only [handle, Option.ite_none_right_eq_some, Option.some.injEq, Prod.mk.injEq] at h
  obtain ⟨⟨hne, hmem, -⟩, rfl, rfl⟩ := h
  exact ⟨hne, hmem, rfl, rfl⟩

end XcpCephRbd.Volume
