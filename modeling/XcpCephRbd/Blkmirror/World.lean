import Mathlib.Algebra.Order.Field.Rat
import XcpCephRbd.Blkmirror.Image

/-!
# What the mirror's processes share

The state directory `/run/rbd-blkmir/<image>`, the source image with its snapshots, the krbd
maps of these snapshots and the destination behind the nbd device, with the operations of
`blkmirror.py` and of the backend on them. A status file is a JSON dictionary; `write_status`
reads it, merges the given fields into what it read and replaces the file, so it appears here
as the two operations `readStatus` and `replaceStatus`. The temporary file, whose name all of them
share, is written and renamed in the second, which may fail and then leaves the file as it was.
-/

namespace XcpCephRbd.Blkmirror

/-- `SNAP_PREFIX`: the source snapshots the mirror creates and reaps. -/
def snapPrefix : String := "xcp-sxm-"

/-- `DEF_THRESHOLD`: a pass under this many bytes counts as converged. -/
def defThreshold : Nat := 256 * 1024 * 1024

/-- `DEF_MAX_ITERS`: converging is given up after this many passes. -/
def defMaxIters : Nat := 8

/-- `COPY_CHUNK`: the pread/pwrite granularity. -/
def copyChunk : Nat := 4 * 1024 * 1024

/-- A value of the status dictionary. The float `progress` is kept as the exact fraction. -/
inductive Val where
  | null
  | bool (b : Bool)
  | int (n : Nat)
  | real (q : Rat)
  | str (s : String)
  deriving DecidableEq, Repr

/-- Python's truth value of `dict.get(key)`. -/
def truthy : Option Val → Bool
  | none | some .null => false
  | some (.bool b) => b
  | some (.int n) => n != 0
  | some (.real q) => q != 0
  | some (.str s) => s != ""

/-- The dictionary in `status.json`, as its list of fields. -/
structure Status where
  fields : List (String × Val)
  deriving DecidableEq, Repr

namespace Status

/-- The dictionary `{}`. -/
def empty : Status := ⟨[]⟩

/-- `st.get(key)`. -/
def get (st : Status) (key : String) : Option Val := st.fields.lookup key

theorem get_mk (fields : List (String × Val)) (key : String) :
    get ⟨fields⟩ key = fields.lookup key := rfl

/-- `st.update(kw)`: the fields of `kw` win, every other field of `st` stays. -/
def update (st kw : Status) : Status :=
  ⟨kw.fields ++ st.fields.filter fun field => (kw.get field.1).isNone⟩

/-- A field after an update is the new one where the update has it and else the old one. -/
@[simp] theorem get_update (st kw : Status) (key : String) :
    (st.update kw).get key = (kw.get key).or (st.get key) := by
  simp only [get, update, List.lookup_append]
  cases hkw : kw.fields.lookup key with
  | some val => rfl
  | none =>
      simp only [Option.none_or]
      induction st.fields with
      | nil => rfl
      | cons field rest ih =>
          obtain ⟨name, val⟩ := field
          by_cases hname : key = name
          · subst hname
            simp [hkw]
          · have hbeq : (key == name) = false := by simpa using hname
            by_cases hnew : kw.fields.lookup name = none
            · simp [hnew, List.lookup_cons, hbeq, ih]
            · simp [hnew, List.lookup_cons, hbeq, ih]

/-- `st.get("baseline_snap")`. -/
def baseline (st : Status) : Option String :=
  match st.get "baseline_snap" with
  | some (.str snap) => some snap
  | _ => none

/-- `st.get("pid")`, a falsy value counting as no pid as in `if not pid`. -/
def pid (st : Status) : Option Nat :=
  match st.get "pid" with
  | some (.int pid) => if pid = 0 then none else some pid
  | _ => none

end Status

/-- The part of the SR's device-config that the mirror reads, after `int()`. -/
structure Dconf where
  sxmThreshold : Option Nat := none
  sxmMaxIters : Option Nat := none
  deriving DecidableEq, Repr

/-- The fields of `job.json` that the worker and `finalize` use. -/
structure Job where
  nbdDev : String
  threshold : Nat
  maxIters : Nat
  deriving DecidableEq, Repr

/-- The job that `mirror` writes for a destination wired to `nbdDev`. -/
def Job.ofDconf (dconf : Dconf) (nbdDev : String) : Job where
  nbdDev := nbdDev
  threshold := dconf.sxmThreshold.getD defThreshold
  maxIters := dconf.sxmMaxIters.getD defMaxIters

/-- What the environment answers to the call a step makes: whether it succeeds, the clock, the pid
of a new process, how many bytes `pread` returns and `pwrite` transfers, the nbd device that
`nbd-client` was given, whether the deadline of `_stop_worker` has passed, and the text of the
exception that the worker reports. A `map_image` that fails may have `mapped` the snapshot before it
raises, and where `fsync` fails the destination holds what is `lost` to it. -/
structure Reply where
  ok : Bool := true
  now : Nat := 0
  pid : Nat := 1
  got : Nat := copyChunk
  put : Nat := copyChunk
  nbdDev : String := "/dev/nbd0"
  timeout : Bool := false
  error : String := ""
  mapped : Bool := false
  lost : Nat → Option UInt8 := fun _ => none

/-- The shared state of one image's mirror. `dir` is the existence of the state directory,
`maps` the snapshots mapped read-only by krbd, `nbd` whether the destination is connected. -/
structure World where
  dir : Bool
  job : Option Job
  status : Option Status
  stop : Bool
  src : Objects
  snaps : List (String × Objects)
  maps : List String
  dst : Nat → UInt8
  nbd : Bool

namespace World

/-- `blkmirror.active`: a mirror, running or converged and not yet finalized, exists. -/
def active (w : World) : Bool := w.job.isSome

/-- `read_status`: an absent or unreadable file reads as `{}`. -/
def readStatus (w : World) : Status := w.status.getD .empty

/-- The second half of `write_status`: replace the file by what was read, with `kw` merged in.
Writing or renaming the temporary file may fail, and does when the state directory is gone. -/
def replaceStatus (w : World) (seen kw : Status) (r : Reply) : Option World :=
  if r.ok && w.dir then some { w with status := some (seen.update kw) } else none

/-- The content of a snapshot of the source image. -/
def snapshot (w : World) (name : String) : Option Objects := w.snaps.lookup name

/-- The source image has a snapshot of this name. -/
def hasSnap (w : World) (name : String) : Bool := (w.snapshot name).isSome

/-- `be.snap_create`: freeze the current content under a new name. -/
def snapCreate (w : World) (name : String) (r : Reply) : Option World :=
  if r.ok && !w.hasSnap name then some { w with snaps := w.snaps ++ [(name, w.src)] } else none

/-- `be.snap_remove`: a snapshot that krbd has mapped cannot be removed. -/
def snapRemove (w : World) (name : String) (r : Reply) : Option World :=
  if r.ok && w.hasSnap name && !w.maps.contains name then
    some { w with snaps := w.snaps.filter fun entry => entry.1 != name }
  else none

/-- The kernel's map of a snapshot; mapping it again is a no-op. -/
def addMap (w : World) (name : String) : World :=
  { w with maps := if w.maps.contains name then w.maps else name :: w.maps }

/-- `rbd_sysfs.map_image` of a snapshot. -/
def mapSnap (w : World) (name : String) (r : Reply) : Option World :=
  if r.ok && w.hasSnap name then some (w.addMap name) else none

/-- What a `map_image` that raises leaves: the kernel may have made the map, and only the device or
its node was not found. -/
def mapFailed (w : World) (name : String) (r : Reply) : World :=
  if r.mapped && w.hasSnap name then w.addMap name else w

/-- `rbd_sysfs.unmap_image` of a snapshot, with its failure logged and ignored. -/
def unmapSnap (w : World) (name : String) (r : Reply) : World :=
  if r.ok then { w with maps := w.maps.filter fun entry => entry != name } else w

/-- `pwrite` to the destination of the `len` bytes that `img` holds from `pos` on. -/
def pwrite (w : World) (g : Geometry) (img : Objects) (pos len : Nat) : World :=
  { w with dst := fun p => if pos ≤ p ∧ p < pos + len then g.read img p else w.dst p }

/-- `os.fsync` of the destination, with its failure ignored: bytes that `pwrite` has taken may be
lost. -/
def fsync (w : World) (r : Reply) : World :=
  if r.ok then w else { w with dst := fun p => (r.lost p).getD (w.dst p) }

end World

/-- The control point of one call of `copy_delta`, with its live variables: `result` is the
value to return, `none` when an exception is pending in the `finally` block. -/
inductive CopyPc where
  | diff
  | map (extents : List (Nat × Nat))
  | openDevices (extents : List (Nat × Nat))
  | loop (extents : List (Nat × Nat)) (pos stop total : Nat)
  | close (result : Option Nat)
  | unmap (result : Option Nat)
  deriving DecidableEq, Repr

/-- How a step of `copy_delta` ends: at a further control point, returned or raised. -/
inductive CopyNext where
  | goto (pc : CopyPc)
  | returned (bytes : Nat)
  | raised

/-- The extents of a diff that `copy_delta` copies: those that exist in the later state. -/
def presentExtents (diffs : List Diff) : List (Nat × Nat) :=
  (diffs.filter fun d => d.present).map fun d => (d.offset, d.length)

/-- The state `image_diff` compares from: `from_snap=None` is the image at its creation. -/
def World.baselineObjects (w : World) : Option String → Option Objects
  | none => some .empty
  | some name => w.snapshot name

/-- One step of `copy_delta(…, from_snap, to_snap, nbd_dev)`. A `pread` that returns nothing
ends the extent; the count `pwrite` returns is not looked at; an error in the loop reaches the
`finally` block, whose `fsync` may fail unseen, and one before it leaves the snapshot mapped. -/
def copyStep {g : Geometry} (be : ObjectDiff g) (w : World) (fromSnap : Option String)
    (toSnap : String) (pc : CopyPc) (r : Reply) : World × CopyNext :=
  match pc with
  | .diff =>
      match w.baselineObjects fromSnap, w.snapshot toSnap with
      | some before, some after =>
          if r.ok then
            match presentExtents (be.imageDiff before after) with
            | [] => (w, .returned 0)
            | extents => (w, .goto (.map extents))
          else (w, .raised)
      | _, _ => (w, .raised)
  | .map extents =>
      match w.mapSnap toSnap r with
      | some w' => (w', .goto (.openDevices extents))
      | none => (w.mapFailed toSnap r, .raised)
  | .openDevices extents =>
      (w, if r.ok then .goto (.loop extents 0 0 0) else .raised)
  | .loop extents pos stop total =>
      if pos < stop then
        match w.snapshot toSnap with
        | some img =>
            if r.ok then
              let n := min copyChunk (stop - pos)
              let len := min r.got (min n (g.size - pos))
              if len = 0 then (w, .goto (.loop extents 0 0 total))
              else (w.pwrite g img pos (min r.put len),
                .goto (.loop extents (pos + len) stop (total + len)))
            else (w, .goto (.close none))
        | none => (w, .goto (.close none))
      else
        match extents with
        | [] => (w, .goto (.close (some total)))
        | (off, len) :: rest => (w, .goto (.loop rest off (off + len) total))
  | .close result => (w.fsync r, .goto (.unmap result))
  | .unmap result =>
      (w.unmapSnap toSnap r, match result with | some n => .returned n | none => .raised)

end XcpCephRbd.Blkmirror
