import XcpCephRbd.Volume.Ops

/-!
# Changed blocks in the SMAPIv1 driver

`CephRBDVDI.list_changed_blocks` and what it calls: the checks of the two VDIs against XAPI's
database, the snapshot that stands behind each of them, and the bitmap of the diff between the two.
The range of the diff is the virtual size that XAPI has of the target, or the size of the source's
own object where XAPI cannot be asked.
-/

namespace XcpCephRbd.Rbdsr

open Text (truthy)
open Volume (BackendError Extent)

/-- What `CephRBDVDI` holds of a VDI: the attributes that `list_changed_blocks` reads, and the
`snapshot_of` of its `sm_config`. -/
structure Vdi where
  uuid : String
  parentUuid : Option String := none
  snapshotOf : Option String := none
  rbdName : Option String := none
  snapName : Option String := none
  size : Nat := 0
  deriving DecidableEq, Repr

/-- The calls of `list_changed_blocks` on XAPI, on the SR and on the backend. -/
inductive Call where
  | getUuid
  | getCbtEnabled (uuid : String)
  | vdi (uuid : String)
  | getVirtualSize
  | imageDiff (image fromSnap toSnap : String) (offset length : Nat) (wholeObject : Bool)

/-- What a call returns. -/
def Call.Result : Call → Type
  | .getUuid => String
  | .getCbtEnabled _ => Bool
  | .vdi _ => Vdi
  | .getVirtualSize => Nat
  | .imageDiff _ _ _ _ _ _ => List Extent

/-- What is raised: an `XenError`, the backend's error, or anything else. -/
inductive Exc where
  | xenError (key opterr : String)
  | backend (error : BackendError)
  | other (message : String)
  deriving DecidableEq, Repr

/-- A method of the driver. -/
abbrev Py := Prog Exc Call Call.Result

/-- One call. -/
def ask (c : Call) : Py c.Result := Prog.perform c

/-- `_image_name(vdi_uuid)`. -/
def imageName (vdiUuid : String) : String := vdiUuid

/-- `_snap_name(snap_uuid)`. -/
def snapName (snapUuid : String) : String := snapUuid

/-- `a or b` on strings. -/
def orElse (a : Option String) (b : String) : String := if truthy a then a.getD b else b

/-- The snapshot that stands behind a VDI, from the fields of its object or by the naming
convention. -/
def refOf (v : Vdi) (vdiUuid : String) : String × String :=
  let parent := if truthy v.parentUuid then v.parentUuid else v.snapshotOf
  let base := if truthy parent then imageName (parent.getD "") else orElse v.rbdName vdiUuid
  (base, orElse v.snapName (snapName vdiUuid))

/-- `_snap_ref(vdi_uuid)`, of the VDI object that the SR has or makes. -/
def snapRef (vdiUuid : String) : Py (String × String) := do
  let v : Vdi ← ask (.vdi vdiUuid)
  return refOf v vdiUuid

/-- `_get_blocktracking_status(uuid)`. -/
def getBlocktrackingStatus (self : Vdi) (uuid : String) : Py Bool :=
  tryCatch (ask (.getCbtEnabled (if uuid = "" then self.uuid else uuid))) fun _ => pure false

/-- `_changed_bitmap(diffs, offset, length)`, the same helper as the SMAPIv3 driver's. -/
def changedBitmap (diffs : List Extent) (offset length : Nat) : String :=
  Volume.changedBitmap diffs offset length

/-- `XenError('CBTChangedBlocksError', ...)`. -/
def cbtError (opterr : String) : Exc := .xenError "CBTChangedBlocksError" opterr

/-- The diff, with the errors of the backend as those of XAPI. -/
def diffOf (base fromSnap toSnap : String) (size : Nat) : Py (List Extent) :=
  tryCatch (ask (.imageDiff base fromSnap toSnap 0 size true)) fun error =>
    match error with
    | .backend error =>
        if error.notSupported then
          throw (cbtError ("rbd-diff not available on the control plane: " ++ error.message))
        else throw (cbtError error.message)
    | error => throw error

/-- `CephRBDVDI.list_changed_blocks()`; what it returns is the bitmap, which XML-RPC wraps. -/
def listChangedBlocks (self : Vdi) : Py String := do
  let vdiTo : String ← ask .getUuid
  if self.uuid = vdiTo then throw (cbtError "Source and target VDI are same")
  else do
    let trackedFrom ← getBlocktrackingStatus self self.uuid
    let tracked ← if trackedFrom then getBlocktrackingStatus self vdiTo else pure false
    if !tracked then throw (cbtError "CBT is not enabled on both VDIs")
    else do
      let (fromBase, fromSnap) ← snapRef self.uuid
      let (toBase, toSnap) ← snapRef vdiTo
      if fromBase ≠ toBase then throw (cbtError "Source and target VDI are unrelated")
      else do
        let size ← tryCatch (ask .getVirtualSize) fun _ => pure self.size
        let diffs ← diffOf fromBase fromSnap toSnap size
        return changedBitmap diffs 0 size

/-- What XAPI, the SR and the backend answer. -/
structure Env where
  vdiTo : String
  cbtEnabled : String → Bool
  vdi : String → Vdi
  virtualSize : Option Nat
  diff : String → String → String → Nat → Nat → Bool → List Extent

/-- The answer to a call. XAPI may fail to give the virtual size. -/
def Env.answer (env : Env) (s : Unit) : (c : Call) → Option (Except Exc c.Result × Unit)
  | .getUuid => some (.ok env.vdiTo, s)
  | .getCbtEnabled uuid => some (.ok (env.cbtEnabled uuid), s)
  | .vdi uuid => some (.ok (env.vdi uuid), s)
  | .getVirtualSize =>
      match env.virtualSize with
      | some size => some (.ok size, s)
      | none => some (.error (.other "XenAPI.Failure"), s)
  | .imageDiff image fromSnap toSnap offset length wholeObject =>
      some (.ok (env.diff image fromSnap toSnap offset length wholeObject), s)

/-- The size that the diff is asked for. -/
def Env.length (env : Env) (self : Vdi) : Nat := env.virtualSize.getD self.size

section Exec

variable {env : Env} {self : Vdi}

/-- The CBT status of a VDI. -/
theorem exec_getBlocktrackingStatus {uuid : String} (huuid : uuid ≠ "") :
    (getBlocktrackingStatus self uuid).exec env.answer () =
      some (.ok (env.cbtEnabled uuid), ()) := by
  rw [getBlocktrackingStatus, if_neg huuid]
  exact Prog.exec_tryCatch (Prog.exec_perform rfl)

/-- The snapshot behind a VDI. -/
theorem exec_snapRef (uuid : String) :
    (snapRef uuid).exec env.answer () = some (.ok (refOf (env.vdi uuid) uuid), ()) :=
  Prog.exec_bind (Prog.exec_perform rfl)

/-- The size that the diff is asked for. -/
theorem exec_size (self : Vdi) :
    (tryCatch (ask .getVirtualSize) fun _ => pure self.size).exec env.answer () =
      some (.ok (env.length self), ()) := by
  cases hsize : env.virtualSize with
  | some size =>
      have hanswer : env.answer () .getVirtualSize = some (.ok size, ()) := by
        simp only [Env.answer, hsize]
      rw [Env.length, hsize]
      exact Prog.exec_tryCatch (Prog.exec_perform hanswer)
  | none =>
      have hanswer : env.answer () .getVirtualSize =
          some (.error (.other "XenAPI.Failure"), ()) := by
        simp only [Env.answer, hsize]
      rw [Env.length, hsize]
      exact Prog.exec_tryCatch_error (Prog.exec_perform hanswer)

/-- Two snapshots of one image with CBT on: the bitmap is that of the diff up to the virtual
size. -/
theorem exec_listChangedBlocks {base fromSnap toSnap : String} (hne : self.uuid ≠ env.vdiTo)
    (hfrom : env.cbtEnabled self.uuid = true) (hto : env.cbtEnabled env.vdiTo = true)
    (huuid : self.uuid ≠ "") (huuid' : env.vdiTo ≠ "")
    (hrefFrom : refOf (env.vdi self.uuid) self.uuid = (base, fromSnap))
    (hrefTo : refOf (env.vdi env.vdiTo) env.vdiTo = (base, toSnap)) :
    (listChangedBlocks self).exec env.answer () =
      some (.ok (changedBitmap (env.diff base fromSnap toSnap 0 (env.length self) true) 0
        (env.length self)), ()) := by
  refine (Prog.exec_bind (Prog.exec_perform rfl)).trans ?_
  dsimp only
  rw [if_neg hne]
  refine (Prog.exec_bind (exec_getBlocktrackingStatus huuid)).trans ?_
  rw [hfrom]
  refine (Prog.exec_bind (exec_getBlocktrackingStatus huuid')).trans ?_
  rw [hto]
  refine (Prog.exec_bind (exec_snapRef self.uuid)).trans ?_
  rw [hrefFrom]
  refine (Prog.exec_bind (exec_snapRef env.vdiTo)).trans ?_
  rw [hrefTo]
  dsimp only
  rw [if_neg (not_not_intro rfl)]
  refine (Prog.exec_bind (exec_size self)).trans ?_
  exact Prog.exec_bind (Prog.exec_tryCatch (Prog.exec_perform rfl))

end Exec

end XcpCephRbd.Rbdsr
