import XcpCephRbd.Gc.Ops

/-!
# The life of a VDI in the SMAPIv1 driver

`create`, `snapshot`, `clone`, `resize` and `delete` of `CephRBDVDI`, with the records of XAPI's
database that they introduce, update and forget, and the virtual allocation of the SR, which
`_updateStats` maintains by deltas and `scan` computes from the images. Every call is made on an
object of its own, which `load` fills from the database. The session's `sr_ref` is there in all of
them, and a VDI that is deleted is not attached.
-/

namespace XcpCephRbd.Rbdsr.Life

open Volume (BackendError Exc Info)
open Datapath (orDefault)

/-- A VDI record of XAPI's database; `snapshotOf` is the one of its `sm_config`. -/
structure Record where
  size : Nat
  isASnapshot : Bool := false
  readOnly : Bool := false
  snapshotOf : Option String := none
  label : String := ""
  description : String := ""
  cbtEnabled : Bool := false
  deriving DecidableEq, Repr

/-- The calls on the backend and on XAPI. `loadVdi` are the calls of `load`, which are in one
`try`; `dbUpdate` and `setStats` are the `_db_update` of a VDI and of the SR. -/
inductive Call where
  | gc (c : Gc.OpCall)
  | poolStats
  | loadVdi (uuid : String)
  | getByUuid (uuid : String)
  | getCbtEnabled (ref : String)
  | dbIntroduce (uuid : String) (record : Record)
  | dbUpdate (uuid : String) (size : Nat)
  | dbForget (uuid : String)
  | getVirtualAllocation
  | setStats (virtualAllocation physicalSize physicalUtilisation : Nat)

/-- What a call returns. -/
abbrev Call.Result : Call → Type
  | .gc c => c.Result
  | .poolStats => Nat × Nat
  | .loadVdi _ => Option Record
  | .getByUuid _ => String
  | .getCbtEnabled _ => Bool
  | .getVirtualAllocation => Nat
  | _ => Unit

/-- A method of the driver. -/
abbrev Py := Prog Exc Call Call.Result

/-- Make one call. -/
def ask (c : Call) : Py c.Result := Prog.perform c

/-- What is modelled as calls on the backend only. -/
def ofGc {α : Type} : Gc.Op α → Py α
  | .ret value => .ret value
  | .raise error => .raise error
  | .call c resume => .call (.gc c) fun reply => ofGc (resume reply)

/-- A call on the backend. -/
def ceph (c : Gc.OpCall) : Py c.Result := ask (.gc c)

/-- Run the handler on an `RbdBackendError`; other exceptions go through. -/
def exceptBackend {α : Type} (p : Py α) (handler : BackendError → Py α) : Py α :=
  tryCatch p fun
    | .backend error => handler error
    | error => throw error

/-- `util.gen_uuid()`. -/
def genUuid : Py String := ceph (.call .uuid4)

/-- What `CephRBDVDI` holds of a VDI. -/
structure Vdi where
  uuid : String
  size : Nat := 0
  isASnapshot : Bool := false
  parentUuid : Option String := none
  label : String := ""
  description : String := ""
  deriving DecidableEq, Repr

/-- The attributes that `load` sets; where the database has no record the defaults stand. -/
def Vdi.ofRecord (uuid : String) : Option Record → Vdi
  | none => { uuid := uuid }
  | some record =>
      { uuid := uuid
        size := record.size
        isASnapshot := record.isASnapshot
        parentUuid := if record.isASnapshot then record.snapshotOf else none }

/-- `CephRBDVDI.load(vdi_uuid)`. -/
def load (uuid : String) : Py Vdi := do
  let record ← tryCatch (ask (.loadVdi uuid)) fun _ => pure none
  return Vdi.ofRecord uuid record

/-- `_set_stats(virtual_allocation)`. -/
def setStats (virtualAllocation : Nat) : Py Unit := do
  let stats : Nat × Nat ← exceptBackend (ask .poolStats) fun _ => pure (0, 0)
  ask (.setStats virtualAllocation stats.1 stats.2)

/-- `_updateStats(sr_uuid, virtAllocDelta)`. -/
def updateStats (delta : Int) : Py Unit := do
  let va : Nat ← tryCatch (ask .getVirtualAllocation) fun _ => pure 0
  setStats (max 0 (va + delta)).toNat

/-- `CephRBDVDI.create(sr_uuid, vdi_uuid, size)`. -/
def create (features : List String) (vdiUuid : String) (size : Nat) : Py String := do
  exceptBackend (ceph (.call (.create vdiUuid size features))) fun error =>
    throw (.other ("VDICreate: " ++ error.message))
  tryCatch (ask (.dbIntroduce vdiUuid { size := size })) fun error => do
    exceptBackend (ceph (.call (.remove vdiUuid))) fun _ => pure ()
    throw error
  updateStats size
  return vdiUuid

/-- `_purge_snap_quiet(base, snap)`. -/
def purgeSnapQuiet (base snap : String) : Py Unit := do
  exceptBackend (ceph (.call (.snapSetProtected base snap false))) fun _ => pure ()
  exceptBackend (ceph (.call (.snapRemove base snap))) fun _ => pure ()

/-- The record of a new snapshot. -/
def snapRecord (self : Vdi) (cbtEnabled : Bool) : Record :=
  { size := self.size
    isASnapshot := true
    readOnly := true
    snapshotOf := some self.uuid
    label := self.label ++ " (snapshot)"
    description := self.description
    cbtEnabled := cbtEnabled }

/-- `snapshot`'s protected snapshot of the image. -/
def takeSnap (base snap : String) : Py Unit :=
  exceptBackend (do
    ceph (.call (.snapCreate base snap))
    ceph (.call (.snapSetProtected base snap true))) fun error => do
      purgeSnapQuiet base snap
      throw (.other ("VDISnapshot: " ++ error.message))

/-- `snapshot`'s record of the new snapshot. -/
def introduceSnap (self : Vdi) (snap : String) : Py Unit := do
  let _ ← load snap
  let ref : String ← ask (.getByUuid self.uuid)
  let cbt : Bool ← tryCatch (ask (.getCbtEnabled ref)) fun _ => pure false
  tryCatch (ask (.dbIntroduce snap (snapRecord self cbt))) fun error => do
    purgeSnapQuiet self.uuid snap
    throw error

/-- `CephRBDVDI.snapshot(sr_uuid, vdi_uuid)`. -/
def snapshot (self : Vdi) : Py String :=
  if self.isASnapshot then throw (.other "VDISnapshot: cannot snapshot a snapshot")
  else do
    let snap ← genUuid
    takeSnap self.uuid snap
    introduceSnap self snap
    return snap

/-- The clone of a snapshot VDI: its image is the one of its parent; a parent that is not known is
formatted as `None`. -/
def cloneSnap (self : Vdi) (cloneUuid : String) (features : List String) : Py Unit :=
  exceptBackend (ceph (.clone (self.parentUuid.getD "None") self.uuid cloneUuid features))
    fun error =>
    throw (.other ("VDIClone: " ++ error.message))

/-- The clone of a live image through the transient snapshot `snap`. -/
def cloneLive (self : Vdi) (snap cloneUuid : String) (features : List String) : Py Unit :=
  exceptBackend (do
    ceph (.call (.snapCreate self.uuid snap))
    ceph (.call (.snapSetProtected self.uuid snap true))
    ceph (.clone self.uuid snap cloneUuid features)) fun error => do
      purgeSnapQuiet self.uuid snap
      throw (.other ("VDIClone: " ++ error.message))

/-- `clone`'s record of the new image, undone with the image and the transient snapshot. -/
def introduceClone (self : Vdi) (transient : Option String) (cloneUuid : String) : Py Unit := do
  let _ ← load cloneUuid
  tryCatch (ask (.dbIntroduce cloneUuid { size := self.size })) fun error => do
    exceptBackend (ceph (.call (.remove cloneUuid))) fun _ => pure ()
    match transient with
    | some snap => purgeSnapQuiet self.uuid snap
    | none => pure ()
    throw error

/-- `CephRBDVDI.clone(sr_uuid, vdi_uuid)`. -/
def clone (self : Vdi) (features : List String) : Py String := do
  let cloneUuid ← genUuid
  if self.isASnapshot then
    cloneSnap self cloneUuid features
    introduceClone self none cloneUuid
  else
    let uuid ← genUuid
    cloneLive self (Gc.cloneSnapPrefix ++ uuid) cloneUuid features
    introduceClone self (some (Gc.cloneSnapPrefix ++ uuid)) cloneUuid
  updateStats self.size
  return cloneUuid

/-- `CephRBDVDI.resize(sr_uuid, vdi_uuid, size)`. -/
def resize (self : Vdi) (size : Nat) : Py String :=
  if size = self.size then pure self.uuid
  else do
    exceptBackend (ceph (.call (.putImage self.uuid { size := some size }))) fun error =>
      throw (.other ("VDISize: " ++ error.message))
    ask (.dbUpdate self.uuid size)
    updateStats ((size : Int) - self.size)
    return self.uuid

/-- `CephRBDVDI.delete(sr_uuid, vdi_uuid)`. -/
def delete (self : Vdi) : Py Unit := do
  if self.isASnapshot then ofGc (Gc.delete (orDefault self.parentUuid self.uuid) (some self.uuid))
  else ofGc (Gc.delete self.uuid none)
  updateStats (-(self.size : Int))
  ask (.dbForget self.uuid)

/-! ## The cluster and the database -/

/-- The cluster, the records of the SR's VDIs, the SR's virtual allocation and physical figures as
XAPI has them, and the figures of the pool. -/
structure Sys where
  cluster : Gc.Cluster
  db : AList fun _ : String => Record
  allocation : Nat := 0
  physical : Nat × Nat := (0, 0)
  pool : Nat × Nat := (0, 0)

section Answers

variable (shape : Gc.Shape) (sr : Gc.Sr) (oracle : Nat → Gc.Cluster → Gc.OpCall → Gc.OpChoice)

/-- What XAPI says where a record is missing, or there already. -/
def invalid (uuid : String) : Exc := .other ("UUID_INVALID: " ++ uuid)

/-- The answer to a call, at a time: Ceph grants what it can, the host chooses the UUIDs, and the
database does as it is asked. -/
def answer (time : Nat) (st : Sys) : (c : Call) → Option (Except Exc c.Result × Sys)
  | .gc c => (Gc.opAnswer shape sr (oracle time) st.cluster c).map fun (reply, cluster) =>
      (reply, { st with cluster := cluster })
  | .poolStats => some (.ok st.pool, st)
  | .loadVdi uuid => some (.ok (st.db.lookup uuid), st)
  | .getByUuid uuid =>
      if uuid ∈ st.db then some (.ok uuid, st) else some (.error (invalid uuid), st)
  | .getCbtEnabled ref =>
      match st.db.lookup ref with
      | some record => some (.ok record.cbtEnabled, st)
      | none => some (.error (invalid ref), st)
  | .dbIntroduce uuid record =>
      if uuid ∈ st.db then some (.error (invalid uuid), st)
      else some (.ok (), { st with db := st.db.insert uuid record })
  | .dbUpdate uuid size =>
      match st.db.lookup uuid with
      | some record =>
          some (.ok (), { st with db := st.db.insert uuid { record with size := size } })
      | none => some (.error (invalid uuid), st)
  | .dbForget uuid => some (.ok (), { st with db := st.db.erase uuid })
  | .getVirtualAllocation => some (.ok st.allocation, st)
  | .setStats virtualAllocation physicalSize physicalUtilisation =>
      some (.ok (), { st with
        allocation := virtualAllocation, physical := (physicalSize, physicalUtilisation) })

end Answers

end XcpCephRbd.Rbdsr.Life
