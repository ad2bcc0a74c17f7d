import Mathlib.Data.List.Basic
import Mathlib.Tactic.Common

/-!
# The mapped devices of a host

`_iter_devices` and `find_device` of `rbd_sysfs.py`: the volumes that are mapped are read off the
attributes under `/sys/bus/rbd/devices`.
-/

namespace XcpCephRbd.Sysfs

/-- The attributes of a mapped device as `_read` gives them, `none` where one cannot be read. -/
structure Attrs where
  id : Nat
  pool : Option String
  name : Option String
  currentSnap : Option String
  poolNs : Option String
  deriving DecidableEq, Repr

/-- What `_iter_devices` yields of the attributes and `find_device` compares. -/
structure Info where
  pool : Option String
  name : Option String
  snap : Option String
  ns : Option String
  deriving DecidableEq, Repr

/-- The entry of `_iter_devices`. -/
def Attrs.info (a : Attrs) : Info :=
  { pool := a.pool
    name := a.name
    snap := if a.currentSnap = some "-" then none else a.currentSnap
    ns := if a.poolNs = some "" then none else a.poolNs }

/-- A volume as the driver asks for it. -/
structure Vol where
  pool : String
  image : String
  snap : Option String := none
  ns : Option String := none
  deriving DecidableEq, Repr

/-- The entry that `find_device` looks for; `namespace or None`. -/
def Vol.info (vol : Vol) : Info :=
  { pool := some vol.pool
    name := some vol.image
    snap := vol.snap
    ns := if vol.ns = some "" then none else vol.ns }

/-- `DEV_PREFIX + dev_id`. -/
def device (id : Nat) : String := "/dev/rbd" ++ id.repr

/-- The entry at which `find_device` stops. -/
def findEntry (devs : List Attrs) (vol : Vol) : Option Attrs :=
  devs.find? fun a => a.info = vol.info

/-- `find_device(pool, image, snap, namespace)`. -/
def findDevice (devs : List Attrs) (vol : Vol) : Option String :=
  (findEntry devs vol).map fun a => device a.id

/-- The entry that is found is one of the devices and has the volume's attributes. -/
theorem findEntry_spec {devs : List Attrs} {vol : Vol} {a : Attrs}
    (h : findEntry devs vol = some a) : a ∈ devs ∧ a.info = vol.info := by
  refine ⟨List.mem_of_find?_eq_some h, ?_⟩
  have hinfo := List.find?_some h
  simpa using hinfo

end XcpCephRbd.Sysfs
