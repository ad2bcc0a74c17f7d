import Mathlib.Data.List.Sort
import XcpCephRbd.Volume.Cluster

/-!
# Changed-block logs on companion images

`cbtlog.py`: the names and sizes of the companion images, the keys under which the base's image-meta
records the live log and the logs sealed to snapshots, the life cycle of a companion, the rotation
that a snapshot makes, and the bitmap that `list_changed_blocks` returns on the tapdisk route.
-/

namespace XcpCephRbd.Volume

open Bitmap (Bytes)
open Text (startsWith dropPrefix truthy)

/-- Make one call. -/
abbrev perform (c : Call) : Op (Result c) := Prog.perform c

/-- Run the handler on an `RbdBackendError`; other exceptions go through. -/
def exceptBackend {α : Type} (p : Op α) (handler : BackendError → Op α) : Op α :=
  tryCatch p fun
    | .backend error => handler error
    | error => throw error

/-- Run the handler on any exception. -/
def exceptAny {α : Type} (p handler : Op α) : Op α := tryCatch p fun _ => handler

/-- Run the handler on a `CalledProcessError`. -/
def exceptCalled {α : Type} (p handler : Op α) : Op α :=
  tryCatch p fun
    | .calledProcess _ => handler
    | error => throw error

/-- `try: p finally: cleanup`. -/
def finallyDo {α : Type} (p : Op α) (cleanup : Op Unit) : Op α := do
  let result ← tryCatch p fun error => do cleanup; throw error
  cleanup
  return result

namespace Cbtlog

/-- `CBT_BLOCK`: the granularity of changed-block tracking. -/
def cbtBlock : Nat := 65536

/-- `COMPANION_PREFIX`. -/
def companionPrefix : String := "cbtlog."

/-- `K_ENABLED`. -/
def kEnabled : String := "cbt.enabled"

/-- `K_MODE`. -/
def kMode : String := "cbt.mode"

/-- `K_LIVE`. -/
def kLive : String := "cbt.live"

/-- `_SNAP_PREFIX`. -/
def snapPrefix : String := "cbt.snap."

/-- `MODE_TAPDISK`. -/
def modeTapdisk : String := "tapdisk"

/-- `companion_name(base, gen)`. -/
def companionName (base gen : String) : String := companionPrefix ++ base ++ "." ++ gen

/-- Companions of one base have names of their own. -/
theorem companionName_inj {base gen gen' : String}
    (h : companionName base gen = companionName base gen') : gen = gen' := by
  have hlist := congrArg String.toList h
  simp only [companionName, String.toList_append, List.append_cancel_left_eq] at hlist
  exact String.toList_inj.mp hlist

/-- The name of a companion of `base` is longer than the name of `base`. -/
theorem companionName_ne (base gen : String) : companionName base gen ≠ base := by
  intro h
  have hlen := congrArg (fun name => name.toList.length) h
  have hprefix : companionPrefix.toList.length = 7 := rfl
  simp only [companionName, String.toList_append, List.length_append, hprefix] at hlen
  omega

/-- `num_blocks(size)`. -/
def numBlocks (size : Nat) : Nat := (size + cbtBlock - 1) / cbtBlock

/-- `_bitmap_bytes(size)`. -/
def bitmapBytes (size : Nat) : Nat := (numBlocks size + 7) / 8

/-- `companion_size(size)`: header and bitmap, aligned to 4 KiB. -/
def companionSize (size : Nat) : Nat := (64 + bitmapBytes size + 4095) / 4096 * 4096

/-- `is_enabled(meta)`. -/
def isEnabled (metadata : Dict) : Bool := truthy (metadata.lookup kEnabled)

/-- `is_tapdisk(meta)`. -/
def isTapdisk (metadata : Dict) : Bool :=
  isEnabled metadata && metadata.lookup kMode == some modeTapdisk

/-- `live_gen(meta)`. -/
def liveGen (metadata : Dict) : Option String := metadata.lookup kLive

/-- `snap_key(snap)`. -/
def snapKey (snap : String) : String := snapPrefix ++ snap

/-- `sealed_gen(meta, snap)`. -/
def sealedGen (metadata : Dict) (snap : String) : Option String := metadata.lookup (snapKey snap)

/-- `_unmap(pool, ns, image)`. -/
def unmap (image : String) : Op Unit := exceptAny (perform (.unmap image)) (pure ())

/-- `create_companion(be, dconf, pool, ns, base, size)`. -/
def createCompanion (base : String) (size : Nat) : Op String := do
  let gen : String ← perform .gen
  let name := companionName base gen
  perform (.create name (companionSize size) ["layering"])
  perform (.map name)
  finallyDo (do
    perform (.cbtCreate name (numBlocks size))
    perform (.cbtSet name size)) (unmap name)
  return gen

/-- `remove_companion(be, dconf, pool, ns, base, gen)`. -/
def removeCompanion (base gen : String) : Op Unit :=
  if gen = "" then pure ()
  else do
    unmap (companionName base gen)
    exceptAny (perform (.remove (companionName base gen))) (pure ())

/-- `remove_all_companions(be, dconf, pool, ns, base, meta)`. -/
def removeAllCompanions (base : String) (metadata : Dict) : Op Unit :=
  (metadata.entries.filter fun entry => entry.1 == kLive || startsWith entry.1 snapPrefix).forM
    fun entry => removeCompanion base entry.2

/-- Pause the tapdisk of `target` and unpause it on the log of generation `gen` of `base`. -/
def relog (target base gen : String) : Op Unit := do
  perform (.map (companionName base gen))
  perform (.tapPause target)
  perform (.tapUnpause target (companionName base gen))

/-- `_tap_find(data_dev)`: where `tap-ctl list` exits with an error, no tapdisk is found. -/
def tapFind (base : String) : Op (Option String) :=
  exceptCalled (perform (.tapFind base)) (pure none)

/-- The tapdisk that is taken for the one of `base`, if the device of `base` is found. -/
def tapRunning (base : String) : Op (Option String) := do
  let mapped : Bool ← perform (.findDevice base)
  if mapped then tapFind base else pure none

/-- `inject_running(dconf, pool, ns, base, gen)`. -/
def injectRunning (base gen : String) : Op Bool := do
  match ← tapRunning base with
  | some target =>
      relog target base gen
      return true
  | none => return false

/-- The rotation's live swap of a running tapdisk to the new log. -/
def swapLog (base : String) (oldGen : Option String) (newGen : String) : Op Unit := do
  match ← tapRunning base with
  | some target =>
      relog target base newGen
      match oldGen with
      | some gen => if gen = "" then pure () else unmap (companionName base gen)
      | none => pure ()
  | none => pure ()

/-- `rotate(be, dconf, pool, ns, base, snap_uuid, meta, size)`: the metadata updates to persist. -/
def rotate (base snap : String) (metadata : Dict) (size : Nat) :
    Op (List (String × Option String)) := do
  let oldGen := liveGen metadata
  let newGen ← createCompanion base size
  swapLog base oldGen newGen
  return [(snapKey snap, oldGen), (kLive, some newGen)]

/-- `_snap_time(meta, snap)`. -/
def snapTime (metadata : Dict) (snap : Option String) : String :=
  match snap with
  | some snap =>
      if snap = "" then ""
      else (metadata.lookup ("snap." ++ snap ++ ".k.snapshot_time")).getD ""
  | none => ""

/-- A sealed log: the time and the name of its snapshot, and its generation. -/
structure Sealed where
  time : String
  snap : String
  gen : String
  deriving DecidableEq, Repr

/-- The order in which Python sorts the triples. -/
def Sealed.le (a b : Sealed) : Prop :=
  a.time < b.time ∨ (a.time = b.time ∧
    (a.snap < b.snap ∨ (a.snap = b.snap ∧ (a.gen < b.gen ∨ a.gen = b.gen))))

instance : DecidableRel Sealed.le := fun _ _ => inferInstanceAs (Decidable (_ ∨ _))

/-- The sealed logs that the metadata records. -/
def sealedLogs (metadata : Dict) : List Sealed :=
  metadata.entries.filterMap fun entry =>
    if startsWith entry.1 snapPrefix then
      let snap := dropPrefix entry.1 snapPrefix
      some { time := snapTime metadata (some snap), snap := snap, gen := entry.2 }
    else none

/-- `gens_between(meta, from_snap, to_snap)`. -/
def gensBetween (metadata : Dict) (fromSnap toSnap : Option String) : List String :=
  let fromTime := snapTime metadata fromSnap
  let inRange (s : Sealed) : Bool :=
    decide (fromTime < s.time) &&
      (!truthy toSnap || !decide (snapTime metadata toSnap < s.time)) && s.gen != ""
  let gens := (((sealedLogs metadata).insertionSort Sealed.le).filter inRange).map Sealed.gen
  match toSnap, liveGen metadata with
  | none, some gen => if gen = "" then gens else gens ++ [gen]
  | _, _ => gens

/-- `read_bitmap(dconf, pool, ns, base, gen)`. -/
def readBitmap (base gen : String) : Op Bytes := do
  perform (.map (companionName base gen))
  finallyDo (perform (.cbtGet (companionName base gen))) (unmap (companionName base gen))

/-- The logs of the generations in their order; one that cannot be read is left out. -/
def readBitmaps (base : String) : List String → Op (List Bytes)
  | [] => pure []
  | gen :: gens => do
      let bitmap ← exceptAny (some <$> readBitmap base gen) (pure none)
      let rest ← readBitmaps base gens
      return bitmap.toList ++ rest

/-- The bits of the blocks of `[off, off + length)`, from the union of the logs of a disk of `size`
bytes. -/
def coalesce (bitmaps : List Bytes) (off length size : Nat) : Bytes :=
  let nblk := numBlocks size
  let acc := Bitmap.unionAll (Bitmap.zeros ((nblk + 7) / 8)) bitmaps
  let b0 := off / cbtBlock
  let b1 := (off + length + cbtBlock - 1) / cbtBlock
  let changed := (List.range' b0 (min b1 nblk - b0)).filter fun b => Bitmap.bit acc b
  Bitmap.markAll (Bitmap.zeros ((b1 - b0 + 7) / 8)) (changed.map (· - b0))

/-- `changed_bitmap(dconf, pool, ns, base, meta, from_snap, to_snap, offset, length, size)`. -/
def changedBitmap (base : String) (metadata : Dict) (fromSnap toSnap : Option String)
    (off length size : Nat) : Op String := do
  let bitmaps ← readBitmaps base (gensBetween metadata fromSnap toSnap)
  return Base64.encode (coalesce bitmaps off length size)

end Cbtlog

end XcpCephRbd.Volume
