import XcpCephRbd.Lib.Run
import XcpCephRbd.Volume.Changed

/-!
# Guest writes between the steps of volume operations

A guest writes to the base through its tapdisk, which sets in its current log the bit of every block
it writes; where the log has no bit for a block, none is set. `Sys` is the host together with the
operation under way: operations start one after the other, no call fails, and a guest write may come
between any two calls. `sealing` remembers that a snapshot has been created and the tapdisk not been
unpaused since, which is when a write is still logged to the interval before the snapshot.
-/

namespace XcpCephRbd.Volume

open Bitmap (Bytes bit)
open Cbtlog (cbtBlock numBlocks companionName)
open Datapath (SrMeta)

/-- A write of `data` at `off`. -/
def Image.write (img : Image) (off : Nat) (data : Bytes) : Image :=
  { img with content := fun i =>
      if off ≤ i ∧ i < off + data.length then data.getD (i - off) 0 else img.content i }

/-- The blocks that a write of `length` bytes at `off` touches. -/
def touched (off length : Nat) : List Nat :=
  if length = 0 then []
  else List.range' (off / cbtBlock) ((off + length - 1) / cbtBlock + 1 - off / cbtBlock)

/-- Set bits in the log of a companion image. -/
def Image.mark (img : Image) (blocks : List Nat) : Image :=
  { img with log := img.log.map fun log =>
      { log with bitmap := Bitmap.markAll log.bitmap blocks } }

/-- Set bits in a log, where the image exists. -/
def World.mark (w : World) (image : String) (blocks : List Nat) : World :=
  match w.images.lookup image with
  | some img => { w with images := w.images.insert image (img.mark blocks) }
  | none => w

/-- A guest write through the tapdisk of `base`, which is running, not paused, and ends at the end
of the image. -/
def World.guestWrite (w : World) (base : String) (off : Nat) (data : Bytes) : Option World :=
  (w.taps.lookup base).bind fun tap => (w.images.lookup base).bind fun img =>
    if tap.paused || decide (img.size < off + data.length) then none
    else
      let written := { w with images := w.images.insert base (img.write off data) }
      match tap.log with
      | some log => some (written.mark log (touched off data.length))
      | none => some written

/-- The operations that a history is made of. -/
inductive VolOp where
  | snapshot
  | set (snap k v : String)
  | destroy (snap : String)
  | revert (snap : String)
  | resize (newSize : Nat)

/-- The program of an operation on `base`. -/
def VolOp.prog (sr : SrMeta) (base : String) : VolOp → Op Unit
  | .snapshot => do let _ ← Volume.snapshot sr base
  | .set snap k v => Volume.set (snapKey base snap) k v
  | .destroy snap => destroySnap base snap
  | .revert snap => do let _ ← Volume.revert sr (snapKey base snap)
  | .resize newSize => Volume.resize base newSize

/-- The host, and whether a snapshot has been created since the tapdisk was last unpaused. -/
structure Host where
  world : World
  sealing : Bool := false

/-- The history of `sealing`. -/
def sealingAfter (sealing : Bool) : Call → Bool
  | .snapCreate _ _ => true
  | .tapUnpause _ _ => false
  | _ => sealing

/-- The answer to a call and the host after it. -/
def hostHandle (choice : Choice) (h : Host) (c : Call) : Option (Except Exc (Result c) × Host) :=
  (handle choice h.world c).map fun (reply, w) => (reply, ⟨w, sealingAfter h.sealing c⟩)

/-- The call does not fail. -/
def NoFail : Choice → Prop
  | .fail _ => False
  | _ => True

instance (choice : Choice) : Decidable (NoFail choice) :=
  match choice with
  | .fail _ => .isFalse fun h => h
  | .ok | .fresh _ | .diff _ | .tap _ _ _ => .isTrue trivial

/-- The tapdisk that is found is none of another image. -/
def Choice.own : Choice → Bool
  | .tap _ _ _ => false
  | _ => true

/-- The host and the operation under way. -/
structure Sys where
  host : Host
  prog : Op Unit := .ret ()

/-- A step: an operation starts, it makes its next call, or the guest writes. -/
inductive Act where
  | begin (op : VolOp)
  | call (choice : Choice)
  | write (off : Nat) (data : Bytes)

/-- One step of a history without failures. -/
def Sys.step (sr : SrMeta) (base : String) (s : Sys) : Act → Option Sys
  | .begin op => if s.prog.finished then some { s with prog := op.prog sr base } else none
  | .call choice =>
      if NoFail choice then
        (s.prog.next hostHandle choice s.host).map fun (prog, host) => ⟨host, prog⟩
      else none
  | .write off data =>
      (s.host.world.guestWrite base off data).map fun w => { s with host.world := w }

section Writes

variable {w after : World} {base gen : String} {img : Image} {off : Nat} {data : Bytes}

/-- A change of the base leaves the logs alone. -/
@[simp] theorem logBits_insert_base (w : World) (base gen : String) (img : Image) :
    logBits { w with images := w.images.insert base img } base gen = logBits w base gen := by
  simp [logBits, AList.lookup_insert_ne (Cbtlog.companionName_ne base gen)]

/-- The log of a companion that was replaced. -/
@[simp] theorem logBits_insert_self (w : World) (base gen : String) (img : Image) :
    logBits { w with images := w.images.insert (companionName base gen) img } base gen =
      img.log.map Log.bitmap := by
  simp [logBits, AList.lookup_insert]

/-- The logs of the other companions. -/
theorem logBits_insert_ne (w : World) {base gen gen' : String} (img : Image) (h : gen' ≠ gen) :
    logBits { w with images := w.images.insert (companionName base gen) img } base gen' =
      logBits w base gen' := by
  have hne : companionName base gen' ≠ companionName base gen := fun heq =>
    h (Cbtlog.companionName_inj heq)
  simp [logBits, AList.lookup_insert_ne hne]

/-- Marking a companion leaves the base alone. -/
theorem lookup_mark_base (w : World) (base gen : String) (blocks : List Nat) :
    (w.mark (companionName base gen) blocks).images.lookup base = w.images.lookup base := by
  have hne : base ≠ companionName base gen := (Cbtlog.companionName_ne base gen).symm
  unfold World.mark
  split
  · exact AList.lookup_insert_ne hne
  · rfl

/-- Marking a companion sets bits in its log. -/
theorem logBits_mark (w : World) (base gen : String) (blocks : List Nat) :
    logBits (w.mark (companionName base gen) blocks) base gen =
      (logBits w base gen).map (Bitmap.markAll · blocks) := by
  unfold World.mark
  split
  next img himg => simp [logBits, himg, AList.lookup_insert, Image.mark, Function.comp_def]
  next hnone => simp [logBits, hnone]

/-- Marking a companion leaves the other logs alone. -/
theorem logBits_mark_ne (w : World) {base gen gen' : String} (blocks : List Nat) (h : gen' ≠ gen) :
    logBits (w.mark (companionName base gen) blocks) base gen' = logBits w base gen' := by
  unfold World.mark
  split
  · exact logBits_insert_ne w _ h
  · rfl

@[simp] theorem taps_mark (w : World) (image : String) (blocks : List Nat) :
    (w.mark image blocks).taps = w.taps := by
  unfold World.mark
  split <;> rfl

@[simp] theorem mapped_mark (w : World) (image : String) (blocks : List Nat) :
    (w.mark image blocks).mapped = w.mapped := by
  unfold World.mark
  split <;> rfl

/-- The blocks that a write changes are among those it touches. -/
theorem changedBlocks_write {blk : Nat}
    (h : blk ∈ changedBlocks img.disk (img.write off data).disk) :
    blk ∈ touched off data.length := by
  obtain ⟨i, rfl, hne⟩ | ⟨hge, hlt⟩ := h
  · have hin : off ≤ i ∧ i < off + data.length := by
      by_contra hout
      exact hne (by simp [Image.disk, Image.write, hout])
    have hlow : off / cbtBlock ≤ i / cbtBlock := Nat.div_le_div_right hin.1
    have hhigh : i / cbtBlock ≤ (off + data.length - 1) / cbtBlock :=
      Nat.div_le_div_right (by omega)
    rw [touched, if_neg (by omega), List.mem_range'_1]
    omega
  · exact absurd hlt (Nat.not_lt.mpr hge)

/-- A write touches blocks of the disk. -/
theorem lt_of_mem_touched {length size blk : Nat} (h : blk ∈ touched off length)
    (hend : off + length ≤ size) : blk < numBlocks size := by
  unfold touched at h
  split at h
  · cases h
  · have hblk := (List.mem_range'_1.mp h).2
    have hpos : 0 < cbtBlock := by decide
    have hlow : off / cbtBlock ≤ (off + length - 1) / cbtBlock := Nat.div_le_div_right (by omega)
    have hstep : (off + length - 1) / cbtBlock < numBlocks size := by
      rw [numBlocks, Nat.div_lt_iff_lt_mul hpos]
      have hmod := Nat.div_add_mod (size + cbtBlock - 1) cbtBlock
      have hlt := Nat.mod_lt (size + cbtBlock - 1) hpos
      rw [Nat.mul_comm]
      omega
    omega

/-- What a guest write does: the base holds the data, and the log that the tapdisk is on has the
bits of the blocks it touched. -/
theorem guestWrite_spec (hfound : w.images.lookup base = some img)
    (htap : ∀ tap, w.taps.lookup base = some tap → tap.log = some (companionName base gen))
    (h : w.guestWrite base off data = some after) :
    off + data.length ≤ img.size ∧ after.images.lookup base = some (img.write off data) ∧
      after.taps = w.taps ∧ after.mapped = w.mapped ∧
      (logBits after base gen =
        (logBits w base gen).map (Bitmap.markAll · (touched off data.length))) ∧
      ∀ gen', gen' ≠ gen → logBits after base gen' = logBits w base gen' := by
  simp only [World.guestWrite, Option.bind_eq_some_iff] at h
  obtain ⟨tap, htap', img', himg', h⟩ := h
  cases himg'.symm.trans hfound
  rw [htap tap htap', Option.ite_none_left_eq_some] at h
  obtain ⟨hcond, h⟩ := h
  have hend : off + data.length ≤ img.size := by
    simp only [Bool.or_eq_true, decide_eq_true_eq, not_or, Nat.not_lt] at hcond
    exact hcond.2
  cases h
  refine ⟨hend, ?_, taps_mark _ _ _, mapped_mark _ _ _, ?_, fun gen' hne => ?_⟩
  · rw [lookup_mark_base]
    exact AList.lookup_insert _
  · rw [logBits_mark, logBits_insert_base]
  · rw [logBits_mark_ne _ _ hne, logBits_insert_base]

end Writes

end XcpCephRbd.Volume
