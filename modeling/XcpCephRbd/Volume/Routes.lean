import XcpCephRbd.Volume.RbdDiff

/-!
# The bitmaps of the two routes

`rbdvol_lib.changed_bitmap`, which draws the extents of a diff, and `cbtlog.changed_bitmap`, which
cuts a range out of the logs. The first is exact with respect to its extents over every range. The
second counts its blocks from the start of the disk where the first counts from the offset, so that
the two say the same only where no block border of the one falls between two of the other.
-/

namespace XcpCephRbd.Volume.Routes

open Bitmap (Bytes bit)
open Cbtlog (cbtBlock coalesce numBlocks)
open RbdDiff (Covers)

section Extents

variable {d : Extent} {diffs : List Extent} {offset length blk : Nat}

/-- The extent has a byte of the block `blk`, counted from `offset`, within the range. -/
def Touches (offset length blk : Nat) (d : Extent) : Prop :=
  d.present = true ∧ ∃ i, Covers d i ∧ offset + cbtBlock * blk ≤ i ∧
    i < offset + cbtBlock * (blk + 1) ∧ i < offset + length

/-- The blocks that an extent marks are those it touches. -/
theorem mem_extentBlocks_iff :
    blk ∈ extentBlocks offset length cbtBlock d ↔ Touches offset length blk d := by
  simp only [extentBlocks, Touches, Covers, cbtBlock]
  cases hpresent : d.present with
  | false => simp
  | true =>
      by_cases hempty : min (d.offset + d.length) (offset + length) ≤ max d.offset offset
      · simp only [Bool.not_true, Bool.false_or, decide_eq_true_eq, if_pos hempty, List.not_mem_nil,
          true_and, false_iff]
        rintro ⟨i, ⟨hle, hend⟩, hfirst, hlast, hlt⟩
        omega
      · simp only [Bool.not_true, Bool.false_or, decide_eq_true_eq, if_neg hempty,
          List.mem_range'_1, true_and]
        constructor
        · intro hblk
          -- the first byte of the extent in the block
          refine ⟨max (max d.offset offset) (offset + 65536 * blk), ⟨?_, ?_⟩, ?_, ?_, ?_⟩ <;> omega
        · rintro ⟨i, ⟨hle, hend⟩, hfirst, hlast, hlt⟩
          omega

/-- A block that is touched lies below the number of blocks. -/
theorem Touches.lt (h : Touches offset length blk d) :
    blk < (length + cbtBlock - 1) / cbtBlock := by
  obtain ⟨-, i, -, hfirst, -, hlt⟩ := h
  simp only [cbtBlock] at hfirst ⊢
  omega

/-- The bits after the extents. -/
theorem bit_foldl (bits : Bytes) :
    bit (diffs.foldl (fun bits d => Bitmap.markAll bits (extentBlocks offset length cbtBlock d))
        bits) blk = true ↔
      bit bits blk = true ∨ (∃ d ∈ diffs, Touches offset length blk d) ∧ blk / 8 < bits.length := by
  induction diffs generalizing bits with
  | nil => simp
  | cons d rest ih =>
      rw [List.foldl_cons, ih, Bitmap.bit_markAll, Bitmap.length_markAll]
      simp only [Bool.or_eq_true, decide_eq_true_eq, List.mem_cons, exists_eq_or_imp,
        mem_extentBlocks_iff]
      tauto

end Extents

/-! ## The bitmap of a diff -/

/-- An index beyond the end of a `bytearray`. -/
inductive IndexError where
  | indexError
  deriving DecidableEq, Repr

/-- `bits[b // 8] |= 0x80 >> (b % 8)`. -/
def orBit (bits : Bytes) (b : Nat) : Except IndexError Bytes :=
  if b / 8 < bits.length then .ok (Bitmap.mark bits b) else .error .indexError

/-- The body of the loop over the extents. -/
def drawExtent (offset length block : Nat) (bits : Bytes) (d : Extent) :
    Except IndexError Bytes :=
  if !d.present then .ok bits
  else
    let s := max d.offset offset
    let e := min (d.offset + d.length) (offset + length)
    if e ≤ s then .ok bits
    else
      (List.range' ((s - offset) / block)
        ((e - 1 - offset) / block + 1 - (s - offset) / block)).foldlM orBit bits

/-- The function that both drivers have, statement by statement. -/
def drawBitmap (block : Nat) (diffs : List Extent) (offset length : Nat) :
    Except IndexError String := do
  let nblocks := (length + block - 1) / block
  let bits ← diffs.foldlM (drawExtent offset length block) (Bitmap.zeros ((nblocks + 7) / 8))
  return Base64.encode bits

/-- `rbdvol_lib.changed_bitmap(diffs, offset, length)`, as its loops run. -/
def rbdvolChangedBitmap (diffs : List Extent) (offset length : Nat) : Except IndexError String :=
  drawBitmap cbtBlock diffs offset length

/-- `RBDSR._changed_bitmap(diffs, offset, length)`, as its loops run; its `CBT_BLOCK` is the
same. -/
def rbdsrChangedBitmap (diffs : List Extent) (offset length : Nat) : Except IndexError String :=
  drawBitmap 65536 diffs offset length

section Draw

variable {offset length : Nat} {bits : Bytes}

/-- Bits that exist are set without an error. -/
theorem foldlM_orBit {bs : List Nat} (h : ∀ b ∈ bs, b / 8 < bits.length) :
    bs.foldlM orBit bits = .ok (Bitmap.markAll bits bs) := by
  induction bs generalizing bits with
  | nil => rfl
  | cons b rest ih =>
      have hfirst : orBit bits b = .ok (Bitmap.mark bits b) :=
        if_pos (h b List.mem_cons_self)
      rw [List.foldlM_cons, hfirst]
      refine ih fun c hc => ?_
      rw [Bitmap.length_mark]
      exact h c (List.mem_cons_of_mem _ hc)

/-- One extent is drawn without an error, in the blocks that it touches. -/
theorem drawExtent_eq (d : Extent) (hbits : ((length + cbtBlock - 1) / cbtBlock + 7) / 8 =
    bits.length) : drawExtent offset length cbtBlock bits d =
      .ok (Bitmap.markAll bits (extentBlocks offset length cbtBlock d)) := by
  have hbound : ∀ b ∈ extentBlocks offset length cbtBlock d, b / 8 < bits.length := by
    intro b hb
    have hlt := (mem_extentBlocks_iff.mp hb).lt
    omega
  unfold drawExtent
  unfold extentBlocks at hbound ⊢
  cases hpresent : d.present with
  | false => simp [Bitmap.markAll]
  | true =>
      simp only [hpresent, Bool.not_true, Bool.false_eq_true, if_false, Bool.false_or,
        decide_eq_true_eq] at hbound ⊢
      split at hbound
      · rename_i hempty
        rw [if_pos hempty, if_pos hempty]
        rfl
      · rename_i hsome
        rw [if_neg hsome, if_neg hsome]
        exact foldlM_orBit hbound

/-- All extents are drawn without an error. -/
theorem drawBitmap_eq (diffs : List Extent) (offset length : Nat) :
    drawBitmap cbtBlock diffs offset length = .ok (changedBitmap diffs offset length) := by
  have hfold : ∀ (diffs : List Extent) (bits : Bytes),
      ((length + cbtBlock - 1) / cbtBlock + 7) / 8 = bits.length →
      diffs.foldlM (drawExtent offset length cbtBlock) bits =
        .ok (diffs.foldl (fun bits d =>
          Bitmap.markAll bits (extentBlocks offset length cbtBlock d)) bits) := by
    intro diffs
    induction diffs with
    | nil => exact fun _ _ => rfl
    | cons d rest ih =>
        intro bits hbits
        rw [List.foldlM_cons, drawExtent_eq d hbits]
        exact ih _ (by rw [Bitmap.length_markAll, hbits])
  unfold drawBitmap
  dsimp only
  rw [hfold diffs _ (Bitmap.length_zeros _).symm]
  rfl

end Draw

/-- The length of the bitmap of a diff. -/
theorem length_changedBitmap (diffs : List Extent) (offset length : Nat) :
    (Base64.decode (changedBitmap diffs offset length)).length =
      ((length + cbtBlock - 1) / cbtBlock + 7) / 8 := by
  have hfold : ∀ (diffs : List Extent) (bits : Bytes),
      (diffs.foldl (fun bits d => Bitmap.markAll bits (extentBlocks offset length cbtBlock d))
        bits).length = bits.length := by
    intro diffs
    induction diffs with
    | nil => exact fun _ => rfl
    | cons d rest ih =>
        intro bits
        rw [List.foldl_cons, ih, Bitmap.length_markAll]
  rw [changedBitmap, Base64.decode_encode, hfold, Bitmap.length_zeros]

/-- The bits of the bitmap of a diff: the blocks that its extents touch. -/
theorem bit_changedBitmap_iff {diffs : List Extent} {offset length b : Nat} :
    bit (Base64.decode (changedBitmap diffs offset length)) b = true ↔
      ∃ d ∈ diffs, Touches offset length b d := by
  rw [changedBitmap, Base64.decode_encode, bit_foldl, Bitmap.bit_zeros, Bitmap.length_zeros]
  constructor
  · rintro (h | ⟨h, -⟩)
    · cases h
    · exact h
  · rintro ⟨d, hd, htouches⟩
    have hlt := htouches.lt
    exact .inr ⟨⟨d, hd, htouches⟩, by omega⟩

/-- **The bitmap of a diff is exact.** Over every range and for all extents, in any order and
wherever they lie, both drivers draw the same bitmap without an index out of bounds; it has a bit
for every block of the range and is filled up to whole bytes; a bit is set exactly if an extent that
exists has a byte in its block and in the range; and no bit of the filling is set. -/
theorem changed_bitmap_exact (diffs : List Extent) (offset length : Nat) :
    rbdvolChangedBitmap diffs offset length = .ok (changedBitmap diffs offset length) ∧
      rbdsrChangedBitmap diffs offset length = .ok (changedBitmap diffs offset length) ∧
      Rbdsr.changedBitmap diffs offset length = changedBitmap diffs offset length ∧
      (Base64.decode (changedBitmap diffs offset length)).length =
        ((length + 65535) / 65536 + 7) / 8 ∧
      (∀ b, bit (Base64.decode (changedBitmap diffs offset length)) b = true ↔
        ∃ d ∈ diffs, d.present = true ∧ ∃ i, d.offset ≤ i ∧ i < d.offset + d.length ∧
          offset + 65536 * b ≤ i ∧ i < offset + 65536 * (b + 1) ∧ i < offset + length) ∧
      ∀ b, (length + 65535) / 65536 ≤ b →
        bit (Base64.decode (changedBitmap diffs offset length)) b = false := by
  refine ⟨drawBitmap_eq diffs offset length, drawBitmap_eq diffs offset length, rfl,
    length_changedBitmap diffs offset length, fun b => ?_, fun b hb => ?_⟩
  · rw [bit_changedBitmap_iff]
    simp only [Touches, Covers, cbtBlock, and_assoc]
  · rw [Bool.eq_false_iff]
    intro hbit
    obtain ⟨d, -, htouches⟩ := bit_changedBitmap_iff.mp hbit
    have hlt : b < (length + 65535) / 65536 := htouches.lt
    omega

/-! ## The bitmap of a log -/

section Log

variable {size off ln j : Nat} {log : Bytes}

/-- A byte that some extent has. -/
def ChangedAt (extents : List Extent) (i : Nat) : Prop := ∃ d ∈ extents, Covers d i

/-- The bits of the log are exactly the blocks of the disk that the extents touch. -/
def IsLog (size : Nat) (extents : List Extent) (log : Bytes) : Prop :=
  ∀ blk, blk < numBlocks size →
    (bit log blk = true ↔ ∃ i, i / cbtBlock = blk ∧ ChangedAt extents i)

/-- The log of a disk on which one byte changed. -/
def byteLog (size i : Nat) : Bytes :=
  Bitmap.mark (Bitmap.zeros ((numBlocks size + 7) / 8)) (i / cbtBlock)

/-- The bits that are cut out of a log. -/
theorem bit_coalesce_iff :
    bit (coalesce [log] off ln size) j = true ↔
      off / cbtBlock + j < (off + ln + cbtBlock - 1) / cbtBlock ∧
        off / cbtBlock + j < numBlocks size ∧ bit log (off / cbtBlock + j) = true := by
  simp only [coalesce, Bitmap.bit_markAll, Bitmap.bit_zeros, Bitmap.length_zeros, Bool.false_or,
    decide_eq_true_eq, List.mem_map, List.mem_filter, List.mem_range'_1, Bitmap.bit_unionAll,
    Bool.false_eq_true, false_or, List.mem_singleton, exists_eq_left]
  constructor
  · rintro ⟨⟨b, ⟨⟨hfirst, hlast⟩, hbit, -⟩, rfl⟩, -⟩
    have hb : off / cbtBlock + (b - off / cbtBlock) = b := by omega
    rw [hb]
    exact ⟨by omega, by omega, hbit⟩
  · rintro ⟨hend, hsize, hbit⟩
    refine ⟨⟨off / cbtBlock + j, ⟨⟨by omega, by omega⟩, hbit, by omega⟩, by omega⟩, by omega⟩

theorem length_coalesce (bitmaps : List Bytes) :
    (coalesce bitmaps off ln size).length =
      ((off + ln + cbtBlock - 1) / cbtBlock - off / cbtBlock + 7) / 8 := by
  simp [coalesce]

theorem isLog_byteLog {i : Nat} (h : i < size) :
    IsLog size [{ offset := i, length := 1, present := true }] (byteLog size i) := by
  intro blk hblk
  simp only [byteLog, Bitmap.bit_mark, Bitmap.bit_zeros, Bitmap.length_zeros, Bool.false_or,
    decide_eq_true_eq, ChangedAt, Covers, List.mem_singleton, exists_eq_left]
  constructor
  · rintro ⟨hi, -⟩
    exact ⟨i, hi, Nat.le_refl i, Nat.lt_succ_self i⟩
  · rintro ⟨k, hk, hle, hlt⟩
    obtain rfl : k = i := by omega
    refine ⟨hk, ?_⟩
    simp only [numBlocks, cbtBlock] at hblk ⊢
    omega

end Log

/-- Bit `j` of the bitmap cut out of a log describes the byte `i`: it is set where that byte is the
one that changed. -/
def LogDescribes (size off ln j i : Nat) : Prop :=
  bit (coalesce [byteLog size i] off ln size) j = true

/-- Bit `j` of the bitmap of a diff describes the byte `i`. -/
def DiffDescribes (off ln j i : Nat) : Prop :=
  bit (Base64.decode (changedBitmap [{ offset := i, length := 1, present := true }] off ln))
    j = true

/-- The two bitmaps say the same of the range `[off, off + ln)`: they are of one length, a bit
describes the same bytes of the range in both, and every changed byte of the range has its bit set
in both. -/
structure Agree (size off ln : Nat) (extents : List Extent) (fromLog fromDiff : String) : Prop where
  length : (Base64.decode fromLog).length = (Base64.decode fromDiff).length
  meaning : ∀ i, off ≤ i → i < off + ln →
    ∀ j, LogDescribes size off ln j i ↔ DiffDescribes off ln j i
  covered : ∀ i, off ≤ i → i < off + ln → ChangedAt extents i →
    (∃ j, LogDescribes size off ln j i ∧ bit (Base64.decode fromLog) j = true) ∧
      ∃ j, DiffDescribes off ln j i ∧ bit (Base64.decode fromDiff) j = true

section Agree

variable {size off ln i j : Nat}

/-- The bit of a log that describes a byte of the range: its block, from the block of the offset. -/
theorem logDescribes_iff (hfirst : off ≤ i) (hlast : i < off + ln) (hsize : off + ln ≤ size) :
    LogDescribes size off ln j i ↔ j = i / cbtBlock - off / cbtBlock := by
  have hlog : IsLog size [{ offset := i, length := 1, present := true }] (byteLog size i) :=
    isLog_byteLog (by omega)
  have hle : off / cbtBlock ≤ i / cbtBlock := Nat.div_le_div_right hfirst
  rw [LogDescribes, bit_coalesce_iff]
  constructor
  · rintro ⟨-, hblk, hbit⟩
    obtain ⟨k, hk, d, hd, hcovers⟩ := (hlog _ hblk).mp hbit
    rw [List.mem_singleton.mp hd] at hcovers
    obtain rfl : k = i := by
      simp only [Covers] at hcovers
      omega
    omega
  · rintro rfl
    have hblk : off / cbtBlock + (i / cbtBlock - off / cbtBlock) = i / cbtBlock := by omega
    rw [hblk]
    have hlt : i / cbtBlock < numBlocks size := by
      simp only [numBlocks, cbtBlock]
      omega
    refine ⟨?_, hlt, (hlog _ hlt).mpr ⟨i, rfl, _, List.mem_cons_self, ?_⟩⟩
    · simp only [cbtBlock]
      omega
    · exact ⟨Nat.le_refl i, Nat.lt_succ_self i⟩

/-- The bit of a diff that describes a byte of the range: its block, counted from the offset. -/
theorem diffDescribes_iff (hfirst : off ≤ i) (hlast : i < off + ln) :
    DiffDescribes off ln j i ↔ j = (i - off) / cbtBlock := by
  rw [DiffDescribes, bit_changedBitmap_iff]
  simp only [List.mem_singleton, exists_eq_left, Touches, Covers, true_and, cbtBlock]
  constructor
  · rintro ⟨k, hcovers, hle, hlt, -⟩
    omega
  · rintro rfl
    exact ⟨i, ⟨Nat.le_refl i, Nat.lt_succ_self i⟩, by omega, by omega, hlast⟩

/-- The offset is on a block border, or the range is not empty and within one block. -/
def SameBlocks (off ln : Nat) : Prop :=
  off % cbtBlock = 0 ∨ 0 < ln ∧ off % cbtBlock + ln ≤ cbtBlock

instance (off ln : Nat) : Decidable (SameBlocks off ln) := inferInstanceAs (Decidable (_ ∨ _))

/-- Where the blocks are the same, so is the number of each byte's block. -/
theorem SameBlocks.div_eq (h : SameBlocks off ln) (hfirst : off ≤ i) (hlast : i < off + ln) :
    i / cbtBlock - off / cbtBlock = (i - off) / cbtBlock := by
  simp only [SameBlocks, cbtBlock] at h ⊢
  omega

theorem SameBlocks.count_eq (h : SameBlocks off ln) :
    (off + ln + cbtBlock - 1) / cbtBlock - off / cbtBlock = (ln + cbtBlock - 1) / cbtBlock := by
  simp only [SameBlocks, cbtBlock] at h ⊢
  omega

/-- Bitmaps of one length that describe the same bytes have the same blocks. -/
theorem sameBlocks_of_agree (hempty : ln = 0 →
      ((off + ln + cbtBlock - 1) / cbtBlock - off / cbtBlock + 7) / 8 =
        ((ln + cbtBlock - 1) / cbtBlock + 7) / 8)
    (hmeaning : ∀ i, off ≤ i → i < off + ln →
      i / cbtBlock - off / cbtBlock = (i - off) / cbtBlock) : SameBlocks off ln := by
  simp only [SameBlocks, cbtBlock] at hempty hmeaning ⊢
  by_cases hln : ln = 0
  · have hlen := hempty hln
    omega
  · -- the first byte of the next block of the disk
    have hnext := hmeaning (off + (65536 - off % 65536)) (by omega)
    omega

theorem clampLength_le {size off : Nat} {length : Int} (h : off ≤ size) :
    off + clampLength size off length ≤ size := by
  unfold clampLength
  dsimp only
  split <;> omega

/-- `cbtlog.changed_bitmap` over one log. -/
theorem exec_changedBitmap {w : World} {base gen : String} {metadata : Dict}
    {fromSnap toSnap : Option String} {log : Bytes}
    (hgens : Cbtlog.gensBetween metadata fromSnap toSnap = [gen])
    (hlog : logBits w base gen = some log) (off ln size : Nat) :
    ∃ after, (Cbtlog.changedBitmap base metadata fromSnap toSnap off ln size).exec (handle .ok) w =
      some (.ok (Base64.encode (coalesce [log] off ln size)), after) := by
  have hlogs : ∀ gen' ∈ [gen], (logBits w base gen').isSome := by simp [hlog]
  obtain ⟨after, hread⟩ := exec_readBitmaps hlogs
  refine ⟨after, ?_⟩
  rw [Cbtlog.changedBitmap, hgens]
  refine (Prog.exec_bind hread).trans ?_
  simp [hlog, Prog.exec]

/-- The bitmaps of a log and of a diff agree exactly where they have the same blocks. -/
theorem agree_coalesce_iff {log : Bytes} {extents : List Extent} (hsize : off + ln ≤ size)
    (hpresent : ∀ d ∈ extents, d.present = true) (hlog : IsLog size extents log) :
    Agree size off ln extents (Base64.encode (coalesce [log] off ln size))
        (changedBitmap extents off ln) ↔ SameBlocks off ln := by
  constructor
  · intro hagree
    refine sameBlocks_of_agree (fun _ => ?_) fun i hfirst hlast => ?_
    · have hlength := hagree.length
      rwa [Base64.decode_encode, length_coalesce, length_changedBitmap] at hlength
    · have hdescribes := (hagree.meaning i hfirst hlast _).mp
        ((logDescribes_iff hfirst hlast hsize).mpr rfl)
      exact (diffDescribes_iff hfirst hlast).mp hdescribes
  · intro hsame
    refine ⟨?_, fun i hfirst hlast j => ?_, fun i hfirst hlast hchanged => ⟨?_, ?_⟩⟩
    · rw [Base64.decode_encode, length_coalesce, length_changedBitmap, hsame.count_eq]
    · rw [logDescribes_iff hfirst hlast hsize, diffDescribes_iff hfirst hlast,
        hsame.div_eq hfirst hlast]
    · refine ⟨_, (logDescribes_iff hfirst hlast hsize).mpr rfl, ?_⟩
      rw [Base64.decode_encode, bit_coalesce_iff]
      have hblk : off / cbtBlock + (i / cbtBlock - off / cbtBlock) = i / cbtBlock := by
        have hle : off / cbtBlock ≤ i / cbtBlock := Nat.div_le_div_right hfirst
        omega
      have hlt : i / cbtBlock < numBlocks size := by
        simp only [numBlocks, cbtBlock]
        omega
      rw [hblk]
      refine ⟨?_, hlt, (hlog _ hlt).mpr ⟨i, rfl, hchanged⟩⟩
      simp only [cbtBlock]
      omega
    · refine ⟨_, (diffDescribes_iff hfirst hlast).mpr rfl, ?_⟩
      obtain ⟨d, hd, hcovers⟩ := hchanged
      refine bit_changedBitmap_iff.mpr ⟨d, hd, hpresent d hd, i, hcovers, ?_, ?_, hlast⟩
      · simp only [cbtBlock]
        omega
      · simp only [cbtBlock]
        omega

/-- **The two routes.** For all extents on a disk, every offset up to its size and every length, and
one log whose bits are the blocks that the extents touch: the tapdisk route returns a bitmap, and it
agrees with that of the rbd-diff route if and only if the offset is on a block border or the range,
as it was clamped, is not empty and lies within one block. -/
theorem routes_agree_iff {w : World} {base gen : String} {metadata : Dict}
    {fromSnap toSnap : Option String} {log : Bytes} {extents : List Extent} (length : Int)
    (hoff : off ≤ size) (hpresent : ∀ d ∈ extents, d.present = true)
    (hgens : Cbtlog.gensBetween metadata fromSnap toSnap = [gen])
    (hread : logBits w base gen = some log) (hlog : IsLog size extents log) :
    ∃ fromLog after,
      (Cbtlog.changedBitmap base metadata fromSnap toSnap off
        (clampLength size off length) size).exec (handle .ok) w = some (.ok fromLog, after) ∧
      (Agree size off (clampLength size off length) extents fromLog
          (changedBitmap extents off (clampLength size off length)) ↔
        SameBlocks off (clampLength size off length)) := by
  obtain ⟨after, hexec⟩ := exec_changedBitmap hgens hread off (clampLength size off length) size
  exact ⟨_, after, hexec, agree_coalesce_iff (clampLength_le hoff) hpresent hlog⟩

end Agree

/-- A companion image whose log has the byte 66000 of a disk of 200000. -/
def oneLog : World where
  images := (∅ : AList fun _ : String => Image).insert (Cbtlog.companionName "b" "0a0000000000")
    { size := 4096, log := some { bitmap := byteLog 200000 66000 } }

/-- The log is sealed to the snapshot `s2`, taken after `s1`. -/
def oneSealed : Dict :=
  (((∅ : Dict).insert "cbt.snap.s2" "0a0000000000").insert "snap.s1.k.snapshot_time"
    "20240501T10:00:00Z").insert "snap.s2.k.snapshot_time" "20240502T10:00:00Z"

theorem gensBetween_oneSealed :
    Cbtlog.gensBetween oneSealed (some "s1") (some "s2") = ["0a0000000000"] := by
  decide +kernel

theorem logBits_oneLog : logBits oneLog "b" "0a0000000000" = some (byteLog 200000 66000) := by
  decide +kernel

/-- From the second block on, up to the end, the two routes agree. -/
theorem routes_agree_on_border :
    ∃ fromLog after,
      (Cbtlog.changedBitmap "b" oneSealed (some "s1") (some "s2") 65536
        (clampLength 200000 65536 (-1)) 200000).exec (handle .ok) oneLog =
          some (.ok fromLog, after) ∧
      Agree 200000 65536 (clampLength 200000 65536 (-1))
        [{ offset := 66000, length := 1, present := true }] fromLog
        (changedBitmap [{ offset := 66000, length := 1, present := true }] 65536
          (clampLength 200000 65536 (-1))) := by
  obtain ⟨fromLog, after, hexec, hagree⟩ := routes_agree_iff (-1)
    (show 65536 ≤ 200000 by decide) (by simp) gensBetween_oneSealed logBits_oneLog
    (isLog_byteLog (by decide))
  exact ⟨fromLog, after, hexec, hagree.mpr (.inl (by decide))⟩

/-- From the byte 4096 on the two routes disagree: the changed byte is in the second block of the
disk, and in the first block from there. -/
theorem routes_disagree_off_border :
    ∃ fromLog after,
      (Cbtlog.changedBitmap "b" oneSealed (some "s1") (some "s2") 4096
        (clampLength 200000 4096 (-1)) 200000).exec (handle .ok) oneLog =
          some (.ok fromLog, after) ∧
      ¬Agree 200000 4096 (clampLength 200000 4096 (-1))
        [{ offset := 66000, length := 1, present := true }] fromLog
        (changedBitmap [{ offset := 66000, length := 1, present := true }] 4096
          (clampLength 200000 4096 (-1))) := by
  obtain ⟨after, hexec⟩ :=
    exec_changedBitmap gensBetween_oneSealed logBits_oneLog 4096
      (clampLength 200000 4096 (-1)) 200000
  refine ⟨_, after, hexec, fun hagree => ?_⟩
  have hsame := (agree_coalesce_iff (clampLength_le (by decide)) (by simp)
    (isLog_byteLog (by decide))).mp hagree
  revert hsame
  decide

end XcpCephRbd.Volume.Routes
