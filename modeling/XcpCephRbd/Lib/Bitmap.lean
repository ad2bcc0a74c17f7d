import Mathlib.Data.List.Basic
import Mathlib.Tactic.Common

/-!
# Bitmaps in most-significant-bit order

A bitmap is a list of bytes in which bit `b` is the bit `0x80 >> (b % 8)` of byte `b // 8`. A bit
beyond the last byte is not set and cannot be set. `mark` sets one bit, `union` adds the bits of one
bitmap to another over the bytes they share, and the lemmas say which bits are set afterwards.
-/

namespace XcpCephRbd.Bitmap

/-- A bitmap, or any string of bytes. -/
abbrev Bytes := List (BitVec 8)

/-- `bytearray(length)`. -/
def zeros (length : Nat) : Bytes := List.replicate length 0

/-- The mask of bit `b` in its byte. -/
def mask (b : Nat) : BitVec 8 := 0x80#8 >>> (b % 8)

/-- Bit `b` is set. -/
def bit (bytes : Bytes) (b : Nat) : Bool := bytes.getD (b / 8) 0 &&& mask b != 0

/-- Set bit `b`, where the bitmap has one. -/
def mark (bytes : Bytes) (b : Nat) : Bytes := bytes.modify (b / 8) (· ||| mask b)

/-- Add the bits of `other` to the bytes that both have. -/
def union : Bytes → Bytes → Bytes
  | byte :: bytes, other :: others => (byte ||| other) :: union bytes others
  | bytes, _ => bytes

/-- A mask has one bit. -/
theorem getLsbD_mask (b k : Nat) : (mask b).getLsbD k = decide (b % 8 + k = 7) := by
  have hconst : ∀ j, (0x80#8).getLsbD j = decide (j = 7) := by
    intro j
    by_cases hj : j < 8
    · have : j = 0 ∨ j = 1 ∨ j = 2 ∨ j = 3 ∨ j = 4 ∨ j = 5 ∨ j = 6 ∨ j = 7 := by omega
      rcases this with rfl | rfl | rfl | rfl | rfl | rfl | rfl | rfl <;> rfl
    · have hne : j ≠ 7 := by omega
      simp [BitVec.getLsbD_of_ge _ _ (Nat.le_of_not_lt hj), hne]
  rw [mask, BitVec.getLsbD_ushiftRight, hconst]

/-- A bit is set exactly when its byte has it in most-significant-bit order. -/
theorem bit_eq (bytes : Bytes) (b : Nat) :
    bit bytes b = (bytes.getD (b / 8) 0).getLsbD (7 - b % 8) := by
  have hlt : b % 8 < 8 := Nat.mod_lt _ (by decide)
  generalize hbyte : bytes.getD (b / 8) 0 = byte
  rw [bit, hbyte, Bool.eq_iff_iff, bne_iff_ne]
  constructor
  · intro hne
    by_contra hbit
    refine hne (BitVec.eq_of_getLsbD_eq fun k _ => ?_)
    rw [BitVec.getLsbD_and, getLsbD_mask]
    by_cases hk : b % 8 + k = 7
    · have : k = 7 - b % 8 := by omega
      subst this
      simp [hbit]
    · simp [hk]
  · intro hbit hzero
    have hand := congrArg (BitVec.getLsbD · (7 - b % 8)) hzero
    simp only [BitVec.getLsbD_and, getLsbD_mask, hbit] at hand
    have : b % 8 + (7 - b % 8) = 7 := by omega
    simp [this] at hand

@[simp] theorem length_zeros (length : Nat) : (zeros length).length = length := by
  simp [zeros]

@[simp] theorem length_mark (bytes : Bytes) (b : Nat) : (mark bytes b).length = bytes.length := by
  simp [mark]

@[simp] theorem length_union (bytes other : Bytes) : (union bytes other).length = bytes.length := by
  induction bytes generalizing other with
  | nil => rfl
  | cons byte bytes ih =>
      cases other with
      | nil => rfl
      | cons o others => simp [union, ih]

@[simp] theorem bit_zeros (length b : Nat) : bit (zeros length) b = false := by
  rw [bit_eq, zeros, List.getD_eq_getElem?_getD, List.getElem?_replicate]
  split <;> simp

/-- The bits after setting one of them. -/
theorem bit_mark (bytes : Bytes) (b c : Nat) :
    bit (mark bytes b) c = (bit bytes c || decide (b = c ∧ b / 8 < bytes.length)) := by
  simp only [bit_eq, mark, List.getD_eq_getElem?_getD, List.getElem?_modify]
  by_cases hbyte : b / 8 = c / 8
  · cases hget : bytes[c / 8]? with
    | none =>
        have hlen : ¬b / 8 < bytes.length := by
          have := List.getElem?_eq_none_iff.mp hget
          omega
        simp [hlen]
    | some byte =>
        have hlen : c / 8 < bytes.length := (List.getElem?_eq_some_iff.mp hget).1
        have hiff : b % 8 + (7 - c % 8) = 7 ↔ b = c := by omega
        simp [hbyte, getLsbD_mask, hiff, hlen]
  · have hne : b ≠ c := fun heq => hbyte (by rw [heq])
    cases hget : bytes[c / 8]? with
    | none => simp [hne]
    | some byte => simp [hbyte, hne]

/-- The bits of a union: those of the first bitmap, and those of the second that the first has a
byte for. -/
theorem bit_union (bytes other : Bytes) (b : Nat) :
    bit (union bytes other) b =
      (bit bytes b || (bit other b && decide (b / 8 < bytes.length))) := by
  simp only [bit_eq]
  generalize 7 - b % 8 = k
  generalize b / 8 = i
  induction bytes generalizing other i with
  | nil => simp [union]
  | cons byte bytes ih =>
      cases other with
      | nil => simp [union]
      | cons o others =>
          cases i with
          | zero => simp [union]
          | succ i => simpa [union] using ih others i

/-- `mark` along a list of bits, as a loop. -/
def markAll (bytes : Bytes) (bits : List Nat) : Bytes := bits.foldl mark bytes

@[simp] theorem length_markAll (bytes : Bytes) (bits : List Nat) :
    (markAll bytes bits).length = bytes.length := by
  induction bits generalizing bytes with
  | nil => rfl
  | cons b bits ih => simpa [markAll] using ih (mark bytes b)

/-- The bits after setting those of a list. -/
theorem bit_markAll (bytes : Bytes) (bits : List Nat) (c : Nat) :
    bit (markAll bytes bits) c = (bit bytes c || decide (c ∈ bits ∧ c / 8 < bytes.length)) := by
  induction bits generalizing bytes with
  | nil => simp [markAll]
  | cons b bits ih =>
      have hrest := ih (mark bytes b)
      simp only [markAll, List.foldl_cons] at hrest ⊢
      rw [hrest, bit_mark, length_mark, Bool.eq_iff_iff]
      simp only [Bool.or_eq_true, decide_eq_true_eq, List.mem_cons]
      constructor
      · rintro ((h | ⟨rfl, hlen⟩) | ⟨hmem, hlen⟩)
        · exact .inl h
        · exact .inr ⟨.inl rfl, hlen⟩
        · exact .inr ⟨.inr hmem, hlen⟩
      · rintro (h | ⟨rfl | hmem, hlen⟩)
        · exact .inl (.inl h)
        · exact .inl (.inr ⟨rfl, hlen⟩)
        · exact .inr ⟨hmem, hlen⟩

/-- `union` along a list of bitmaps, as a loop. -/
def unionAll (bytes : Bytes) (others : List Bytes) : Bytes := others.foldl union bytes

@[simp] theorem length_unionAll (bytes : Bytes) (others : List Bytes) :
    (unionAll bytes others).length = bytes.length := by
  induction others generalizing bytes with
  | nil => rfl
  | cons other others ih => simpa [unionAll] using ih (union bytes other)

/-- The bits of a union of several bitmaps. -/
theorem bit_unionAll (bytes : Bytes) (others : List Bytes) (b : Nat) :
    bit (unionAll bytes others) b = true ↔ bit bytes b = true ∨
      ((∃ other ∈ others, bit other b = true) ∧ b / 8 < bytes.length) := by
  induction others generalizing bytes with
  | nil => simp [unionAll]
  | cons other others ih =>
      have hrest := ih (union bytes other)
      simp only [unionAll, List.foldl_cons] at hrest ⊢
      rw [hrest, bit_union, length_union]
      simp only [Bool.or_eq_true, Bool.and_eq_true, decide_eq_true_eq, List.mem_cons,
        exists_eq_or_imp]
      tauto

end XcpCephRbd.Bitmap
