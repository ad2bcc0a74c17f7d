import Mathlib.Algebra.Ring.Nat
import Mathlib.Data.List.Basic
import Mathlib.Tactic.Common

/-!
# Byte strings on the wire

Numbers as bytes in either order, the reading of a fixed number of bytes off the front of a buffer,
and `Codec`: a way to write the values of a type that comes with the proof that reading takes back
what was written, whatever follows it.
-/

namespace XcpCephRbd.Wire

/-- A buffer. -/
abbrev Bytes := List UInt8

/-- The `n` low bytes of a number, the lowest first. -/
def le : Nat → Nat → Bytes
  | 0, _ => []
  | n + 1, x => UInt8.ofNat x :: le n (x / 256)

/-- The `n` low bytes of a number, the highest first. -/
def be (n x : Nat) : Bytes := (le n x).reverse

/-- The number whose bytes these are, the lowest first. -/
def leVal : Bytes → Nat
  | [] => 0
  | byte :: rest => byte.toNat + 256 * leVal rest

@[simp] theorem length_le (n x : Nat) : (le n x).length = n := by
  induction n generalizing x with
  | zero => rfl
  | succ n ih => simp [le, ih]

@[simp] theorem length_be (n x : Nat) : (be n x).length = n := by
  simp [be]

theorem leVal_le (n x : Nat) : leVal (le n x) = x % 256 ^ n := by
  induction n generalizing x with
  | zero => simp [le, leVal, Nat.mod_one]
  | succ n ih =>
      have hlow : (UInt8.ofNat x).toNat = x % 256 := UInt8.toNat_ofNat'
      rw [le, leVal, ih, hlow, Nat.pow_succ', Nat.mod_mul]

/-- A number that fits is read back. -/
theorem leVal_le_of_lt {n x : Nat} (h : x < 256 ^ n) : leVal (le n x) = x := by
  rw [leVal_le, Nat.mod_eq_of_lt h]

theorem leVal_lt (bytes : Bytes) : leVal bytes < 256 ^ bytes.length := by
  induction bytes with
  | nil => simp [leVal]
  | cons byte rest ih =>
      have hbyte : byte.toNat < 256 := byte.toNat_lt
      simp only [leVal, List.length_cons, Nat.pow_succ]
      omega

/-- The bytes of a number determine it, and it them. -/
theorem le_leVal (bytes : Bytes) : le bytes.length (leVal bytes) = bytes := by
  induction bytes with
  | nil => rfl
  | cons byte rest ih =>
      have hbyte : byte.toNat < 256 := byte.toNat_lt
      have hdiv : (byte.toNat + 256 * leVal rest) / 256 = leVal rest := by omega
      have hlow : UInt8.ofNat (byte.toNat + 256 * leVal rest) = byte := by
        refine UInt8.toNat_inj.mp ?_
        rw [UInt8.toNat_ofNat']
        omega
      rw [List.length_cons, leVal, le, hdiv, ih, hlow]

/-- Read `n` bytes off the front. -/
def split (n : Nat) (bytes : Bytes) : Option (Bytes × Bytes) :=
  if n ≤ bytes.length then some (bytes.take n, bytes.drop n) else none

@[simp] theorem split_append {n : Nat} {front rest : Bytes} (h : front.length = n) :
    split n (front ++ rest) = some (front, rest) := by
  subst h
  simp [split]

theorem split_eq_some_iff {n : Nat} {bytes front rest : Bytes} :
    split n bytes = some (front, rest) ↔ front.length = n ∧ bytes = front ++ rest := by
  constructor
  · intro h
    simp only [split, Option.ite_none_right_eq_some, Option.some.injEq, Prod.mk.injEq] at h
    obtain ⟨hlen, rfl, rfl⟩ := h
    exact ⟨by simp [hlen], (List.take_append_drop n bytes).symm⟩
  · rintro ⟨hlen, rfl⟩
    exact split_append hlen

/-- The values of a type as bytes: what is written is read back, whatever follows. -/
structure Codec (α : Type) where
  encode : α → Bytes
  decode : Bytes → Option (α × Bytes)
  decode_encode : ∀ value rest, decode (encode value ++ rest) = some (value, rest)

/-- A 64-bit number, the lowest byte first. -/
def Codec.le64 : Codec UInt64 where
  encode value := le 8 value.toNat
  decode bytes := (split 8 bytes).map fun parts => (UInt64.ofNat (leVal parts.1), parts.2)
  decode_encode value rest := by
    have hval : leVal (le 8 value.toNat) = value.toNat := leVal_le_of_lt value.toNat_lt
    simp [split_append, hval]

/-- What is read off the front was written there. -/
theorem Codec.le64_decode {bytes rest : Bytes} {value : UInt64}
    (h : Codec.le64.decode bytes = some (value, rest)) :
    bytes = Codec.le64.encode value ++ rest := by
  simp only [Codec.le64, Option.map_eq_some_iff, Prod.mk.injEq] at h
  obtain ⟨⟨front, back⟩, hsplit, rfl, rfl⟩ := h
  obtain ⟨hlen, rfl⟩ := split_eq_some_iff.mp hsplit
  have hlt : leVal front < 2 ^ 64 := by
    have hbound := leVal_lt front
    rw [hlen] at hbound
    exact hbound
  have hback := le_leVal front
  rw [hlen] at hback
  show front ++ back = le 8 (UInt64.ofNat (leVal front)).toNat ++ back
  rw [UInt64.toNat_ofNat_of_lt' hlt, hback]

end XcpCephRbd.Wire
