import XcpCephRbd.Lib.Bitmap

/-!
# Base64

Python's `base64.b64encode` on a string of bytes, the decoder that reads it, and the round trip
`decode_encode`: what is encoded is determined by its text.
-/

namespace XcpCephRbd.Base64

open Bitmap (Bytes)

/-- The standard alphabet. -/
def alphabet : List Char :=
  "ABCDEFGHIJKLMNOPQRSTUVWXYZabcdefghijklmnopqrstuvwxyz0123456789+/".toList

/-- The character of a six-bit value. -/
def digit (n : Nat) : Char := alphabet.getD n '='

/-- The six-bit value of a character. -/
def value (c : Char) : Nat := alphabet.idxOf c

/-- Three bytes as one number. -/
def join (a b c : BitVec 8) : Nat := 65536 * a.toNat + 256 * b.toNat + c.toNat

/-- The first, second, third and fourth six bits of three bytes. -/
def sextet (n : Nat) : Nat → Nat
  | 0 => n / 262144
  | 1 => n / 4096 % 64
  | 2 => n / 64 % 64
  | _ => n % 64

/-- `b64encode`, as a list of characters. -/
def encodeList : Bytes → List Char
  | a :: b :: c :: rest =>
      let n := join a b c
      digit (sextet n 0) :: digit (sextet n 1) :: digit (sextet n 2) :: digit (sextet n 3) ::
        encodeList rest
  | [a, b] =>
      let n := join a b 0
      [digit (sextet n 0), digit (sextet n 1), digit (sextet n 2), '=']
  | [a] =>
      let n := join a 0 0
      [digit (sextet n 0), digit (sextet n 1), '=', '=']
  | [] => []

/-- `base64.b64encode(bytes).decode("ascii")`. -/
def encode (bytes : Bytes) : String := String.ofList (encodeList bytes)

/-- The number that four characters stand for. -/
def number (p q r s : Char) : Nat :=
  262144 * value p + 4096 * value q + 64 * value r + value s

/-- Byte `i` of the three that a number joins. -/
def byteAt (n : Nat) : Nat → BitVec 8
  | 0 => BitVec.ofNat 8 (n / 65536)
  | 1 => BitVec.ofNat 8 (n / 256)
  | _ => BitVec.ofNat 8 n

/-- The bytes that a text encodes. -/
def decodeList : List Char → Bytes
  | p :: q :: r :: s :: rest =>
      if r = '=' then [byteAt (number p q 'A' 'A') 0]
      else if s = '=' then [byteAt (number p q r 'A') 0, byteAt (number p q r 'A') 1]
      else
        let n := number p q r s
        byteAt n 0 :: byteAt n 1 :: byteAt n 2 :: decodeList rest
  | _ => []

/-- The bytes that a text encodes. -/
def decode (text : String) : Bytes := decodeList text.toList

/-- The digits of the six-bit values have these values. -/
theorem value_digit {n : Nat} (h : n < 64) : value (digit n) = n := by
  have hall : ∀ i : Fin 64, value (digit i) = i := by decide +kernel
  exact hall ⟨n, h⟩

/-- No digit is the padding. -/
theorem digit_ne_pad {n : Nat} (h : n < 64) : digit n ≠ '=' := by
  have hall : ∀ i : Fin 64, digit i ≠ '=' := by decide +kernel
  exact hall ⟨n, h⟩

/-- Three bytes are less than `2 ^ 24`. -/
theorem join_lt (a b c : BitVec 8) : join a b c < 16777216 := by
  have ha := a.isLt
  have hb := b.isLt
  have hc := c.isLt
  simp only [join]
  omega

/-- Each six bits of three bytes are a six-bit value. -/
theorem sextet_lt {n : Nat} (h : n < 16777216) (i : Nat) : sextet n i < 64 := by
  unfold sextet
  split <;> omega

/-- The digits of three bytes stand for the number the bytes join. -/
theorem number_digits {n : Nat} (h : n < 16777216) :
    number (digit (sextet n 0)) (digit (sextet n 1)) (digit (sextet n 2)) (digit (sextet n 3)) =
      n := by
  rw [number, value_digit (sextet_lt h 0), value_digit (sextet_lt h 1),
    value_digit (sextet_lt h 2), value_digit (sextet_lt h 3)]
  simp only [sextet]
  omega

/-- The bytes of a joined number. -/
theorem byteAt_join (a b c : BitVec 8) :
    byteAt (join a b c) 0 = a ∧ byteAt (join a b c) 1 = b ∧ byteAt (join a b c) 2 = c := by
  have ha := a.isLt
  have hb := b.isLt
  have hc := c.isLt
  refine ⟨?_, ?_, ?_⟩ <;>
    · apply BitVec.eq_of_toNat_eq
      simp only [byteAt, join, BitVec.toNat_ofNat]
      omega

/-- `A` is the digit of zero. -/
theorem digit_zero : digit 0 = 'A' := by decide

/-- What is encoded is read back. -/
theorem decodeList_encodeList (bytes : Bytes) : decodeList (encodeList bytes) = bytes := by
  fun_induction encodeList bytes with
  | case1 a b c rest n ih =>
      have hn : n < 16777216 := join_lt a b c
      obtain ⟨h0, h1, h2⟩ := byteAt_join a b c
      rw [decodeList, if_neg (digit_ne_pad (sextet_lt hn 2)),
        if_neg (digit_ne_pad (sextet_lt hn 3)), number_digits hn, ih]
      simp only [n, h0, h1, h2]
  | case2 a b n =>
      have hn : n < 16777216 := join_lt a b 0
      obtain ⟨h0, h1, -⟩ := byteAt_join a b 0
      have hlast : sextet n 3 = 0 := by
        have hzero : (0 : BitVec 8).toNat = 0 := rfl
        simp only [n, sextet, join, hzero]
        omega
      have hnumber := number_digits hn
      rw [hlast, digit_zero] at hnumber
      rw [decodeList, if_neg (digit_ne_pad (sextet_lt hn 2)), if_pos rfl, hnumber, h0, h1]
  | case3 a n =>
      have hn : n < 16777216 := join_lt a 0 0
      have hlast : sextet n 2 = 0 ∧ sextet n 3 = 0 := by
        have hzero : (0 : BitVec 8).toNat = 0 := rfl
        simp only [n, sextet, join, hzero]
        omega
      have hnumber := number_digits hn
      rw [hlast.1, hlast.2, digit_zero] at hnumber
      rw [decodeList, if_pos rfl, hnumber, (byteAt_join a 0 0).1]
  | case4 => rfl

/-- What is encoded is determined by its text. -/
theorem decode_encode (bytes : Bytes) : decode (encode bytes) = bytes := by
  simp [decode, encode, decodeList_encodeList]

end XcpCephRbd.Base64
