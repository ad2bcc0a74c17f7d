import Mathlib.Data.List.Infix
import Mathlib.Tactic.Common

/-!
# Prefixes of strings

Python's `str.startswith` and `str.endswith`, `str.lower` on ASCII, the truth value of an optional
string, and the lemmas about prefixes and numbers that keep families of names apart.
-/

namespace XcpCephRbd.Text

/-- Python's `name.startswith(prefix)`. -/
def startsWith (name pre : String) : Bool := pre.toList.isPrefixOf name.toList

/-- Python's `name.endswith(suffix)`. -/
def endsWith (name suf : String) : Bool := suf.toList.isSuffixOf name.toList

/-- Python's `name[len(prefix):]`. -/
def dropPrefix (name pre : String) : String := String.ofList (name.toList.drop pre.toList.length)

/-- `str.lower()` on ASCII text; a letter outside ASCII stays as it is. -/
def lower (text : String) : String := String.ofList (text.toList.map Char.toLower)

/-- Python's truth value of an optional string. -/
def truthy : Option String → Bool
  | some text => text != ""
  | none => false

/-- A name starts with a prefix exactly when it is the prefix and more. -/
theorem startsWith_iff {name pre : String} :
    startsWith name pre = true ↔ ∃ rest, name = pre ++ rest := by
  rw [startsWith, List.isPrefixOf_iff_prefix]
  constructor
  · rintro ⟨rest, hrest⟩
    exact ⟨String.ofList rest, String.toList_inj.mp (by simp [hrest])⟩
  · rintro ⟨rest, rfl⟩
    exact ⟨rest.toList, by simp⟩

@[simp] theorem startsWith_append (pre rest : String) : startsWith (pre ++ rest) pre = true :=
  startsWith_iff.mpr ⟨rest, rfl⟩

@[simp] theorem endsWith_append (rest suf : String) : endsWith (rest ++ suf) suf = true := by
  rw [endsWith, List.isSuffixOf_iff_suffix]
  exact ⟨rest.toList, by simp⟩

@[simp] theorem dropPrefix_append (pre rest : String) : dropPrefix (pre ++ rest) pre = rest :=
  String.toList_inj.mp (by simp [dropPrefix])

/-- Of two texts that a name starts with, one starts with the other. -/
theorem startsWith_comparable {name p q : String} (hp : startsWith name p = true)
    (hq : startsWith name q = true) : startsWith p q = true ∨ startsWith q p = true := by
  simp only [startsWith, List.isPrefixOf_iff_prefix] at *
  exact (List.prefix_or_prefix_of_prefix hp hq).symm

/-- A name that starts with one text does not start with another that it cannot go on with. -/
theorem startsWith_eq_false {name p q : String} (hp : startsWith name p = true)
    (hpq : startsWith p q = false) (hqp : startsWith q p = false) :
    startsWith name q = false := by
  by_contra hq
  rcases startsWith_comparable hp (Bool.not_eq_false _ ▸ hq) with h | h
  · cases hpq.symm.trans h
  · cases hqp.symm.trans h

/-- More text does not make a text empty. -/
theorem append_ne_empty {text rest : String} (h : text ≠ "") : text ++ rest ≠ "" := by
  intro hempty
  have hlist := congrArg String.toList hempty
  rw [String.toList_append] at hlist
  exact h (String.toList_inj.mp (List.append_eq_nil_iff.mp hlist).1)

/-- `part in text`. -/
def contains (text part : String) : Bool :=
  text.toList.tails.any fun tail => part.toList.isPrefixOf tail

/-- A text contains a part exactly when the part stands somewhere in it. -/
theorem contains_iff {text part : String} :
    contains text part = true ↔ part.toList <:+: text.toList := by
  simp only [contains, List.any_eq_true, List.mem_tails, List.isPrefixOf_iff_prefix]
  rw [List.infix_iff_prefix_suffix]
  constructor
  · intro h
    obtain ⟨tail, htail, hpre⟩ := h
    exact ⟨tail, hpre, htail⟩
  · intro h
    obtain ⟨tail, hpre, htail⟩ := h
    exact ⟨tail, htail, hpre⟩

/-! ## Decimal numbers -/

theorem isDigit_of_mem_repr {n : Nat} {c : Char} (h : c ∈ n.repr.toList) : c.isDigit = true := by
  rw [Nat.toList_repr] at h
  exact Nat.isDigit_of_mem_toDigits (by decide) (by decide) h

/-- Numbers with the same digits are equal. -/
theorem repr_inj {m n : Nat} (h : m.repr = n.repr) : m = n := by
  have hdigits := congrArg String.toList h
  rw [Nat.toList_repr, Nat.toList_repr] at hdigits
  rw [← Nat.ofDigitChars_ten_toDigits (n := m), hdigits, Nat.ofDigitChars_ten_toDigits]

/-- A character that is no digit is in no number. -/
theorem not_mem_repr {n : Nat} {c : Char} (h : c.isDigit = false) : c ∉ n.repr.toList :=
  fun hc => absurd ((isDigit_of_mem_repr hc).symm.trans h) (by decide)

end XcpCephRbd.Text
