import Mathlib.Data.List.DropRight
import Mathlib.Tactic.Common

/-!
# Splitting a text

Python's `str.splitlines()`, `str.split()` without a separator, `str.split(sep, 1)` and
`str.strip()`, on the characters of a text, and what they give on a text that was put together from
its parts.
-/

namespace XcpCephRbd.Split

/-- The characters at which `str.splitlines()` ends a line. -/
def breaks : List Char :=
  ['\n', '\r', '\x0b', '\x0c', '\x1c', '\x1d', '\x1e', '\u0085', '\u2028', '\u2029']

/-- The characters that `str.split()` and `str.strip()` take for blanks. -/
def blanks : List Char :=
  [' ', '\t', '\n', '\x0b', '\x0c', '\r', '\x1c', '\x1d', '\x1e', '\x1f', '\u0085', '\u00a0',
    '\u1680', '\u2000', '\u2001', '\u2002', '\u2003', '\u2004', '\u2005', '\u2006', '\u2007',
    '\u2008', '\u2009', '\u200a', '\u2028', '\u2029', '\u202f', '\u205f', '\u3000']

/-- The character ends a line. -/
def isBreak (c : Char) : Bool := breaks.contains c

/-- The character is a blank. -/
def isBlank (c : Char) : Bool := blanks.contains c

/-- `text.splitlines()`: a carriage return and a line feed end one line together. -/
def splitlines : List Char → List (List Char)
  | [] => []
  | '\r' :: '\n' :: rest => [] :: splitlines rest
  | c :: rest =>
      if isBreak c then [] :: splitlines rest
      else
        match splitlines rest with
        | [] => [[c]]
        | line :: lines => (c :: line) :: lines

/-- `text.split()`: the parts between runs of blanks. -/
def words (text : List Char) : List (List Char) :=
  (text.splitOnP isBlank).filter fun word => !word.isEmpty

/-- `text.split(sep, 1)` of a text that contains `sep`. -/
def cut (sep : Char) (text : List Char) : List Char × List Char :=
  (text.takeWhile (· != sep), (text.dropWhile (· != sep)).drop 1)

/-- `text.strip()`. -/
def strip (text : List Char) : List Char := (text.dropWhile isBlank).rdropWhile isBlank

theorem splitlines_cons {c : Char} (rest : List Char) (h : isBreak c = false) :
    splitlines (c :: rest) =
      (match splitlines rest with
        | [] => [[c]]
        | line :: lines => (c :: line) :: lines) := by
  have hne : c ≠ '\r' := by
    intro heq
    subst heq
    exact absurd h (by decide)
  rw [splitlines.eq_3 _ _ (fun _ heq => absurd heq hne), h]
  rfl

/-- The first line of a text is what stands before its first line feed. -/
theorem splitlines_line {line : List Char} (rest : List Char)
    (h : ∀ c ∈ line, isBreak c = false) :
    splitlines (line ++ '\n' :: rest) = line :: splitlines rest := by
  induction line with
  | nil => rfl
  | cons c line ih =>
    have htail := ih fun d hd => h d (List.mem_cons_of_mem _ hd)
    show splitlines (c :: (line ++ '\n' :: rest)) = _
    rw [splitlines_cons _ (h c List.mem_cons_self), htail]

/-- Lines that are each ended by a line feed are found again. -/
theorem splitlines_terminated {lines : List (List Char)}
    (h : ∀ line ∈ lines, ∀ c ∈ line, isBreak c = false) :
    splitlines (lines.flatMap fun line => line ++ ['\n']) = lines := by
  induction lines with
  | nil => rfl
  | cons line lines ih =>
    have htail := ih fun other hother => h other (List.mem_cons_of_mem _ hother)
    show splitlines ((line ++ ['\n']) ++ lines.flatMap fun line => line ++ ['\n']) = _
    rw [List.append_assoc, List.singleton_append,
      splitlines_line _ (h line List.mem_cons_self), htail]

/-- A word and a blank before more text. -/
theorem words_cons {word : List Char} (rest : List Char) {c : Char} (hc : isBlank c = true)
    (hne : word ≠ []) (h : ∀ d ∈ word, isBlank d = false) :
    words (word ++ c :: rest) = word :: words rest := by
  have hword : (!word.isEmpty) = true := by simpa using hne
  rw [words, List.splitOnP_append_cons_of_forall_mem h c hc, List.filter_cons, if_pos hword]
  rfl

/-- A text without blanks is one word. -/
theorem words_single {word : List Char} (hne : word ≠ []) (h : ∀ d ∈ word, isBlank d = false) :
    words word = [word] := by
  have hword : (!word.isEmpty) = true := by simpa using hne
  rw [words, List.splitOnP_eq_singleton h, List.filter_cons, if_pos hword]
  rfl

/-- A text is cut at the first separator. -/
theorem cut_append {sep : Char} {left : List Char} (right : List Char) (h : sep ∉ left) :
    cut sep (left ++ sep :: right) = (left, right) := by
  have hleft : ∀ c ∈ left, (c != sep) = true := by
    intro c hc
    rw [bne_iff_ne]
    intro heq
    exact h (heq ▸ hc)
  have htake : (left ++ sep :: right).takeWhile (· != sep) = left := by
    rw [List.takeWhile_append_of_pos hleft]
    simp
  have hdrop : (left ++ sep :: right).dropWhile (· != sep) = sep :: right := by
    rw [List.dropWhile_append_of_pos hleft]
    simp
  rw [cut, htake, hdrop]
  rfl

theorem intercalate_cons_cons (sep : Char) (text next : List Char) (texts : List (List Char)) :
    [sep].intercalate (text :: next :: texts) =
      text ++ sep :: [sep].intercalate (next :: texts) := by
  simp [List.intercalate]

/-- The characters of texts with separators between them. -/
theorem mem_intercalate {sep c : Char} {texts : List (List Char)}
    (h : c ∈ [sep].intercalate texts) : c = sep ∨ ∃ text ∈ texts, c ∈ text := by
  induction texts with
  | nil => simp [List.intercalate] at h
  | cons text texts ih =>
    cases texts with
    | nil => exact .inr ⟨text, List.mem_cons_self, by simpa [List.intercalate] using h⟩
    | cons next texts =>
      rw [intercalate_cons_cons, List.mem_append, List.mem_cons] at h
      rcases h with h | h | h
      · exact .inr ⟨text, List.mem_cons_self, h⟩
      · exact .inl h
      · exact (ih h).imp_right fun ⟨other, hother, hin⟩ =>
          ⟨other, List.mem_cons_of_mem _ hother, hin⟩

/-- A text that starts with one that is not empty is not empty. -/
theorem intercalate_ne_nil {sep : Char} {text : List Char} (texts : List (List Char))
    (h : text ≠ []) : [sep].intercalate (text :: texts) ≠ [] := by
  cases texts with
  | nil => simpa [List.intercalate] using h
  | cons next texts =>
    rw [intercalate_cons_cons]
    simp

/-- The blanks around a text without blanks are stripped. -/
theorem strip_pad {before text after : List Char} (hbefore : ∀ c ∈ before, isBlank c = true)
    (htext : ∀ c ∈ text, isBlank c = false) (hne : text ≠ [])
    (hafter : ∀ c ∈ after, isBlank c = true) : strip (before ++ text ++ after) = text := by
  obtain ⟨c, tail, rfl⟩ := List.exists_cons_of_ne_nil hne
  have hdrop : (before ++ (c :: tail) ++ after).dropWhile isBlank = (c :: tail) ++ after := by
    rw [List.append_assoc, List.dropWhile_append_of_pos hbefore, List.cons_append,
      List.dropWhile_cons_of_neg (by simp [htext c List.mem_cons_self])]
  have hlast : (c :: tail).rdropWhile isBlank = c :: tail :=
    List.rdropWhile_eq_self_iff.mpr fun hl => by simp [htext _ (List.getLast_mem hl)]
  have hrdrop : ((c :: tail) ++ after).rdropWhile isBlank = (c :: tail).rdropWhile isBlank := by
    rw [List.rdropWhile, List.reverse_append, List.dropWhile_append_of_pos, List.rdropWhile]
    intro d hd
    exact hafter d (List.mem_reverse.mp hd)
  rw [strip, hdrop, hrdrop, hlast]

end XcpCephRbd.Split
