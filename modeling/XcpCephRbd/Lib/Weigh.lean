import Mathlib.Algebra.Ring.Nat
import Mathlib.Data.List.AList
import Mathlib.Tactic.Common

/-!
# Sums over a dictionary

A figure that is the sum of a weight over all entries of a dictionary, and how it changes with one
entry: both sides are sums, so that nothing is subtracted.
-/

namespace XcpCephRbd.Weigh

variable {α : Type} {β : α → Type} [DecidableEq α] (weight : (a : α) → β a → Nat)

/-- The sum of the weights of the entries. -/
def weigh (l : AList β) : Nat := (l.entries.map fun entry => weight entry.1 entry.2).sum

/-- The weight of what stands under a key. -/
def weightAt (l : AList β) (a : α) : Nat := ((l.lookup a).map (weight a)).getD 0

/-- Taking out the entry of a key takes its weight. -/
theorem sum_kerase (a : α) (entries : List (Sigma β)) :
    ((entries.kerase a).map fun entry => weight entry.1 entry.2).sum +
      ((entries.dlookup a).map (weight a)).getD 0 =
        (entries.map fun entry => weight entry.1 entry.2).sum := by
  induction entries with
  | nil => rfl
  | cons entry entries ih =>
      obtain ⟨b, value⟩ := entry
      by_cases hkey : a = b
      · subst hkey
        have herase : List.kerase a (⟨a, value⟩ :: entries) = entries := List.kerase_cons_eq rfl
        rw [herase, List.dlookup_cons_eq]
        simp [Nat.add_comm]
      · rw [List.kerase_cons_ne hkey, List.dlookup_cons_ne _ _ hkey]
        simp only [List.map_cons, List.sum_cons]
        omega

/-- An entry is put in place of the one under its key. -/
theorem weigh_insert (l : AList β) (a : α) (value : β a) :
    weigh weight (l.insert a value) + weightAt weight l a = weigh weight l + weight a value := by
  have hsum := sum_kerase weight a l.entries
  show ((⟨a, value⟩ :: l.entries.kerase a).map fun entry : Sigma β =>
    weight entry.1 entry.2).sum + ((l.entries.dlookup a).map (weight a)).getD 0 = _
  rw [List.map_cons, List.sum_cons, weigh, ← hsum]
  show weight a value + _ + _ = _ + _ + weight a value
  omega

/-- An entry is taken out. -/
theorem weigh_erase (l : AList β) (a : α) :
    weigh weight (l.erase a) + weightAt weight l a = weigh weight l :=
  sum_kerase weight a l.entries

variable {weight}

theorem weightAt_of_lookup {l : AList β} {a : α} {value : β a} (h : l.lookup a = some value) :
    weightAt weight l a = weight a value := by
  rw [weightAt, h]
  rfl

theorem weightAt_of_notMem {l : AList β} {a : α} (h : a ∉ l) : weightAt weight l a = 0 := by
  rw [weightAt, AList.lookup_eq_none.mpr h]
  rfl

end XcpCephRbd.Weigh
