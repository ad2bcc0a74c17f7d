import Mathlib.Data.List.Chain
import Mathlib.Data.Set.Basic
import Mathlib.Tactic.Common

/-!
# Logs of changes along a line of states

A line of states in which each state comes with a log of what changed since the one before it.
`changed a b` is what differs between two states; all that is asked of it is that a difference
between the ends of three states shows on one of the two sides (`Triangle`). A line is `Linked` when
every log holds at least what changed since its predecessor. Then the logs between two states hold
everything that differs between them (`Linked.covers`), and the other lemmas say what adding a state
at the end, letting logs grow and taking a state out ask for.
-/

namespace XcpCephRbd.Delta

variable {α β ι : Type*} {changed : α → α → Set β}

/-- What differs between the ends differs on one of the sides. -/
def Triangle (changed : α → α → Set β) : Prop :=
  ∀ a b c, changed a c ⊆ changed a b ∪ changed b c

/-- Every log holds what changed since the state before it. -/
def Linked (changed : α → α → Set β) (line : List (α × Set β)) : Prop :=
  line.IsChain fun a b => changed a.1 b.1 ⊆ b.2

/-- The logs after a state, up to a later one, hold all that differs between the two. -/
theorem Linked.covers (htri : Triangle changed) {a c : α × Set β} {mid : List (α × Set β)}
    (h : Linked changed (a :: (mid ++ [c]))) {b : β} (hb : b ∈ changed a.1 c.1) :
    ∃ e ∈ mid ++ [c], b ∈ e.2 := by
  induction mid generalizing a with
  | nil =>
      have hlink := (List.isChain_cons_cons.mp h).1
      exact ⟨c, List.mem_singleton_self c, hlink hb⟩
  | cons m mid ih =>
      obtain ⟨hlink, hrest⟩ := List.isChain_cons_cons.mp h
      obtain hfirst | hsecond := htri a.1 m.1 c.1 hb
      · exact ⟨m, List.mem_cons_self, hlink hfirst⟩
      · obtain ⟨e, he, hbe⟩ := ih hrest hsecond
        exact ⟨e, List.mem_cons_of_mem _ he, hbe⟩

/-- A line with one more state is linked when the new log holds what changed since the last one. -/
theorem linked_concat_iff {f : ι → α × Set β} {line : List ι} {x : α × Set β} :
    Linked changed (line.map f ++ [x]) ↔
      Linked changed (line.map f) ∧ ∀ y ∈ line.getLast?, changed (f y).1 x.1 ⊆ x.2 := by
  simp [Linked, List.isChain_append, List.getLast?_map]

/-- Logs may grow. -/
theorem Linked.grow {f g : ι → α × Set β} {line : List ι} (h : Linked changed (line.map f))
    (hstate : ∀ x ∈ line, (g x).1 = (f x).1) (hlog : ∀ x ∈ line, (f x).2 ⊆ (g x).2) :
    Linked changed (line.map g) := by
  rw [Linked, List.isChain_map] at h ⊢
  refine h.imp_of_mem_imp fun x y hx hy hlink => ?_
  rw [hstate x hx, hstate y hy]
  exact hlink.trans (hlog y hy)

/-- A state may be taken out when the log of the next one holds what changed since the one
before. -/
theorem Linked.remove {first last : List (α × Set β)} {x : α × Set β}
    (h : Linked changed (first ++ x :: last))
    (hjoin : ∀ a ∈ first.getLast?, ∀ c ∈ last.head?, changed a.1 c.1 ⊆ c.2) :
    Linked changed (first ++ last) := by
  obtain ⟨hfirst, hrest, -⟩ := List.isChain_append.mp h
  exact List.isChain_append.mpr ⟨hfirst, (List.isChain_cons.mp hrest).2, hjoin⟩

end XcpCephRbd.Delta
