import XcpCephRbd.Lib.Prog

/-!
# One call that fails

A program is run against a system in which one call is made to fail: the call with a given number,
if it is one that can fail and no call failed before it. What the program does after an error, its
handlers and what they undo, is answered by the system as it is.
-/

namespace XcpCephRbd.Fault

variable {E C : Type} {R : C → Type} {σ α : Type}

/-- The system, how many calls it has answered, and whether one may still be made to fail. -/
structure Armed (σ : Type) where
  state : σ
  time : Nat := 0
  armed : Bool := true

variable (answer : Nat → σ → (c : C) → Option (Except E (R c) × σ)) (canFail : C → Bool)
  (error : C → E) (n : Nat)

/-- The answer to a call when call number `n` is made to fail; it has no effect then. -/
def strike (s : Armed σ) (c : C) : Option (Except E (R c) × Armed σ) :=
  if s.armed && s.time == n && canFail c then
    some (.error (error c), { s with time := s.time + 1, armed := false })
  else
    (answer s.time s.state c).map fun (reply, after) =>
      (reply,
        { state := after, time := s.time + 1, armed := s.armed && (reply.isOk || !canFail c) })

variable {answer canFail error n}

/-- The call that is made to fail. -/
theorem strike_hit {s : Armed σ} {c : C} (harmed : s.armed = true) (htime : s.time = n)
    (hcan : canFail c = true) :
    strike answer canFail error n s c =
      some (.error (error c), { s with time := s.time + 1, armed := false }) := by
  rw [strike, if_pos]
  simp [harmed, htime, hcan]

/-- Any other call is answered by the system. -/
theorem strike_miss {s : Armed σ} {c : C} {reply : Except E (R c)} {after : σ}
    (hmiss : s.armed = false ∨ s.time ≠ n ∨ canFail c = false)
    (hanswer : answer s.time s.state c = some (reply, after)) :
    strike answer canFail error n s c = some (reply,
      { state := after, time := s.time + 1
        armed := s.armed && (reply.isOk || !canFail c) }) := by
  rw [strike, if_neg, hanswer, Option.map_some]
  simp only [Bool.and_eq_true, beq_iff_eq, not_and, Bool.not_eq_true]
  intro h
  rcases hmiss with hmiss | hmiss | hmiss
  · rw [hmiss] at h
    exact absurd h.1 (by decide)
  · exact absurd h.2 hmiss
  · exact hmiss

/-- A call that is not made to fail and that the system performs. -/
theorem strike_ok {w after : σ} {t : Nat} {armed : Bool} {c : C} {result : R c}
    (hmiss : armed = false ∨ t ≠ n) (hanswer : answer t w c = some (.ok result, after)) :
    strike answer canFail error n ⟨w, t, armed⟩ c = some (.ok result, ⟨after, t + 1, armed⟩) := by
  have hmiss' : armed = false ∨ t ≠ n ∨ canFail c = false := by
    rcases hmiss with h | h
    · exact .inl h
    · exact .inr (.inl h)
  rw [strike_miss hmiss' hanswer]
  simp [Except.isOk, Except.toBool]

/-- A call that is not made to fail and that the system refuses. -/
theorem strike_refused {w after : σ} {t : Nat} {armed : Bool} {c : C} {e : E}
    (hcan : canFail c = true) (hmiss : armed = false ∨ t ≠ n)
    (hanswer : answer t w c = some (.error e, after)) :
    strike answer canFail error n ⟨w, t, armed⟩ c = some (.error e, ⟨after, t + 1, false⟩) := by
  have hmiss' : armed = false ∨ t ≠ n ∨ canFail c = false := by
    rcases hmiss with h | h
    · exact .inl h
    · exact .inr (.inl h)
  rw [strike_miss hmiss' hanswer]
  simp [Except.isOk, Except.toBool, hcan]

/-- What the system keeps in every call of a program, the run of the program keeps. -/
theorem exec_strike_invariant {I : σ → Prop} {p : Prog E C R α} {s s' : Armed σ}
    {outcome : Except E α}
    (hp : p.AllCalls fun c => ∀ time state reply after, I state →
      answer time state c = some (reply, after) → I after)
    (h : p.exec (strike answer canFail error n) s = some (outcome, s')) (hI : I s.state) :
    I s'.state := by
  induction p generalizing s with
  | ret value =>
      cases h
      exact hI
  | raise e =>
      cases h
      exact hI
  | call c resume ih =>
      obtain ⟨⟨reply, next⟩, hreply, hrest⟩ := Option.bind_eq_some_iff.mp h
      refine ih reply (hp.2 reply) hrest ?_
      unfold strike at hreply
      split at hreply
      · cases hreply
        exact hI
      · obtain ⟨⟨reply', after⟩, hanswer, heq⟩ := Option.map_eq_some_iff.mp hreply
        cases heq
        exact hp.1 _ _ _ _ hI hanswer

/-- Where no call may be made to fail any more, none is. -/
theorem exec_unarmed {p : Prog E C R α} {s s' : Armed σ} {outcome : Except E α}
    (h : p.exec (strike answer canFail error n) s = some (outcome, s')) (hs : s.armed = false) :
    s'.armed = false := by
  induction p generalizing s with
  | ret value =>
      cases h
      exact hs
  | raise e =>
      cases h
      exact hs
  | call c resume ih =>
      obtain ⟨⟨reply, next⟩, hreply, hrest⟩ := Option.bind_eq_some_iff.mp h
      refine ih reply hrest ?_
      unfold strike at hreply
      split at hreply
      · cases hreply
        rfl
      · obtain ⟨⟨reply', after⟩, -, heq⟩ := Option.map_eq_some_iff.mp hreply
        cases heq
        rw [hs]
        rfl

/-- The calls are counted. -/
theorem exec_time {p : Prog E C R α} {s s' : Armed σ} {outcome : Except E α}
    (h : p.exec (strike answer canFail error n) s = some (outcome, s')) : s.time ≤ s'.time := by
  induction p generalizing s with
  | ret value =>
      cases h
      exact Nat.le_refl _
  | raise e =>
      cases h
      exact Nat.le_refl _
  | call c resume ih =>
      obtain ⟨⟨reply, next⟩, hreply, hrest⟩ := Option.bind_eq_some_iff.mp h
      refine Nat.le_trans ?_ (ih reply hrest)
      unfold strike at hreply
      split at hreply
      · cases hreply
        exact Nat.le_succ _
      · obtain ⟨⟨reply', after⟩, -, heq⟩ := Option.map_eq_some_iff.mp hreply
        cases heq
        exact Nat.le_succ _

end XcpCephRbd.Fault
