import XcpCephRbd.Lib.Prog

/-!
# Programs that do not tell two answers apart

`Sim` relates two programs that make the same calls and go on alike wherever the calls are answered
alike, up to a relation on results for each call. Run against two handlers that answer alike, such
programs end alike, in the same state.
-/

namespace XcpCephRbd.Prog

variable {E C : Type} {R : C → Type} {α β σ : Type}

/-- The programs make the same calls, and where results are related by `rel` they end with related
values. -/
inductive Sim (rel : (c : C) → R c → R c → Prop) (same : α → α → Prop) :
    Prog E C R α → Prog E C R α → Prop where
  | ret {a b : α} : same a b → Sim rel same (.ret a) (.ret b)
  | raise (error : E) : Sim rel same (.raise error) (.raise error)
  | call {c : C} {k k' : Except E (R c) → Prog E C R α} :
      (∀ r r', rel c r r' → Sim rel same (k (.ok r)) (k' (.ok r'))) →
      (∀ error, Sim rel same (k (.error error)) (k' (.error error))) →
      Sim rel same (.call c k) (.call c k')

variable {rel : (c : C) → R c → R c → Prop} {same : α → α → Prop}

/-- One call ends with related results. -/
theorem Sim.perform (c : C) :
    Sim rel (rel c) (Prog.perform c : Prog E C R (R c)) (Prog.perform c) :=
  .call (fun _ _ h => .ret h) fun error => .raise error

/-- A sequence whose parts are related. -/
theorem Sim.bind {same' : β → β → Prop} {p p' : Prog E C R α} {f f' : α → Prog E C R β}
    (h : Sim rel same p p') (hf : ∀ a b, same a b → Sim rel same' (f a) (f' b)) :
    Sim rel same' (p >>= f) (p' >>= f') := by
  induction h with
  | ret hsame => exact hf _ _ hsame
  | raise error => exact .raise error
  | call _ _ ihok iherror => exact .call ihok iherror

/-- A sequence whose first part ends with the same value. -/
theorem Sim.bind_eq {same' : β → β → Prop} {p p' : Prog E C R α} {f f' : α → Prog E C R β}
    (h : Sim rel Eq p p') (hf : ∀ a, Sim rel same' (f a) (f' a)) :
    Sim rel same' (p >>= f) (p' >>= f') := by
  refine h.bind fun a b hab => ?_
  subst hab
  exact hf a

/-- A handled program whose parts are related. -/
theorem Sim.tryCatch {p p' : Prog E C R α} {handler handler' : E → Prog E C R α}
    (h : Sim rel same p p') (hhandler : ∀ error, Sim rel same (handler error) (handler' error)) :
    Sim rel same (MonadExcept.tryCatch p handler) (MonadExcept.tryCatch p' handler') := by
  induction h with
  | ret hsame => exact .ret hsame
  | raise error => exact hhandler error
  | call _ _ ihok iherror => exact .call ihok iherror

/-- A program none of whose calls has two related results is related to itself. -/
theorem Sim.refl {p : Prog E C R α} (h : AllCalls (fun c => ∀ r r', rel c r r' → r = r') p) :
    Sim rel Eq p p := by
  induction p with
  | ret value => exact .ret rfl
  | raise error => exact .raise error
  | call c resume ih =>
      refine .call (fun r r' hrel => ?_) fun error => ih _ (h.2 _)
      obtain rfl := h.1 r r' hrel
      exact ih _ (h.2 _)

/-- Two handlers that answer alike lead related programs to the same end. -/
theorem Sim.exec {perform perform' : σ → (c : C) → Option (Except E (R c) × σ)}
    {p p' : Prog E C R α} (h : Sim rel Eq p p')
    (halike : ∀ state c, (∃ error after, perform state c = some (.error error, after) ∧
        perform' state c = some (.error error, after)) ∨
      (∃ r r' after, perform state c = some (.ok r, after) ∧
        perform' state c = some (.ok r', after) ∧ rel c r r') ∨
      (perform state c = none ∧ perform' state c = none)) (state : σ) :
    p.exec perform state = p'.exec perform' state := by
  induction h generalizing state with
  | ret hsame => rw [hsame]; rfl
  | raise error => rfl
  | @call c k k' _ _ ihok iherror =>
      obtain ⟨error, after, h1, h2⟩ | ⟨r, r', after, h1, h2, hrel⟩ | ⟨h1, h2⟩ := halike state c
      · rw [exec_call h1, exec_call h2]
        exact iherror error after
      · rw [exec_call h1, exec_call h2]
        exact ihok r r' hrel after
      · simp only [Prog.exec, h1, h2, Option.bind_none]

end XcpCephRbd.Prog
