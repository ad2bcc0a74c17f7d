import XcpCephRbd.Lib.Prog
import XcpCephRbd.Lib.Run

/-!
# Programs whose calls are asserted

`Safe` is the partial counterpart of `Prog.Wp`: a program may raise, and what matters is that each
call it makes meets an assertion on the state in which it is made, and what holds where the program
returns and where it raises. The environment may move before every call, within a relation, and
answers the calls within a condition on its choices. The rules follow the shape of the program:
`safe_perform`, `safe_bind` and `safe_tryCatch`; `Safe.next` and `Safe.move` follow a run.
-/

namespace XcpCephRbd.Prog

variable {E C : Type} {R : C → Type} {α β σ ι : Type}

/-- The setting of a program: how calls are answered, which answers are allowed, what the
environment does between two calls, and what is asserted of a call. -/
structure Setting (E C : Type) (R : C → Type) (σ ι : Type) where
  handle : ι → σ → (c : C) → Option (Except E (R c) × σ)
  allowed : ι → σ → C → Prop
  rely : σ → σ → Prop
  asserted : σ → C → Prop

/-- Each call of the program meets the assertion; `post` holds where it returns, and `exc` where it
raises. -/
def Safe (w : Setting E C R σ ι) (post : α → σ → Prop) (exc : E → σ → Prop) :
    Prog E C R α → σ → Prop
  | .ret value, state => post value state
  | .raise error, state => exc error state
  | .call c resume, state => ∀ before, Relation.ReflTransGen w.rely state before →
      w.asserted before c ∧ ∀ choice reply after, w.allowed choice before c →
        w.handle choice before c = some (reply, after) → Safe w post exc (resume reply) after

variable {w : Setting E C R σ ι} {post post' : α → σ → Prop} {exc exc' : E → σ → Prop}

/-- One call: a stable condition holds before it, and gives the assertion and what is wanted after
it. -/
theorem safe_perform {c : C} {post : R c → σ → Prop} {state : σ} {P : σ → Prop}
    (hstable : Stable w.rely P) (hP : P state) (hasserted : ∀ s, P s → w.asserted s c)
    (hreturn : ∀ s choice result after, P s → w.allowed choice s c →
      w.handle choice s c = some (.ok result, after) → post result after)
    (hraise : ∀ s choice error after, P s → w.allowed choice s c →
      w.handle choice s c = some (.error error, after) → exc error after) :
    Safe w post exc (perform c) state := by
  intro before hmoves
  have hbefore := hstable.star hP hmoves
  refine ⟨hasserted before hbefore, fun choice reply after hallowed hhandle => ?_⟩
  cases reply with
  | ok result => exact hreturn before choice result after hbefore hallowed hhandle
  | error error => exact hraise before choice error after hbefore hallowed hhandle

/-- What holds at the end of a program may be weakened. -/
theorem Safe.mono {p : Prog E C R α} {state : σ} (h : Safe w post exc p state)
    (hpost : ∀ value s, post value s → post' value s)
    (hexc : ∀ error s, exc error s → exc' error s) :
    Safe w post' exc' p state := by
  induction p generalizing state with
  | ret value => exact hpost _ _ h
  | raise error => exact hexc _ _ h
  | call c resume ih =>
      intro before hmoves
      obtain ⟨hasserted, hrest⟩ := h before hmoves
      exact ⟨hasserted, fun choice reply after hallowed hhandle =>
        ih reply (hrest choice reply after hallowed hhandle)⟩

/-- A sequence: the first part ends where the second may start. -/
theorem safe_bind {post : β → σ → Prop} {p : Prog E C R α} {f : α → Prog E C R β} {state : σ}
    (h : Safe w (fun value s => Safe w post exc (f value) s) exc p state) :
    Safe w post exc (p >>= f) state := by
  induction p generalizing state with
  | ret value => exact h
  | raise error => exact h
  | call c resume ih =>
      intro before hmoves
      obtain ⟨hasserted, hrest⟩ := h before hmoves
      exact ⟨hasserted, fun choice reply after hallowed hhandle =>
        ih reply (hrest choice reply after hallowed hhandle)⟩

/-- A handled program: it raises where its handler may start. -/
theorem safe_tryCatch {p : Prog E C R α} {handler : E → Prog E C R α} {state : σ}
    (h : Safe w post (fun error s => Safe w post exc (handler error) s) p state) :
    Safe w post exc (MonadExcept.tryCatch p handler) state := by
  induction p generalizing state with
  | ret value => exact h
  | raise error => exact h
  | call c resume ih =>
      intro before hmoves
      obtain ⟨hasserted, hrest⟩ := h before hmoves
      exact ⟨hasserted, fun choice reply after hallowed hhandle =>
        ih reply (hrest choice reply after hallowed hhandle)⟩

/-- A finished program: it ends where what it is finished with may start. -/
theorem safe_finish {post : β → σ → Prop} {p : Prog E C R α} {f : Except E α → Prog E C R β}
    {state : σ} (h : Safe w (fun value s => Safe w post exc (f (.ok value)) s)
      (fun error s => Safe w post exc (f (.error error)) s) p state) :
    Safe w post exc (p.finish f) state := by
  induction p generalizing state with
  | ret value => exact h
  | raise error => exact h
  | call c resume ih =>
      intro before hmoves
      obtain ⟨hasserted, hrest⟩ := h before hmoves
      exact ⟨hasserted, fun choice reply after hallowed hhandle =>
        ih reply (hrest choice reply after hallowed hhandle)⟩

/-- The call that a safe program makes next meets the assertion. -/
theorem Safe.asserted {p : Prog E C R α} {state : σ} {c : C} (h : Safe w post exc p state)
    (hfirst : p.firstCall = some c) : w.asserted state c := by
  cases p with
  | ret value => cases hfirst
  | raise error => cases hfirst
  | call c' resume =>
      cases hfirst
      exact (h state .refl).1

/-- A step of a safe program leads to the rest of it, which is safe. -/
theorem Safe.next {p q : Prog E C R α} {choice : ι} {state after : σ} (h : Safe w post exc p state)
    (hallowed : ∀ c, p.firstCall = some c → w.allowed choice state c)
    (hnext : p.next w.handle choice state = some (q, after)) : Safe w post exc q after := by
  obtain ⟨c, resume, reply, rfl, hhandle, rfl⟩ := next_eq_some_iff.mp hnext
  exact (h state .refl).2 choice reply after (hallowed c rfl) hhandle

/-- A run of a safe program along which the answers are allowed leads to the rest of it, which is
safe. -/
theorem Safe.run_along {p q : Prog E C R α} {choices : List ι} {state after : σ}
    (h : Safe w post exc p state)
    (hallowed : Run.Along (fun s choice => s.1.next w.handle choice s.2)
      (fun s choice => ∀ c, s.1.firstCall = some c → w.allowed choice s.2 c) (p, state) choices)
    (hrun : Run.run (fun s choice => s.1.next w.handle choice s.2) (p, state) choices =
      some (q, after)) : Safe w post exc q after := by
  induction choices generalizing p state with
  | nil =>
      cases hrun
      exact h
  | cons choice rest ih =>
      obtain ⟨⟨p', state'⟩, hnext, hrest⟩ := Run.run_cons_iff.mp hrun
      exact ih (h.next hallowed.1 hnext) (hallowed.2 _ hnext) hrest

/-- Every run of a safe program whose answers are all allowed leads to the rest of it, which is
safe. -/
theorem Safe.run {p q : Prog E C R α} {choices : List ι} {state after : σ}
    (h : Safe w post exc p state) (hallowed : ∀ choice s c, w.allowed choice s c)
    (hrun : Run.run (fun s choice => s.1.next w.handle choice s.2) (p, state) choices =
      some (q, after)) : Safe w post exc q after :=
  h.run_along ((Run.along_true _ _).mono fun s choice _ c _ => hallowed choice s.2 c) hrun

/-- A move of the environment before the end keeps a program safe; at the end it has to keep what
is wanted there. -/
theorem Safe.move {p : Prog E C R α} {state after : σ} (h : Safe w post exc p state)
    (hmove : w.rely state after) (hpost : ∀ value, Stable w.rely (post value))
    (hexc : ∀ error, Stable w.rely (exc error)) : Safe w post exc p after := by
  cases p with
  | ret value => exact hpost value _ _ h hmove
  | raise error => exact hexc error _ _ h hmove
  | call c resume => exact fun before hmoves => h before (.head hmove hmoves)

/-- Where a safe program ends that runs alone. -/
theorem Safe.exec {perform : σ → (c : C) → Option (Except E (R c) × σ)} {p : Prog E C R α}
    {state final : σ} {outcome : Except E α} (h : Safe w post exc p state)
    (hanswers : ∀ s c reply after, perform s c = some (reply, after) →
      ∃ choice, w.allowed choice s c ∧ w.handle choice s c = some (reply, after))
    (hexec : p.exec perform state = some (outcome, final)) :
    (∀ value, outcome = .ok value → post value final) ∧
      ∀ error, outcome = .error error → exc error final := by
  induction p generalizing state with
  | ret value =>
      cases hexec
      refine ⟨fun _ hvalue => ?_, fun _ herror => ?_⟩
      · cases hvalue
        exact h
      · cases herror
  | raise error =>
      cases hexec
      refine ⟨fun _ hvalue => ?_, fun _ herror => ?_⟩
      · cases hvalue
      · cases herror
        exact h
  | call c resume ih =>
      obtain ⟨⟨reply, after⟩, hreply, hrest⟩ := Option.bind_eq_some_iff.mp hexec
      obtain ⟨choice, hallowed, hhandle⟩ := hanswers state c reply after hreply
      exact ih reply ((h state .refl).2 choice reply after hallowed hhandle) hrest

/-- A program none of whose calls breaks a stable condition keeps it to its end. -/
theorem safe_keep {K : C → Prop} {Q : σ → Prop} {p : Prog E C R α} (hp : AllCalls K p)
    (hstable : Stable w.rely Q) (hasserted : ∀ s c, K c → Q s → w.asserted s c)
    (hkeep : ∀ s choice c reply after, K c → Q s → w.allowed choice s c →
      w.handle choice s c = some (reply, after) → Q after) {state : σ} (hQ : Q state) :
    Safe w (fun _ => Q) (fun _ => Q) p state := by
  induction p generalizing state with
  | ret value => exact hQ
  | raise error => exact hQ
  | call c resume ih =>
      intro before hmoves
      have hbefore := hstable.star hQ hmoves
      refine ⟨hasserted before c hp.1 hbefore, fun choice reply after hallowed hhandle => ?_⟩
      exact ih reply (hp.2 reply) (hkeep before choice c reply after hp.1 hbefore hallowed hhandle)

/-- What a program can return holds where it returns. -/
theorem safe_of_returns (h : ∀ s c, w.asserted s c) {Q : α → Prop} {p : Prog E C R α}
    (hp : Returns Q p) (state : σ) :
    Safe w (fun value _ => Q value) (fun _ _ => True) p state := by
  induction p generalizing state with
  | ret value => exact hp
  | raise error => trivial
  | call c resume ih =>
      exact fun before _ => ⟨h before c, fun choice reply after _ _ => ih reply (hp reply) after⟩

/-- Where nothing is asserted of calls, every program is safe. -/
theorem safe_of_unasserted (h : ∀ s c, w.asserted s c) (p : Prog E C R α) (state : σ) :
    Safe w (fun _ _ => True) (fun _ _ => True) p state :=
  safe_of_returns h (returns_true p) state

end XcpCephRbd.Prog
