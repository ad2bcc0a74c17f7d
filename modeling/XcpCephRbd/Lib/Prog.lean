import Mathlib.Logic.Relation
import Mathlib.Tactic.Common

/-!
# Programs over calls

A program that acts only through calls is a tree: it returns, it raises, or it makes a call and
goes on with what the call answered, the answer being a result or an error. Such a program has no
state of its own beyond what it was answered, so what other programs do between two of its calls
shows only in the answers. `next` performs the first call of a program on a shared state.

Two ways to reason about the tree are developed here. `Wp` is a condition before a program that
moves of an environment may interrupt at every call, with the rules `wp_perform`, `wp_bind` and
`wp_tryCatch`. `Carries` and `Fresh` are about values that a program reads by one call and sends
back by a later one: a program carries a value while it may send it without reading again, and it is
fresh when all it carries after a read is what that read reported.
-/

namespace XcpCephRbd

/-- A program that makes calls `C`, answered by results `R` or errors `E`. -/
inductive Prog (E C : Type) (R : C → Type) (α : Type) where
  | ret (value : α)
  | raise (error : E)
  | call (c : C) (resume : Except E (R c) → Prog E C R α)

namespace Prog

variable {E C : Type} {R : C → Type} {α β : Type}

/-- Run the first program, then the second on its result. -/
def bind : Prog E C R α → (α → Prog E C R β) → Prog E C R β
  | .ret value, f => f value
  | .raise error, _ => .raise error
  | .call c resume, f => .call c fun reply => (resume reply).bind f

/-- Run the program, and the handler where it raises. -/
def tryCatch : Prog E C R α → (E → Prog E C R α) → Prog E C R α
  | .ret value, _ => .ret value
  | .raise error, handler => handler error
  | .call c resume, handler => .call c fun reply => (resume reply).tryCatch handler

/-- Run the first program, then the second on its outcome, whether it returned or raised. -/
def finish : Prog E C R α → (Except E α → Prog E C R β) → Prog E C R β
  | .ret value, f => f (.ok value)
  | .raise error, f => f (.error error)
  | .call c resume, f => .call c fun reply => (resume reply).finish f

instance : Monad (Prog E C R) where
  pure := .ret
  bind := bind

instance : MonadExceptOf E (Prog E C R) where
  throw := .raise
  tryCatch := tryCatch

/-- Make one call and take its answer. -/
def perform (c : C) : Prog E C R (R c) :=
  .call c fun
    | .ok result => .ret result
    | .error error => .raise error

@[simp] theorem pure_eq (value : α) : (pure value : Prog E C R α) = .ret value := rfl

@[simp] theorem throw_eq (error : E) : (throw error : Prog E C R α) = .raise error := rfl

@[simp] theorem ret_bind (value : α) (f : α → Prog E C R β) : (.ret value >>= f) = f value := rfl

@[simp] theorem raise_bind (error : E) (f : α → Prog E C R β) :
    ((.raise error : Prog E C R α) >>= f) = .raise error := rfl

@[simp] theorem call_bind (c : C) (resume : Except E (R c) → Prog E C R α)
    (f : α → Prog E C R β) : (.call c resume >>= f) = .call c fun reply => resume reply >>= f := rfl

@[simp] theorem ret_tryCatch (value : α) (handler : E → Prog E C R α) :
    MonadExcept.tryCatch (.ret value : Prog E C R α) handler = .ret value := rfl

@[simp] theorem raise_tryCatch (error : E) (handler : E → Prog E C R α) :
    MonadExcept.tryCatch (.raise error : Prog E C R α) handler = handler error := rfl

@[simp] theorem call_tryCatch (c : C) (resume : Except E (R c) → Prog E C R α)
    (handler : E → Prog E C R α) :
    MonadExcept.tryCatch (.call c resume : Prog E C R α) handler =
      .call c fun reply => MonadExcept.tryCatch (resume reply) handler := rfl

/-- A sequence is put together from left to right or from right to left. -/
theorem bind_bind {γ : Type} (p : Prog E C R α) (f : α → Prog E C R β) (g : β → Prog E C R γ) :
    (p >>= f >>= g) = p >>= fun value => f value >>= g := by
  induction p with
  | ret value => rfl
  | raise error => rfl
  | call c resume ih => exact congrArg (Prog.call c) (funext ih)

/-- A program that hands its result on is itself. -/
theorem map_id (p : Prog E C R α) : (p >>= fun value => .ret value) = p := by
  induction p with
  | ret value => rfl
  | raise error => rfl
  | call c resume ih => exact congrArg (Prog.call c) (funext ih)

instance : LawfulMonad (Prog E C R) :=
  LawfulMonad.mk' _ map_id (fun _ _ => rfl) bind_bind

/-- A program that is finished with its own outcome is itself. -/
theorem finish_ofExcept (p : Prog E C R α) : p.finish MonadExcept.ofExcept = p := by
  induction p with
  | ret value => rfl
  | raise error => rfl
  | call c resume ih => exact congrArg (Prog.call c) (funext ih)

/-- A handled program is finished with its handler. -/
theorem tryCatch_eq_finish (p : Prog E C R α) (handler : E → Prog E C R α) :
    MonadExcept.tryCatch p handler = p.finish fun
      | .ok value => .ret value
      | .error error => handler error := by
  induction p with
  | ret value => rfl
  | raise error => rfl
  | call c resume ih => exact congrArg (Prog.call c) (funext ih)

/-- A sequence is its first part finished with the second. -/
theorem bind_eq_finish (p : Prog E C R α) (f : α → Prog E C R β) :
    (p >>= f) = p.finish fun
      | .ok value => f value
      | .error error => .raise error := by
  induction p with
  | ret value => rfl
  | raise error => rfl
  | call c resume ih => exact congrArg (Prog.call c) (funext ih)

/-- What follows a finished program follows what it was finished with. -/
theorem finish_bind {γ : Type} (p : Prog E C R α) (f : Except E α → Prog E C R β)
    (g : β → Prog E C R γ) : (p.finish f >>= g) = p.finish fun outcome => f outcome >>= g := by
  induction p with
  | ret value => rfl
  | raise error => rfl
  | call c resume ih => exact congrArg (Prog.call c) (funext ih)

/-- A handler of a finished program handles what it was finished with. -/
theorem finish_tryCatch (p : Prog E C R α) (f : Except E α → Prog E C R β)
    (handler : E → Prog E C R β) :
    MonadExcept.tryCatch (p.finish f) handler =
      p.finish fun outcome => MonadExcept.tryCatch (f outcome) handler := by
  induction p with
  | ret value => rfl
  | raise error => rfl
  | call c resume ih => exact congrArg (Prog.call c) (funext ih)

/-- The first call of a program. -/
def firstCall : Prog E C R α → Option C
  | .call c _ => some c
  | _ => none

/-- The program has returned or raised. -/
def finished : Prog E C R α → Bool
  | .call _ _ => false
  | _ => true

section Exec

variable {σ : Type} (perform : σ → (c : C) → Option (Except E (R c) × σ))

/-- Run the whole program on a state that nothing else changes. -/
def exec : Prog E C R α → σ → Option (Except E α × σ)
  | .ret value, state => some (.ok value, state)
  | .raise error, state => some (.error error, state)
  | .call c resume, state => (perform state c).bind fun (reply, after) => exec (resume reply) after

variable {perform}

/-- A program that makes a call runs on with the answer. -/
theorem exec_call {c : C} {resume : Except E (R c) → Prog E C R α} {state after : σ}
    {reply : Except E (R c)} (h : perform state c = some (reply, after)) :
    (Prog.call c resume).exec perform state = (resume reply).exec perform after := by
  rw [exec, h, Option.bind_some]

/-- After a part that returned, the rest of the program runs. -/
theorem exec_bind {p : Prog E C R α} {f : α → Prog E C R β} {state after : σ} {value : α}
    (h : p.exec perform state = some (.ok value, after)) :
    (p >>= f).exec perform state = (f value).exec perform after := by
  induction p generalizing state with
  | ret result =>
      cases h
      rfl
  | raise error => cases h
  | call c resume ih =>
      obtain ⟨⟨reply, next⟩, hreply, hrest⟩ := Option.bind_eq_some_iff.mp h
      rw [call_bind, exec_call hreply]
      exact ih reply hrest

/-- After a part that raised, the rest of the program does not run. -/
theorem exec_bind_error {p : Prog E C R α} {f : α → Prog E C R β} {state after : σ} {error : E}
    (h : p.exec perform state = some (.error error, after)) :
    (p >>= f).exec perform state = some (.error error, after) := by
  induction p generalizing state with
  | ret result => cases h
  | raise error' =>
      cases h
      rfl
  | call c resume ih =>
      obtain ⟨⟨reply, next⟩, hreply, hrest⟩ := Option.bind_eq_some_iff.mp h
      rw [call_bind, exec_call hreply]
      exact ih reply hrest

/-- A program that returned did not need its handler. -/
theorem exec_tryCatch {p : Prog E C R α} {handler : E → Prog E C R α} {state after : σ} {value : α}
    (h : p.exec perform state = some (.ok value, after)) :
    (MonadExcept.tryCatch p handler).exec perform state = some (.ok value, after) := by
  induction p generalizing state with
  | ret result => exact h
  | raise error => cases h
  | call c resume ih =>
      obtain ⟨⟨reply, next⟩, hreply, hrest⟩ := Option.bind_eq_some_iff.mp h
      rw [call_tryCatch, exec_call hreply]
      exact ih reply hrest

/-- After a program that raised, its handler runs. -/
theorem exec_tryCatch_error {p : Prog E C R α} {handler : E → Prog E C R α} {state after : σ}
    {error : E} (h : p.exec perform state = some (.error error, after)) :
    (MonadExcept.tryCatch p handler).exec perform state = (handler error).exec perform after := by
  induction p generalizing state with
  | ret result => cases h
  | raise error' =>
      cases h
      rfl
  | call c resume ih =>
      obtain ⟨⟨reply, next⟩, hreply, hrest⟩ := Option.bind_eq_some_iff.mp h
      rw [call_tryCatch, exec_call hreply]
      exact ih reply hrest

/-- A sequence that ran: its first part raised, or it returned and the rest ran. -/
theorem of_exec_bind {p : Prog E C R α} {f : α → Prog E C R β} {state after : σ}
    {outcome : Except E β} (h : (p >>= f).exec perform state = some (outcome, after)) :
    (∃ value between, p.exec perform state = some (.ok value, between) ∧
      (f value).exec perform between = some (outcome, after)) ∨
    ∃ error, p.exec perform state = some (.error error, after) ∧ outcome = .error error := by
  induction p generalizing state with
  | ret value => exact .inl ⟨value, state, rfl, h⟩
  | raise error =>
      cases h
      exact .inr ⟨error, rfl, rfl⟩
  | call c resume ih =>
      obtain ⟨⟨reply, next⟩, hreply, hrest⟩ := Option.bind_eq_some_iff.mp h
      rw [exec_call hreply]
      exact ih reply hrest

/-- A handled program that ran: it returned, or it raised and its handler ran. -/
theorem of_exec_tryCatch {p : Prog E C R α} {handler : E → Prog E C R α} {state after : σ}
    {outcome : Except E α}
    (h : (MonadExcept.tryCatch p handler).exec perform state = some (outcome, after)) :
    (∃ value, p.exec perform state = some (.ok value, after) ∧ outcome = .ok value) ∨
    ∃ error between, p.exec perform state = some (.error error, between) ∧
      (handler error).exec perform between = some (outcome, after) := by
  induction p generalizing state with
  | ret value =>
      cases h
      exact .inl ⟨value, rfl, rfl⟩
  | raise error => exact .inr ⟨error, state, rfl, h⟩
  | call c resume ih =>
      obtain ⟨⟨reply, next⟩, hreply, hrest⟩ := Option.bind_eq_some_iff.mp h
      rw [exec_call hreply]
      exact ih reply hrest

/-- A finished program that ran: what it is finished with ran on its outcome. -/
theorem of_exec_finish {p : Prog E C R α} {f : Except E α → Prog E C R β} {state after : σ}
    {outcome : Except E β} (h : (p.finish f).exec perform state = some (outcome, after)) :
    ∃ first between, p.exec perform state = some (first, between) ∧
      (f first).exec perform between = some (outcome, after) := by
  induction p generalizing state with
  | ret value => exact ⟨.ok value, state, rfl, h⟩
  | raise error => exact ⟨.error error, state, rfl, h⟩
  | call c resume ih =>
      obtain ⟨⟨reply, next⟩, hreply, hrest⟩ := Option.bind_eq_some_iff.mp h
      obtain ⟨first, between, hfirst, hsecond⟩ := ih reply hrest
      refine ⟨first, between, ?_, hsecond⟩
      rw [exec_call hreply]
      exact hfirst

/-- A program whose errors are swallowed returns. -/
theorem exec_swallow {p : Prog E C R Unit} {state after : σ} {outcome : Except E Unit}
    (h : p.exec perform state = some (outcome, after)) :
    (MonadExcept.tryCatch p fun _ => .ret ()).exec perform state = some (.ok (), after) := by
  cases outcome with
  | ok value => exact exec_tryCatch h
  | error error => exact exec_tryCatch_error h

/-- Where every call is answered, every program runs to its end. -/
theorem exists_exec (hanswered : ∀ state c, ∃ reply after, perform state c = some (reply, after))
    (p : Prog E C R α) (state : σ) :
    ∃ outcome after, p.exec perform state = some (outcome, after) := by
  induction p generalizing state with
  | ret value => exact ⟨_, _, rfl⟩
  | raise error => exact ⟨_, _, rfl⟩
  | call c resume ih =>
      obtain ⟨reply, next, hreply⟩ := hanswered state c
      rw [exec_call hreply]
      exact ih reply next

/-- One call ends with its answer. -/
theorem exec_perform {c : C} {state after : σ} {reply : Except E (R c)}
    (h : perform state c = some (reply, after)) :
    (Prog.perform c).exec perform state = some (reply, after) := by
  rw [Prog.perform, exec_call h]
  cases reply <;> rfl

/-- What one call ended with is its answer. -/
theorem of_exec_perform {c : C} {state after : σ} {outcome : Except E (R c)}
    (h : (Prog.perform c).exec perform state = some (outcome, after)) :
    perform state c = some (outcome, after) := by
  obtain ⟨⟨reply, next⟩, hreply, hrest⟩ := Option.bind_eq_some_iff.mp h
  rw [hreply]
  cases reply with
  | ok result => exact hrest
  | error error => exact hrest

end Exec

section Next

variable {σ ι : Type} (handle : ι → σ → (c : C) → Option (Except E (R c) × σ))

/-- Perform the first call on the shared state; the environment's choice decides the answer. -/
def next (choice : ι) (state : σ) : Prog E C R α → Option (Prog E C R α × σ)
  | .call c resume => (handle choice state c).map fun (reply, after) => (resume reply, after)
  | _ => none

variable {handle}

/-- A step of a program is the answer to its first call. -/
theorem next_eq_some_iff {choice : ι} {state after : σ} {p q : Prog E C R α} :
    p.next handle choice state = some (q, after) ↔
      ∃ c resume reply, p = .call c resume ∧ handle choice state c = some (reply, after) ∧
        q = resume reply := by
  cases p with
  | ret value => simp [next]
  | raise error => simp [next]
  | call c resume =>
      simp only [next, Option.map_eq_some_iff, Prod.mk.injEq, Prod.exists, call.injEq]
      constructor
      · rintro ⟨reply, _, hhandle, rfl, rfl⟩
        exact ⟨c, resume, reply, ⟨rfl, HEq.rfl⟩, hhandle, rfl⟩
      · rintro ⟨c', resume', reply, ⟨rfl, hresume⟩, hhandle, rfl⟩
        cases hresume
        exact ⟨reply, after, hhandle, rfl, rfl⟩

variable (handle) (allowed : ι → Prop) (rely : σ → σ → Prop)

/-- Whatever the environment does before each call, within `rely`, and whatever allowed answers
the calls get, the program returns, and `post` holds of its result and of the state it ends in. -/
def Wp (post : α → σ → Prop) : Prog E C R α → σ → Prop
  | .ret value, state => post value state
  | .raise _, _ => False
  | .call c resume, state => ∀ before, Relation.ReflTransGen rely state before →
      ∀ choice reply after, allowed choice → handle choice before c = some (reply, after) →
        Wp post (resume reply) after

variable {handle allowed rely}

/-- A condition that the environment keeps. -/
def Stable (rely : σ → σ → Prop) (P : σ → Prop) : Prop := ∀ s s', P s → rely s s' → P s'

/-- A stable condition holds after any moves of the environment. -/
theorem Stable.star {P : σ → Prop} (hstable : Stable rely P) {s s' : σ} (hP : P s)
    (hmoves : Relation.ReflTransGen rely s s') : P s' := by
  induction hmoves with
  | refl => exact hP
  | tail _ hmove ih => exact hstable _ _ ih hmove

/-- One call: a stable condition holds before it, no allowed answer is an error, and every result
gives what is wanted after it. -/
theorem wp_perform {c : C} {post : R c → σ → Prop} {state : σ} {P : σ → Prop}
    (hstable : Stable rely P) (hP : P state)
    (hcall : ∀ before choice reply after, P before → allowed choice →
      handle choice before c = some (reply, after) →
        ∃ result, reply = .ok result ∧ post result after) :
    Wp handle allowed rely post (perform c) state := by
  intro before hmoves choice reply after hallowed hhandle
  obtain ⟨result, rfl, hpost⟩ :=
    hcall before choice reply after (hstable.star hP hmoves) hallowed hhandle
  exact hpost

/-- What holds at the end of a program may be weakened. -/
theorem Wp.mono {post post' : α → σ → Prop} {p : Prog E C R α} {state : σ}
    (h : Wp handle allowed rely post p state) (himp : ∀ value s, post value s → post' value s) :
    Wp handle allowed rely post' p state := by
  induction p generalizing state with
  | ret value => exact himp _ _ h
  | raise error => exact h
  | call c resume ih =>
      intro before hmoves choice reply after hallowed hhandle
      exact ih reply (h before hmoves choice reply after hallowed hhandle)

/-- An environment that can do less is no hindrance. -/
theorem Wp.anti {rely' : σ → σ → Prop} {post : α → σ → Prop} {p : Prog E C R α} {state : σ}
    (h : Wp handle allowed rely post p state) (himp : ∀ s s', rely' s s' → rely s s') :
    Wp handle allowed rely' post p state := by
  induction p generalizing state with
  | ret value => exact h
  | raise error => exact h
  | call c resume ih =>
      intro before hmoves choice reply after hallowed hhandle
      have hmoves' := Relation.ReflTransGen.mono himp _ _ hmoves
      exact ih reply (h before hmoves' choice reply after hallowed hhandle)

/-- A sequence: the first part ends where the second may start. -/
theorem wp_bind {post : β → σ → Prop} {p : Prog E C R α} {f : α → Prog E C R β} {state : σ}
    (h : Wp handle allowed rely (fun value s => Wp handle allowed rely post (f value) s) p state) :
    Wp handle allowed rely post (p >>= f) state := by
  induction p generalizing state with
  | ret value => exact h
  | raise error => exact h
  | call c resume ih =>
      intro before hmoves choice reply after hallowed hhandle
      exact ih reply (h before hmoves choice reply after hallowed hhandle)

/-- A program that does not raise needs no handler. -/
theorem wp_tryCatch {post : α → σ → Prop} {p : Prog E C R α} {handler : E → Prog E C R α}
    {state : σ} (h : Wp handle allowed rely post p state) :
    Wp handle allowed rely post (MonadExcept.tryCatch p handler) state := by
  induction p generalizing state with
  | ret value => exact h
  | raise error => exact h.elim
  | call c resume ih =>
      intro before hmoves choice reply after hallowed hhandle
      exact ih reply (h before hmoves choice reply after hallowed hhandle)

/-- The step of a program under its condition leads to the rest of it under its own. -/
theorem Wp.next {post : α → σ → Prop} {p q : Prog E C R α} {choice : ι} {state after : σ}
    (h : Wp handle allowed rely post p state) (hallowed : allowed choice)
    (hnext : p.next handle choice state = some (q, after)) :
    Wp handle allowed rely post q after := by
  obtain ⟨c, resume, reply, rfl, hhandle, rfl⟩ := next_eq_some_iff.mp hnext
  exact h state .refl choice reply after hallowed hhandle

/-- A move of the environment before the end keeps the condition; at the end it has to keep what is
wanted there. -/
theorem Wp.move {post : α → σ → Prop} {p : Prog E C R α} {state after : σ}
    (h : Wp handle allowed rely post p state) (hmove : rely state after)
    (hpost : ∀ value, Stable rely (post value)) : Wp handle allowed rely post p after := by
  cases p with
  | ret value => exact hpost value _ _ h hmove
  | raise error => exact h
  | call c resume =>
      intro before hmoves choice reply after' hallowed hhandle
      exact h before (.head hmove hmoves) choice reply after' hallowed hhandle

end Next

section Carried

variable {ν : Type} {reads : C → Prop} {sends : C → ν → Prop}
  {reports : (c : C) → Except E (R c) → ν → Prop}

/-- The program may send the value before it reads again. -/
inductive Carries (reads : C → Prop) (sends : C → ν → Prop) (value : ν) :
    Prog E C R α → Prop where
  | here {c : C} {resume : Except E (R c) → Prog E C R α} :
      sends c value → Carries reads sends value (.call c resume)
  | later {c : C} {resume : Except E (R c) → Prog E C R α} (reply : Except E (R c)) :
      ¬reads c → Carries reads sends value (resume reply) →
        Carries reads sends value (.call c resume)

/-- Every value the program carries after a read is one that the read reported. -/
def Fresh (reads : C → Prop) (sends : C → ν → Prop)
    (reports : (c : C) → Except E (R c) → ν → Prop) : Prog E C R α → Prop
  | .call c resume => ∀ reply,
      (reads c → ∀ value, Carries reads sends value (resume reply) → reports c reply value) ∧
        Fresh reads sends reports (resume reply)
  | _ => True

/-- Every call of the program satisfies `P`. -/
def AllCalls (P : C → Prop) : Prog E C R α → Prop
  | .call c resume => P c ∧ ∀ reply, AllCalls P (resume reply)
  | _ => True

/-- A program that has returned carries nothing. -/
@[simp] theorem not_carries_ret {value : ν} {result : α} :
    ¬Carries reads sends value (.ret result : Prog E C R α) := by
  intro h
  cases h

/-- A program that has raised carries nothing. -/
@[simp] theorem not_carries_raise {value : ν} {error : E} :
    ¬Carries reads sends value (.raise error : Prog E C R α) := by
  intro h
  cases h

/-- A program that starts with a read carries only what that very call sends. -/
theorem sends_of_carries_reads {value : ν} {c : C} {resume : Except E (R c) → Prog E C R α}
    (h : Carries reads sends value (.call c resume)) (hreads : reads c) : sends c value := by
  cases h with
  | here hsends => exact hsends
  | later _ hno _ => exact absurd hreads hno

/-- A sequence carries what its parts carry. -/
theorem Carries.of_bind {value : ν} {p : Prog E C R α} {f : α → Prog E C R β}
    (h : Carries reads sends value (p >>= f)) :
    Carries reads sends value p ∨ ∃ result, Carries reads sends value (f result) := by
  induction p with
  | ret result => exact .inr ⟨result, h⟩
  | raise error => exact absurd h not_carries_raise
  | call c resume ih =>
      cases h with
      | here hsends => exact .inl (.here hsends)
      | later reply hno hrest =>
          obtain hfirst | hsecond := ih reply hrest
          · exact .inl (.later reply hno hfirst)
          · exact .inr hsecond

/-- A handled program carries what it and its handler carry. -/
theorem Carries.of_tryCatch {value : ν} {p : Prog E C R α} {handler : E → Prog E C R α}
    (h : Carries reads sends value (MonadExcept.tryCatch p handler)) :
    Carries reads sends value p ∨ ∃ error, Carries reads sends value (handler error) := by
  induction p with
  | ret result => exact absurd h not_carries_ret
  | raise error => exact .inr ⟨error, h⟩
  | call c resume ih =>
      cases h with
      | here hsends => exact .inl (.here hsends)
      | later reply hno hrest =>
          obtain hfirst | hsecond := ih reply hrest
          · exact .inl (.later reply hno hfirst)
          · exact .inr hsecond

/-- A sequence is fresh when its parts are and the second one starts carrying nothing. -/
theorem Fresh.bind {p : Prog E C R α} {f : α → Prog E C R β}
    (hp : Fresh reads sends reports p) (hf : ∀ result, Fresh reads sends reports (f result))
    (hstart : ∀ result value, ¬Carries reads sends value (f result)) :
    Fresh reads sends reports (p >>= f) := by
  induction p with
  | ret result => exact hf result
  | raise error => trivial
  | call c resume ih =>
      intro reply
      refine ⟨fun hreads value hcarries => ?_, ih reply (hp reply).2⟩
      obtain hfirst | ⟨result, hsecond⟩ := hcarries.of_bind
      · exact (hp reply).1 hreads value hfirst
      · exact absurd hsecond (hstart result value)

/-- A handled program is fresh when it and its handler are and the handler starts carrying
nothing. -/
theorem Fresh.tryCatch {p : Prog E C R α} {handler : E → Prog E C R α}
    (hp : Fresh reads sends reports p)
    (hhandler : ∀ error, Fresh reads sends reports (handler error))
    (hstart : ∀ error value, ¬Carries reads sends value (handler error)) :
    Fresh reads sends reports (MonadExcept.tryCatch p handler) := by
  induction p with
  | ret result => trivial
  | raise error => exact hhandler error
  | call c resume ih =>
      intro reply
      refine ⟨fun hreads value hcarries => ?_, ih reply (hp reply).2⟩
      obtain hfirst | ⟨error, hsecond⟩ := hcarries.of_tryCatch
      · exact (hp reply).1 hreads value hfirst
      · exact absurd hsecond (hstart error value)

/-- One call satisfies what its only call does. -/
theorem AllCalls.perform {P : C → Prop} {c : C} (h : P c) :
    AllCalls P (Prog.perform c : Prog E C R (R c)) := by
  refine ⟨h, fun reply => ?_⟩
  cases reply <;> trivial

/-- The next call of a program is one of its calls. -/
theorem AllCalls.first {P : C → Prop} {p : Prog E C R α} {c : C} (hp : AllCalls P p)
    (hfirst : p.firstCall = some c) : P c := by
  cases p with
  | ret value => cases hfirst
  | raise error => cases hfirst
  | call c' resume =>
      cases hfirst
      exact hp.1

/-- The calls after a step are calls of the program. -/
theorem AllCalls.next {σ ι : Type} {handle : ι → σ → (c : C) → Option (Except E (R c) × σ)}
    {P : C → Prop} {p q : Prog E C R α} {choice : ι} {state after : σ} (hp : AllCalls P p)
    (hnext : p.next handle choice state = some (q, after)) : AllCalls P q := by
  obtain ⟨c, resume, reply, rfl, -, rfl⟩ := next_eq_some_iff.mp hnext
  exact hp.2 reply

/-- The calls of a sequence are those of its parts. -/
theorem AllCalls.bind {P : C → Prop} {p : Prog E C R α} {f : α → Prog E C R β}
    (hp : AllCalls P p) (hf : ∀ result, AllCalls P (f result)) : AllCalls P (p >>= f) := by
  induction p with
  | ret result => exact hf result
  | raise error => trivial
  | call c resume ih => exact ⟨hp.1, fun reply => ih reply (hp.2 reply)⟩

/-- The calls of a handled program are its own and those of its handler. -/
theorem AllCalls.tryCatch {P : C → Prop} {p : Prog E C R α} {handler : E → Prog E C R α}
    (hp : AllCalls P p) (hhandler : ∀ error, AllCalls P (handler error)) :
    AllCalls P (MonadExcept.tryCatch p handler) := by
  induction p with
  | ret result => trivial
  | raise error => exact hhandler error
  | call c resume ih => exact ⟨hp.1, fun reply => ih reply (hp.2 reply)⟩

/-- The calls of a finished program are its own and those of what it is finished with. -/
theorem AllCalls.finish {P : C → Prop} {p : Prog E C R α} {f : Except E α → Prog E C R β}
    (hp : AllCalls P p) (hf : ∀ outcome, AllCalls P (f outcome)) : AllCalls P (p.finish f) := by
  induction p with
  | ret result => exact hf (.ok result)
  | raise error => exact hf (.error error)
  | call c resume ih => exact ⟨hp.1, fun reply => ih reply (hp.2 reply)⟩

/-- A condition on the calls of a program may be replaced by a weaker one. -/
theorem AllCalls.mono {P Q : C → Prop} {p : Prog E C R α} (hp : AllCalls P p)
    (himp : ∀ c, P c → Q c) : AllCalls Q p := by
  induction p with
  | ret result => trivial
  | raise error => trivial
  | call c resume ih => exact ⟨himp c hp.1, fun reply => ih reply (hp.2 reply)⟩

/-- A program that sends nothing carries nothing. -/
theorem not_carries_of_allCalls {value : ν} {p : Prog E C R α}
    (hp : AllCalls (fun c => ¬sends c value) p) : ¬Carries reads sends value p := by
  intro h
  induction h with
  | here hsends => exact hp.1 hsends
  | later reply _ _ ih => exact ih (hp.2 reply)

/-- A program that reads nothing is fresh. -/
theorem Fresh.of_quiet {p : Prog E C R α} (hp : AllCalls (fun c => ¬reads c) p) :
    Fresh reads sends reports p := by
  induction p with
  | ret result => trivial
  | raise error => trivial
  | call c resume ih =>
      intro reply
      exact ⟨fun hreads => absurd hreads hp.1, ih reply (hp.2 reply)⟩

end Carried

/-- Every value that the program can return has the property, whatever it is answered. -/
def Returns (Q : α → Prop) : Prog E C R α → Prop
  | .ret value => Q value
  | .raise _ => True
  | .call _ resume => ∀ reply, Returns Q (resume reply)

/-- A sequence returns what its second part returns. -/
theorem Returns.bind {P : α → Prop} {Q : β → Prop} {p : Prog E C R α} {f : α → Prog E C R β}
    (hp : Returns P p) (hf : ∀ value, P value → Returns Q (f value)) : Returns Q (p >>= f) := by
  induction p with
  | ret value => exact hf value hp
  | raise error => trivial
  | call c resume ih => exact fun reply => ih reply (hp reply)

/-- Every program returns something. -/
theorem returns_true (p : Prog E C R α) : Returns (fun _ => True) p := by
  induction p with
  | ret value => trivial
  | raise error => trivial
  | call c resume ih => exact ih

/-- A finished program returns what it is finished with. -/
theorem Returns.finish {Q : β → Prop} {p : Prog E C R α} {f : Except E α → Prog E C R β}
    (hf : ∀ outcome, Returns Q (f outcome)) : Returns Q (p.finish f) := by
  induction p with
  | ret value => exact hf _
  | raise error => exact hf _
  | call c resume ih => exact fun reply => ih reply

section Returned

variable {σ : Type} {perform : σ → (c : C) → Option (Except E (R c) × σ)} {state after : σ}

/-- What a run returned is something that the program can return. -/
theorem Returns.of_exec {Q : α → Prop} {p : Prog E C R α} {value : α} (hp : Returns Q p)
    (h : p.exec perform state = some (.ok value, after)) : Q value := by
  induction p generalizing state with
  | ret result =>
      cases h
      exact hp
  | raise error => cases h
  | call c resume ih =>
      obtain ⟨⟨reply, next⟩, -, hrest⟩ := Option.bind_eq_some_iff.mp h
      exact ih reply (hp reply) hrest

/-- The program never returns. -/
abbrev Raises (p : Prog E C R α) : Prop := Returns (fun _ => False) p

/-- A sequence never returns where its second part never does. -/
theorem raises_bind {p : Prog E C R α} {f : α → Prog E C R β} (hf : ∀ value, Raises (f value)) :
    Raises (p >>= f) := Returns.bind (returns_true p) fun value _ => hf value

/-- A sequence that returned: both parts did. -/
theorem of_exec_bind_ok {p : Prog E C R α} {f : α → Prog E C R β} {value : β}
    (h : (p >>= f).exec perform state = some (.ok value, after)) :
    ∃ first between, p.exec perform state = some (.ok first, between) ∧
      (f first).exec perform between = some (.ok value, after) := by
  rcases of_exec_bind h with hok | ⟨error, -, herror⟩
  · exact hok
  · cases herror

/-- A program that returned although its handler never does. -/
theorem of_exec_tryCatch_raises {p : Prog E C R α} {handler : E → Prog E C R α} {value : α}
    (hhandler : ∀ error, Raises (handler error))
    (h : (MonadExcept.tryCatch p handler).exec perform state = some (.ok value, after)) :
    p.exec perform state = some (.ok value, after) := by
  rcases of_exec_tryCatch h with ⟨result, hp, heq⟩ | ⟨error, between, -, hraised⟩
  · cases heq
    exact hp
  · exact absurd (Returns.of_exec (hhandler error) hraised) id

/-- What every call of a program keeps, the run of the program keeps. -/
theorem exec_invariant {I : σ → Prop} {p : Prog E C R α} {outcome : Except E α}
    (hp : p.AllCalls fun c => ∀ state reply after, I state →
      perform state c = some (reply, after) → I after)
    (h : p.exec perform state = some (outcome, after)) (hI : I state) : I after := by
  induction p generalizing state with
  | ret value =>
      cases h
      exact hI
  | raise error =>
      cases h
      exact hI
  | call c resume ih =>
      obtain ⟨⟨reply, next⟩, hreply, hrest⟩ := Option.bind_eq_some_iff.mp h
      exact ih reply (hp.2 reply) hrest (hp.1 _ _ _ hI hreply)

end Returned

end Prog

end XcpCephRbd
