import Mathlib.Data.List.Basic
import Mathlib.Tactic.Common

/-!
# Runs of labelled partial steps

A system is given by a step function `step : σ → α → Option σ`. The label `α` carries
everything the environment decides (which process moves, what a call answers), so a list of
labels determines the run. `run` executes such a list, `Along` says that a condition on the
state before each step holds at every step of it, and `run_invariant` is the induction every
safety result goes through: an invariant that the steps meeting the condition preserve holds
in the state the run reaches. Every prefix of a run is a run, so a statement about the state
a run reaches is a statement about every state along it.
-/

namespace XcpCephRbd.Run

variable {σ α : Type*} {step : σ → α → Option σ}

/-- Execute the labels in order; a step that is not enabled stops the run. -/
def run (step : σ → α → Option σ) : σ → List α → Option σ
  | state, [] => some state
  | state, label :: rest => step state label >>= fun next => run step next rest

/-- The condition `guard` holds of the state before each step of the run and of its label. -/
def Along (step : σ → α → Option σ) (guard : σ → α → Prop) : σ → List α → Prop
  | _, [] => True
  | state, label :: rest =>
      guard state label ∧ ∀ next, step state label = some next → Along step guard next rest

@[simp] theorem run_nil (state : σ) : run step state [] = some state := rfl

/-- The first step of a nonempty run and the run that remains. -/
theorem run_cons_iff {state final : σ} {label : α} {rest : List α} :
    run step state (label :: rest) = some final ↔
      ∃ next, step state label = some next ∧ run step next rest = some final :=
  Option.bind_eq_some_iff

/-- A run of an appended list splits at the state between the two parts. -/
theorem run_append_iff {state final : σ} {first second : List α} :
    run step state (first ++ second) = some final ↔
      ∃ middle, run step state first = some middle ∧ run step middle second = some final := by
  induction first generalizing state with
  | nil => simp
  | cons label rest ih =>
      simp only [List.cons_append, run_cons_iff, ih]
      constructor
      · rintro ⟨next, hstep, middle, hfirst, hsecond⟩
        exact ⟨middle, ⟨next, hstep, hfirst⟩, hsecond⟩
      · rintro ⟨middle, ⟨next, hstep, hfirst⟩, hsecond⟩
        exact ⟨next, hstep, middle, hfirst, hsecond⟩

/-- A condition along an appended run holds along its second part. -/
theorem Along.append_right {guard : σ → α → Prop} {state middle : σ} {first second : List α}
    (h : Along step guard state (first ++ second))
    (hrun : run step state first = some middle) : Along step guard middle second := by
  induction first generalizing state with
  | nil =>
      cases hrun
      exact h
  | cons label rest ih =>
      obtain ⟨next, hstep, hrest⟩ := run_cons_iff.mp hrun
      exact ih (h.2 next hstep) hrest

/-- A condition along an appended run holds along its first part. -/
theorem Along.append_left {guard : σ → α → Prop} {state : σ} {first second : List α}
    (h : Along step guard state (first ++ second)) : Along step guard state first := by
  induction first generalizing state with
  | nil => trivial
  | cons label rest ih => exact ⟨h.1, fun next hstep => ih (h.2 next hstep)⟩

/-- A condition along a run may be replaced by a weaker one. -/
theorem Along.mono {guard guard' : σ → α → Prop} {state : σ} {labels : List α}
    (h : Along step guard state labels)
    (himp : ∀ state label, guard state label → guard' state label) :
    Along step guard' state labels := by
  induction labels generalizing state with
  | nil => trivial
  | cons label rest ih => exact ⟨himp state label h.1, fun next hnext => ih (h.2 next hnext)⟩

/-- Two conditions along a run hold together. -/
theorem Along.and {guard guard' : σ → α → Prop} {state : σ} {labels : List α}
    (h : Along step guard state labels) (h' : Along step guard' state labels) :
    Along step (fun state label => guard state label ∧ guard' state label) state labels := by
  induction labels generalizing state with
  | nil => trivial
  | cons label rest ih =>
      exact ⟨⟨h.1, h'.1⟩, fun next hnext => ih (h.2 next hnext) (h'.2 next hnext)⟩

/-- An invariant preserved by every step that meets the condition holds where the run ends. -/
theorem run_invariant {guard : σ → α → Prop} {inv : σ → Prop}
    (hstep : ∀ state label next, inv state → guard state label →
      step state label = some next → inv next)
    {state final : σ} {labels : List α} (hinit : inv state)
    (hguard : Along step guard state labels) (hrun : run step state labels = some final) :
    inv final := by
  induction labels generalizing state with
  | nil =>
      cases hrun
      exact hinit
  | cons label rest ih =>
      obtain ⟨next, hfirst, hrest⟩ := run_cons_iff.mp hrun
      exact ih (hstep state label next hinit hguard.1 hfirst) (hguard.2 next hfirst) hrest

/-- A condition along a run together with an invariant of it gives what the two imply at each
step. -/
theorem Along.of_invariant {guard guard' : σ → α → Prop} {inv : σ → Prop} {state : σ}
    {labels : List α} (h : Along step guard state labels) (hinit : inv state)
    (hstep : ∀ state label next, inv state → guard state label →
      step state label = some next → inv next)
    (himp : ∀ state label, inv state → guard state label → guard' state label) :
    Along step guard' state labels := by
  induction labels generalizing state with
  | nil => trivial
  | cons label rest ih =>
      exact ⟨himp state label hinit h.1,
        fun next hnext => ih (h.2 next hnext) (hstep state label next hinit h.1 hnext)⟩

/-- A condition on the labels alone holds along every run over them. -/
theorem along_of_forall {allowed : α → Prop} {state : σ} {labels : List α}
    (h : ∀ label ∈ labels, allowed label) :
    Along step (fun _ label => allowed label) state labels := by
  induction labels generalizing state with
  | nil => trivial
  | cons label rest ih =>
      exact ⟨h label List.mem_cons_self, fun _ _ => ih fun l hl => h l (List.mem_cons_of_mem _ hl)⟩

/-- Along every run what is always true holds. -/
theorem along_true (state : σ) (labels : List α) : Along step (fun _ _ => True) state labels :=
  along_of_forall fun _ _ => trivial

/-- A relation that two steps with the same label preserve relates where two runs over the same
labels end. -/
theorem run_relation {rel : σ → σ → Prop} {allowed : α → Prop}
    (hstep : ∀ state other label next next', rel state other → allowed label →
      step state label = some next → step other label = some next' → rel next next')
    {state other final final' : σ} {labels : List α} (hinit : rel state other)
    (hallowed : ∀ label ∈ labels, allowed label) (hrun : run step state labels = some final)
    (hrun' : run step other labels = some final') : rel final final' := by
  induction labels generalizing state other with
  | nil =>
      cases hrun
      cases hrun'
      exact hinit
  | cons label rest ih =>
      obtain ⟨next, hfirst, hrest⟩ := run_cons_iff.mp hrun
      obtain ⟨next', hfirst', hrest'⟩ := run_cons_iff.mp hrun'
      have hlabel := hallowed label List.mem_cons_self
      exact ih (hstep state other label next next' hinit hlabel hfirst hfirst')
        (fun l hl => hallowed l (List.mem_cons_of_mem _ hl)) hrest hrest'

/-- **Stuttering simulation.** Where each step of one system is a step of the other under the same
label, or one the other does not see, every run of the first is matched by a run of the second over
some of its labels. -/
theorem run_simulation {τ : Type*} {step' : τ → α → Option τ} {rel : σ → τ → Prop}
    (hstep : ∀ state other label next, rel state other → step state label = some next →
      rel next other ∨ ∃ next', step' other label = some next' ∧ rel next next')
    {state final : σ} {other : τ} {labels : List α} (hinit : rel state other)
    (hrun : run step state labels = some final) :
    ∃ labels' final', labels'.Sublist labels ∧ run step' other labels' = some final' ∧
      rel final final' := by
  induction labels generalizing state other with
  | nil =>
      cases hrun
      exact ⟨[], other, List.Sublist.refl [], rfl, hinit⟩
  | cons label rest ih =>
      obtain ⟨next, hfirst, hrest⟩ := run_cons_iff.mp hrun
      rcases hstep state other label next hinit hfirst with hstutter | ⟨next', hmatch, hrel⟩
      · obtain ⟨labels', final', hsub, hrun', hfinal⟩ := ih hstutter hrest
        exact ⟨labels', final', hsub.cons label, hrun', hfinal⟩
      · obtain ⟨labels', final', hsub, hrun', hfinal⟩ := ih hrel hrest
        exact ⟨label :: labels', final', hsub.cons_cons label,
          run_cons_iff.mpr ⟨next', hmatch, hrun'⟩, hfinal⟩

/-- A condition along a run, told from a property of states that a step keeps exactly where it meets
the condition. -/
theorem along_iff {guard : σ → α → Prop} {good : σ → Prop}
    (hstep : ∀ state label next, step state label = some next →
      (good next ↔ good state ∧ guard state label)) {state final : σ} {labels : List α}
    (hrun : run step state labels = some final) :
    good final ↔ good state ∧ Along step guard state labels := by
  induction labels generalizing state with
  | nil =>
      cases hrun
      simp [Along]
  | cons label rest ih =>
      obtain ⟨next, hfirst, hrest⟩ := run_cons_iff.mp hrun
      rw [ih hrest, hstep state label next hfirst, and_assoc]
      refine and_congr_right fun _ => and_congr_right fun _ =>
        ⟨fun h other hother => ?_, fun h => ?_⟩
      · cases hfirst.symm.trans hother
        exact h
      · exact h next hfirst

/-- Where a step from a good state leads to a good one just where it meets the condition, every
state of a run is good just where the condition holds along it. -/
theorem prefixes_iff_along {guard : σ → α → Prop} {inv good : σ → Prop}
    (hstep : ∀ state label next, inv state → good state → step state label = some next →
      inv next ∧ (good next ↔ guard state label)) {state final : σ} {labels : List α}
    (hinv : inv state) (hgood : good state) (hrun : run step state labels = some final) :
    (∀ first middle, first <+: labels → run step state first = some middle → good middle) ↔
      Along step guard state labels := by
  induction labels generalizing state with
  | nil =>
      refine ⟨fun _ => trivial, fun _ first middle hprefix hfirst => ?_⟩
      obtain rfl := List.prefix_nil.mp hprefix
      cases hfirst
      exact hgood
  | cons label rest ih =>
      obtain ⟨next, hnext, hrest⟩ := run_cons_iff.mp hrun
      obtain ⟨hinv', hiff⟩ := hstep state label next hinv hgood hnext
      constructor
      · intro hall
        have hgood' : good next := by
          refine hall [label] next (List.prefix_append [label] rest) ?_
          exact run_cons_iff.mpr ⟨next, hnext, rfl⟩
        refine ⟨hiff.mp hgood', fun other hother => ?_⟩
        cases hnext.symm.trans hother
        refine (ih hinv' hgood' hrest).mp fun first middle hprefix hfirst => ?_
        exact hall (label :: first) middle ((List.prefix_cons_inj label).mpr hprefix)
          (run_cons_iff.mpr ⟨next, hnext, hfirst⟩)
      · intro halong first middle hprefix hfirst
        have hgood' : good next := hiff.mpr halong.1
        cases first with
        | nil =>
            cases hfirst
            exact hgood
        | cons label' first =>
            obtain ⟨rfl, hprefix'⟩ := List.cons_prefix_cons.mp hprefix
            obtain ⟨next', hnext', hfirst'⟩ := run_cons_iff.mp hfirst
            cases hnext.symm.trans hnext'
            exact (ih hinv' hgood' hrest).mpr (halong.2 next hnext) first middle hprefix' hfirst'

/-- Execute the labels as `run` does, stopping where the condition fails. -/
def checked (step : σ → α → Option σ) (guard : σ → α → Prop)
    [∀ state label, Decidable (guard state label)] : σ → List α → Option σ
  | state, [] => some state
  | state, label :: rest =>
      if guard state label then step state label >>= fun next => checked step guard next rest
      else none

/-- A checked execution is a run along which the condition holds. -/
theorem run_of_checked {guard : σ → α → Prop} [∀ state label, Decidable (guard state label)]
    {state final : σ} {labels : List α} (h : checked step guard state labels = some final) :
    run step state labels = some final ∧ Along step guard state labels := by
  induction labels generalizing state with
  | nil => exact ⟨h, trivial⟩
  | cons label rest ih =>
      simp only [checked, Option.ite_none_right_eq_some, bind, Option.bind_eq_some_iff] at h
      obtain ⟨hguard, next, hstep, hrest⟩ := h
      obtain ⟨hrun, halong⟩ := ih hrest
      refine ⟨run_cons_iff.mpr ⟨next, hstep, hrun⟩, hguard, fun other hother => ?_⟩
      cases hstep.symm.trans hother
      exact halong

/-- A checked execution whose final state passes a test. -/
theorem exists_of_checked {guard : σ → α → Prop} [∀ state label, Decidable (guard state label)]
    {state : σ} {labels : List α} {test : σ → Bool}
    (h : (checked step guard state labels).any test = true) :
    ∃ final, run step state labels = some final ∧ Along step guard state labels ∧
      test final = true := by
  cases hfinal : checked step guard state labels with
  | none => simp [hfinal] at h
  | some final =>
      obtain ⟨hrun, halong⟩ := run_of_checked hfinal
      exact ⟨final, hrun, halong, by simpa [hfinal] using h⟩

end XcpCephRbd.Run
