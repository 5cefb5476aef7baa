import BandBPools.Transition.Run

/-!
# Refinement of an abstract machine

An abstract machine is a relation between states that is labelled with what
can be observed of a step.  A partial step refines it when a relation between
the two kinds of states can be kept up along every step that meets a
condition: the abstract machine either makes a step with the same visible
observations, or stays where it is and nothing visible has been observed.
-/

namespace BandBPools.Transition

variable {State Action Event Abstract Label : Type*}

/-- The label sequences of an abstract machine. -/
inductive Trace (Step : Abstract → List Label → Abstract → Prop)
    (source : Abstract) : List Label → Abstract → Prop where
  | refl : Trace Step source [] source
  | snoc {labels middle more target}
      (trace : Trace Step source labels middle)
      (next : Step middle more target) :
      Trace Step source (labels ++ more) target

namespace Trace

variable {Step : Abstract → List Label → Abstract → Prop}
variable {source middle target : Abstract} {labels more : List Label}

theorem single (next : Step source labels target) :
    Trace Step source labels target := by
  simpa using Trace.snoc .refl next

theorem trans (first : Trace Step source labels middle)
    (second : Trace Step middle more target) :
    Trace Step source (labels ++ more) target := by
  induction second with
  | refl => simpa using first
  | snoc trace next induction =>
      simpa only [← List.append_assoc] using Trace.snoc induction next

theorem mono {Wider : Abstract → List Label → Abstract → Prop}
    (wider : ∀ state observed next,
      Step state observed next → Wider state observed next)
    (trace : Trace Step source labels target) :
    Trace Wider source labels target := by
  induction trace with
  | refl => exact .refl
  | snoc trace next induction => exact induction.snoc (wider _ _ _ next)

/-- A trace of another machine that is kept up step by step. -/
theorem follow {Abstract' Label' : Type*}
    {Step' : Abstract' → List Label' → Abstract' → Prop}
    {view : Abstract → Abstract'} {visible : Label → Option Label'}
    (follows : ∀ state observed next, Step state observed next →
      Trace Step' (view state) (observed.filterMap visible) (view next))
    (trace : Trace Step source labels target) :
    Trace Step' (view source) (labels.filterMap visible) (view target) := by
  induction trace with
  | refl => exact .refl
  | snoc trace next induction =>
      rw [List.filterMap_append]
      exact induction.trans (follows _ _ _ next)

/-- The invariant rule, for what holds together with the labels so far. -/
theorem historyInvariant {Inv : List Label → Abstract → Prop}
    (preserved : ∀ seen state observed next,
      Inv seen state → Step state observed next →
        Inv (seen ++ observed) next)
    (initial : Inv [] source) (trace : Trace Step source labels target) :
    Inv labels target := by
  induction trace with
  | refl => exact initial
  | snoc trace next induction => exact preserved _ _ _ _ induction next

/-- The invariant rule for what does not depend on the labels. -/
theorem invariant {Inv : Abstract → Prop}
    (preserved : ∀ state observed next,
      Inv state → Step state observed next → Inv next)
    (initial : Inv source) (trace : Trace Step source labels target) :
    Inv target :=
  trace.historyInvariant
    (fun _ state observed next holds step =>
      preserved state observed next holds step)
    initial

end Trace

/-- A forward simulation that may stutter. -/
def Refines (step : PartialStep State Action Event)
    (condition : State → Action → Prop)
    (visible : Event → Option Label)
    (Step : Abstract → List Label → Abstract → Prop)
    (related : State → Abstract → Prop) : Prop :=
  ∀ state action next observed abstract,
    related state abstract → condition state action →
    step state action = some (next, observed) →
    ∃ later, related next later ∧
      (later = abstract ∧ observed.filterMap visible = [] ∨
        Step abstract (observed.filterMap visible) later)

/-- A run shows a trace of the abstract machine that it refines. -/
theorem Refines.trace
    {step : PartialStep State Action Event}
    {condition : State → Action → Prop}
    {visible : Event → Option Label}
    {Step : Abstract → List Label → Abstract → Prop}
    {related : State → Abstract → Prop}
    (refines : Refines step condition visible Step related)
    {source target : State} {actions : List Action} {events : List Event}
    {abstract : Abstract} (start : related source abstract)
    (run : RunUnder step condition source actions events target) :
    ∃ later, related target later ∧
      Trace Step abstract (events.filterMap visible) later := by
  induction run with
  | refl => exact ⟨abstract, start, .refl⟩
  | snoc run meets next induction =>
      rcases induction with ⟨reached, matched, trace⟩
      rcases refines _ _ _ _ _ matched meets next with
        ⟨later, related, ⟨rfl, hidden⟩ | moves⟩
      · refine ⟨later, related, ?_⟩
        rw [List.filterMap_append, hidden, List.append_nil]
        exact trace
      · refine ⟨later, related, ?_⟩
        rw [List.filterMap_append]
        exact trace.snoc moves

end BandBPools.Transition
