import OidcRs.Foundation.Runs

namespace OidcRs
namespace Foundation

universe u v w x y

/-!
# Simulation between two step functions

Both machines show some of their steps as events.  A simulation relates their
states so that every allowed step of the concrete machine is matched by a run
of the abstract one with the same events.  Whatever the concrete machine shows
along an allowed run, the abstract machine can then show as well.
-/

variable {State : Type u} {Action : Type v} {Event : Type w}

/-- The events shown by a history, oldest first. -/
def trace (event : Moment State Action → Option Event) (history : List (Moment State Action)) :
    List Event :=
  history.filterMap event

theorem trace_append (event : Moment State Action → Option Event)
    (before after : List (Moment State Action)) :
    trace event (before ++ after) = trace event before ++ trace event after :=
  List.filterMap_append

/-- A machine whose steps may be seen from outside. -/
structure Machine (State : Type u) (Action : Type v) (Event : Type w) where
  step : State → Action → Option State
  event : Moment State Action → Option Event

/-- Every allowed concrete step is matched by a permitted abstract run with its
events. -/
structure Simulation {Abstract : Type x} {AbstractAction : Type y}
    (concrete : Machine State Action Event) (abstract : Machine Abstract AbstractAction Event)
    (allowed : Moment State Action → Prop) (permitted : Moment Abstract AbstractAction → Prop) where
  relation : State → Abstract → Prop
  matches_step : ∀ state above action next, relation state above → allowed (state, action) →
    concrete.step state action = some next →
    ∃ history aboveNext, Run abstract.step above history aboveNext ∧
      (∀ moment ∈ history, permitted moment) ∧
      trace abstract.event history = trace concrete.event [(state, action)] ∧
      relation next aboveNext

namespace Simulation

variable {Abstract : Type x} {AbstractAction : Type y} {concrete : Machine State Action Event}
  {abstract : Machine Abstract AbstractAction Event} {allowed : Moment State Action → Prop}
  {permitted : Moment Abstract AbstractAction → Prop}

/-- Every allowed concrete run is matched by a permitted abstract run with its
trace. -/
theorem run (simulation : Simulation concrete abstract allowed permitted) {start last : State}
    {above : Abstract} {history : List (Moment State Action)}
    (related : simulation.relation start above) (run : Run concrete.step start history last)
    (allAllowed : ∀ moment ∈ history, allowed moment) :
    ∃ aboveHistory aboveLast, Run abstract.step above aboveHistory aboveLast ∧
      (∀ moment ∈ aboveHistory, permitted moment) ∧
      trace abstract.event aboveHistory = trace concrete.event history ∧
      simulation.relation last aboveLast := by
  induction run with
  | nil => exact ⟨[], above, Run.nil, by simp, rfl, related⟩
  | @snoc history state next action _ taken inductionHypothesis =>
      have allowedBefore : ∀ moment ∈ history, allowed moment := fun moment member =>
        allAllowed moment (List.mem_append_left _ member)
      have allowedNow : allowed (state, action) := allAllowed _ (by simp)
      rcases inductionHypothesis allowedBefore with
        ⟨aboveHistory, aboveState, runAbove, allPermitted, sameTrace, relatedState⟩
      rcases simulation.matches_step state aboveState action next relatedState allowedNow taken with
        ⟨more, aboveNext, runMore, morePermitted, sameEvents, relatedNext⟩
      refine ⟨aboveHistory ++ more, aboveNext, runAbove.append runMore, ?_, ?_, relatedNext⟩
      · intro moment member
        rcases List.mem_append.mp member with earlier | later
        · exact allPermitted moment earlier
        · exact morePermitted moment later
      · rw [trace_append, trace_append, sameTrace, sameEvents]

end Simulation
end Foundation
end OidcRs
