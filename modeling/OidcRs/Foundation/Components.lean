import OidcRs.Foundation.Runs

namespace OidcRs
namespace Foundation

universe u v w x

/-!
# Parts of a larger machine

A component is a part of the state that only ever moves by a step function of
its own.  A run of the whole, looked at through the component, is a run of the
component, so what is known of every run of the part holds inside every run of
the whole.
-/

variable {State : Type u} {Action : Type v} {Part : Type w} {PartAction : Type x}

/-- A part of the state, and the step it takes in each moment, if any. -/
structure Component (step : State → Action → Option State)
    (partStep : Part → PartAction → Option Part) where
  part : State → Part
  own : Moment State Action → Option PartAction
  moves : ∀ state action next move, step state action = some next →
    own (state, action) = some move → partStep (part state) move = some (part next)
  rests : ∀ state action next, step state action = some next → own (state, action) = none →
    part next = part state

namespace Component

variable {step : State → Action → Option State} {partStep : Part → PartAction → Option Part}
  (component : Component step partStep)

/-- The moment of the whole, seen as one of the part. -/
def moment (moment : Moment State Action) : Option (Moment Part PartAction) :=
  (component.own moment).map (fun move => (component.part moment.1, move))

/-- The moments in which the part moves. -/
def history (history : List (Moment State Action)) : List (Moment Part PartAction) :=
  history.filterMap component.moment

theorem history_snoc (history : List (Moment State Action)) (newest : Moment State Action) :
    component.history (history ++ [newest]) =
      component.history history ++ (component.moment newest).toList := by
  rw [Component.history, List.filterMap_append, Component.history, List.filterMap_cons]
  cases component.moment newest <;> rfl

/-- A run of the whole is a run of the part. -/
theorem run {start last : State} {history : List (Moment State Action)}
    (run : Run step start history last) :
    Run partStep (component.part start) (component.history history) (component.part last) := by
  induction run with
  | nil => exact Run.nil
  | @snoc history state next action _ taken inductionHypothesis =>
      rw [component.history_snoc, Component.moment]
      cases moved : component.own (state, action) with
      | none =>
          rw [component.rests state action next taken moved]
          simpa using inductionHypothesis
      | some move => exact Run.snoc inductionHypothesis (component.moves _ _ _ _ taken moved)

end Component
end Foundation
end OidcRs
