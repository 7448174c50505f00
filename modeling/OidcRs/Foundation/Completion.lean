import OidcRs.Foundation.Roll
import OidcRs.Foundation.Runs

namespace OidcRs
namespace Foundation

universe u v

/-!
# Work that comes to an end

Some actions of a machine are work.  If every step of work brings a measure down
and no other allowed step raises it, then the measure bounds the work that any
run from a state can do, and the work can always be carried on to a state that
has none left.  What is left to show of a machine is then what such an idle
state looks like.
-/

variable {State : Type u} {Action : Type v} {step : State → Action → Option State}

/-- No work can be done in the state. -/
def Idle (step : State → Action → Option State) (work : Action → Prop) (state : State) : Prop :=
  ∀ action, work action → step state action = none

/-- The number of steps of work in a history. -/
def workDone (work : Action → Prop) [DecidablePred work] (history : List (Moment State Action)) :
    Nat :=
  history.countP (fun moment => work moment.2)

theorem workDone_snoc (work : Action → Prop) [DecidablePred work]
    (history : List (Moment State Action)) (state : State) (action : Action) :
    workDone work (history ++ [(state, action)]) =
      workDone work history + (if work action then 1 else 0) := by
  simp [workDone, List.countP_append, List.countP_singleton]

section Measure

variable {work : Action → Prop} {measure : State → Nat}

/-- What is left bounds what a run can do. -/
theorem workDone_le [DecidablePred work] {allowed : Action → Prop}
    (works : ∀ state action next, work action → step state action = some next →
      measure next < measure state)
    (rests : ∀ state action next, allowed action → step state action = some next →
      measure next ≤ measure state)
    {start last : State} {history : List (Moment State Action)}
    (run : Run step start history last) (allAllowed : ∀ moment ∈ history, allowed moment.2) :
    workDone work history + measure last ≤ measure start := by
  induction run with
  | nil => exact Nat.le_of_eq (Nat.zero_add _)
  | @snoc history state next action earlier taken inductionHypothesis =>
      have sofar := inductionHypothesis fun moment member =>
        allAllowed moment (List.mem_append_left _ member)
      rw [workDone_snoc]
      by_cases worked : work action
      · have less := works state action next worked taken
        rw [if_pos worked]
        omega
      · have notMore := rests state action next (allAllowed (state, action) (by simp)) taken
        rw [if_neg worked]
        omega

/-- The work can be carried on until none is left. -/
theorem exists_idle
    (works : ∀ state action next, work action → step state action = some next →
      measure next < measure state)
    (start : State) :
    ∃ history last, Run step start history last ∧ (∀ moment ∈ history, work moment.2) ∧
      Idle step work last := by
  generalize bound : measure start = fuel
  induction fuel using Nat.strongRecOn generalizing start with
  | ind fuel inductionHypothesis =>
      by_cases idle : Idle step work start
      · exact ⟨[], start, Run.nil, fun moment member => absurd member List.not_mem_nil, idle⟩
      · have busy : ∃ action next, work action ∧ step start action = some next := by
          by_contra none
          refine idle fun action worked => ?_
          by_contra enabled
          rcases Option.ne_none_iff_exists'.mp enabled with ⟨next, taken⟩
          exact none ⟨action, next, worked, taken⟩
        rcases busy with ⟨action, next, worked, taken⟩
        have less : measure next < fuel := by
          rw [← bound]
          exact works start action next worked taken
        rcases inductionHypothesis _ less next rfl with ⟨history, last, run, allWork, idleLast⟩
        refine ⟨(start, action) :: history, last, Run.cons taken run, ?_, idleLast⟩
        intro moment member
        rcases List.mem_cons.mp member with rfl | later
        · exact worked
        · exact allWork moment later

end Measure

/-! ## What is left to a roll of parties -/

namespace Roll

variable {Party : Type u} {roll : List Party} {old replacement : Party} {position : Nat}

/-- The sum of what is left to each party. -/
def total (left : Party → Nat) : List Party → Nat
  | [] => 0
  | party :: rest => left party + total left rest

theorem total_replaced (left : Party → Nat) (here : roll[position]? = some old)
    (replacement : Party) :
    total left (roll.set position replacement) + left old = total left roll + left replacement := by
  induction roll generalizing position with
  | nil => cases here
  | cons first rest inductionHypothesis =>
      cases position with
      | zero =>
          rcases Option.some.inj here with rfl
          simp only [total, List.set_cons_zero]
          omega
      | succ position =>
          have there : rest[position]? = some old := here
          have others := inductionHypothesis there
          simp only [total, List.set_cons_succ]
          omega

/-- A party that has less left than before leaves less in all. -/
theorem total_replaced_lt {left : Party → Nat} (here : roll[position]? = some old)
    (less : left replacement < left old) :
    total left (roll.set position replacement) < total left roll := by
  have balance := total_replaced left here replacement
  omega

theorem total_joined (left : Party → Nat) (newcomer : Party) :
    total left (roll ++ [newcomer]) = total left roll + left newcomer := by
  induction roll with
  | nil => simp [total]
  | cons first rest inductionHypothesis =>
      simp only [List.cons_append, total, inductionHypothesis]
      omega

end Roll
end Foundation
end OidcRs
