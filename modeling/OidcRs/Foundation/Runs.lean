import Mathlib.Data.List.Induction
import Mathlib.Order.Basic

namespace OidcRs
namespace Foundation

universe u v w

/-!
# Runs of a partial step function

A concurrent program is given as a step function on its shared state: `step`
returns `none` when the chosen action is not enabled.  A run keeps its whole
history, oldest moment first, so that a statement about "the answer received
earlier" or "no request sent in between" is a statement about positions in a
list and needs no bookkeeping field in the modelled state.

The rules below are the ones every later proof uses: an invariant is checked
on one step, a run can be cut at any of its moments, and a property that did
not hold at the start of a run but holds at its end has a last moment at which
it became true.
-/

variable {State : Type u} {Action : Type v}

/-- One moment of a run: the state a step starts from and the action taken. -/
abbrev Moment (State : Type u) (Action : Type v) := State × Action

/-- Finite runs, recording every moment from the oldest to the newest. -/
inductive Run (step : State → Action → Option State) (start : State) :
    List (Moment State Action) → State → Prop
  | nil : Run step start [] start
  | snoc {history : List (Moment State Action)} {last next : State} {action : Action} :
      Run step start history last → step last action = some next →
        Run step start (history ++ [(last, action)]) next

namespace Run

variable {step : State → Action → Option State}

theorem single {start next : State} {action : Action} (taken : step start action = some next) :
    Run step start [(start, action)] next :=
  Run.snoc Run.nil taken

/-- Runs compose. -/
theorem append {start middle last : State} {before after : List (Moment State Action)}
    (first : Run step start before middle) (second : Run step middle after last) :
    Run step start (before ++ after) last := by
  induction second with
  | nil => rwa [List.append_nil]
  | snoc earlier taken inductionHypothesis =>
      rw [← List.append_assoc]
      exact Run.snoc inductionHypothesis taken

theorem cons {start next last : State} {action : Action} {history : List (Moment State Action)}
    (taken : step start action = some next) (rest : Run step next history last) :
    Run step start ((start, action) :: history) last :=
  (Run.single taken).append rest

theorem snoc_inv {start last : State} {history : List (Moment State Action)}
    {moment : Moment State Action} (run : Run step start (history ++ [moment]) last) :
    Run step start history moment.1 ∧ step moment.1 moment.2 = some last := by
  generalize whole : history ++ [moment] = list at run
  cases run with
  | nil => exact absurd whole (by simp)
  | snoc earlier taken =>
      rcases List.append_inj' whole rfl with ⟨rfl, same⟩
      rcases List.singleton_inj.mp same with rfl
      exact ⟨earlier, taken⟩

/-- A run can be cut around any of its moments. -/
theorem split {start last : State} {before after : List (Moment State Action)}
    {moment : Moment State Action} (run : Run step start (before ++ moment :: after) last) :
    ∃ next, Run step start before moment.1 ∧ step moment.1 moment.2 = some next ∧
      Run step next after last := by
  induction after using List.reverseRecOn generalizing last with
  | nil =>
      rcases run.snoc_inv with ⟨earlier, taken⟩
      exact ⟨last, earlier, taken, Run.nil⟩
  | append_singleton after newest inductionHypothesis =>
      rw [← List.cons_append, ← List.append_assoc] at run
      rcases run.snoc_inv with ⟨earlier, taken⟩
      rcases inductionHypothesis earlier with ⟨next, first, cut, second⟩
      exact ⟨next, first, cut, Run.snoc second taken⟩

/-- The invariant rule: what every step preserves, every run preserves. -/
theorem invariant (property : State → Prop)
    (preserved : ∀ state action next, property state → step state action = some next →
      property next)
    {start last : State} {history : List (Moment State Action)}
    (initially : property start) (run : Run step start history last) : property last := by
  induction run with
  | nil => exact initially
  | snoc _ taken inductionHypothesis => exact preserved _ _ _ inductionHypothesis taken

/-- The invariant rule with the history in view, for properties that say where
something in the current state came from. -/
theorem history_invariant (property : List (Moment State Action) → State → Prop)
    {start : State}
    (initially : property [] start)
    (preserved : ∀ history state action next, Run step start history state →
      property history state → step state action = some next →
        property (history ++ [(state, action)]) next)
    {last : State} {history : List (Moment State Action)}
    (run : Run step start history last) : property history last := by
  induction run with
  | nil => exact initially
  | snoc earlier taken inductionHypothesis =>
      exact preserved _ _ _ _ earlier inductionHypothesis taken

/-- The invariant rule for runs all of whose moments satisfy a side condition. -/
theorem invariant_of_moments (property : State → Prop) (allowed : Moment State Action → Prop)
    (preserved : ∀ state action next, property state → allowed (state, action) →
      step state action = some next → property next)
    {start last : State} {history : List (Moment State Action)}
    (initially : property start) (run : Run step start history last)
    (allAllowed : ∀ moment ∈ history, allowed moment) : property last := by
  induction run with
  | nil => exact initially
  | snoc _ taken inductionHypothesis =>
      have earlier := inductionHypothesis
        (fun moment member => allAllowed moment (List.mem_append_left _ member))
      exact preserved _ _ _ earlier (allAllowed _ (by simp)) taken

/-- A measure that no step decreases does not decrease along a run. -/
theorem monotone {Measure : Type w} [Preorder Measure] (measure : State → Measure)
    (nondecreasing : ∀ state action next, step state action = some next →
      measure state ≤ measure next)
    {start last : State} {history : List (Moment State Action)}
    (run : Run step start history last) : measure start ≤ measure last :=
  run.invariant (fun state => measure start ≤ measure state)
    (fun _ _ _ sofar taken => le_trans sofar (nondecreasing _ _ _ taken)) le_rfl

/-- A property absent at the start and present at the end has a last moment at
which it appeared: from the state after that moment on it is never lost. -/
theorem last_crossing (property : State → Prop) {start last : State}
    {history : List (Moment State Action)} (run : Run step start history last)
    (absent : ¬ property start) (present : property last) :
    ∃ before moment after next, history = before ++ moment :: after ∧
      Run step start before moment.1 ∧ ¬ property moment.1 ∧
      step moment.1 moment.2 = some next ∧ property next ∧ Run step next after last ∧
      ∀ later ∈ after, property later.1 := by
  induction run with
  | nil => exact absurd present absent
  | @snoc history state next action earlier taken inductionHypothesis =>
      by_cases held : property state
      · rcases inductionHypothesis held with
          ⟨before, moment, after, middle, rfl, first, missing, cut, appeared, second, kept⟩
        refine ⟨before, moment, after ++ [(state, action)], middle, by simp, first, missing, cut,
          appeared, Run.snoc second taken, ?_⟩
        intro later member
        rcases List.mem_append.mp member with member | member
        · exact kept later member
        · rw [List.mem_singleton.mp member]
          exact held
      · exact ⟨history, (state, action), [], next, rfl, earlier, held, taken, present, Run.nil,
          fun later member => absurd member List.not_mem_nil⟩

theorem nil_inv {start last : State} (run : Run step start [] last) : last = start := by
  generalize whole : ([] : List (Moment State Action)) = list at run
  cases run with
  | nil => rfl
  | snoc => exact absurd whole (by simp)

/-- A property present at the start and absent at the end has a first moment at
which it was lost: up to that moment it has always held. -/
theorem first_loss (property : State → Prop) {start last : State}
    {history : List (Moment State Action)} (run : Run step start history last)
    (present : property start) (absent : ¬ property last) :
    ∃ before moment after next, history = before ++ moment :: after ∧
      Run step start before moment.1 ∧ property moment.1 ∧ step moment.1 moment.2 = some next ∧
      ¬ property next ∧ Run step next after last ∧ ∀ earlier ∈ before, property earlier.1 := by
  induction history generalizing start with
  | nil =>
      rw [run.nil_inv] at absent
      exact absurd present absent
  | cons moment rest inductionHypothesis =>
      have whole : Run step start ([] ++ moment :: rest) last := run
      rcases whole.split with ⟨next, here, taken, second⟩
      have same := here.nil_inv
      by_cases held : property next
      · rcases inductionHypothesis second held with
          ⟨before, lost, after, final, rfl, first, there, cut, missing, onward, kept⟩
        rw [same] at taken
        refine ⟨(start, moment.2) :: before, lost, after, final, ?_, Run.cons taken first, there, cut,
          missing, onward, ?_⟩
        · rw [← same]
          rfl
        · intro earlier member
          rcases List.mem_cons.mp member with rfl | member
          · exact present
          · exact kept earlier member
      · exact ⟨[], moment, rest, next, rfl, here, same ▸ present, taken, held, second,
          fun earlier member => absurd member List.not_mem_nil⟩

end Run

/-! ## Moments of a history -/

/-- The history passes this moment right after `before`. -/
def Passed (history before : List (Moment State Action)) (moment : Moment State Action) : Prop :=
  before ++ [moment] <+: history

namespace Passed

variable {step : State → Action → Option State} {history before : List (Moment State Action)}
  {moment newest : Moment State Action}

theorem last : Passed (history ++ [moment]) history moment := List.prefix_rfl

/-- What a history has passed, every longer one has. -/
theorem extend {longer : List (Moment State Action)} (passed : Passed history before moment)
    (longerHistory : history <+: longer) : Passed longer before moment :=
  passed.trans longerHistory

theorem snoc (passed : Passed history before moment) :
    Passed (history ++ [newest]) before moment :=
  passed.extend (List.prefix_append _ _)

theorem before_prefix (passed : Passed history before moment) : before <+: history :=
  (List.prefix_append _ _).trans passed

theorem exists_after (passed : Passed history before moment) :
    ∃ after, history = before ++ moment :: after := by
  rcases passed with ⟨after, whole⟩
  exact ⟨after, by rw [← whole, List.append_assoc, List.singleton_append]⟩

theorem of_append {after : List (Moment State Action)} :
    Passed (before ++ moment :: after) before moment :=
  ⟨after, by rw [List.append_assoc, List.singleton_append]⟩

theorem prepend (front : List (Moment State Action)) (passed : Passed history before moment) :
    Passed (front ++ history) (front ++ before) moment := by
  rcases passed with ⟨after, whole⟩
  exact ⟨after, by rw [← whole]; simp only [List.append_assoc]⟩

theorem mem (passed : Passed history before moment) : moment ∈ history :=
  passed.subset (by simp)

/-- The moment at a position was passed after the moments in front of it. -/
theorem of_getElem? {position : Nat} (here : history[position]? = some moment) :
    Passed history (history.take position) moment := by
  rcases List.getElem?_eq_some_iff.mp here with ⟨bound, rfl⟩
  refine ⟨history.drop (position + 1), ?_⟩
  rw [List.append_assoc, List.singleton_append, List.getElem_cons_drop, List.take_append_drop]

/-- Positions order the moments of a history. -/
theorem of_getElem?_lt {first second : Nat} (here : history[first]? = some moment)
    (ordered : first < second) : Passed (history.take second) (history.take first) moment := by
  have passed : Passed (history.take second) ((history.take second).take first) moment :=
    of_getElem? (by rw [List.getElem?_take_of_lt ordered]; exact here)
  rwa [List.take_take, Nat.min_eq_left (Nat.le_of_lt ordered)] at passed

/-- Cutting a run at a moment it has passed. -/
theorem cut (passed : Passed history before moment) {start final : State}
    (run : Run step start history final) :
    ∃ next after, history = before ++ moment :: after ∧ Run step start before moment.1 ∧
      step moment.1 moment.2 = some next ∧ Run step next after final := by
  rcases passed.exists_after with ⟨after, rfl⟩
  rcases run.split with ⟨next, first, taken, second⟩
  exact ⟨next, after, rfl, first, taken, second⟩

/-- Cutting a run at a position. -/
theorem cut_at {position : Nat} (here : history[position]? = some moment) {start final : State}
    (run : Run step start history final) :
    Run step start (history.take position) moment.1 ∧
      Run step moment.1 (history.drop position) final := by
  rcases (of_getElem? here).cut run with ⟨next, after, whole, first, taken, second⟩
  have rest : history.drop position = moment :: after :=
    List.append_cancel_left ((List.take_append_drop position history).trans whole)
  rw [rest]
  exact ⟨first, Run.cons taken second⟩

/-- Two moments of one history come in some order. -/
theorem compare {otherBefore : List (Moment State Action)} {other : Moment State Action}
    (passed : Passed history before moment) (passedOther : Passed history otherBefore other) :
    Passed otherBefore before moment ∨ before = otherBefore ∧ moment = other ∨
      Passed before otherBefore other := by
  rcases Nat.lt_trichotomy before.length otherBefore.length with earlier | same | later
  · exact Or.inl (List.prefix_of_prefix_length_le passed passedOther.before_prefix
      (by rwa [List.length_append, List.length_singleton]))
  · rcases List.append_inj (List.prefix_of_prefix_length_le passed passedOther (by simp [same])
      |>.eq_of_length (by simp [same])) same with ⟨whole, ends⟩
    exact Or.inr (Or.inl ⟨whole, List.singleton_inj.mp ends⟩)
  · exact Or.inr (Or.inr (List.prefix_of_prefix_length_le passedOther passed.before_prefix
      (by rwa [List.length_append, List.length_singleton])))

/-- A joined history passes its moments in its first part or in its second. -/
theorem of_joined {first second : List (Moment State Action)}
    (passed : Passed (first ++ second) before moment) :
    Passed first before moment ∨ ∃ rest, before = first ++ rest ∧ Passed second rest moment := by
  by_cases within : (before ++ [moment]).length ≤ first.length
  · exact Or.inl (List.prefix_of_prefix_length_le passed (List.prefix_append _ _) within)
  · rw [List.length_append, List.length_singleton] at within
    have behind : first <+: before :=
      List.prefix_of_prefix_length_le (List.prefix_append _ _) passed.before_prefix (by omega)
    rcases behind with ⟨rest, rfl⟩
    refine Or.inr ⟨rest, rfl, ?_⟩
    rw [Passed, List.append_assoc] at passed
    exact (List.prefix_append_right_inj first).mp passed

end Passed

/-- The history passes this moment right after `before`, and a property holds in
front of every later moment. -/
def HeldSince (property : State → Prop) (history before : List (Moment State Action))
    (moment : Moment State Action) : Prop :=
  ∃ after, history = before ++ moment :: after ∧ ∀ later ∈ after, property later.1

namespace HeldSince

variable {property : State → Prop} {history before : List (Moment State Action)}
  {moment : Moment State Action}

theorem passed (held : HeldSince property history before moment) :
    Passed history before moment := by
  rcases held with ⟨after, rfl, _⟩
  exact Passed.of_append

theorem prepend (front : List (Moment State Action))
    (held : HeldSince property history before moment) :
    HeldSince property (front ++ history) (front ++ before) moment := by
  rcases held with ⟨after, rfl, kept⟩
  exact ⟨after, (List.append_assoc _ _ _).symm, kept⟩

end HeldSince

/-! ## Executing a list of actions -/

/-- Take the actions one after another, recording the moments passed. -/
def execute (step : State → Action → Option State) :
    State → List Action → Option (List (Moment State Action) × State)
  | start, [] => some ([], start)
  | start, action :: actions =>
      match step start action with
      | none => none
      | some next =>
          match execute step next actions with
          | none => none
          | some (history, last) => some ((start, action) :: history, last)

/-- An execution is a run. -/
theorem execute_run {step : State → Action → Option State} {start last : State}
    {actions : List Action} {history : List (Moment State Action)}
    (executed : execute step start actions = some (history, last)) :
    Run step start history last := by
  induction actions generalizing start history with
  | nil =>
      simp only [execute, Option.some.injEq, Prod.mk.injEq] at executed
      rcases executed with ⟨rfl, rfl⟩
      exact Run.nil
  | cons action actions inductionHypothesis =>
      simp only [execute] at executed
      split at executed
      · cases executed
      · next next taken =>
          split at executed
          · cases executed
          · next rest _ remaining =>
              simp only [Option.some.injEq, Prod.mk.injEq] at executed
              rcases executed with ⟨rfl, rfl⟩
              exact Run.cons taken (inductionHypothesis remaining)

/-- An execution whose observation evaluates to a value is a run with that
observation, so that a concrete run can be checked by evaluation. -/
theorem execute_observed {Value : Type w} (step : State → Action → Option State) (start : State)
    (actions : List Action) (observe : List (Moment State Action) → State → Value) (value : Value)
    (evaluated : (execute step start actions).map (fun result => observe result.1 result.2) =
      some value) :
    ∃ history last, Run step start history last ∧ observe history last = value := by
  cases executed : execute step start actions with
  | none =>
      rw [executed] at evaluated
      cases evaluated
  | some result =>
      rw [executed] at evaluated
      exact ⟨result.1, result.2, execute_run executed, Option.some.inj evaluated⟩

end Foundation
end OidcRs
