import OidcRs.Exchange.Steps
import OidcRs.Foundation.Roll

namespace OidcRs
namespace Exchange

open Foundation

/-!
# How calls progress along a run

A call keeps its arguments and its place, its stage only moves forward, and
nothing but an action naming the call changes it.  `CallOrigin` states this
for one step, looking back from the state after it.
-/

variable {inner : ExchangerInner}

/-! ## The clock -/

theorem CallSpec.clock {shared next : Shared} {clientId secret : String}
    {current stage : CallStage} (spec : CallSpec inner shared clientId secret current next stage) :
    next.clock = shared.clock := by
  cases spec <;> rfl

theorem CallMove.clock {shared next : Shared} {index : Nat} {clientId secret : String}
    {action : Action} {current stage : CallStage}
    (move : CallMove inner shared index clientId secret action current next stage) :
    next.clock = shared.clock := by
  cases move with
  | advance spec => exact spec.clock
  | answer | abandonWait | abandonPost => rfl

theorem FlushSpec.clock {shared next : Shared} {clientId : Option String}
    {current stage : FlushStage} (spec : FlushSpec shared clientId current next stage) :
    next.clock = shared.clock := by
  cases spec <;> rfl

theorem step_clock_le {state next : State} {action : Action}
    (taken : step inner state action = some next) : state.shared.clock ≤ next.shared.clock := by
  cases step_spec taken with
  | exchange | flush => exact Nat.le_refl _
  | call _ move => exact Nat.le_of_eq move.clock.symm
  | flushStep _ spec => exact Nat.le_of_eq spec.clock.symm
  | tick => exact Nat.le_add_right _ _

/-- The clock is monotone along every run. -/
theorem clock_le_of_run {start last : State} {history : List (Moment State Action)}
    (run : Run (step inner) start history last) : start.shared.clock ≤ last.shared.clock :=
  run.monotone (fun state => state.shared.clock) (fun _ _ _ taken => step_clock_le taken)

/-! ## One call in one step -/

/-- Where the entry of a call in the state after a step comes from. -/
inductive CallOrigin (inner : ExchangerInner) (state : State) (action : Action) (next : State)
    (index : Nat) (call : ExchangeCall) : Prop
  | unchanged (found : state.calls[index]? = some call)
  | moved {earlier : ExchangeCall} {stage : CallStage}
      (found : state.calls[index]? = some earlier)
      (same : call = { earlier with stage := stage })
      (move : CallMove inner state.shared index earlier.clientId earlier.secret action
        earlier.stage next.shared stage)
  | begun {clientId secret : String} (began : action = .exchange clientId secret)
      (fresh : index = state.calls.length)
      (same : call = ⟨clientId, secret, .lookupPositive⟩)

theorem call_origin {state next : State} {action : Action}
    (taken : step inner state action = some next) {index : Nat} {call : ExchangeCall}
    (found : next.calls[index]? = some call) :
    CallOrigin inner state action next index call := by
  cases step_spec taken with
  | @exchange clientId secret =>
      rcases Roll.of_joined found with earlier | ⟨fresh, same⟩
      · exact .unchanged earlier
      · exact .begun rfl fresh same
  | @call moved earlier action shared stage here move =>
      rcases Roll.of_replaced here found with ⟨rfl, same⟩ | ⟨_, before⟩
      · exact .moved here same move
      · exact .unchanged before
  | flush | flushStep | tick => exact .unchanged found

/-- A call keeps its place and its arguments, and changes stage only by a move. -/
theorem call_persists {state next : State} {action : Action}
    (taken : step inner state action = some next) {index : Nat} {call : ExchangeCall}
    (found : state.calls[index]? = some call) :
    ∃ stage, next.calls[index]? = some { call with stage := stage } ∧
      (stage = call.stage ∨ CallMove inner state.shared index call.clientId call.secret action
        call.stage next.shared stage) := by
  cases step_spec taken with
  | exchange => exact ⟨call.stage, Roll.joined found _, Or.inl rfl⟩
  | @call moved earlier action shared stage here move =>
      by_cases same : moved = index
      · subst same
        rcases Option.some.inj (found.symm.trans here) with rfl
        exact ⟨stage, Roll.replaced_self here _, Or.inr move⟩
      · exact ⟨call.stage, (List.getElem?_set_ne same).trans found, Or.inl rfl⟩
  | flush | flushStep | tick => exact ⟨call.stage, found, Or.inl rfl⟩

/-! ## Stages only move forward -/

/-- The position of a stage in program order; unwinding comes last. -/
def CallStage.rank : CallStage → Nat
  | lookupPositive => 0
  | evictPositive => 1
  | lookupNegative => 2
  | evictNegative => 3
  | takeHandle => 4
  | awaitLock _ => 5
  | recheckPositive _ => 6
  | sendPost _ => 7
  | awaitAnswer _ _ => 8
  | storeOutcome _ _ => 9
  | removeNegative _ _ => 10
  | dropGuard _ _ => 11
  | dropLock _ _ => 12
  | cleanupInflight _ => 13
  | returned _ => 14
  | unwindGuard _ => 15
  | unwindLock _ => 16
  | aborted => 17

theorem CallStage.rank_lt (stage : CallStage) : stage.rank < 18 := by
  cases stage <;> simp only [rank, Nat.reduceLT]

theorem CallMove.rank_lt {shared next : Shared} {index : Nat} {clientId secret : String}
    {action : Action} {current stage : CallStage}
    (move : CallMove inner shared index clientId secret action current next stage) :
    current.rank < stage.rank := by
  cases move with
  | advance spec => cases spec <;> simp only [CallStage.rank, Nat.reduceLT]
  | answer | abandonWait | abandonPost => simp only [CallStage.rank, Nat.reduceLT]

/-- Along a run a call stays in place with its arguments and never goes back. -/
theorem call_of_run {start last : State} {history : List (Moment State Action)}
    (run : Run (step inner) start history last) {index : Nat} {call : ExchangeCall}
    (found : start.calls[index]? = some call) :
    ∃ stage, last.calls[index]? = some { call with stage := stage } ∧
      call.stage.rank ≤ stage.rank := by
  refine run.invariant (fun state => ∃ stage, state.calls[index]? =
    some { call with stage := stage } ∧ call.stage.rank ≤ stage.rank) ?_
    ⟨call.stage, found, Nat.le_refl _⟩
  rintro state action next ⟨stage, here, sofar⟩ taken
  rcases call_persists taken here with ⟨later, there, changed⟩
  refine ⟨later, there, ?_⟩
  rcases changed with same | move
  · rw [same]
    exact sofar
  · exact Nat.le_trans sofar (Nat.le_of_lt move.rank_lt)

/-- A call seen twice in a run is later at the later place. -/
theorem rank_le_of_run {start last : State} {history : List (Moment State Action)}
    (run : Run (step inner) start history last) {index : Nat} {call later : ExchangeCall}
    (found : start.calls[index]? = some call) (there : last.calls[index]? = some later) :
    call.stage.rank ≤ later.stage.rank := by
  rcases call_of_run run found with ⟨stage, here, forward⟩
  rcases Option.some.inj (here.symm.trans there) with rfl
  exact forward

/-- The actions that name a call. -/
def Action.Names (action : Action) (index : Nat) : Prop :=
  action = .advance index ∨ (∃ reply, action = .answer index reply) ∨ action = .abandon index

theorem CallMove.names {shared next : Shared} {index : Nat} {clientId secret : String}
    {action : Action} {current stage : CallStage}
    (move : CallMove inner shared index clientId secret action current next stage) :
    action.Names index := by
  cases move with
  | advance => exact Or.inl rfl
  | answer reply => exact Or.inr (Or.inl ⟨reply, rfl⟩)
  | abandonWait | abandonPost => exact Or.inr (Or.inr rfl)

theorem Action.Names.unique {action : Action} {first second : Nat}
    (namesFirst : action.Names first) (namesSecond : action.Names second) : first = second := by
  rcases namesFirst with rfl | ⟨_, rfl⟩ | rfl <;>
    rcases namesSecond with name | ⟨_, name⟩ | name <;> cases name <;> rfl

/-- An action that names a call is only taken when the call exists and moves
that call. -/
theorem moved_of_step {state next : State} {action : Action} {index : Nat}
    (taken : step inner state action = some next) (names : action.Names index) :
    ∃ call stage, state.calls[index]? = some call ∧
      CallMove inner state.shared index call.clientId call.secret action call.stage
        next.shared stage ∧
      next.calls[index]? = some { call with stage := stage } := by
  cases step_spec taken with
  | exchange | flush | tick => rcases names with name | ⟨_, name⟩ | name <;> cases name
  | flushStep => rcases names with name | ⟨_, name⟩ | name <;> cases name
  | @call moved earlier action shared stage here move =>
      rcases move.names.unique names with rfl
      exact ⟨earlier, stage, here, move, Roll.replaced_self here _⟩

/-- An action that names a call moves it from where it was found. -/
theorem moved_of_found {state next : State} {action : Action} {index : Nat} {call : ExchangeCall}
    (taken : step inner state action = some next) (names : action.Names index)
    (found : state.calls[index]? = some call) :
    ∃ stage, CallMove inner state.shared index call.clientId call.secret action call.stage
        next.shared stage ∧
      next.calls[index]? = some { call with stage := stage } := by
  rcases moved_of_step taken names with ⟨mover, stage, here, move, there⟩
  rcases Option.some.inj (found.symm.trans here) with rfl
  exact ⟨stage, move, there⟩

/-- A call that takes a step of its own takes the next one of its code. -/
theorem advanced_of_found {state next : State} {index : Nat} {call : ExchangeCall}
    (taken : step inner state (.advance index) = some next)
    (found : state.calls[index]? = some call) :
    ∃ stage, CallSpec inner state.shared call.clientId call.secret call.stage next.shared stage ∧
      next.calls[index]? = some { call with stage := stage } := by
  rcases moved_of_found taken (Or.inl rfl) found with ⟨stage, move, there⟩
  generalize next.shared = shared at move ⊢
  cases move with
  | advance spec => exact ⟨stage, spec, there⟩

/-- An action that names a call does not leave it where it was. -/
theorem not_still_of_named {state next : State} {action : Action} {index : Nat}
    {call : ExchangeCall} (taken : step inner state action = some next)
    (names : action.Names index) (found : state.calls[index]? = some call) :
    next.calls[index]? ≠ some call := by
  intro still
  rcases moved_of_found taken names found with ⟨stage, move, there⟩
  have same : call.stage = stage :=
    congrArg ExchangeCall.stage (Option.some.inj (still.symm.trans there))
  have forward : call.stage.rank < stage.rank := move.rank_lt
  rw [same] at forward
  exact absurd forward (Nat.lt_irrefl _)

/-- The call has returned or is gone. -/
def CallStage.finished : CallStage → Bool
  | returned _ | aborted => true
  | _ => false

/-- The call was abandoned or has panicked. -/
def CallStage.unwinding : CallStage → Bool
  | unwindGuard _ | unwindLock _ | aborted => true
  | _ => false

/-- The call has neither returned nor been dropped. -/
def ExchangeCall.Pending (call : ExchangeCall) : Prop := call.stage.finished = false

theorem ExchangeCall.finished_of_not_pending {call : ExchangeCall} (idle : ¬ call.Pending) :
    call.stage.finished = true := by
  cases finished : call.stage.finished with
  | true => rfl
  | false => exact absurd finished idle

/-- A finished call does not move. -/
theorem CallMove.unfinished {shared next : Shared} {index : Nat} {clientId secret : String}
    {action : Action} {current stage : CallStage}
    (move : CallMove inner shared index clientId secret action current next stage) :
    current.finished = false := by
  cases move with
  | advance spec => cases spec <;> rfl
  | answer | abandonWait | abandonPost => rfl

/-- A finished call stays as it is. -/
theorem finished_of_run {start last : State} {history : List (Moment State Action)}
    (run : Run (step inner) start history last) {index : Nat} {call : ExchangeCall}
    (found : start.calls[index]? = some call) (finished : call.stage.finished = true) :
    last.calls[index]? = some call := by
  refine run.invariant (fun state => state.calls[index]? = some call) ?_ found
  intro state action next here taken
  rcases call_persists taken here with ⟨stage, there, same | move⟩
  · rwa [same] at there
  · rw [move.unfinished] at finished
    cases finished

theorem CallStage.unwinding_iff (stage : CallStage) :
    stage.unwinding = true ↔ 15 ≤ stage.rank := by
  cases stage <;> simp [unwinding, rank]

/-- Unwinding is never left, so a state without it had a run without it. -/
theorem unwinding_of_run {start last : State} {history : List (Moment State Action)}
    (run : Run (step inner) start history last) {call : ExchangeCall}
    (listed : call ∈ start.calls) (unwinding : call.stage.unwinding = true) :
    ∃ later ∈ last.calls, later.stage.unwinding = true := by
  rcases List.mem_iff_getElem?.mp listed with ⟨index, found⟩
  rcases call_of_run run found with ⟨stage, here, forward⟩
  rw [CallStage.unwinding_iff] at unwinding
  exact ⟨_, List.mem_of_getElem? here,
    (CallStage.unwinding_iff stage).mpr (Nat.le_trans unwinding forward)⟩

/-! ## A call that joins a state -/

section Joined

variable {state : State} {clientId secret : String}

/-- The state with one more call, at this stage and over this memory. -/
def State.joinedBy (state : State) (clientId secret : String) (shared : Shared)
    (stage : CallStage) : State :=
  ⟨shared, state.calls ++ [⟨clientId, secret, stage⟩], state.flushes⟩

theorem joinedBy_setStage (shared : Shared) (stage later : CallStage) :
    (state.joinedBy clientId secret shared stage).setStage state.calls.length
      ⟨clientId, secret, stage⟩ later = state.calls ++ [⟨clientId, secret, later⟩] := by
  simp [State.setStage, State.joinedBy]

/-- The newest call takes its next step. -/
theorem joinedBy_advance {shared after : Shared} {stage later : CallStage}
    (moved : callStep inner shared ⟨clientId, secret, stage⟩ = some (after, later)) :
    step inner (state.joinedBy clientId secret shared stage) (.advance state.calls.length) =
      some (state.joinedBy clientId secret after later) := by
  have found : (state.joinedBy clientId secret shared stage).calls[state.calls.length]? =
      some ⟨clientId, secret, stage⟩ := List.getElem?_concat_length
  have here : callStep inner (state.joinedBy clientId secret shared stage).shared
      ⟨clientId, secret, stage⟩ = some (after, later) := moved
  simp only [step, found, here, joinedBy_setStage]
  rfl

/-- A live token is returned to the newest call by its first step. -/
theorem joinedBy_hits {cached : CachedToken}
    (found : state.shared.positive.lookup (cacheKey inner clientId secret) = some cached)
    (live : state.shared.clock < cached.expiresAt) :
    step inner (state.joinedBy clientId secret state.shared .lookupPositive)
        (.advance state.calls.length) =
      some (state.joinedBy clientId secret state.shared (.returned (.ok cached.jwt))) := by
  apply joinedBy_advance
  simp only [callStep, ExchangeCall.key, found, if_pos live]

/-- The newest call's POST is answered. -/
theorem joinedBy_answer {shared : Shared} {lock : LockId} {post : TokenPost} (reply : TokenReply) :
    step inner (state.joinedBy clientId secret shared (.awaitAnswer lock post))
        (.answer state.calls.length reply) =
      some (state.joinedBy clientId secret shared (.storeOutcome lock (exchangeInner reply))) := by
  have found : (state.joinedBy clientId secret shared (.awaitAnswer lock post)).calls[
      state.calls.length]? = some ⟨clientId, secret, .awaitAnswer lock post⟩ :=
    List.getElem?_concat_length
  simp only [step, found, answerStage, joinedBy_setStage]
  rfl

end Joined

/-! ## One flush along a run -/

/-- A flush keeps its place and its client, and changes stage only by its own
step. -/
theorem flush_persists {state next : State} {action : Action}
    (taken : step inner state action = some next) {index : Nat} {call : FlushCall}
    (found : state.flushes[index]? = some call) :
    ∃ stage, next.flushes[index]? = some { call with stage := stage } ∧
      (stage = call.stage ∨ action = .advanceFlush index ∧
        FlushSpec state.shared call.clientId call.stage next.shared stage) := by
  cases step_spec taken with
  | exchange | tick => exact ⟨call.stage, found, Or.inl rfl⟩
  | call => exact ⟨call.stage, found, Or.inl rfl⟩
  | flush => exact ⟨call.stage, Roll.joined found _, Or.inl rfl⟩
  | @flushStep moved earlier shared stage here spec =>
      by_cases same : moved = index
      · subst same
        rcases Option.some.inj (found.symm.trans here) with rfl
        exact ⟨stage, Roll.replaced_self here _, Or.inr ⟨rfl, spec⟩⟩
      · exact ⟨call.stage, (List.getElem?_set_ne same).trans found, Or.inl rfl⟩

/-- The position of a stage in program order. -/
def FlushStage.rank : FlushStage → Nat
  | readPositiveLen => 0
  | readNegativeLen _ => 1
  | flushPositive _ _ => 2
  | flushNegative _ _ => 3
  | flushInflight _ _ => 4
  | countPositive _ _ => 5
  | countNegative _ _ => 6
  | returned _ _ => 7
  | overflowed => 8

theorem FlushSpec.rank_lt {shared next : Shared} {clientId : Option String}
    {current stage : FlushStage} (spec : FlushSpec shared clientId current next stage) :
    current.rank < stage.rank := by
  cases spec <;> simp only [FlushStage.rank, Nat.reduceLT]

/-- Along a run a flush stays in place with its client and never goes back. -/
theorem flush_of_run {start last : State} {history : List (Moment State Action)}
    (run : Run (step inner) start history last) {index : Nat} {call : FlushCall}
    (found : start.flushes[index]? = some call) :
    ∃ stage, last.flushes[index]? = some { call with stage := stage } ∧
      call.stage.rank ≤ stage.rank := by
  refine run.invariant (fun state => ∃ stage, state.flushes[index]? =
    some { call with stage := stage } ∧ call.stage.rank ≤ stage.rank) ?_
    ⟨call.stage, found, Nat.le_refl _⟩
  rintro state action next ⟨stage, here, sofar⟩ taken
  rcases flush_persists taken here with ⟨later, there, changed⟩
  refine ⟨later, there, ?_⟩
  rcases changed with same | ⟨_, spec⟩
  · rw [same]
    exact sofar
  · exact Nat.le_trans sofar (Nat.le_of_lt spec.rank_lt)

end Exchange
end OidcRs
