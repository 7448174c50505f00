import OidcRs.Exchange.Accumulation
import OidcRs.Exchange.Evidence

namespace OidcRs
namespace Exchange

open Foundation

/-!
# What a call does once its POST is answered

From the answer on a call waits for nothing: it is moved only by its own steps,
and each of them is enabled until it has returned.  So its stage is determined
by the number of steps it has taken, whatever else happens in between.
-/

variable {inner : ExchangerInner}

/-- How many steps of its own the call takes in a history. -/
def ownSteps (index : Nat) (history : List (Moment State Action)) : Nat :=
  history.countP (fun moment => moment.2.advanced = some index)

section OwnSteps

variable {index : Nat} {history : List (Moment State Action)} {state : State} {action : Action}

theorem ownSteps_snoc_own :
    ownSteps index (history ++ [(state, .advance index)]) = ownSteps index history + 1 := by
  simp [ownSteps, Action.advanced]

theorem ownSteps_snoc_other (other : action ≠ .advance index) :
    ownSteps index (history ++ [(state, action)]) = ownSteps index history := by
  have notOwn : action.advanced ≠ some index := fun seen => other (Action.of_advanced seen)
  simp [ownSteps, notOwn]

/-- A history with steps of the call has a first one. -/
theorem exists_first_own (moves : 0 < ownSteps index history) :
    ∃ before storer, Passed history before (storer, .advance index) ∧
      ownSteps index before = 0 := by
  induction history using List.reverseRecOn with
  | nil => cases moves
  | append_singleton history newest inductionHypothesis =>
      by_cases earlier : 0 < ownSteps index history
      · rcases inductionHypothesis earlier with ⟨before, storer, passed, first⟩
        exact ⟨before, storer, passed.snoc, first⟩
      · have unmoved : ownSteps index history = 0 := Nat.eq_zero_of_not_pos earlier
        rcases newest with ⟨state, action⟩
        by_cases own : action = .advance index
        · subst own
          exact ⟨history, state, Passed.last, unmoved⟩
        · rw [ownSteps_snoc_other own] at moves
          exact absurd moves earlier

end OwnSteps

/-! ## Stages in order -/

/-- The stages at which a call awaits something. -/
def CallStage.awaits : CallStage → Bool
  | awaitLock _ | awaitAnswer _ _ => true
  | _ => false

/-- A call that awaits nothing moves by its own step only. -/
theorem CallMove.own {shared next : Shared} {index : Nat} {clientId secret : String}
    {action : Action} {current stage : CallStage}
    (move : CallMove inner shared index clientId secret action current next stage)
    (busy : current.awaits = false) :
    action = .advance index ∧ CallSpec inner shared clientId secret current next stage := by
  cases move with
  | advance spec => exact ⟨rfl, spec⟩
  | answer | abandonWait | abandonPost => cases busy

/-- If every own step of a call leads from one stage of a path to the next, the
number of own steps says where on the path it is. -/
theorem stage_of_run {path : Nat → CallStage} (busy : ∀ taken, (path taken).awaits = false)
    {start last : State} {history : List (Moment State Action)}
    (run : Run (step inner) start history last) {index : Nat} {clientId secret : String}
    (found : start.calls[index]? = some ⟨clientId, secret, path 0⟩)
    (onward : ∀ before mover next stage, Passed history before (mover, .advance index) →
      CallSpec inner mover.shared clientId secret (path (ownSteps index before)) next stage →
      stage = path (ownSteps index before + 1)) :
    last.calls[index]? = some ⟨clientId, secret, path (ownSteps index history)⟩ := by
  induction run with
  | nil => exact found
  | @snoc history state next action earlier taken inductionHypothesis =>
      have here := inductionHypothesis fun before mover next stage passed =>
        onward before mover next stage passed.snoc
      rcases call_persists taken here with ⟨stage, there, same | move⟩
      · have idle : action ≠ .advance index := by
          rintro rfl
          refine not_still_of_named taken (Or.inl rfl) here ?_
          rw [there, same]
        rw [ownSteps_snoc_other idle, there, same]
      · rcases move.own (busy _) with ⟨rfl, spec⟩
        rw [ownSteps_snoc_own, there, onward history state _ stage Passed.last spec]

/-- A call does not move while it awaits nothing and takes no step. -/
theorem still_of_run {start last : State} {history : List (Moment State Action)}
    (run : Run (step inner) start history last) {index : Nat} {call : ExchangeCall}
    (found : start.calls[index]? = some call) (busy : call.stage.awaits = false)
    (still : ownSteps index history = 0) : last.calls[index]? = some call := by
  refine @stage_of_run inner (fun _ => call.stage) (fun _ => busy) _ _ _ run _ _ _ found ?_
  intro before mover next stage passed _
  have own : 0 < ownSteps index history :=
    List.countP_pos_iff.mpr ⟨_, passed.mem, by simp [Action.advanced]⟩
  rw [still] at own
  exact absurd own (Nat.lt_irrefl 0)

/-- The stages of a call that leaves with a result. -/
def departure (lock : LockId) (result : Except AuthError String) : Nat → CallStage
  | 0 => .dropGuard lock result
  | 1 => .dropLock lock result
  | 2 => .cleanupInflight result
  | _ + 3 => .returned result

theorem departure_awaits (lock : LockId) (result : Except AuthError String) (taken : Nat) :
    (departure lock result taken).awaits = false := by
  rcases taken with _ | _ | _ | taken <;> rfl

theorem departure_onward {shared next : Shared} {clientId secret : String} {lock : LockId}
    {result : Except AuthError String} {taken : Nat} {stage : CallStage}
    (spec : CallSpec inner shared clientId secret (departure lock result taken) next stage) :
    stage = departure lock result (taken + 1) := by
  rcases taken with _ | _ | _ | taken <;> cases spec <;> rfl

/-- The call is on its way out with this result: it drops the guard and its
reference to the lock, cleans up and returns, each in a step of its own that
nothing delays or prevents. -/
def Leaves (inner : ExchangerInner) (state : State) (index : Nat) (clientId secret : String)
    (lock : LockId) (result : Except AuthError String) : Prop :=
  ∀ after last, Run (step inner) state after last →
    last.calls[index]? = some ⟨clientId, secret, departure lock result (ownSteps index after)⟩ ∧
      (ownSteps index after < 3 → ∃ next, step inner last (.advance index) = some next)

/-- The next step of a call is taken when its code has one here. -/
theorem exists_step {state : State} {index : Nat} {call : ExchangeCall}
    (found : state.calls[index]? = some call)
    (enabled : (callStep inner state.shared call).isSome) :
    ∃ next, step inner state (.advance index) = some next := by
  rcases Option.isSome_iff_exists.mp enabled with ⟨⟨shared, stage⟩, moved⟩
  exact ⟨_, by simp only [step, found, moved]; rfl⟩

theorem leaves_of_dropGuard {state : State} {index : Nat} {clientId secret : String}
    {lock : LockId} {result : Except AuthError String}
    (found : state.calls[index]? = some ⟨clientId, secret, .dropGuard lock result⟩) :
    Leaves inner state index clientId secret lock result := by
  intro after last run
  have here := stage_of_run (departure_awaits lock result) run found
    fun _ _ _ _ _ spec => departure_onward spec
  refine ⟨here, fun unfinished => exists_step here ?_⟩
  generalize ownSteps index after = taken at unfinished
  rcases taken with _ | _ | _ | taken
  · rfl
  · rfl
  · rfl
  · exact absurd unfinished (by omega)

/-- It is at the first of these stages now. -/
theorem Leaves.dropGuard {state : State} {index : Nat} {clientId secret : String} {lock : LockId}
    {result : Except AuthError String} (leaves : Leaves inner state index clientId secret lock result) :
    state.calls[index]? = some ⟨clientId, secret, .dropGuard lock result⟩ :=
  (leaves [] state Run.nil).1

/-! ## The answer -/

/-- A run in which the call's POST was answered with this reply and in which the
call has not moved since. -/
structure Received (inner : ExchangerInner) (history : List (Moment State Action)) (state : State)
    (index : Nat) (clientId secret : String) (lock : LockId) (reply : TokenReply) : Prop where
  run : ∃ clock, Run (step inner) (State.initial clock) history state
  answered : ∃ before waiting post, Passed history before (waiting, .answer index reply) ∧
    waiting.calls[index]? = some ⟨clientId, secret, .awaitAnswer lock post⟩
  here : state.calls[index]? = some ⟨clientId, secret, .storeOutcome lock (exchangeInner reply)⟩

/-- Every answer is received, and stays so until the call takes its next step. -/
theorem received_of_answer {clock : Instant} {history after : List (Moment State Action)}
    {waiting next state : State} {index : Nat} {clientId secret : String} {lock : LockId}
    {post : TokenPost} {reply : TokenReply}
    (run : Run (step inner) (State.initial clock) history waiting)
    (waits : waiting.calls[index]? = some ⟨clientId, secret, .awaitAnswer lock post⟩)
    (answered : step inner waiting (.answer index reply) = some next)
    (rest : Run (step inner) next after state) (still : ownSteps index after = 0) :
    Received inner (history ++ (waiting, .answer index reply) :: after) state index clientId secret
      lock reply := by
  rcases moved_of_found answered (Or.inr (Or.inl ⟨reply, rfl⟩)) waits with ⟨stage, move, there⟩
  have stored : stage = .storeOutcome lock (exchangeInner reply) := by
    generalize next.shared = shared at move
    cases move with
    | answer => rfl
  subst stored
  have whole : Run (step inner) (State.initial clock)
      (history ++ (waiting, .answer index reply) :: after) state :=
    run.append (Run.cons answered rest)
  exact ⟨⟨clock, whole⟩, ⟨history, waiting, post, Passed.of_append, waits⟩,
    still_of_run rest there rfl still⟩

/-- A call can come to receive any reply, here the first call of all. -/
theorem received_alone (inner : ExchangerInner) (clock : Instant) (clientId secret : String)
    (reply : TokenReply) :
    ∃ history state lock, Received inner history state 0 clientId secret lock reply ∧
      state.shared.clock = clock ∧ state.shared.positive = ∅ ∧ state.shared.negative = ∅ := by
  rcases @asks_alone inner (State.initial clock) clientId secret rfl rfl rfl with
    ⟨history, shared, lock, post, asked, only⟩
  have answered := @joinedBy_answer inner (State.initial clock) clientId secret shared lock post reply
  have received := received_of_answer asked rfl answered Run.nil rfl
  exact ⟨_, _, lock, received, only.clock, only.tokens, only.failures⟩

/-- The step after an answer is one of the store. -/
theorem Received.stores {history : List (Moment State Action)} {state next : State} {index : Nat}
    {clientId secret : String} {lock : LockId} {reply : TokenReply}
    (received : Received inner history state index clientId secret lock reply)
    (taken : step inner state (.advance index) = some next) :
    ∃ stage, CallSpec inner state.shared clientId secret
        (.storeOutcome lock (exchangeInner reply)) next.shared stage ∧
      next.calls[index]? = some ⟨clientId, secret, stage⟩ := by
  exact advanced_of_found taken received.here

end Exchange
end OidcRs
