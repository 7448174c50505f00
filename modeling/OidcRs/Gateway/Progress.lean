import OidcRs.Exchange.Progress
import OidcRs.Gateway.Authentication

namespace OidcRs
namespace Gateway

open Foundation
open Validation (JwtLibrary ValidatorInner)
open Exchange (ExchangerInner)

/-!
# Every request is answered

A request waits for its exchange and for nothing else that could fail to come,
and every exchange comes to its end.  So when nothing in the middleware can move,
every request is over, and the steps that lead there are bounded: a request that
has just arrived has at most the stages of its own code and those of one
exchange in front of it.
-/

variable {Keys : Type}

/-! ## What is left to do -/

/-- The actions that carry on what has been begun. -/
def Action.Works : Action Keys → Prop
  | .resolve _ | .exchanged _ | .readKeys _ | .decide _ => True
  | .exchanger action => action.Works
  | .request _ | .drop _ | .keys _ | .setSystemTime _ => False

instance : DecidablePred (Action.Works : Action Keys → Prop)
  | .resolve _ | .exchanged _ | .readKeys _ | .decide _ => isTrue trivial
  | .exchanger action => inferInstanceAs (Decidable action.Works)
  | .request _ | .drop _ | .keys _ | .setSystemTime _ => isFalse id

/-- Likewise, where the IdP answers the POST of each call in the given way. -/
def Action.WorksWith (replies : Nat → Exchange.TokenReply) : Action Keys → Prop
  | .exchanger action => action.WorksWith replies
  | action => action.Works

/-- The actions by which something new comes in. -/
def Action.Begins : Action Keys → Prop
  | .request _ => True
  | .exchanger action => action.Begins
  | .resolve _ | .exchanged _ | .readKeys _ | .decide _ | .drop _ | .keys _ | .setSystemTime _ =>
      False

theorem Action.WorksWith.works {replies : Nat → Exchange.TokenReply} {action : Action Keys}
    (works : action.WorksWith replies) : action.Works := by
  cases action with
  | exchanger action => exact Exchange.Action.WorksWith.works works
  | resolve | exchanged | readKeys | decide | request | drop | keys | setSystemTime => exact works

/-- The number of steps in front of a request, with those of the exchange that it
may have to begin. -/
def RequestStage.left : RequestStage Keys → Nat
  | .arrived => 21
  | .exchanging _ _ _ => 3
  | .readingKeys _ _ => 2
  | .deciding _ _ _ => 1
  | .serving _ | .refused _ | .panicked | .dropped => 0

def Request.left (request : Request Keys) : Nat := request.stage.left

def State.left (state : State Keys) : Nat :=
  Roll.total Request.left state.requests + state.exchanger.left

section Enabled

variable {jwt : JwtLibrary} {http : HttpLibrary} {validator : ValidatorInner}
  {exchanger : ExchangerInner} {state next : State (List jwt.CoreJsonWebKey)}
  {action : Action (List jwt.CoreJsonWebKey)}

/-- A call that begins has as many stages in front of it as a request allows for. -/
theorem left_of_began {id secret : String} {calls after : Exchange.State}
    (began : Exchange.step exchanger calls (.exchange id secret) = some after) :
    after.left = calls.left + 17 := by
  rcases Option.some.inj began with rfl
  simp only [Exchange.State.left, Roll.total_joined]
  simp only [Exchange.ExchangeCall.left, Exchange.CallStage.rank]
  omega

/-- Every move of a request brings it nearer to its end. -/
theorem RequestMove.left_lt {index : Nat} {authorization : Option ByteArray}
    {current stage : RequestStage (List jwt.CoreJsonWebKey)} {after : Exchange.State}
    (moves : RequestMove jwt http validator exchanger state index authorization action current
      stage after) :
    stage.left + after.left < current.left + state.exchanger.left := by
  cases moves with
  | basic _ began =>
      rw [left_of_began began]
      simp only [RequestStage.left]
      omega
  | @dropCall id secret call after abandoned =>
      have begins : ¬ (Exchange.Action.abandon call).Begins := fun nothing => nothing
      have less := Exchange.left_le_of_step begins abandoned
      simp only [RequestStage.left]
      omega
  | panicked | refused | bearer | exchanged | exchangeFailed | exchangePanicked | readKeys
  | accepted | rejected | dropWait | dropUnpolled =>
      simp only [RequestStage.left]
      omega

theorem left_lt_of_move {index : Nat} {request : Request (List jwt.CoreJsonWebKey)}
    {stage : RequestStage (List jwt.CoreJsonWebKey)} {after : Exchange.State}
    (found : state.requests[index]? = some request)
    (moves : RequestMove jwt http validator exchanger state index request.authorization action
      request.stage stage after) :
    State.left { state.move index request stage with exchanger := after } < state.left := by
  have balance := Roll.total_replaced Request.left found { request with stage := stage }
  have less := moves.left_lt
  simp only [Request.left] at balance
  simp only [State.left, State.move]
  omega

theorem left_lt_of_works (works : action.Works)
    (taken : step (enabled jwt http validator exchanger) state action = some next) :
    next.left < state.left := by
  cases step_spec taken with
  | move found moves => exact left_lt_of_move found moves
  | exchanger moved => exact Nat.add_lt_add_left (Exchange.left_lt_of_works works moved) _
  | request | keys | setSystemTime => cases works

theorem left_le_of_step (begins : ¬ action.Begins)
    (taken : step (enabled jwt http validator exchanger) state action = some next) :
    next.left ≤ state.left := by
  cases step_spec taken with
  | move found moves => exact Nat.le_of_lt (left_lt_of_move found moves)
  | exchanger moved => exact Nat.add_le_add_left (Exchange.left_le_of_step begins moved) _
  | keys | setSystemTime => exact Nat.le_refl _
  | request => exact absurd trivial begins

/-! ## Nothing left to do -/

/-- Work of the exchanger is never held back. -/
theorem exchanger_idle {replies : Nat → Exchange.TokenReply}
    (idle : Idle (step (enabled jwt http validator exchanger)) (Action.WorksWith replies) state) :
    Idle (Exchange.step exchanger) (Exchange.Action.WorksWith replies) state.exchanger := by
  intro action works
  have still := idle (.exchanger action) works
  have unowned : state.ownsAbandoned action = false := by
    cases action with
    | abandon => exact works.elim
    | exchange | advance | answer | flush | advanceFlush | tick => rfl
  simp only [step, unowned, Bool.false_eq_true, if_false, Option.map_eq_none_iff] at still
  exact still

theorem resolve_enabled {index : Nat} {authorization : Option ByteArray}
    (found : state.requests[index]? = some ⟨authorization, .arrived⟩) :
    ∃ next, step (enabled jwt http validator exchanger) state (.resolve index) = some next := by
  simp only [step, found, resolve]
  cases parseAuthorization http authorization with
  | panicked | refused | bearer => exact ⟨_, rfl⟩
  | basic id secret => exact ⟨_, rfl⟩

/-- An exchange that is over lets its request go on. -/
theorem exchanged_enabled {index call : Nat} {authorization : Option ByteArray}
    {id secret : String} {there : Exchange.ExchangeCall}
    (found : state.requests[index]? = some ⟨authorization, .exchanging id secret call⟩)
    (listed : state.exchanger.calls[call]? = some there)
    (finished : there.stage.finished = true) :
    ∃ next, step (enabled jwt http validator exchanger) state (.exchanged index) = some next := by
  have goesOn : ∃ stage : RequestStage (List jwt.CoreJsonWebKey),
      exchangedStage there.stage = some stage := by
    rcases there with ⟨_, _, stage⟩
    cases stage with
    | returned result => cases result <;> exact ⟨_, rfl⟩
    | aborted => exact ⟨_, rfl⟩
    | _ => cases finished
  rcases goesOn with ⟨stage, ended⟩
  exact ⟨_, by simp only [step, found, listed, Option.bind_some, ended, Option.map_some]; rfl⟩

/-- Every request is over. -/
def State.AllSettled (state : State Keys) : Prop :=
  ∀ (index : Nat) request, state.requests[index]? = some request → request.stage.settled = true

variable {clock : Instant} {systemTime : Nat} {history : History jwt}

theorem settled_when_idle
    (run : Run (step (enabled jwt http validator exchanger)) (State.initial clock systemTime)
      history state) {replies : Nat → Exchange.TokenReply}
    (idle : Idle (step (enabled jwt http validator exchanger)) (Action.WorksWith replies) state) :
    state.AllSettled := by
  have within : Run (Exchange.step exchanger) (Exchange.State.initial clock) _ state.exchanger :=
    (exchangerComponent jwt http validator exchanger).run run
  have quiet := Exchange.quiet_when_idle (Exchange.sound_of_run within) (exchanger_idle idle)
  rintro index ⟨authorization, stage⟩ found
  cases stage with
  | serving | refused | panicked | dropped => rfl
  | arrived =>
      have taken : ∃ next, step (enabled jwt http validator exchanger) state (.resolve index) =
          some next := resolve_enabled found
      rw [idle (.resolve index) trivial] at taken
      rcases taken with ⟨_, impossible⟩
      cases impossible
  | exchanging id secret call =>
      rcases vouched_of_run rfl run found with ⟨_, _, stage, listed⟩
      have taken : ∃ next, step (enabled jwt http validator exchanger) state (.exchanged index) =
          some next := exchanged_enabled found listed (quiet.calls call _ listed)
      rw [idle (.exchanged index) trivial] at taken
      rcases taken with ⟨_, impossible⟩
      cases impossible
  | readingKeys scheme token =>
      have taken := idle (.readKeys index) trivial
      simp only [step, found, reduceCtorEq] at taken
  | deciding scheme token jwks =>
      have taken := idle (.decide index) trivial
      simp only [step, found, reduceCtorEq] at taken

/-- From every reachable state: the steps that a run can take without a new
request, exchange or flush are bounded, and once none is possible every request
is over; and however the IdP answers, all requests can be brought to their end
without dropping any. -/
theorem every_request_is_answered
    (run : Run (step (enabled jwt http validator exchanger)) (State.initial clock systemTime)
      history state) :
    (∀ after last, Run (step (enabled jwt http validator exchanger)) state after last →
      (∀ moment ∈ after, ¬ moment.2.Begins) →
      workDone Action.Works after ≤ state.left ∧
        (Idle (step (enabled jwt http validator exchanger)) Action.Works last →
          last.AllSettled)) ∧
    ∀ replies, ∃ after last, Run (step (enabled jwt http validator exchanger)) state after last ∧
      (∀ moment ∈ after, moment.2.WorksWith replies) ∧ last.AllSettled := by
  constructor
  · intro after last rest quiet
    have bounded := workDone_le (fun _ _ _ works taken => left_lt_of_works works taken)
      (fun _ _ _ begins taken => left_le_of_step begins taken) rest quiet
    refine ⟨Nat.le_trans (Nat.le_add_right _ _) bounded, fun idle => ?_⟩
    have idleHowever : Idle (step (enabled jwt http validator exchanger))
        (Action.WorksWith fun _ => .sendFailed "") last := fun action works =>
      idle action works.works
    exact settled_when_idle (run.append rest) idleHowever
  · intro replies
    rcases exists_idle (fun _ _ _ works taken => left_lt_of_works (Action.WorksWith.works works)
      taken) state with ⟨after, last, rest, works, idle⟩
    exact ⟨after, last, rest, works, settled_when_idle (run.append rest) idle⟩

end Enabled

/-- One request waits for the IdP and another, of the same client, for the lock. -/
theorem every_request_is_answered_of_two_requests :
    ∃ history state, Run (step (enabled (Validation.referenceLibrary Validation.sampleTokens)
        sampleHttp Validation.sampleValidator Exchange.sampleInner)) (State.initial 0 1200)
        history state ∧
      state.exchanger.calls.map Exchange.ExchangeCall.stage =
        [.awaitAnswer 0 (Exchange.tokenPost Exchange.sampleInner "c" "sec"), .awaitLock 0] ∧
      ∃ after last, Run (step (enabled (Validation.referenceLibrary Validation.sampleTokens)
        sampleHttp Validation.sampleValidator Exchange.sampleInner)) state after last ∧
        last.AllSettled := by
  obtain ⟨history, state, run, waits⟩ := execute_observed
    (step (enabled (Validation.referenceLibrary Validation.sampleTokens) sampleHttp
      Validation.sampleValidator Exchange.sampleInner)) (State.initial 0 1200)
    [.keys (.answer 0 (.ok [Validation.sampleKey])), .keys (.store 0),
      .request (some "Basic YzpzZWM=".toUTF8), .request (some "basic YzpzZWM=".toUTF8),
      .resolve 0, .resolve 1, .exchanger (.advance 0), .exchanger (.advance 0),
      .exchanger (.advance 0), .exchanger (.advance 0), .exchanger (.advance 0),
      .exchanger (.advance 0), .exchanger (.advance 1), .exchanger (.advance 1),
      .exchanger (.advance 1)]
    (fun _ state => state.exchanger.calls.map Exchange.ExchangeCall.stage)
    [.awaitAnswer 0 (Exchange.tokenPost Exchange.sampleInner "c" "sec"), .awaitLock 0]
    (by decide +kernel)
  rcases (every_request_is_answered run).2 (fun _ => Exchange.sampleGrant "jwt" 300) with
    ⟨after, last, rest, _, settled⟩
  exact ⟨history, state, run, waits, after, last, rest, settled⟩

end Gateway
end OidcRs
