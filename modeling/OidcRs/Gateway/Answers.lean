import OidcRs.Gateway.Progress
import OidcRs.Gateway.Response

namespace OidcRs
namespace Gateway

open Foundation
open Validation (JwtLibrary ValidatorInner)
open Exchange (ExchangerInner)

/-!
# What a request is answered with

A request gets one answer and keeps it.  Either the wrapped service is called, and
a handler that asks for the identity gets the one that was injected: a synthetic
one exactly when authentication is switched off.  Or the middleware answers
itself, with one of nine responses that are fixed texts.  What the IdP, a token or
the configuration contain is in none of them.
-/

variable {Keys : Type}

/-- `Authenticated::from_request`, on the identity among the extensions. -/
def fromRequest : Option Identity → Except Response Identity
  | some identity => .ok identity
  | none => .error ⟨500, none, errorBody "INTERNAL_ERROR" "auth middleware not configured"⟩

/-- `AuthState::exchanger` -/
def AuthMode.exchanger : AuthMode → Option ExchangerInner
  | enabled _ exchanger => some exchanger
  | disabled => none

/-- What the middleware itself has answered. -/
def RequestStage.response : RequestStage Keys → Option Response
  | refused error => some (toResponse error)
  | _ => none

/-- Everything that the middleware ever answers itself. -/
def publicResponses : List Response :=
  [⟨401, none, errorBody "MISSING_AUTHORIZATION" "missing Authorization header"⟩,
    ⟨401, none, errorBody "MALFORMED_AUTHORIZATION" "malformed Authorization header"⟩,
    ⟨401, none, errorBody "TOKEN_EXPIRED" "token expired"⟩,
    ⟨401, none, errorBody "BAD_SIGNATURE" "token signature invalid"⟩,
    ⟨401, none, errorBody "BAD_ISSUER" "token issuer not accepted"⟩,
    ⟨401, none, errorBody "BAD_AUDIENCE" "token audience not accepted"⟩,
    ⟨401, none, errorBody "INVALID_CREDENTIALS" "invalid credentials"⟩,
    ⟨503, some "5", errorBody "IDP_UNREACHABLE" "identity provider unreachable"⟩,
    ⟨503, some "5", errorBody "IDP_MALFORMED_RESPONSE"
      "identity provider returned an unexpected response"⟩]

theorem toResponse_public (error : AuthError) : toResponse error ∈ publicResponses := by
  cases error <;> simp [toResponse, publicResponses, code, publicMessage]

/-! ## Authentication switched on -/

section Enabled

variable {jwt : JwtLibrary} {http : HttpLibrary} {validator : ValidatorInner}
  {exchanger : ExchangerInner} {state : State (List jwt.CoreJsonWebKey)} {index : Nat}

theorem not_disabled {clock : Instant} {systemTime : Nat} {history : History jwt}
    (run : Run (step (enabled jwt http validator exchanger)) (State.initial clock systemTime)
      history state) {authorization : Option ByteArray} {identity : Identity}
    (found : state.requests[index]? = some ⟨authorization, .serving identity⟩) :
    identity ≠ .disabled := by
  rcases vouched_of_run rfl run found with ⟨scheme, _, _, rfl, _⟩
  cases scheme <;> simp [Scheme.identity]

end Enabled

/-! ## Authentication switched off -/

section Disabled

variable {jwt : JwtLibrary} {http : HttpLibrary} {state next : State (List jwt.CoreJsonWebKey)}
  {action : Action (List jwt.CoreJsonWebKey)}

/-- A middleware with authentication switched off. -/
abbrev switchedOff (jwt : JwtLibrary) (http : HttpLibrary) : Middleware := ⟨jwt, http, .disabled⟩

/-- Where a request can be when nothing is asked of it. -/
inductive RequestStage.Unasked : RequestStage Keys → Prop
  | arrived : Unasked .arrived
  | serving : Unasked (.serving .disabled)
  | dropped : Unasked .dropped

def State.AllUnasked (state : State Keys) : Prop :=
  ∀ (index : Nat) request, state.requests[index]? = some request → request.stage.Unasked

/-- What a step does. -/
inductive OffSpec (state : State Keys) : Action Keys → State Keys → Prop
  | request {authorization : Option ByteArray} : OffSpec state (.request authorization)
      { state with requests := state.requests ++ [⟨authorization, .arrived⟩] }
  | move {index : Nat} {request : Request Keys} {action : Action Keys} {stage : RequestStage Keys}
      (found : state.requests[index]? = some request) (unsettled : request.stage.settled = false)
      (unasked : stage.Unasked) : OffSpec state action (state.move index request stage)
  | setSystemTime {now : Nat} :
      OffSpec state (.setSystemTime now) { state with systemTime := now }

theorem off_spec (allUnasked : state.AllUnasked)
    (taken : step (switchedOff jwt http) state action = some next) : OffSpec state action next := by
  cases action with
  | request authorization =>
      simp only [step, Middleware.built, if_true] at taken
      rcases Option.some.inj taken with rfl
      exact .request
  | resolve index =>
      simp only [step, resolve] at taken
      split at taken
      · next found =>
          rcases Option.some.inj taken with rfl
          exact .move found rfl .serving
      · cases taken
  | exchanged index =>
      simp only [step] at taken
      split at taken
      · next found => cases allUnasked index _ found
      · cases taken
  | readKeys index =>
      simp only [step] at taken
      split at taken
      · next found => cases allUnasked index _ found
      · cases taken
  | drop index =>
      simp only [step] at taken
      split at taken
      · next request found =>
          rcases request with ⟨authorization, stage⟩
          cases allUnasked index _ found with
          | arrived =>
              rcases Option.some.inj taken with rfl
              exact .move found rfl .dropped
          | serving | dropped => cases taken
      · cases taken
  | setSystemTime now =>
      rcases Option.some.inj taken with rfl
      exact .setSystemTime
  | decide | exchanger | keys => cases taken

theorem allUnasked_step (allUnasked : state.AllUnasked)
    (taken : step (switchedOff jwt http) state action = some next) : next.AllUnasked := by
  intro index request found
  cases off_spec allUnasked taken with
  | request =>
      rcases Roll.of_joined found with earlier | ⟨_, rfl⟩
      · exact allUnasked index request earlier
      · exact .arrived
  | move here _ unasked =>
      rcases Roll.of_replaced here found with ⟨_, rfl⟩ | ⟨_, earlier⟩
      · exact unasked
      · exact allUnasked index request earlier
  | setSystemTime => exact allUnasked index request found

theorem allUnasked_of_run {clock : Instant} {systemTime : Nat} {history : History jwt}
    (run : Run (step (switchedOff jwt http)) (State.initial clock systemTime) history state) :
    state.AllUnasked :=
  run.invariant State.AllUnasked (fun _ _ _ before taken => allUnasked_step before taken)
    fun _ _ found => by cases found

theorem settled_persists_off {index : Nat} {request : Request (List jwt.CoreJsonWebKey)}
    (allUnasked : state.AllUnasked)
    (taken : step (switchedOff jwt http) state action = some next)
    (found : state.requests[index]? = some request) (settled : request.stage.settled = true) :
    next.requests[index]? = some request := by
  cases off_spec allUnasked taken with
  | request => exact Roll.joined found _
  | @move moved earlier _ stage here unsettled =>
      by_cases same : moved = index
      · subst same
        rcases Option.some.inj (found.symm.trans here) with rfl
        rw [unsettled] at settled
        cases settled
      · exact (List.getElem?_set_ne same).trans found
  | setSystemTime => exact found

end Disabled

/-! ## One answer -/

variable {middleware : Middleware} {state last : State middleware.Keys} {clock : Instant}
  {systemTime : Nat} {history after : List (Moment (State middleware.Keys) (Action middleware.Keys))}
  {index : Nat} {request : Request middleware.Keys}

/-- Whatever a request is answered with, it is not answered again. -/
theorem answer_is_final
    (run : Run (step middleware) (State.initial clock systemTime) history state)
    (rest : Run (step middleware) state after last)
    (found : state.requests[index]? = some request) (settled : request.stage.settled = true) :
    last.requests[index]? = some request := by
  rcases middleware with ⟨jwt, http, mode⟩
  cases mode with
  | enabled validator exchanger =>
      exact settled_of_run rest found settled
  | disabled =>
      have kept := rest.invariant
        (fun state => state.AllUnasked ∧ state.requests[index]? = some request)
        (fun _ _ _ before taken => ⟨allUnasked_step before.1 taken,
          settled_persists_off before.1 taken before.2 settled⟩) ⟨allUnasked_of_run run, found⟩
      exact kept.2

/-- A request that is over stays as it is.  If its handler was called, the handler
gets the identity it asks for, which is the synthetic one exactly when there is no
exchanger.  If the middleware has answered itself, authentication is on, and the
response is one of nine texts that are fixed beforehand. -/
theorem one_answer_and_a_fixed_one
    (run : Run (step middleware) (State.initial clock systemTime) history state)
    (rest : Run (step middleware) state after last)
    (found : state.requests[index]? = some request) (settled : request.stage.settled = true) :
    last.requests[index]? = some request ∧
    (∀ identity, request.stage.served = some identity →
      fromRequest request.stage.served = .ok identity ∧
        (identity = .disabled ↔ middleware.mode.exchanger = none)) ∧
    ∀ response, request.stage.response = some response →
      middleware.mode.exchanger ≠ none ∧ response ∈ publicResponses := by
  refine ⟨answer_is_final run rest found settled, ?_, ?_⟩
  · intro identity served
    refine ⟨by rw [served]; rfl, ?_⟩
    rcases request with ⟨authorization, stage⟩
    cases stage with
    | serving there =>
        rcases Option.some.inj served with rfl
        rcases middleware with ⟨jwt, http, mode⟩
        cases mode with
        | enabled validator exchanger =>
            exact iff_of_false (not_disabled run found) (Option.some_ne_none _)
        | disabled =>
            cases allUnasked_of_run run index _ found
            exact iff_of_true rfl rfl
    | arrived | exchanging | readingKeys | deciding | refused | panicked | dropped => cases served
  · intro response answered
    rcases request with ⟨authorization, stage⟩
    cases stage with
    | refused error =>
        rcases Option.some.inj answered with rfl
        refine ⟨?_, toResponse_public error⟩
        rcases middleware with ⟨jwt, http, mode⟩
        cases mode with
        | enabled validator exchanger => exact Option.some_ne_none _
        | disabled => cases allUnasked_of_run run index _ found
    | arrived | exchanging | readingKeys | deciding | serving | panicked | dropped => cases answered

/-- A request without a header is refused, and stays so when the next one comes. -/
theorem one_answer_and_a_fixed_one_of_refused :
    ∃ history state, Run (step (enabled (Validation.referenceLibrary Validation.sampleTokens)
        sampleHttp Validation.sampleValidator Exchange.sampleInner)) (State.initial 0 1200)
        history state ∧
      ∀ next, step (enabled (Validation.referenceLibrary Validation.sampleTokens) sampleHttp
          Validation.sampleValidator Exchange.sampleInner) state (.request none) = some next →
        ∃ response, (next.requests[0]?).map (·.stage.response) = some (some response) ∧
          response ∈ publicResponses := by
  obtain ⟨history, state, run, refused⟩ := execute_observed
    (step (enabled (Validation.referenceLibrary Validation.sampleTokens) sampleHttp
      Validation.sampleValidator Exchange.sampleInner)) (State.initial 0 1200)
    [.keys (.answer 0 (.error "timed out")), .request none, .resolve 0]
    (fun _ state => (state.requests[0]?).map (fun request =>
      match request.stage with
      | .refused error => some error
      | _ => none))
    (some (some .missingHeader)) (by decide +kernel)
  refine ⟨history, state, run, fun next taken => ?_⟩
  rcases Option.map_eq_some_iff.mp refused with ⟨⟨authorization, stage⟩, found, reason⟩
  cases stage with
  | refused error =>
      rcases one_answer_and_a_fixed_one run (Run.single taken) found rfl with ⟨final, _, fixed⟩
      rw [final]
      exact ⟨toResponse error, rfl, (fixed _ rfl).2⟩
  | arrived | exchanging | readingKeys | deciding | serving | panicked | dropped => cases reason

end Gateway
end OidcRs
