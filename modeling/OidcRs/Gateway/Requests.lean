import OidcRs.Exchange.Calls
import OidcRs.Gateway.Machine

namespace OidcRs
namespace Gateway

open Foundation
open Validation (JwtLibrary ValidatorInner)
open Exchange (ExchangerInner)

/-!
# The steps of a request

What one step of the middleware can do, branch by branch, with authentication
switched on.  A run of the middleware is a run of its exchanger.
-/

section Enabled

variable {jwt : JwtLibrary} {http : HttpLibrary} {validator : ValidatorInner}
  {exchanger : ExchangerInner}

/-- A middleware with authentication switched on. -/
abbrev enabled (jwt : JwtLibrary) (http : HttpLibrary) (validator : ValidatorInner)
    (exchanger : ExchangerInner) : Middleware :=
  ⟨jwt, http, .enabled validator exchanger⟩

/-- How a request moves, and what becomes of the exchanger. -/
inductive RequestMove (jwt : JwtLibrary) (http : HttpLibrary) (validator : ValidatorInner)
    (exchanger : ExchangerInner) (state : State (List jwt.CoreJsonWebKey)) (index : Nat)
    (authorization : Option ByteArray) :
    Action (List jwt.CoreJsonWebKey) → RequestStage (List jwt.CoreJsonWebKey) →
      RequestStage (List jwt.CoreJsonWebKey) → Exchange.State → Prop
  | panicked (parsed : parseAuthorization http authorization = .panicked) :
      RequestMove jwt http validator exchanger state index authorization (.resolve index) .arrived
        .panicked state.exchanger
  | refused {error : AuthError} (parsed : parseAuthorization http authorization = .refused error) :
      RequestMove jwt http validator exchanger state index authorization (.resolve index) .arrived
        (.refused error) state.exchanger
  | bearer {token : String} (parsed : parseAuthorization http authorization = .bearer token) :
      RequestMove jwt http validator exchanger state index authorization (.resolve index) .arrived
        (.readingKeys .bearer token) state.exchanger
  | basic {id secret : String} {next : Exchange.State}
      (parsed : parseAuthorization http authorization = .basic id secret)
      (began : Exchange.step exchanger state.exchanger (.exchange id secret) = some next) :
      RequestMove jwt http validator exchanger state index authorization (.resolve index) .arrived
        (.exchanging id secret state.exchanger.calls.length) next
  | exchanged {id secret token : String} {call : Nat} {there : Exchange.ExchangeCall}
      (found : state.exchanger.calls[call]? = some there)
      (returned : there.stage = .returned (.ok token)) :
      RequestMove jwt http validator exchanger state index authorization (.exchanged index)
        (.exchanging id secret call) (.readingKeys .basic token) state.exchanger
  | exchangeFailed {id secret : String} {call : Nat} {error : AuthError} :
      RequestMove jwt http validator exchanger state index authorization (.exchanged index)
        (.exchanging id secret call) (.refused error) state.exchanger
  | exchangePanicked {id secret : String} {call : Nat} :
      RequestMove jwt http validator exchanger state index authorization (.exchanged index)
        (.exchanging id secret call) .panicked state.exchanger
  | readKeys {scheme : Scheme} {token : String} :
      RequestMove jwt http validator exchanger state index authorization (.readKeys index)
        (.readingKeys scheme token) (.deciding scheme token state.keys.jwks) state.exchanger
  | accepted {scheme : Scheme} {token : String} {jwks : Option (List jwt.CoreJsonWebKey)}
      {claims : Claims}
      (valid : Validation.validate jwt validator jwks token state.systemTime = .ok claims) :
      RequestMove jwt http validator exchanger state index authorization (.decide index)
        (.deciding scheme token jwks) (.serving (scheme.identity claims)) state.exchanger
  | rejected {scheme : Scheme} {token : String} {jwks : Option (List jwt.CoreJsonWebKey)}
      {error : AuthError} :
      RequestMove jwt http validator exchanger state index authorization (.decide index)
        (.deciding scheme token jwks) (.refused error) state.exchanger
  | dropCall {id secret : String} {call : Nat} {next : Exchange.State}
      (abandoned : Exchange.step exchanger state.exchanger (.abandon call) = some next) :
      RequestMove jwt http validator exchanger state index authorization (.drop index)
        (.exchanging id secret call) .dropped next
  | dropWait {scheme : Scheme} {token : String} :
      RequestMove jwt http validator exchanger state index authorization (.drop index)
        (.readingKeys scheme token) .dropped state.exchanger
  | dropUnpolled :
      RequestMove jwt http validator exchanger state index authorization (.drop index) .arrived
        .dropped state.exchanger

/-- What a step does. -/
inductive StepSpec (jwt : JwtLibrary) (http : HttpLibrary) (validator : ValidatorInner)
    (exchanger : ExchangerInner) (state : State (List jwt.CoreJsonWebKey)) :
    Action (List jwt.CoreJsonWebKey) → State (List jwt.CoreJsonWebKey) → Prop
  | request {authorization : Option ByteArray} :
      StepSpec jwt http validator exchanger state (.request authorization)
        { state with requests := state.requests ++ [⟨authorization, .arrived⟩] }
  | move {index : Nat} {request : Request (List jwt.CoreJsonWebKey)}
      {action : Action (List jwt.CoreJsonWebKey)}
      {stage : RequestStage (List jwt.CoreJsonWebKey)} {next : Exchange.State}
      (found : state.requests[index]? = some request)
      (moves : RequestMove jwt http validator exchanger state index request.authorization action
        request.stage stage next) :
      StepSpec jwt http validator exchanger state action
        { state.move index request stage with exchanger := next }
  | exchanger {action : Exchange.Action} {next : Exchange.State}
      (taken : Exchange.step exchanger state.exchanger action = some next) :
      StepSpec jwt http validator exchanger state (.exchanger action)
        { state with exchanger := next }
  | keys {action : Validation.KeyAction (List jwt.CoreJsonWebKey)}
      {next : Validation.KeyState (List jwt.CoreJsonWebKey)}
      (taken : Validation.keyStep state.keys action = some next) :
      StepSpec jwt http validator exchanger state (.keys action) { state with keys := next }
  | setSystemTime {now : Nat} :
      StepSpec jwt http validator exchanger state (.setSystemTime now)
        { state with systemTime := now }

variable {state next : State (List jwt.CoreJsonWebKey)} {action : Action (List jwt.CoreJsonWebKey)}

theorem resolve_spec {index : Nat} {authorization : Option ByteArray}
    (found : state.requests[index]? = some ⟨authorization, .arrived⟩)
    (taken : resolve (enabled jwt http validator exchanger) state index ⟨authorization, .arrived⟩ =
      some next) : StepSpec jwt http validator exchanger state (.resolve index) next := by
  simp only [resolve] at taken
  split at taken
  · next parsed =>
      rcases Option.some.inj taken with rfl
      exact .move found (.panicked parsed)
  · next error parsed =>
      rcases Option.some.inj taken with rfl
      exact .move found (.refused parsed)
  · next token parsed =>
      rcases Option.some.inj taken with rfl
      exact .move found (.bearer parsed)
  · next id secret parsed =>
      rcases Option.map_eq_some_iff.mp taken with ⟨there, began, rfl⟩
      exact .move found (.basic parsed began)

theorem exchanged_spec {index call : Nat} {authorization : Option ByteArray} {id secret : String}
    {there : Exchange.ExchangeCall} {stage : RequestStage (List jwt.CoreJsonWebKey)}
    (found : state.requests[index]? = some ⟨authorization, .exchanging id secret call⟩)
    (listed : state.exchanger.calls[call]? = some there)
    (ended : exchangedStage there.stage = some stage) :
    StepSpec jwt http validator exchanger state (.exchanged index)
      (state.move index ⟨authorization, .exchanging id secret call⟩ stage) := by
  unfold exchangedStage at ended
  split at ended
  · next token returned =>
      rcases Option.some.inj ended with rfl
      exact .move found (.exchanged listed returned)
  · next error _ =>
      rcases Option.some.inj ended with rfl
      exact .move found .exchangeFailed
  · rcases Option.some.inj ended with rfl
    exact .move found .exchangePanicked
  · cases ended

theorem decided_spec {index : Nat} {authorization : Option ByteArray} {scheme : Scheme}
    {token : String} {jwks : Option (List jwt.CoreJsonWebKey)}
    (found : state.requests[index]? = some ⟨authorization, .deciding scheme token jwks⟩) :
    StepSpec jwt http validator exchanger state (.decide index)
      (state.move index ⟨authorization, .deciding scheme token jwks⟩ (decidedStage scheme
        (Validation.validate jwt validator jwks token state.systemTime))) := by
  cases outcome : Validation.validate jwt validator jwks token state.systemTime with
  | ok claims => exact .move found (.accepted outcome)
  | error error => exact .move found .rejected

theorem drop_spec {index : Nat} {request : Request (List jwt.CoreJsonWebKey)}
    (found : state.requests[index]? = some request)
    (taken : drop (enabled jwt http validator exchanger) state index request = some next) :
    StepSpec jwt http validator exchanger state (.drop index) next := by
  rcases request with ⟨authorization, stage⟩
  cases stage with
  | exchanging id secret call =>
      rcases Option.map_eq_some_iff.mp taken with ⟨there, abandoned, rfl⟩
      exact .move found (.dropCall abandoned)
  | readingKeys scheme token =>
      rcases Option.some.inj taken with rfl
      exact .move found .dropWait
  | arrived =>
      rcases Option.some.inj taken with rfl
      exact .move found .dropUnpolled
  | deciding | serving | refused | panicked | dropped => cases taken

theorem step_spec (taken : step (enabled jwt http validator exchanger) state action = some next) :
    StepSpec jwt http validator exchanger state action next := by
  cases action with
  | request authorization =>
      simp only [step] at taken
      split at taken
      · rcases Option.some.inj taken with rfl
        exact .request
      · cases taken
  | resolve index =>
      simp only [step] at taken
      split at taken
      · next found => exact resolve_spec found taken
      · cases taken
  | exchanged index =>
      simp only [step] at taken
      split at taken
      · next found =>
          rcases Option.bind_eq_some_iff.mp taken with ⟨there, listed, taken⟩
          rcases Option.map_eq_some_iff.mp taken with ⟨stage, ended, rfl⟩
          exact exchanged_spec found listed ended
      · cases taken
  | readKeys index =>
      simp only [step] at taken
      split at taken
      · next found =>
          rcases Option.some.inj taken with rfl
          exact .move found .readKeys
      · cases taken
  | decide index =>
      simp only [step] at taken
      split at taken
      · next same found =>
          rcases AuthMode.enabled.inj same with ⟨rfl, rfl⟩
          rcases Option.some.inj taken with rfl
          exact decided_spec found
      · cases taken
  | drop index =>
      simp only [step] at taken
      split at taken
      · next found => exact drop_spec found taken
      · cases taken
  | exchanger action =>
      simp only [step] at taken
      split at taken
      · cases taken
      · rcases Option.map_eq_some_iff.mp taken with ⟨there, moved, rfl⟩
        exact .exchanger moved
  | keys action =>
      rcases Option.map_eq_some_iff.mp taken with ⟨there, moved, rfl⟩
      exact .keys moved
  | setSystemTime now =>
      rcases Option.some.inj taken with rfl
      exact .setSystemTime

/-! ## One request in one step -/

/-- Where a request in the state after a step comes from. -/
theorem request_origin
    (taken : step (enabled jwt http validator exchanger) state action = some next) {index : Nat}
    {request : Request (List jwt.CoreJsonWebKey)}
    (found : next.requests[index]? = some request) :
    state.requests[index]? = some request ∨ request.stage = .arrived ∨
      ∃ earlier after, state.requests[index]? = some ⟨request.authorization, earlier⟩ ∧
        RequestMove jwt http validator exchanger state index request.authorization action earlier
          request.stage after := by
  cases step_spec taken with
  | @request authorization =>
      rcases Roll.of_joined found with before | ⟨_, same⟩
      · exact Or.inl before
      · rw [same]
        exact Or.inr (Or.inl rfl)
  | @move moved earlier _ stage after here moves =>
      rcases Roll.of_replaced here found with ⟨rfl, same⟩ | ⟨_, before⟩
      · subst same
        exact Or.inr (Or.inr ⟨earlier.stage, after, here, moves⟩)
      · exact Or.inl before
  | exchanger | keys | setSystemTime => exact Or.inl found

/-- A request keeps its place and its header, and changes stage only by a move. -/
theorem request_persists
    (taken : step (enabled jwt http validator exchanger) state action = some next) {index : Nat}
    {request : Request (List jwt.CoreJsonWebKey)}
    (found : state.requests[index]? = some request) :
    ∃ stage, next.requests[index]? = some { request with stage := stage } ∧
      (stage = request.stage ∨ ∃ after, RequestMove jwt http validator exchanger state index
        request.authorization action request.stage stage after) := by
  cases step_spec taken with
  | request => exact ⟨request.stage, Roll.joined found _, Or.inl rfl⟩
  | @move moved earlier _ stage after here moves =>
      by_cases same : moved = index
      · subst same
        rcases Option.some.inj (found.symm.trans here) with rfl
        exact ⟨stage, Roll.replaced_self here _, Or.inr ⟨after, moves⟩⟩
      · exact ⟨request.stage, (List.getElem?_set_ne same).trans found, Or.inl rfl⟩
  | exchanger | keys | setSystemTime => exact ⟨request.stage, found, Or.inl rfl⟩

/-- A request that is over does not move. -/
theorem RequestMove.unsettled {index : Nat} {authorization : Option ByteArray}
    {current stage : RequestStage (List jwt.CoreJsonWebKey)} {after : Exchange.State}
    (moves : RequestMove jwt http validator exchanger state index authorization action current
      stage after) : current.settled = false := by
  cases moves <;> rfl

theorem settled_persists {index : Nat} {request : Request (List jwt.CoreJsonWebKey)}
    (taken : step (enabled jwt http validator exchanger) state action = some next)
    (found : state.requests[index]? = some request) (settled : request.stage.settled = true) :
    next.requests[index]? = some request := by
  rcases request_persists taken found with ⟨stage, here, same | ⟨after, moves⟩⟩
  · rwa [same] at here
  · rw [moves.unsettled] at settled
    cases settled

/-- Whatever has become of a request stays so. -/
theorem settled_of_run {start last : State (List jwt.CoreJsonWebKey)}
    {history : List (Moment (State (List jwt.CoreJsonWebKey)) (Action (List jwt.CoreJsonWebKey)))}
    (run : Run (step (enabled jwt http validator exchanger)) start history last) {index : Nat}
    {request : Request (List jwt.CoreJsonWebKey)} (found : start.requests[index]? = some request)
    (settled : request.stage.settled = true) : last.requests[index]? = some request :=
  run.invariant (fun state => state.requests[index]? = some request)
    (fun _ _ _ here taken => settled_persists taken here settled) found

/-- A header that is refused decides where its request goes. -/
theorem refused_of_step {index : Nat} {authorization : Option ByteArray} {error : AuthError}
    (found : state.requests[index]? = some ⟨authorization, .arrived⟩)
    (parsed : parseAuthorization http authorization = .refused error)
    (taken : step (enabled jwt http validator exchanger) state (.resolve index) = some next) :
    next.requests[index]? = some ⟨authorization, .refused error⟩ := by
  simp only [step, found, resolve, parsed] at taken
  rcases Option.some.inj taken with rfl
  exact Roll.replaced_self found _

/-- What an awaited exchange has returned decides where its request goes. -/
theorem exchanged_of_step {index call : Nat} {authorization : Option ByteArray}
    {id secret : String}
    (found : state.requests[index]? = some ⟨authorization, .exchanging id secret call⟩)
    (taken : step (enabled jwt http validator exchanger) state (.exchanged index) = some next) :
    ∃ there stage, state.exchanger.calls[call]? = some there ∧
      exchangedStage there.stage = some stage ∧
      next.requests[index]? = some ⟨authorization, stage⟩ := by
  simp only [step, found] at taken
  rcases Option.bind_eq_some_iff.mp taken with ⟨there, listed, taken⟩
  rcases Option.map_eq_some_iff.mp taken with ⟨stage, ended, rfl⟩
  exact ⟨there, stage, listed, ended, Roll.replaced_self found _⟩

/-- The validation of its token decides where a request goes. -/
theorem decided_of_step {index : Nat} {authorization : Option ByteArray} {scheme : Scheme}
    {token : String} {jwks : Option (List jwt.CoreJsonWebKey)}
    (found : state.requests[index]? = some ⟨authorization, .deciding scheme token jwks⟩)
    (taken : step (enabled jwt http validator exchanger) state (.decide index) = some next) :
    next.requests[index]? = some ⟨authorization, decidedStage scheme
      (Validation.validate jwt validator jwks token state.systemTime)⟩ := by
  simp only [step, found] at taken
  rcases Option.some.inj taken with rfl
  exact Roll.replaced_self found _

/-! ## The exchanger within -/

/-- The step of the exchanger that a step of the middleware contains. -/
def exchangerAction {Keys : Type} (http : HttpLibrary) (moment : Moment (State Keys) (Action Keys)) :
    Option Exchange.Action :=
  match moment.2 with
  | .exchanger action => some action
  | .resolve index =>
      match moment.1.requests[index]? with
      | some ⟨authorization, _⟩ =>
          match parseAuthorization http authorization with
          | .basic id secret => some (.exchange id secret)
          | _ => none
      | none => none
  | .drop index =>
      match moment.1.requests[index]? with
      | some ⟨_, .exchanging _ _ call⟩ => some (.abandon call)
      | _ => none
  | _ => none

theorem exchanger_moves
    (taken : step (enabled jwt http validator exchanger) state action = some next)
    {own : Exchange.Action} (contains : exchangerAction http (state, action) = some own) :
    Exchange.step exchanger state.exchanger own = some next.exchanger := by
  cases step_spec taken with
  | request | keys | setSystemTime => cases contains
  | exchanger moved =>
      rcases Option.some.inj contains with rfl
      exact moved
  | @move index request _ _ _ found moves =>
      rcases request with ⟨authorization, stage⟩
      cases moves with
      | panicked parsed | refused parsed | bearer parsed =>
          simp only [exchangerAction, found, parsed, reduceCtorEq] at contains
      | basic parsed began =>
          simp only [exchangerAction, found, parsed, Option.some.injEq] at contains
          rwa [← contains]
      | dropCall abandoned =>
          simp only [exchangerAction, found, Option.some.injEq] at contains
          rwa [← contains]
      | dropWait | dropUnpolled => simp only [exchangerAction, found, reduceCtorEq] at contains
      | exchanged | exchangeFailed | exchangePanicked | readKeys | accepted | rejected =>
          cases contains

theorem exchanger_rests
    (taken : step (enabled jwt http validator exchanger) state action = some next)
    (nothing : exchangerAction http (state, action) = none) : next.exchanger = state.exchanger := by
  cases step_spec taken with
  | request | keys | setSystemTime => rfl
  | exchanger moved => cases nothing
  | @move index request _ _ _ found moves =>
      rcases request with ⟨authorization, stage⟩
      cases moves with
      | basic parsed began => simp only [exchangerAction, found, parsed, reduceCtorEq] at nothing
      | dropCall abandoned => simp only [exchangerAction, found, reduceCtorEq] at nothing
      | panicked | refused | bearer | dropWait | dropUnpolled | exchanged | exchangeFailed
      | exchangePanicked | readKeys | accepted | rejected => rfl

/-- The exchanger is a component of the middleware. -/
def exchangerComponent (jwt : JwtLibrary) (http : HttpLibrary) (validator : ValidatorInner)
    (exchanger : ExchangerInner) :
    Component (step (enabled jwt http validator exchanger)) (Exchange.step exchanger) where
  part := State.exchanger
  own := exchangerAction http
  moves _ _ _ _ taken contains := exchanger_moves taken contains
  rests _ _ _ taken nothing := exchanger_rests taken nothing

/-- A call of the exchanger keeps its credentials, and its result once it has
one. -/
theorem call_kept (taken : step (enabled jwt http validator exchanger) state action = some next)
    {call : Nat} {there : Exchange.ExchangeCall}
    (found : state.exchanger.calls[call]? = some there) :
    ∃ stage, next.exchanger.calls[call]? = some { there with stage := stage } ∧
      (there.stage.finished = true → stage = there.stage) := by
  cases contains : exchangerAction http (state, action) with
  | none =>
      rw [exchanger_rests taken contains]
      exact ⟨there.stage, found, fun _ => rfl⟩
  | some own =>
      rcases Exchange.call_persists (exchanger_moves taken contains) found with ⟨stage, here, moved⟩
      refine ⟨stage, here, fun finished => ?_⟩
      rcases moved with same | move
      · exact same
      · rw [move.unfinished] at finished
        cases finished

end Enabled

end Gateway
end OidcRs
