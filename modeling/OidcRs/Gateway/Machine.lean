import OidcRs.Exchange.Machine
import OidcRs.Foundation.Components
import OidcRs.Gateway.Header
import OidcRs.Validation.Refresh
import OidcRs.Validation.Validator

namespace OidcRs
namespace Gateway

open Foundation
open Validation (JwtLibrary ValidatorInner KeyState KeyAction)
open Exchange (ExchangerInner)

/-!
# Requests through the middleware

Any number of requests share one exchanger and one key-set cell.  A request
reads its header in one step.  Then it waits: for an exchange, or for the cell.
Validation reads the cell and later decodes at the system time of that moment.
The wrapped service is called with the identity, or not at all.

The system time is not the monotone clock of the caches and may be set to
anything at any moment.
-/

/-- How the middleware is configured. -/
inductive AuthMode
  | disabled
  | enabled (validator : ValidatorInner) (exchanger : ExchangerInner)

/-- A configured middleware and the libraries it is built on. -/
structure Middleware where
  jwt : JwtLibrary
  http : HttpLibrary
  mode : AuthMode

/-- The key sets of a middleware. -/
abbrev Middleware.Keys (middleware : Middleware) : Type := List middleware.jwt.CoreJsonWebKey

/-- The credential format a token is validated for. -/
inductive Scheme
  | bearer
  | basic
  deriving DecidableEq

def Scheme.identity : Scheme → Claims → Identity
  | bearer, claims => .bearer claims
  | basic, claims => .basic claims

/-- Where `AuthMiddlewareService::call` is in its code. -/
inductive RequestStage (Keys : Type)
  | arrived
  /-- awaits `exchanger.exchange(id, secret)`, the call of this number -/
  | exchanging (id secret : String) (call : Nat)
  /-- awaits the read lock of the key-set cell in `validate` -/
  | readingKeys (scheme : Scheme) (token : String)
  /-- has cloned the cell -/
  | deciding (scheme : Scheme) (token : String) (jwks : Option Keys)
  /-- the wrapped service has been called with this identity injected -/
  | serving (identity : Identity)
  | refused (error : AuthError)
  | panicked
  | dropped

/-- The identity the wrapped service has been called with. -/
def RequestStage.served {Keys : Type} : RequestStage Keys → Option Identity
  | serving identity => some identity
  | _ => none

/-- The request will not move again. -/
def RequestStage.settled {Keys : Type} : RequestStage Keys → Bool
  | .serving _ | .refused _ | .panicked | .dropped => true
  | .arrived | .exchanging _ _ _ | .readingKeys _ _ | .deciding _ _ _ => false

structure Request (Keys : Type) where
  authorization : Option ByteArray
  stage : RequestStage Keys

structure State (Keys : Type) where
  exchanger : Exchange.State
  keys : KeyState Keys
  systemTime : Nat
  requests : List (Request Keys)

def State.initial {Keys : Type} (clock : Instant) (systemTime : Nat) : State Keys where
  exchanger := Exchange.State.initial clock
  keys := KeyState.initial
  systemTime := systemTime
  requests := []

/-- A request moves to a stage; everything else is unchanged. -/
def State.move {Keys : Type} (state : State Keys) (index : Nat) (request : Request Keys)
    (stage : RequestStage Keys) : State Keys :=
  { state with requests := state.requests.set index { request with stage := stage } }

inductive Action (Keys : Type)
  /-- a request comes in -/
  | request (authorization : Option ByteArray)
  /-- it reads its header -/
  | resolve (index : Nat)
  /-- its exchange has returned -/
  | exchanged (index : Nat)
  /-- it clones the key-set cell -/
  | readKeys (index : Nat)
  /-- it decodes its token -/
  | decide (index : Nat)
  /-- its future is dropped at an await point -/
  | drop (index : Nat)
  /-- the exchanger takes a step: a call moves or is answered, a flush is made -/
  | exchanger (action : Exchange.Action)
  /-- a key set is fetched or written -/
  | keys (action : KeyAction Keys)
  | setSystemTime (now : Nat)

/-- The action drops a call that a request awaits: only dropping the request
does that. -/
def State.ownsAbandoned {Keys : Type} (state : State Keys) : Exchange.Action → Bool
  | .abandon call =>
      state.requests.any (fun request =>
        match request.stage with
        | .exchanging _ _ awaited => awaited == call
        | _ => false)
  | _ => false

/-- Requests are served once the middleware has been built. -/
def Middleware.built (middleware : Middleware) (keys : KeyState middleware.Keys) : Bool :=
  match middleware.mode with
  | .disabled => true
  | .enabled _ _ => keys.constructed

/-- A request reads its header. -/
def resolve (middleware : Middleware) (state : State middleware.Keys) (index : Nat)
    (request : Request middleware.Keys) : Option (State middleware.Keys) :=
  match middleware.mode with
  | .disabled => some (state.move index request (.serving .disabled))
  | .enabled _ exchanger =>
      match parseAuthorization middleware.http request.authorization with
      | .panicked => some (state.move index request .panicked)
      | .refused error => some (state.move index request (.refused error))
      | .bearer token => some (state.move index request (.readingKeys .bearer token))
      | .basic id secret =>
          (Exchange.step exchanger state.exchanger (.exchange id secret)).map (fun next =>
            { state.move index request (.exchanging id secret state.exchanger.calls.length) with
              exchanger := next })

/-- What a request does with the outcome of its exchange. -/
def exchangedStage {Keys : Type} : Exchange.CallStage → Option (RequestStage Keys)
  | .returned (.ok jwt) => some (.readingKeys .basic jwt)
  | .returned (.error error) => some (.refused error)
  | .aborted => some .panicked
  | _ => none

/-- What a request does with the outcome of its validation. -/
def decidedStage {Keys : Type} (scheme : Scheme) : Except AuthError Claims → RequestStage Keys
  | .ok claims => .serving (scheme.identity claims)
  | .error error => .refused error

/-- A request's future is dropped where it may be: before it is polled, or at
one of its await points. -/
def drop (middleware : Middleware) (state : State middleware.Keys) (index : Nat)
    (request : Request middleware.Keys) : Option (State middleware.Keys) :=
  match middleware.mode, request.stage with
  | .enabled _ exchanger, .exchanging _ _ call =>
      (Exchange.step exchanger state.exchanger (.abandon call)).map (fun next =>
        { state.move index request .dropped with exchanger := next })
  | _, .readingKeys _ _ | _, .arrived => some (state.move index request .dropped)
  | _, _ => none

def step (middleware : Middleware) (state : State middleware.Keys) :
    Action middleware.Keys → Option (State middleware.Keys)
  | .request authorization =>
      if middleware.built state.keys then
        some { state with requests := state.requests ++ [⟨authorization, .arrived⟩] }
      else none
  | .resolve index =>
      match state.requests[index]? with
      | some ⟨authorization, .arrived⟩ => resolve middleware state index ⟨authorization, .arrived⟩
      | _ => none
  | .exchanged index =>
      match state.requests[index]? with
      | some ⟨authorization, .exchanging id secret call⟩ =>
          (state.exchanger.calls[call]?).bind (fun there =>
            (exchangedStage there.stage).map
              (state.move index ⟨authorization, .exchanging id secret call⟩))
      | _ => none
  | .readKeys index =>
      match state.requests[index]? with
      | some ⟨authorization, .readingKeys scheme token⟩ =>
          some (state.move index ⟨authorization, .readingKeys scheme token⟩
            (.deciding scheme token state.keys.jwks))
      | _ => none
  | .decide index =>
      match middleware.mode, state.requests[index]? with
      | .enabled validator _, some ⟨authorization, .deciding scheme token jwks⟩ =>
          some (state.move index ⟨authorization, .deciding scheme token jwks⟩
            (decidedStage scheme
              (Validation.validate middleware.jwt validator jwks token state.systemTime)))
      | _, _ => none
  | .drop index =>
      match state.requests[index]? with
      | some request => drop middleware state index request
      | none => none
  | .exchanger action =>
      match middleware.mode with
      | .disabled => none
      | .enabled _ exchanger =>
          if state.ownsAbandoned action then none
          else (Exchange.step exchanger state.exchanger action).map (fun next =>
            { state with exchanger := next })
  | .keys action =>
      match middleware.mode with
      | .disabled => none
      | .enabled _ _ =>
          (Validation.keyStep state.keys action).map (fun next => { state with keys := next })
  | .setSystemTime now => some { state with systemTime := now }

end Gateway
end OidcRs
