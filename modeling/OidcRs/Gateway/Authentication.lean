import OidcRs.Exchange.Isolation
import OidcRs.Gateway.Requests

namespace OidcRs
namespace Gateway

open Foundation
open Validation (JwtLibrary ValidatorInner)
open Exchange (ExchangerInner)

/-!
# Whoever is served has been authenticated

With authentication switched on, the wrapped service is called with an identity
only after the request's own credentials have led to it.  The invariant says,
stage by stage, what a request holds in its hands: a token from its own header,
or one that its own exchange returned.  The evidence behind the latter is the
exchanger's.
-/

section Enabled

variable {jwt : JwtLibrary} {http : HttpLibrary} {validator : ValidatorInner}
  {exchanger : ExchangerInner}

/-- The history of a middleware. -/
abbrev History (jwt : JwtLibrary) :=
  List (Moment (State (List jwt.CoreJsonWebKey)) (Action (List jwt.CoreJsonWebKey)))

/-- The request began this exchange, on reading its header. -/
def BeganExchange (history : History jwt) (index : Nat) (authorization : Option ByteArray)
    (call : Nat) : Prop :=
  ∃ before starter, Passed history before (starter, .resolve index) ∧
    starter.requests[index]? = some ⟨authorization, .arrived⟩ ∧
    starter.exchanger.calls.length = call

/-- Where the token of a request comes from. -/
def TokenSource (http : HttpLibrary) (history : History jwt) (calls : List Exchange.ExchangeCall)
    (index : Nat) (authorization : Option ByteArray) : Scheme → String → Prop
  | .bearer, token => parseAuthorization http authorization = .bearer token
  | .basic, token => ∃ id secret call, parseAuthorization http authorization = .basic id secret ∧
      BeganExchange history index authorization call ∧
      calls[call]? = some ⟨id, secret, .returned (.ok token)⟩

/-- The request validated this token, with a key set and at a system time that
it read itself. -/
def ValidatedDuring (validator : ValidatorInner) (history : History jwt) (index : Nat)
    (token : String) (claims : Claims) : Prop :=
  ∃ middle decider before reader, Passed history middle (decider, .decide index) ∧
    Passed middle before (reader, .readKeys index) ∧
    Validation.validate jwt validator reader.keys.jwks token decider.systemTime = .ok claims

/-- The request found this fault with this token, with a key set and at a system time
that it read itself. -/
def InvalidDuring (validator : ValidatorInner) (history : History jwt) (index : Nat)
    (token : String) (error : AuthError) : Prop :=
  ∃ middle decider before reader, Passed history middle (decider, .decide index) ∧
    Passed middle before (reader, .readKeys index) ∧
    Validation.validate jwt validator reader.keys.jwks token decider.systemTime = .error error

/-- What the history says about a request at each of its stages. -/
def Vouched (http : HttpLibrary) (validator : ValidatorInner) (history : History jwt)
    (calls : List Exchange.ExchangeCall) (index : Nat) (authorization : Option ByteArray) :
    RequestStage (List jwt.CoreJsonWebKey) → Prop
  | .exchanging id secret call => parseAuthorization http authorization = .basic id secret ∧
      BeganExchange history index authorization call ∧
      ∃ stage, calls[call]? = some ⟨id, secret, stage⟩
  | .readingKeys scheme token => TokenSource http history calls index authorization scheme token
  | .deciding scheme token jwks =>
      TokenSource http history calls index authorization scheme token ∧
      ∃ before reader, Passed history before (reader, .readKeys index) ∧ reader.keys.jwks = jwks
  | .serving identity => ∃ scheme token claims, identity = scheme.identity claims ∧
      TokenSource http history calls index authorization scheme token ∧
      ValidatedDuring validator history index token claims
  | .arrived | .refused _ | .panicked | .dropped => True

section Extend

variable {history : History jwt} {calls later : List Exchange.ExchangeCall} {index : Nat}
  {authorization : Option ByteArray}
  {newest : Moment (State (List jwt.CoreJsonWebKey)) (Action (List jwt.CoreJsonWebKey))}

theorem BeganExchange.snoc {call : Nat} (began : BeganExchange history index authorization call) :
    BeganExchange (history ++ [newest]) index authorization call := by
  rcases began with ⟨before, starter, passed, rest⟩
  exact ⟨before, starter, passed.snoc, rest⟩

theorem ValidatedDuring.snoc {token : String} {claims : Claims}
    (validated : ValidatedDuring validator history index token claims) :
    ValidatedDuring validator (history ++ [newest]) index token claims := by
  rcases validated with ⟨middle, decider, before, reader, passed, rest⟩
  exact ⟨middle, decider, before, reader, passed.snoc, rest⟩

theorem InvalidDuring.snoc {token : String} {error : AuthError}
    (invalid : InvalidDuring validator history index token error) :
    InvalidDuring validator (history ++ [newest]) index token error := by
  rcases invalid with ⟨middle, decider, before, reader, passed, rest⟩
  exact ⟨middle, decider, before, reader, passed.snoc, rest⟩

/-- Calls keep their credentials, and their results once they have them. -/
def Kept (calls later : List Exchange.ExchangeCall) : Prop :=
  ∀ (call : Nat) (there : Exchange.ExchangeCall), calls[call]? = some there →
    ∃ stage, later[call]? = some { there with stage := stage } ∧
      (there.stage.finished = true → stage = there.stage)

theorem TokenSource.snoc {scheme : Scheme} {token : String} (kept : Kept calls later)
    (source : TokenSource http history calls index authorization scheme token) :
    TokenSource http (history ++ [newest]) later index authorization scheme token := by
  cases scheme with
  | bearer => exact source
  | basic =>
      rcases source with ⟨id, secret, call, parsed, began, returned⟩
      rcases kept call _ returned with ⟨stage, here, same⟩
      rw [same rfl] at here
      exact ⟨id, secret, call, parsed, began.snoc, here⟩

theorem Vouched.snoc {stage : RequestStage (List jwt.CoreJsonWebKey)} (kept : Kept calls later)
    (vouched : Vouched http validator history calls index authorization stage) :
    Vouched http validator (history ++ [newest]) later index authorization stage := by
  cases stage with
  | exchanging id secret call =>
      rcases vouched with ⟨parsed, began, stage, there⟩
      rcases kept call _ there with ⟨changed, here, _⟩
      exact ⟨parsed, began.snoc, changed, here⟩
  | readingKeys => exact TokenSource.snoc kept vouched
  | deciding =>
      rcases vouched with ⟨source, before, reader, passed, same⟩
      exact ⟨source.snoc kept, before, reader, passed.snoc, same⟩
  | serving =>
      rcases vouched with ⟨scheme, token, claims, same, source, validated⟩
      exact ⟨scheme, token, claims, same, source.snoc kept, validated.snoc⟩
  | arrived | refused | panicked | dropped => trivial

end Extend

variable {state next : State (List jwt.CoreJsonWebKey)} {action : Action (List jwt.CoreJsonWebKey)}
  {history : History jwt} {index : Nat}

/-- One move of a request is vouched for. -/
theorem Vouched.move {request : Request (List jwt.CoreJsonWebKey)}
    {stage : RequestStage (List jwt.CoreJsonWebKey)} {after : Exchange.State}
    (vouched : Vouched http validator history state.exchanger.calls index request.authorization
      request.stage)
    (found : state.requests[index]? = some request)
    (kept : Kept state.exchanger.calls after.calls)
    (moves : RequestMove jwt http validator exchanger state index request.authorization action
      request.stage stage after) :
    Vouched http validator (history ++ [(state, action)]) after.calls index request.authorization
      stage := by
  rcases request with ⟨authorization, current⟩
  cases moves with
  | panicked | refused | exchangeFailed | exchangePanicked | rejected | dropCall | dropWait
  | dropUnpolled => trivial
  | bearer parsed => exact parsed
  | @basic id secret _ parsed began =>
      refine ⟨parsed, ⟨history, state, Passed.last, found, rfl⟩, .lookupPositive, ?_⟩
      rcases Option.some.inj began with rfl
      exact List.getElem?_concat_length
  | @exchanged id secret token call there listed returned =>
      rcases vouched with ⟨parsed, began, stage, known⟩
      rcases Option.some.inj (known.symm.trans listed) with rfl
      obtain rfl : stage = .returned (.ok token) := returned
      exact ⟨id, secret, call, parsed, began.snoc, known⟩
  | readKeys => exact ⟨TokenSource.snoc kept vouched, history, state, Passed.last, rfl⟩
  | @accepted scheme token jwks claims valid =>
      rcases vouched with ⟨source, before, reader, passed, rfl⟩
      exact ⟨scheme, token, claims, rfl, source.snoc kept, history, state, before, reader,
        Passed.last, passed, valid⟩

/-- Every request is vouched for by the run it is in. -/
theorem vouched_of_run {start : State (List jwt.CoreJsonWebKey)} (fresh : start.requests = [])
    (run : Run (step (enabled jwt http validator exchanger)) start history state)
    {request : Request (List jwt.CoreJsonWebKey)} (found : state.requests[index]? = some request) :
    Vouched http validator history state.exchanger.calls index request.authorization
      request.stage := by
  refine run.history_invariant (fun history state => ∀ request,
    state.requests[index]? = some request →
    Vouched http validator history state.exchanger.calls index request.authorization
      request.stage) ?_ ?_ request found
  · intro request listed
    rw [fresh] at listed
    cases listed
  · intro history state action next _ vouched taken request found
    have kept : Kept state.exchanger.calls next.exchanger.calls :=
      fun call there listed => call_kept taken listed
    cases step_spec taken with
    | request =>
        rcases Roll.of_joined found with earlier | ⟨_, same⟩
        · exact (vouched request earlier).snoc kept
        · subst same
          trivial
    | @move moved earlier _ stage after there moves =>
        rcases Roll.of_replaced there found with ⟨rfl, same⟩ | ⟨_, before⟩
        · subst same
          exact (vouched earlier there).move there kept moves
        · exact (vouched request before).snoc kept
    | exchanger | keys | setSystemTime => exact (vouched request found).snoc kept

/-- With authentication switched on, a request is served only with an identity
that its own header has earned: the claims of its own bearer token, or the
claims of a token that the IdP granted to exactly its own credentials, during
this very exchange or recently enough. -/
theorem authentication_sound {clock : Instant} {systemTime : Nat}
    (run : Run (step (enabled jwt http validator exchanger)) (State.initial clock systemTime)
      history state)
    (separate : Exchange.DigestsSeparate exchanger state.exchanger.calls)
    {authorization : Option ByteArray} {identity : Identity}
    (served : state.requests[index]? = some ⟨authorization, .serving identity⟩) :
    (∃ token claims, identity = .bearer claims ∧
      parseAuthorization http authorization = .bearer token ∧
      ValidatedDuring validator history index token claims) ∨
    ∃ id secret token claims call, identity = .basic claims ∧
      parseAuthorization http authorization = .basic id secret ∧
      BeganExchange history index authorization call ∧
      (Exchange.GrantedDuring exchanger
          ((exchangerComponent jwt http validator exchanger).history history) call id secret token ∨
        Exchange.GrantedRecently exchanger
          ((exchangerComponent jwt http validator exchanger).history history) call id secret token) ∧
      ValidatedDuring validator history index token claims := by
  rcases vouched_of_run rfl run served with ⟨scheme, token, claims, rfl, source, validated⟩
  cases scheme with
  | bearer => exact Or.inl ⟨token, claims, rfl, source, validated⟩
  | basic =>
      rcases source with ⟨id, secret, call, parsed, began, returned⟩
      have within : Run (Exchange.step exchanger) (Exchange.State.initial clock) _ state.exchanger :=
        (exchangerComponent jwt http validator exchanger).run run
      exact Or.inr ⟨id, secret, token, claims, call, rfl, parsed, began,
        Exchange.token_justified within separate returned, validated⟩

end Enabled

def sampleClaims : Claims := ⟨"https://idp", "u1", none, none, ["read", "write"]⟩

/-- The key set of the sample key is fetched and written. -/
def loadKeys : List (Action (List Validation.PublishedKey)) :=
  [.keys (.answer 0 (.ok [Validation.sampleKey])), .keys (.store 0)]

/-- The request of this number comes in with the sample client's credentials and has
them exchanged, by the call of the same number: so many steps up to the POST, its
answer, and so many steps from there. -/
def basicRequest (number untilPost : Nat) (reply : Exchange.TokenReply) (fromPost : Nat) :
    List (Action (List Validation.PublishedKey)) :=
  [.request (some "Basic YzpzZWM=".toUTF8), .resolve number] ++
    List.replicate untilPost (.exchanger (.advance number)) ++
    [.exchanger (.answer number reply)] ++
    List.replicate fromPost (.exchanger (.advance number)) ++ [.exchanged number]

/-- The sample client is granted a token and served. -/
def serveBasic : List (Action (List Validation.PublishedKey)) :=
  loadKeys ++ basicRequest 0 6 (Exchange.sampleGrant "jwt" 300) 5 ++ [.readKeys 0, .decide 0]

/-- A client is served twice, on a fresh token and on the cached one. -/
theorem authentication_sound_of_cached :
    ∃ history state authorization,
      Run (step (enabled (Validation.referenceLibrary Validation.sampleTokens) sampleHttp
        Validation.sampleValidator Exchange.sampleInner)) (State.initial 0 1200) history state ∧
      state.requests[1]? = some ⟨authorization, .serving (.basic sampleClaims)⟩ ∧
      ∃ call, BeganExchange history 1 authorization call := by
  obtain ⟨history, state, run, observed⟩ := execute_observed
    (step (enabled (Validation.referenceLibrary Validation.sampleTokens) sampleHttp
      Validation.sampleValidator Exchange.sampleInner)) (State.initial 0 1200)
    (serveBasic ++ [.exchanger (.tick 1000), .request (some "basic YzpzZWM=".toUTF8), .resolve 1,
      .exchanger (.advance 1), .exchanged 1, .readKeys 1, .setSystemTime 1201, .decide 1])
    (fun _ state => (state.requests.map (·.stage.served),
      decide (Exchange.DigestsSeparate Exchange.sampleInner state.exchanger.calls)))
    ([some (.basic sampleClaims), some (.basic sampleClaims)], true) (by decide +kernel)
  rcases Prod.mk.inj observed with ⟨served, separate⟩
  have second := congrArg (·[1]?) served
  rw [List.getElem?_map] at second
  rcases Option.map_eq_some_iff.mp second with ⟨⟨authorization, stage⟩, found, serving⟩
  cases stage with
  | serving identity =>
      rcases Option.some.inj serving with rfl
      refine ⟨history, state, authorization, run, found, ?_⟩
      rcases authentication_sound run (of_decide_eq_true separate) found with
        ⟨_, _, impossible, _⟩ | ⟨_, _, _, _, call, _, _, began, _⟩
      · cases impossible
      · exact ⟨call, began⟩
  | arrived | exchanging | readingKeys | deciding | refused | panicked | dropped => cases serving

end Gateway
end OidcRs
