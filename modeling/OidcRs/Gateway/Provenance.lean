import OidcRs.Gateway.Authentication
import OidcRs.Gateway.Startup
import OidcRs.Validation.Acceptance

namespace OidcRs
namespace Gateway

open Foundation
open Validation (JwtLibrary ValidatorInner Validator FetchedIn)
open Exchange (ExchangerInner)

/-!
# From the configuration to the identity

A middleware that is made from an accepted configuration serves a request only with
what the configured issuer stands behind.  The evidence has three parts, each from
its own component: a key set that came in answer to a fetch of the run, a token
signed with a key of that set, and, for Basic credentials, an answer of the issuer's
token endpoint to a request with these very credentials.
-/

section Enabled

variable {jwt : JwtLibrary} {http : HttpLibrary} {validator : ValidatorInner}
  {exchanger : ExchangerInner} {history : History jwt}
  {state next : State (List jwt.CoreJsonWebKey)} {action : Action (List jwt.CoreJsonWebKey)}

/-! ## The key sets within -/

/-- The step of the fetches that a step of the middleware is. -/
def keysAction {Keys : Type} (moment : Moment (State Keys) (Action Keys)) :
    Option (Validation.KeyAction Keys) :=
  match moment.2 with
  | .keys action => some action
  | _ => none

/-- The fetches are a component of the middleware. -/
def keysComponent (jwt : JwtLibrary) (http : HttpLibrary) (validator : ValidatorInner)
    (exchanger : ExchangerInner) :
    Component (step (enabled jwt http validator exchanger))
      (Validation.keyStep : _ → _ → Option (Validation.KeyState (List jwt.CoreJsonWebKey))) where
  part := State.keys
  own := keysAction
  moves state action next move taken contains := by
    cases step_spec taken with
    | keys moved =>
        rcases Option.some.inj contains with rfl
        exact moved
    | request | exchanger | setSystemTime => cases contains
    | @move _ request _ _ _ found moves =>
        rcases request with ⟨authorization, stage⟩
        cases moves <;> cases contains
  rests state action next taken nothing := by
    cases step_spec taken with
    | keys moved => cases nothing
    | request | exchanger | setSystemTime | move => rfl

/-- A longer history of the middleware is one of its fetches. -/
theorem keys_history_extends {before longer : History jwt} (earlier : before <+: longer) :
    (keysComponent jwt http validator exchanger).history before <+:
      (keysComponent jwt http validator exchanger).history longer := by
  rcases earlier with ⟨after, rfl⟩
  rw [Component.history, Component.history, List.filterMap_append]
  exact List.prefix_append _ _

/-! ## The token -/

/-- The token passed every check that the configuration asks for, at a moment of the
request, with a key set that had been fetched. -/
structure CheckedDuring (jwt : JwtLibrary) (http : HttpLibrary) (validator : ValidatorInner)
    (exchanger : ExchangerInner) (history : History jwt) (index : Nat) (token : String)
    (claims : Claims) : Prop where
  checked : ∃ before decider keys payload, Passed history before (decider, .decide index) ∧
    FetchedIn ((keysComponent jwt http validator exchanger).history before) keys ∧
    Validation.Signed jwt keys token ∧ jwt.payload token = some payload ∧
    Validation.Current jwt validator payload decider.systemTime claims ∧
    ∀ audiences, (Validation.claim payload "aud").bind Validation.principals = some audiences →
      ∃ audience ∈ audiences, audience ∈ validator.audiences

/-- What was validated was checked with a key set that had been fetched. -/
theorem ValidatedDuring.checked (documented : jwt.Documented) {clock : Instant} {systemTime : Nat}
    (run : Run (step (enabled jwt http validator exchanger)) (State.initial clock systemTime)
      history state) {index : Nat} {token : String} {claims : Claims}
    (validated : ValidatedDuring validator history index token claims) :
    CheckedDuring jwt http validator exchanger history index token claims := by
  rcases validated with ⟨middle, decider, before, reader, decided, read, accepted⟩
  rcases Validation.validate_ok accepted with ⟨key, jwk, algorithm, decodingKey, raw, behind⟩
  rcases behind.loaded with ⟨keys, loaded, _⟩
  rw [loaded] at behind
  rcases behind.current documented with ⟨payload, stated, current⟩
  rcases decided.cut run with ⟨_, _, _, untilDecided, _, _⟩
  rcases read.cut untilDecided with ⟨_, _, _, untilRead, _, _⟩
  have fetched : FetchedIn ((keysComponent jwt http validator exchanger).history before) keys :=
    (Validation.allFetched_of_run
      ((keysComponent jwt http validator exchanger).run untilRead)).cell keys loaded
  refine ⟨middle, decider, keys, payload, decided,
    fetched.extend (keys_history_extends read.before_prefix), behind.signed documented, stated,
    current, fun audiences named => ?_⟩
  rcases behind.addressed documented stated named with ⟨others, same, audience, listed, configured⟩
  rcases Option.some.inj (named.symm.trans same) with rfl
  exact ⟨audience, listed, configured⟩

end Enabled

/-! ## The grant -/

/-- The token endpoint answered a request for these credentials with this token. -/
def GrantedIn (exchanger : ExchangerInner)
    (history : List (Moment Exchange.State Exchange.Action)) (id secret token : String) : Prop :=
  ∃ call reply expiresIn, Exchange.Answered exchanger history call id secret
    (Exchange.tokenPost exchanger id secret) reply ∧ reply.Grants token expiresIn

theorem granted_of_returned {exchanger : ExchangerInner} {clock : Instant}
    {history : List (Moment Exchange.State Exchange.Action)} {state : Exchange.State}
    (run : Run (Exchange.step exchanger) (Exchange.State.initial clock) history state)
    (separate : Exchange.DigestsSeparate exchanger state.calls) {call : Nat}
    {id secret token : String}
    (returned : state.calls[call]? = some ⟨id, secret, .returned (.ok token)⟩) :
    GrantedIn exchanger history id secret token := by
  have itself {other : Nat} {post : Exchange.TokenPost} {reply : Exchange.TokenReply}
      (answered : Exchange.Answered exchanger history other id secret post reply) :
      post = Exchange.tokenPost exchanger id secret := by
    rcases answered with ⟨_, _, _, _, _, _, _, _, _, _, same⟩
    exact same
  rcases Exchange.token_justified run separate returned with
    ⟨post, reply, expiresIn, answered, _, grants⟩ |
    ⟨deadline, storer, reader, reply, expiresIn, ⟨served, _⟩, grants, _⟩
  · obtain rfl := itself answered
    exact ⟨call, reply, expiresIn, answered, grants⟩
  · rcases served with ⟨before, early, other, lock, post, read, held, _, answered, _⟩
    have answered := answered.extend (held.passed.before_prefix.trans read.passed.before_prefix)
    obtain rfl := itself answered
    exact ⟨other, reply, expiresIn, answered, grants⟩

/-! ## The whole -/

section Deployed

variable {jwt : JwtLibrary} {http : HttpLibrary} {libraries : StartupLibraries (List jwt.CoreJsonWebKey)}
  {config : EnabledConfig} {validator : Validator (List jwt.CoreJsonWebKey)}
  {exchanger : ExchangerInner} {history : History jwt} {state : State (List jwt.CoreJsonWebKey)}
  {index : Nat}

/-- Whoever is served by a middleware that was made from an accepted configuration has
a token of the configured issuer, in force when it was checked, for a configured
audience if it names any, and signed with a key of a set that some fetch of the run
was answered with.  It came in the request, or the token endpoint that the issuer's
discovery document names granted it, asked as configured, to the credentials that
came in the request. -/
theorem served_as_configured (documented : jwt.Documented)
    (deployed : Deployed libraries config validator exchanger) {clock : Instant} {systemTime : Nat}
    (run : Run (step (enabled jwt http validator.inner exchanger)) (State.initial clock systemTime)
      history state)
    (separate : Exchange.DigestsSeparate exchanger state.exchanger.calls)
    {authorization : Option ByteArray} {identity : Identity}
    (served : state.requests[index]? = some ⟨authorization, .serving identity⟩) :
    validator.inner = ⟨config.issuer, config.audiences⟩ ∧
    ∃ token claims, claims.iss = config.issuer ∧
      CheckedDuring jwt http validator.inner exchanger history index token claims ∧
      (identity = .bearer claims ∧ parseAuthorization http authorization = .bearer token ∨
        identity = .basic claims ∧ ∃ id secret document endpoint,
          parseAuthorization http authorization = .basic id secret ∧
          libraries.discovery.get (Exchange.discoveryUrl config.issuer) = .document document ∧
          (document.get "token_endpoint").bind Json.asString = some endpoint ∧
          exchanger = ⟨endpoint, config.basicAudience, config.basicScope, config.basicCacheTtl,
            libraries.sha256⟩ ∧
          GrantedIn exchanger
            ((exchangerComponent jwt http validator.inner exchanger).history history) id secret
            token) := by
  rcases Validation.new_eq_ok_iff.mp deployed.validatorMade with ⟨_, _, _, _, rfl⟩
  refine ⟨rfl, ?_⟩
  rcases vouched_of_run rfl run served with ⟨scheme, token, claims, rfl, source, validated⟩
  have checked := validated.checked documented run
  have issued : claims.iss = config.issuer := by
    rcases checked.checked with ⟨_, _, _, payload, _, _, _, _, current, _⟩
    have same := current.iss.symm.trans current.issuer
    exact Json.str.inj (Option.some.inj same)
  refine ⟨token, claims, issued, checked, ?_⟩
  cases scheme with
  | bearer => exact Or.inl ⟨rfl, source⟩
  | basic =>
      rcases source with ⟨id, secret, call, parsed, _, returned⟩
      rcases Exchange.new_eq_ok deployed.exchangerMade with
        ⟨document, endpoint, fetched, named, rfl⟩
      exact Or.inr ⟨rfl, id, secret, document, endpoint, parsed, fetched, named, rfl,
        granted_of_returned ((exchangerComponent jwt http _ _).run run) separate returned⟩

end Deployed

theorem RequestStage.of_served {Keys : Type} {stage : RequestStage Keys} {identity : Identity}
    (served : stage.served = some identity) : stage = .serving identity := by
  cases stage with
  | serving there =>
      cases served
      rfl
  | arrived | exchanging | readingKeys | deciding | refused | panicked | dropped => cases served

/-- A client of the example server is served on a token that it was granted. -/
theorem served_as_configured_of_server :
    ∃ history state authorization,
      Run (step (enabled (Validation.referenceLibrary Validation.sampleTokens) sampleHttp
        Validation.sampleValidator Exchange.sampleInner)) (State.initial 0 1200) history state ∧
      state.requests[0]? = some ⟨authorization, .serving (.basic sampleClaims)⟩ ∧
      ∃ token, CheckedDuring (Validation.referenceLibrary Validation.sampleTokens) sampleHttp
        Validation.sampleValidator Exchange.sampleInner history 0 token sampleClaims := by
  obtain ⟨history, state, run, observed⟩ := execute_observed
    (step (enabled (Validation.referenceLibrary Validation.sampleTokens) sampleHttp
      Validation.sampleValidator Exchange.sampleInner)) (State.initial 0 1200)
    serveBasic
    (fun _ state => ((state.requests[0]?).map (·.stage.served),
      decide (Exchange.DigestsSeparate Exchange.sampleInner state.exchanger.calls)))
    (some (some (.basic sampleClaims)), true) (by decide +kernel)
  rcases Prod.mk.inj observed with ⟨first, separate⟩
  rcases Option.map_eq_some_iff.mp first with ⟨⟨authorization, stage⟩, found, serving⟩
  rcases deployed_of_started sample_started with ⟨issuer, _, _, deployed⟩
  obtain rfl := RequestStage.of_served serving
  refine ⟨history, state, authorization, run, found, ?_⟩
  rcases served_as_configured Validation.referenceLibrary_documented deployed run
    (of_decide_eq_true separate) found with
    ⟨_, token, claims, _, checked, ⟨impossible, _⟩ | ⟨same, _⟩⟩
  · cases impossible
  · rcases Identity.basic.inj same with rfl
    exact ⟨token, checked⟩

end Gateway
end OidcRs
