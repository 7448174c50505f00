import OidcRs.Gateway.Authentication
import OidcRs.Gateway.Response
import OidcRs.Validation.Decoding

namespace OidcRs
namespace Gateway

open Foundation
open Validation (JwtLibrary ValidatorInner tokenKid blamesHeader blamesIdp KeyLost)
open Exchange (ExchangerInner)

/-!
# Whom a refusal blames

A refusal has one of three origins: the header as it was read, the exchange, or
the validation of a token.  The validator finds fault with a token in the same
words wherever the token came from, and the lookup of the header takes a value
that is no text for no header.  Apart from these two, a refusal blames the
header only for what is wrong with it.
-/

section Enabled

variable {jwt : JwtLibrary} {http : HttpLibrary} {validator : ValidatorInner}
  {exchanger : ExchangerInner} {state next : State (List jwt.CoreJsonWebKey)}
  {action : Action (List jwt.CoreJsonWebKey)} {history : History jwt} {index : Nat}
  {authorization : Option ByteArray}

/-! ## What may be wrong with a header -/

/-- The value names the scheme `Basic` and has this behind it. -/
structure BasicCredential (http : HttpLibrary) (value : ByteArray) (b64 : List Char) : Prop where
  stripped : ∃ header, http.toStr value = some header ∧
    stripSchemePrefix header.toList "Bearer".toList = .unmatched ∧
    stripSchemePrefix header.toList "Basic".toList = .matched b64

/-- The value of a header cannot be parsed. -/
inductive Unparsable (jwt : JwtLibrary) (http : HttpLibrary) (value : ByteArray) : Prop
  | unreadable (unread : http.toStr value = none)
  | unknownScheme {header : String} (reads : http.toStr value = some header)
      (notBearer : stripSchemePrefix header.toList "Bearer".toList = .unmatched)
      (notBasic : stripSchemePrefix header.toList "Basic".toList = .unmatched)
  | badBase64 {b64 : List Char} (credential : BasicCredential http value b64)
      (undecodable : http.decodeBase64 (String.ofList (Text.trim b64)) = none)
  | badUtf8 {b64 : List Char} {decoded : ByteArray} (credential : BasicCredential http value b64)
      (decodes : http.decodeBase64 (String.ofList (Text.trim b64)) = some decoded)
      (noText : String.fromUTF8? decoded = none)
  | noColon {b64 : List Char} {decoded : ByteArray} {text : String}
      (credential : BasicCredential http value b64)
      (decodes : http.decodeBase64 (String.ofList (Text.trim b64)) = some decoded)
      (isText : String.fromUTF8? decoded = some text)
      (whole : Text.splitOnce ':' text.toList = none)
  | noKid {header : String} {token : List Char} (reads : http.toStr value = some header)
      (isBearer : stripSchemePrefix header.toList "Bearer".toList = .matched token)
      (unnamed : tokenKid jwt (String.ofList token) = none)

/-- What parsing a header comes to, scheme by scheme. -/
inductive ParseSpec (http : HttpLibrary) : Option ByteArray → Parsed → Prop
  | missing {authorization : Option ByteArray} (unread : authorization.bind http.toStr = none) :
      ParseSpec http authorization (.refused .missingHeader)
  | panicked {value : ByteArray} : ParseSpec http (some value) .panicked
  | bearer {value : ByteArray} {header : String} {token : List Char}
      (reads : http.toStr value = some header)
      (isBearer : stripSchemePrefix header.toList "Bearer".toList = .matched token) :
      ParseSpec http (some value) (.bearer (String.ofList token))
  | basic {value : ByteArray} {b64 : List Char} (credential : BasicCredential http value b64) :
      ParseSpec http (some value) (parseBasic http b64)
  | unknown {value : ByteArray} {header : String} (reads : http.toStr value = some header)
      (notBearer : stripSchemePrefix header.toList "Bearer".toList = .unmatched)
      (notBasic : stripSchemePrefix header.toList "Basic".toList = .unmatched) :
      ParseSpec http (some value) (.refused .malformedHeader)

theorem parse_spec (http : HttpLibrary) (authorization : Option ByteArray) :
    ParseSpec http authorization (parseAuthorization http authorization) := by
  unfold parseAuthorization
  split
  · next unread => exact .missing unread
  · next header reads =>
      rcases Option.bind_eq_some_iff.mp reads with ⟨value, rfl, reads⟩
      split
      · exact .panicked
      · next isBearer => exact .bearer reads isBearer
      · next notBearer =>
          split
          · exact .panicked
          · next isBasic => exact .basic ⟨header, reads, notBearer, isBasic⟩
          · next notBasic => exact .unknown reads notBearer notBasic

/-- What decoding the credentials comes to. -/
theorem parseBasic_cases (jwt : JwtLibrary) (http : HttpLibrary) (b64 : List Char) :
    (∃ id secret, parseBasic http b64 = .basic id secret) ∨
      parseBasic http b64 = .refused .malformedHeader ∧
        ∀ value, BasicCredential http value b64 → Unparsable jwt http value := by
  unfold parseBasic
  split
  · next undecodable => exact Or.inr ⟨rfl, fun _ credential => .badBase64 credential undecodable⟩
  · next decoded decodes =>
      split
      · next noText => exact Or.inr ⟨rfl, fun _ credential => .badUtf8 credential decodes noText⟩
      · next text isText =>
          split
          · next whole =>
              exact Or.inr ⟨rfl, fun _ credential => .noColon credential decodes isText whole⟩
          · exact Or.inl ⟨_, _, rfl⟩

theorem parse_of_credential {value : ByteArray} {b64 : List Char}
    (credential : BasicCredential http value b64) :
    parseAuthorization http (some value) = parseBasic http b64 := by
  rcases credential.stripped with ⟨header, reads, notBearer, isBasic⟩
  simp only [parseAuthorization, Option.bind_some, reads, notBearer, isBasic]

/-- A refusal of the header for its form has a reason. -/
theorem refused_spec (jwt : JwtLibrary) {error : AuthError}
    (parsed : parseAuthorization http authorization = .refused error) :
    error = .missingHeader ∧ authorization.bind http.toStr = none ∨
      error = .malformedHeader ∧ ∃ value, authorization = some value ∧
        (http.toStr value).isSome = true ∧ Unparsable jwt http value := by
  have spec := parse_spec http authorization
  generalize outcome : parseAuthorization http authorization = result at spec parsed
  cases spec with
  | missing unread =>
      cases parsed
      exact Or.inl ⟨rfl, unread⟩
  | panicked | bearer => cases parsed
  | @basic value b64 credential =>
      rcases parseBasic_cases jwt http b64 with ⟨id, secret, same⟩ | ⟨same, reasons⟩
      · rw [same] at parsed
        cases parsed
      · rw [same] at parsed
        cases parsed
        rcases credential.stripped with ⟨header, reads, _⟩
        exact Or.inr ⟨rfl, value, rfl, by rw [reads]; rfl, reasons value credential⟩
  | @unknown value header reads notBearer notBasic =>
      cases parsed
      exact Or.inr ⟨rfl, value, rfl, by rw [reads]; rfl, .unknownScheme reads notBearer notBasic⟩

theorem unparsable_of_bearer {token : String}
    (parsed : parseAuthorization http authorization = .bearer token)
    (unnamed : tokenKid jwt token = none) :
    ∃ value, authorization = some value ∧ Unparsable jwt http value := by
  have spec := parse_spec http authorization
  generalize outcome : parseAuthorization http authorization = result at spec parsed
  cases spec with
  | missing | panicked | unknown => cases parsed
  | @bearer value header rest reads isBearer =>
      rcases Parsed.bearer.inj parsed with rfl
      exact ⟨value, rfl, .noKid reads isBearer unnamed⟩
  | @basic value b64 credential =>
      rcases parseBasic_cases jwt http b64 with ⟨id, secret, same⟩ | ⟨same, _⟩
      · rw [same] at parsed
        cases parsed
      · rw [same] at parsed
        cases parsed

/-- Credentials that parse come from a header that does. -/
theorem Unparsable.not_basic {value : ByteArray} (unparsable : Unparsable jwt http value)
    (id secret : String) : parseAuthorization http (some value) ≠ .basic id secret := by
  cases unparsable with
  | unreadable unread =>
      simp only [parseAuthorization, Option.bind_some, unread]
      exact Parsed.noConfusion
  | unknownScheme reads notBearer notBasic =>
      simp only [parseAuthorization, Option.bind_some, reads, notBearer, notBasic]
      exact Parsed.noConfusion
  | badBase64 credential undecodable =>
      rw [parse_of_credential credential]
      simp only [parseBasic, undecodable]
      exact Parsed.noConfusion
  | badUtf8 credential decodes noText =>
      rw [parse_of_credential credential]
      simp only [parseBasic, decodes, noText]
      exact Parsed.noConfusion
  | noColon credential decodes isText whole =>
      rw [parse_of_credential credential]
      simp only [parseBasic, decodes, isText, whole]
      exact Parsed.noConfusion
  | noKid reads isBearer unnamed =>
      simp only [parseAuthorization, Option.bind_some, reads, isBearer]
      exact Parsed.noConfusion

/-! ## The origin of a refusal -/

/-- An exchange never speaks of the header. -/
theorem blamesHeader_of_returned {start last : Exchange.State}
    {moments : List (Moment Exchange.State Exchange.Action)}
    (run : Run (Exchange.step exchanger) start moments last) {call : Nat}
    (fresh : start.calls[call]? = none) {there : Exchange.ExchangeCall} {error : AuthError}
    (found : last.calls[call]? = some there) (returned : there.stage = .returned (.error error)) :
    blamesHeader error = false := by
  have accounted := Exchange.accounted_of_run run fresh found
  rw [returned] at accounted
  generalize same : Except.error error = result at accounted
  cases accounted with
  | @answer post reply _ answered outcome =>
      have spec := Exchange.exchangeInner_spec reply
      generalize classified : Exchange.exchangeInner reply = answer at spec outcome
      rw [← same] at outcome
      cases spec with
      | granted => cases outcome
      | rejected | unreachable | malformed =>
          cases outcome
          rfl
  | @cached _ _ entry read =>
      cases entry with
      | token cached => cases same
      | failure entry =>
          rcases entry with ⟨_, reason⟩
          cases same
          cases reason <;> rfl

/-- The header names the scheme that a token is validated for. -/
def Offered (http : HttpLibrary) (authorization : Option ByteArray) : Scheme → String → Prop
  | .bearer, token => parseAuthorization http authorization = .bearer token
  | .basic, _ => ∃ id secret, parseAuthorization http authorization = .basic id secret

/-- Where the error of a refused request comes from. -/
inductive Origin (jwt : JwtLibrary) (http : HttpLibrary) (validator : ValidatorInner)
    (history : History jwt) (index : Nat) (authorization : Option ByteArray) : AuthError → Prop
  | header {before : History jwt} {reader : State (List jwt.CoreJsonWebKey)} {error : AuthError}
      (passed : Passed history before (reader, .resolve index))
      (found : reader.requests[index]? = some ⟨authorization, .arrived⟩)
      (parsed : parseAuthorization http authorization = .refused error) :
      Origin jwt http validator history index authorization error
  | exchange {id secret : String} {error : AuthError}
      (parsed : parseAuthorization http authorization = .basic id secret)
      (spares : blamesHeader error = false) :
      Origin jwt http validator history index authorization error
  | token {before : History jwt} {decider : State (List jwt.CoreJsonWebKey)} {scheme : Scheme}
      {token : String} {jwks : Option (List jwt.CoreJsonWebKey)} {error : AuthError}
      (passed : Passed history before (decider, .decide index))
      (found : decider.requests[index]? = some ⟨authorization, .deciding scheme token jwks⟩)
      (offered : Offered http authorization scheme token)
      (refused : Validation.validate jwt validator jwks token decider.systemTime = .error error) :
      Origin jwt http validator history index authorization error

theorem Origin.snoc {error : AuthError}
    {newest : Moment (State (List jwt.CoreJsonWebKey)) (Action (List jwt.CoreJsonWebKey))}
    (origin : Origin jwt http validator history index authorization error) :
    Origin jwt http validator (history ++ [newest]) index authorization error := by
  cases origin with
  | header passed found parsed => exact .header passed.snoc found parsed
  | exchange parsed spares => exact .exchange parsed spares
  | token passed found offered refused => exact .token passed.snoc found offered refused

theorem TokenSource.offered {calls : List Exchange.ExchangeCall} {scheme : Scheme} {token : String}
    (source : TokenSource http history calls index authorization scheme token) :
    Offered http authorization scheme token := by
  cases scheme with
  | bearer => exact source
  | basic =>
      rcases source with ⟨id, secret, _, parsed, _⟩
      exact ⟨id, secret, parsed⟩

theorem exchangedStage_refused {Keys : Type} {stage : Exchange.CallStage} {error : AuthError}
    (decided : exchangedStage stage = some (.refused error : RequestStage Keys)) :
    stage = .returned (.error error) := by
  unfold exchangedStage at decided
  split at decided
  · cases decided
  · cases decided
    rfl
  · cases decided
  · cases decided

theorem decidedStage_refused {Keys : Type} {scheme : Scheme} {outcome : Except AuthError Claims}
    {error : AuthError}
    (decided : (decidedStage scheme outcome : RequestStage Keys) = .refused error) :
    outcome = .error error := by
  cases outcome with
  | ok claims => cases decided
  | error raised =>
      cases decided
      rfl

/-- Every refusal in a run has an origin in it. -/
theorem origin_of_run {clock : Instant} {systemTime : Nat}
    (run : Run (step (enabled jwt http validator exchanger)) (State.initial clock systemTime)
      history state) {error : AuthError}
    (found : state.requests[index]? = some ⟨authorization, .refused error⟩) :
    Origin jwt http validator history index authorization error := by
  refine run.history_invariant (fun history state => ∀ authorization error,
    state.requests[index]? = some ⟨authorization, .refused error⟩ →
    Origin jwt http validator history index authorization error) ?_ ?_ authorization error found
  · intro authorization error listed
    cases listed
  · intro history state action next earlier origins taken authorization error found
    rcases request_origin taken found with before | arrived | ⟨stage, after, before, moves⟩
    · exact (origins authorization error before).snoc
    · cases arrived
    · have vouched : Vouched http validator history state.exchanger.calls index authorization
          stage := vouched_of_run rfl earlier before
      cases moves with
      | refused parsed => exact .header Passed.last before parsed
      | exchangeFailed =>
          rcases exchanged_of_step before taken with ⟨there, ended, listed, decided, here⟩
          rcases vouched with ⟨parsed, _⟩
          have same := Option.some.inj (here.symm.trans found)
          rw [(Request.mk.inj same).2] at decided
          have returned := exchangedStage_refused decided
          have within := (exchangerComponent jwt http validator exchanger).run earlier
          exact .exchange parsed (blamesHeader_of_returned within rfl listed returned)
      | rejected =>
          rcases vouched with ⟨source, _⟩
          have same := Option.some.inj ((decided_of_step before taken).symm.trans found)
          exact .token Passed.last before source.offered
            (decidedStage_refused (Request.mk.inj same).2)

/-! ## Blame assigned correctly -/

/-- The request has been answered, by the wrapped service or with an error. -/
def RequestStage.answered {Keys : Type} : RequestStage Keys → Bool
  | .serving _ | .refused _ => true
  | .arrived | .exchanging _ _ _ | .readingKeys _ _ | .deciding _ _ _ | .panicked | .dropped =>
      false

/-- The client has been told this. -/
def RequestStage.Tells {Keys : Type} (stage : RequestStage Keys) (status : Nat) (code : String) :
    Prop :=
  ∃ error, stage = .refused error ∧ (toResponse error).Tells status code

/-- The string can be used as a JWT: its header names a key, its signature can be
decoded, and its payload has the claims that are read from it. -/
structure UsableAsJwt (jwt : JwtLibrary) (token : String) : Prop where
  header : ∃ kid, tokenKid jwt token = some kid
  signature : ∃ bytes, jwt.signature token = some bytes
  payload : ∃ payload raw, Validation.Readable jwt token payload raw

/-- The request got something from its exchange that cannot be used as a JWT. -/
def GotUnusable (jwt : JwtLibrary) (history : History jwt) (index : Nat)
    (authorization : Option ByteArray) : Prop :=
  ∃ before decider token jwks, Passed history before (decider, .decide index) ∧
    decider.requests[index]? = some ⟨authorization, .deciding .basic token jwks⟩ ∧
    ¬ UsableAsJwt jwt token

/-- Only a request without a header is told so, only a header that cannot be
parsed is called malformed, and an unusable answer of the IdP is its own
fault. -/
structure BlamedCorrectly (jwt : JwtLibrary) (http : HttpLibrary) (history : History jwt)
    (index : Nat) (request : Request (List jwt.CoreJsonWebKey)) : Prop where
  missing : request.stage.Tells 401 "MISSING_AUTHORIZATION" ↔ request.authorization = none
  malformed : request.stage.Tells 401 "MALFORMED_AUTHORIZATION" →
    ∃ value, request.authorization = some value ∧ Unparsable jwt http value
  unusable : GotUnusable jwt history index request.authorization →
    ∃ error, request.stage = .refused error ∧ (toResponse error).status = 503

/-- A request that reads its header can read it as text, and a token from an exchange
can be used as a JWT when it is validated, unless the key that its `kid` selects is
lost, which is the fault of the IdP in any case. -/
def Presentable (jwt : JwtLibrary) (http : HttpLibrary)
    (moment : Moment (State (List jwt.CoreJsonWebKey)) (Action (List jwt.CoreJsonWebKey))) : Prop :=
  (∀ index value, moment.2 = .resolve index →
    moment.1.requests[index]? = some ⟨some value, .arrived⟩ → http.toStr value ≠ none) ∧
  ∀ index authorization token jwks, moment.2 = .decide index →
    moment.1.requests[index]? = some ⟨authorization, .deciding .basic token jwks⟩ →
    UsableAsJwt jwt token ∨ ∃ keys, jwks = some keys ∧ KeyLost jwt keys token

/-- A validation that reads the key set finds it loaded. -/
def keysLoaded {Keys : Type} (moment : Moment (State Keys) (Action Keys)) : Bool :=
  match moment.2 with
  | .readKeys _ => moment.1.keys.jwks.isSome
  | _ => true

/-- A client is told of an error that is nothing but its kind only by that error. -/
theorem RequestStage.tells_own_iff {Keys : Type} {stage : RequestStage Keys} (named : AuthError)
    (isBare : bare named = true) :
    stage.Tells (toResponse named).status (code named) ↔ stage = .refused named := by
  constructor
  · rintro ⟨error, same, tells⟩
    rw [same, (toResponse_tells_own_iff named isBare).mp tells]
  · intro same
    exact ⟨_, same, (toResponse_tells_own_iff named isBare).mpr rfl⟩

theorem unavailable_iff {error : AuthError} :
    (toResponse error).status = 503 ↔ blamesIdp error = true := by
  cases error <;> simp [toResponse, blamesIdp]

section Run

variable {clock : Instant} {systemTime : Nat}

theorem parse_none : parseAuthorization http none = .refused .missingHeader := rfl

theorem Offered.some {scheme : Scheme} {token : String}
    (offered : Offered http authorization scheme token) : authorization ≠ none := by
  rintro rfl
  cases scheme with
  | bearer => cases offered
  | basic =>
      rcases offered with ⟨id, secret, parsed⟩
      cases parsed

/-- A request without a header is told so. -/
theorem missing_of_none
    (run : Run (step (enabled jwt http validator exchanger)) (State.initial clock systemTime)
      history state) {stage : RequestStage (List jwt.CoreJsonWebKey)}
    (found : state.requests[index]? = some ⟨none, stage⟩) (answered : stage.answered = true) :
    stage = .refused .missingHeader := by
  cases stage with
  | refused error =>
      cases origin_of_run run found with
      | header _ _ parsed =>
          rw [parse_none] at parsed
          rw [Parsed.refused.inj parsed]
      | exchange parsed => cases parsed
      | token _ _ offered => exact absurd rfl offered.some
  | serving identity =>
      rcases vouched_of_run rfl run found with ⟨_, _, _, _, source, _⟩
      exact absurd rfl source.offered.some
  | arrived | exchanging | readingKeys | deciding | panicked | dropped => cases answered

/-- A token that cannot be used is only validated in a presentable moment if the IdP
is blamed for its key. -/
theorem Presentable.keyLost {decider : State (List jwt.CoreJsonWebKey)} {token : String}
    {jwks : Option (List jwt.CoreJsonWebKey)}
    (presentable : Presentable jwt http (decider, .decide index))
    (deciding : decider.requests[index]? = some ⟨authorization, .deciding .basic token jwks⟩)
    (unusable : ¬ UsableAsJwt jwt token) : ∃ keys, jwks = some keys ∧ KeyLost jwt keys token := by
  rcases presentable.2 index authorization token jwks rfl deciding with usable | lost
  · exact absurd usable unusable
  · exact lost

/-- Either way the token names a key. -/
theorem Presentable.named {decider : State (List jwt.CoreJsonWebKey)} {token : String}
    {jwks : Option (List jwt.CoreJsonWebKey)}
    (presentable : Presentable jwt http (decider, .decide index))
    (deciding : decider.requests[index]? = some ⟨authorization, .deciding .basic token jwks⟩) :
    tokenKid jwt token ≠ none := by
  intro unnamed
  rcases presentable.2 index authorization token jwks rfl deciding with
    usable | ⟨_, _, _, _, named, _⟩
  · rcases usable.header with ⟨kid, named⟩
    rw [unnamed] at named
    cases named
  · rw [unnamed] at named
    cases named

/-- In a run of presentable moments, blame is assigned correctly. -/
theorem blamedCorrectly_of_presentable
    (run : Run (step (enabled jwt http validator exchanger)) (State.initial clock systemTime)
      history state) (presentable : ∀ moment ∈ history, Presentable jwt http moment)
    {request : Request (List jwt.CoreJsonWebKey)} (found : state.requests[index]? = some request)
    (answered : request.stage.answered = true) :
    BlamedCorrectly jwt http history index request := by
  rcases request with ⟨authorization, stage⟩
  constructor
  · refine (RequestStage.tells_own_iff .missingHeader rfl).trans ⟨?_, ?_⟩
    · rintro rfl
      cases origin_of_run run found with
      | @header _ reader _ passed arrived parsed =>
          rcases refused_spec jwt parsed with ⟨_, unread⟩ | ⟨impossible, _⟩
          · cases authorization with
            | none => rfl
            | some value => exact absurd unread ((presentable _ passed.mem).1 _ value rfl arrived)
          · cases impossible
      | exchange _ spares => cases spares
      | @token _ _ _ _ jwks _ _ _ _ refused =>
          cases jwks with
          | none => cases refused
          | some keys =>
              rcases Validation.validate_error refused with ⟨impossible, _⟩ | spares
              · cases impossible
              · cases spares
    · rintro rfl
      exact missing_of_none run found answered
  · intro told
    obtain rfl := (RequestStage.tells_own_iff .malformedHeader rfl).mp told
    cases origin_of_run run found with
    | header _ _ parsed =>
        rcases refused_spec jwt parsed with ⟨impossible, _⟩ | ⟨_, value, same, _, unparsable⟩
        · cases impossible
        · exact ⟨value, same, unparsable⟩
    | exchange _ spares => cases spares
    | @token _ decider scheme token jwks _ passed deciding offered refused =>
        cases jwks with
        | none => cases refused
        | some keys =>
            rcases Validation.validate_error refused with ⟨_, unnamed⟩ | spares
            · cases scheme with
              | bearer => exact unparsable_of_bearer offered unnamed
              | basic => exact absurd unnamed ((presentable _ passed.mem).named deciding)
            · cases spares
  · rintro ⟨before, decider, token, jwks, passed, deciding, unusable⟩
    rcases (presentable _ passed.mem).keyLost deciding unusable with ⟨keys, rfl, lost⟩
    rcases passed.cut run with ⟨next, after, _, _, taken, rest⟩
    rcases Validation.validate_of_keyLost lost validator decider.systemTime with ⟨detail, refused⟩
    have decided := decided_of_step deciding taken
    rw [refused] at decided
    have final := settled_of_run rest decided rfl
    have same := Option.some.inj (found.symm.trans final)
    exact ⟨_, (Request.mk.inj same).2, rfl⟩

/-- Where blame is assigned correctly, every moment was presentable. -/
theorem presentable_of_blamedCorrectly
    (run : Run (step (enabled jwt http validator exchanger)) (State.initial clock systemTime)
      history state) (loaded : ∀ moment ∈ history, keysLoaded moment = true)
    (correct : ∀ index request, state.requests[index]? = some request →
      request.stage.answered = true → BlamedCorrectly jwt http history index request)
    {before : History jwt}
    {moment : Moment (State (List jwt.CoreJsonWebKey)) (Action (List jwt.CoreJsonWebKey))}
    (passed : Passed history before moment) : Presentable jwt http moment := by
  rcases moment with ⟨current, action⟩
  rcases passed.cut run with ⟨next, after, _, first, taken, second⟩
  constructor
  · rintro index value rfl arrived unread
    have parsed : parseAuthorization http (some value) = .refused .missingHeader := by
      simp only [parseAuthorization, Option.bind_some, unread]
    have final := settled_of_run second (refused_of_step arrived parsed taken) rfl
    cases (correct index _ final rfl).missing.mp
      ((RequestStage.tells_own_iff .missingHeader rfl).mpr rfl)
  · rintro index authorization token jwks rfl deciding
    rcases vouched_of_run rfl first deciding with ⟨_, earlier, reader, reads, same⟩
    have there : reader.keys.jwks.isSome = true :=
      loaded _ (passed.before_prefix.subset reads.mem)
    rw [same] at there
    rcases Option.isSome_iff_exists.mp there with ⟨keys, rfl⟩
    by_cases usable : UsableAsJwt jwt token
    · exact Or.inl usable
    · refine Or.inr ⟨keys, rfl, ?_⟩
      have unusable : GotUnusable jwt history index authorization :=
        ⟨before, current, token, some keys, passed, deciding, usable⟩
      have decided := decided_of_step deciding taken
      cases outcome : Validation.validate jwt validator (some keys) token current.systemTime with
      | ok claims =>
          -- the wrapped service has been called on a token that cannot be used
          rw [outcome] at decided
          have final := settled_of_run second decided rfl
          rcases (correct index _ final rfl).unusable unusable with ⟨error, served, _⟩
          cases served
      | error error =>
          rw [outcome] at decided
          have final := settled_of_run second decided rfl
          rcases (correct index _ final rfl).unusable unusable with ⟨_, refused, unavailable⟩
          rcases RequestStage.refused.inj refused with rfl
          exact Validation.keyLost_of_blamesIdp outcome (unavailable_iff.mp unavailable)

/-- With the key set loaded, blame is assigned correctly throughout a run exactly
when every header that was read was text and every token that came from an
exchange could be used as a JWT, or its key was lost. -/
theorem blamed_correctly_iff_presentable
    (run : Run (step (enabled jwt http validator exchanger)) (State.initial clock systemTime)
      history state) (loaded : ∀ moment ∈ history, keysLoaded moment = true) :
    (∀ index request, state.requests[index]? = some request → request.stage.answered = true →
      BlamedCorrectly jwt http history index request) ↔
      ∀ moment ∈ history, Presentable jwt http moment := by
  constructor
  · intro correct moment member
    rcases List.mem_iff_getElem?.mp member with ⟨position, here⟩
    exact presentable_of_blamedCorrectly run loaded correct (Passed.of_getElem? here)
  · intro presentable index request found answered
    exact blamedCorrectly_of_presentable run presentable found answered

end Run

end Enabled

/-- The error a request has been refused with. -/
def RequestStage.refusal {Keys : Type} : RequestStage Keys → Option AuthError
  | .refused error => some error
  | _ => none

theorem RequestStage.of_refusal {Keys : Type} {stage : RequestStage Keys} {error : AuthError}
    (refused : stage.refusal = some error) : stage = .refused error := by
  cases stage with
  | refused raised =>
      cases refused
      rfl
  | arrived | exchanging | readingKeys | deciding | serving | panicked | dropped => cases refused

/-- A client whose credentials the IdP answers with an opaque token, and one
whose header is not text. -/
theorem misplaced_blame_run :
    ∃ history state opaqueAnswer unreadable,
      Run (step (enabled (Validation.referenceLibrary Validation.sampleTokens) sampleHttp
        Validation.sampleValidator Exchange.sampleInner)) (State.initial 0 1200) history state ∧
      (∀ moment ∈ history, keysLoaded moment = true) ∧
      state.requests[0]? = some ⟨opaqueAnswer, .refused .malformedHeader⟩ ∧
      parseAuthorization sampleHttp opaqueAnswer = .basic "c" "sec" ∧
      state.requests[1]? = some ⟨some unreadable, .refused .missingHeader⟩ := by
  obtain ⟨history, state, run, observed⟩ := execute_observed
    (step (enabled (Validation.referenceLibrary Validation.sampleTokens) sampleHttp
      Validation.sampleValidator Exchange.sampleInner)) (State.initial 0 1200)
    (loadKeys ++ basicRequest 0 6 (Exchange.sampleGrant "0f5c1b" 300) 5 ++ [.readKeys 0, .decide 0,
      .request (some ⟨#[0xC3, 0xA9]⟩), .resolve 1])
    (fun history state => (history.all keysLoaded, state.requests.map (fun request =>
      (parseAuthorization sampleHttp request.authorization, request.authorization.isSome,
        request.stage.refusal))))
    (true, [(.basic "c" "sec", true, some .malformedHeader),
      (.refused .missingHeader, true, some .missingHeader)]) (by decide +kernel)
  rcases Prod.mk.inj observed with ⟨loaded, requests⟩
  have zeroth := congrArg (·[0]?) requests
  have first := congrArg (·[1]?) requests
  rw [List.getElem?_map] at zeroth first
  rcases Option.map_eq_some_iff.mp zeroth with ⟨⟨opaqueAnswer, _⟩, found, seen⟩
  rcases Option.map_eq_some_iff.mp first with ⟨⟨_, _⟩, foundNext, seenNext⟩
  simp only [Prod.mk.injEq] at seen seenNext
  rcases Option.isSome_iff_exists.mp seenNext.2.1 with ⟨unreadable, rfl⟩
  rw [RequestStage.of_refusal seen.2.2] at found
  rw [RequestStage.of_refusal seenNext.2.2] at foundNext
  exact ⟨history, state, opaqueAnswer, unreadable, run, List.all_eq_true.mp loaded, found, seen.1,
    foundNext⟩

/-- Blame is misplaced twice: a client is told that its header is malformed when
the IdP's token is, and another that it sent no header. -/
theorem not_blamed_correctly :
    ∃ history state opaqueAnswer unreadable,
      Run (step (enabled (Validation.referenceLibrary Validation.sampleTokens) sampleHttp
        Validation.sampleValidator Exchange.sampleInner)) (State.initial 0 1200) history state ∧
      (∀ moment ∈ history, keysLoaded moment = true) ∧
      state.requests[0]? = some opaqueAnswer ∧ state.requests[1]? = some unreadable ∧
      opaqueAnswer.stage.answered = true ∧ unreadable.stage.answered = true ∧
      ¬ BlamedCorrectly (Validation.referenceLibrary Validation.sampleTokens) sampleHttp history 0
        opaqueAnswer ∧
      ¬ BlamedCorrectly (Validation.referenceLibrary Validation.sampleTokens) sampleHttp history 1
        unreadable := by
  rcases misplaced_blame_run with
    ⟨history, state, opaqueAnswer, unreadable, run, loaded, found, parsed, foundNext⟩
  refine ⟨history, state, _, _, run, loaded, found, foundNext, rfl, rfl, ?_, ?_⟩
  · intro correct
    rcases correct.malformed ((RequestStage.tells_own_iff .malformedHeader rfl).mpr rfl) with
      ⟨value, same, unparsable⟩
    have header : opaqueAnswer = some value := same
    rw [header] at parsed
    exact unparsable.not_basic "c" "sec" parsed
  · intro correct
    cases correct.missing.mp ((RequestStage.tells_own_iff .missingHeader rfl).mpr rfl)

theorem blamed_correctly_iff_presentable_of_misplaced :
    ∃ history state,
      Run (step (enabled (Validation.referenceLibrary Validation.sampleTokens) sampleHttp
        Validation.sampleValidator Exchange.sampleInner)) (State.initial 0 1200) history state ∧
      ((∀ index request, state.requests[index]? = some request → request.stage.answered = true →
        BlamedCorrectly (Validation.referenceLibrary Validation.sampleTokens) sampleHttp history
          index request) ↔
        ∀ moment ∈ history,
          Presentable (Validation.referenceLibrary Validation.sampleTokens) sampleHttp moment) := by
  rcases misplaced_blame_run with ⟨history, state, _, _, run, loaded, _⟩
  exact ⟨history, state, run, blamed_correctly_iff_presentable run loaded⟩

end Gateway
end OidcRs
