import OidcRs.Foundation.Json
import OidcRs.Foundation.Time
import OidcRs.Identity

namespace OidcRs
namespace Exchange

open Foundation

/-!
# The token request and how its outcome is classified

`exchangeInner` is the part of an exchange between the POST and the caches.
The HTTP client is outside the repository: what it can report is the type
`TokenReply`, and every branch below is taken on that report alone.

An error's text comes from the library that raised it and is carried along
verbatim behind the prefix the source puts in front of it.
-/

/-- A digest as the cache key stores it. -/
abbrev Digest := Vector UInt8 32

/-- The fixed part of an exchanger.  `sha256` is the digest of the `sha2`
crate, which is not part of the repository. -/
structure ExchangerInner where
  tokenEndpoint : String
  audience : Option String
  scope : Option String
  hardTtl : Duration
  sha256 : ByteArray → Digest

/-- A `client_credentials` request as it is sent. -/
structure TokenPost where
  url : String
  form : List (String × String)
  deriving DecidableEq

/-- The request for a pair of credentials; audience and scope are appended
only when they are configured. -/
def tokenPost (inner : ExchangerInner) (clientId secret : String) : TokenPost where
  url := inner.tokenEndpoint
  form :=
    [("grant_type", "client_credentials"), ("client_id", clientId), ("client_secret", secret)] ++
      (match inner.audience with
        | some audience => [("audience", audience)]
        | none => []) ++
      (match inner.scope with
        | some scope => [("scope", scope)]
        | none => [])

/-- The request names this client and this secret, each exactly once. -/
def TokenPost.Carries (post : TokenPost) (clientId secret : String) : Prop :=
  post.form.filter (fun field => field.1 = "client_id") = [("client_id", clientId)] ∧
    post.form.filter (fun field => field.1 = "client_secret") = [("client_secret", secret)]

theorem tokenPost_carries (inner : ExchangerInner) (clientId secret : String) :
    (tokenPost inner clientId secret).Carries clientId secret := by
  rcases inner with ⟨url, audience, scope, ttl, sha256⟩
  constructor <;> cases audience <;> cases scope <;>
    simp [tokenPost]

/-- A request carries only one pair of credentials. -/
theorem TokenPost.Carries.unique {post : TokenPost}
    {clientId secret otherClient otherSecret : String} (carries : post.Carries clientId secret)
    (carriesOther : post.Carries otherClient otherSecret) :
    otherClient = clientId ∧ otherSecret = secret := by
  have client := carriesOther.1.symm.trans carries.1
  have secrets := carriesOther.2.symm.trans carries.2
  simp only [List.cons.injEq, Prod.mk.injEq, true_and, and_true] at client secrets
  exact ⟨client, secrets⟩

/-- The request carries these credentials and no others. -/
def TokenPost.CarriesExactly (post : TokenPost) (clientId secret : String) : Prop :=
  ∀ otherClient otherSecret, post.Carries otherClient otherSecret ↔
    otherClient = clientId ∧ otherSecret = secret

theorem tokenPost_carriesExactly (inner : ExchangerInner) (clientId secret : String) :
    (tokenPost inner clientId secret).CarriesExactly clientId secret := by
  intro otherClient otherSecret
  constructor
  · exact (tokenPost_carries inner clientId secret).unique
  · rintro ⟨rfl, rfl⟩
    exact tokenPost_carries inner otherClient otherSecret

structure StatusCode where
  code : Nat
  /-- how the status is displayed, e.g. `503 Service Unavailable` -/
  text : String

/-- `is_success`: the 2xx range. -/
def StatusCode.isSuccess (status : StatusCode) : Bool := 200 ≤ status.code && status.code < 300

/-- The body of a response as `Response::json` finds it.  The text is the one
the client reports if reading or decoding fails. -/
inductive TokenBody
  | unreadable (error : String)
  | complete (document : Option Json) (error : String)

/-- Every way the HTTP client can report back on a token request. -/
inductive TokenReply
  | sendFailed (error : String)
  | answered (status : StatusCode) (body : TokenBody)

structure TokenResponse where
  accessToken : String
  expiresIn : Option UInt64

/-- The derived decoder: a record with named fields, or the same fields in
order in an array. -/
def TokenResponse.deserialize : Json → Option TokenResponse
  | .obj fields =>
      match Json.required Json.asString fields "access_token",
          Json.optional Json.asUnsigned fields "expires_in" with
      | some accessToken, some expiresIn => some ⟨accessToken, expiresIn⟩
      | _, _ => none
  | .arr [.str accessToken] => some ⟨accessToken, none⟩
  | .arr [.str accessToken, expiry] =>
      (Json.nullable Json.asUnsigned expiry).map (fun expiresIn => ⟨accessToken, expiresIn⟩)
  | _ => none

/-- The outcome of one token request: the token and its reported lifetime. -/
abbrev ExchangeResult := Except AuthError (String × Option UInt64)

def exchangeInner : TokenReply → ExchangeResult
  | .sendFailed error => .error (.idpUnreachable ("token POST: " ++ error))
  | .answered status body =>
      if status.code = 401 ∨ status.code = 403 ∨ status.code = 400 then
        .error .idpRejected
      else if status.isSuccess = false then
        .error (.idpUnreachable ("token endpoint status " ++ status.text))
      else
        match body with
        | .unreadable error => .error (.idpMalformedResponse ("token body: " ++ error))
        | .complete document error =>
            match document.bind TokenResponse.deserialize with
            | some response => .ok (response.accessToken, response.expiresIn)
            | none => .error (.idpMalformedResponse ("token body: " ++ error))

/-- The IdP accepted the credentials and returned this token. -/
def TokenReply.Grants (reply : TokenReply) (jwt : String) (expiresIn : Option UInt64) : Prop :=
  ∃ status document error response, reply = .answered status (.complete (some document) error) ∧
    status.isSuccess = true ∧ TokenResponse.deserialize document = some response ∧
    response.accessToken = jwt ∧ response.expiresIn = expiresIn

/-- The IdP answered 400, 401 or 403. -/
def TokenReply.Rejects (reply : TokenReply) : Prop :=
  ∃ status body, reply = .answered status body ∧
    (status.code = 400 ∨ status.code = 401 ∨ status.code = 403)

/-- The request failed on the way or was answered outside 2xx and 400/401/403. -/
def TokenReply.Unreachable (reply : TokenReply) : Prop :=
  (∃ error, reply = .sendFailed error) ∨
    ∃ status body, reply = .answered status body ∧ status.isSuccess = false ∧
      status.code ≠ 400 ∧ status.code ≠ 401 ∧ status.code ≠ 403

/-- What the four kinds of outcome say about the reply they came from. -/
inductive ExchangeInnerSpec (reply : TokenReply) : ExchangeResult → Prop
  | granted {jwt : String} {expiresIn : Option UInt64} (grants : reply.Grants jwt expiresIn) :
      ExchangeInnerSpec reply (.ok (jwt, expiresIn))
  | rejected (rejects : reply.Rejects) : ExchangeInnerSpec reply (.error .idpRejected)
  | unreachable {detail : String} (unreachable : reply.Unreachable)
      (fresh : detail ≠ "recent transient failure") :
      ExchangeInnerSpec reply (.error (.idpUnreachable detail))
  | malformed {detail : String} :
      ExchangeInnerSpec reply (.error (.idpMalformedResponse detail))

/-- A text that starts with `t` is not the one a cached failure reports. -/
theorem ne_cached_detail (rest : List Char) (tail : String) :
    String.ofList ('t' :: rest) ++ tail ≠ "recent transient failure" := by
  intro equal
  have characters := congrArg String.toList equal
  simp at characters

theorem exchangeInner_spec (reply : TokenReply) : ExchangeInnerSpec reply (exchangeInner reply) := by
  cases reply with
  | sendFailed error =>
      exact .unreachable (Or.inl ⟨error, rfl⟩) (ne_cached_detail ("oken POST: ".toList) error)
  | answered status body =>
      simp only [exchangeInner]
      split
      · next refused =>
          exact .rejected ⟨status, body, rfl, by omega⟩
      · next accepted =>
          split
          · next failed =>
              exact .unreachable (Or.inr ⟨status, body, rfl, failed, by omega, by omega, by omega⟩)
                (ne_cached_detail ("oken endpoint status ".toList) status.text)
          · next success =>
              have ok : status.isSuccess = true := by simpa using success
              cases body with
              | unreadable error => exact .malformed
              | complete document error =>
                  cases document with
                  | none => exact .malformed
                  | some document =>
                      simp only [Option.bind_some]
                      cases decoded : TokenResponse.deserialize document with
                      | none => exact .malformed
                      | some response =>
                          exact .granted ⟨status, document, error, response, rfl, ok, decoded,
                            rfl, rfl⟩

theorem StatusCode.code_of_isSuccess {status : StatusCode} (success : status.isSuccess = true) :
    status.code ≠ 400 ∧ status.code ≠ 401 ∧ status.code ≠ 403 := by
  simp only [isSuccess, Bool.and_eq_true, decide_eq_true_eq] at success
  omega

/-- A 2xx answer is classified by its body alone. -/
theorem exchangeInner_success {status : StatusCode} (success : status.isSuccess = true)
    (body : TokenBody) :
    exchangeInner (.answered status body) =
      match body with
      | .unreadable error => .error (.idpMalformedResponse ("token body: " ++ error))
      | .complete document error =>
          match document.bind TokenResponse.deserialize with
          | some response => .ok (response.accessToken, response.expiresIn)
          | none => .error (.idpMalformedResponse ("token body: " ++ error)) := by
  have codes := StatusCode.code_of_isSuccess success
  have accepted : ¬ (status.code = 401 ∨ status.code = 403 ∨ status.code = 400) := by omega
  have succeeded : ¬ status.isSuccess = false :=
    fun failed => Bool.false_ne_true (failed.symm.trans success)
  exact (if_neg accepted).trans (if_neg succeeded)

theorem TokenReply.grants_of_ok {reply : TokenReply} {jwt : String} {expiresIn : Option UInt64}
    (outcome : exchangeInner reply = .ok (jwt, expiresIn)) : reply.Grants jwt expiresIn := by
  have spec := exchangeInner_spec reply
  rw [outcome] at spec
  cases spec with
  | granted grants => exact grants

theorem TokenReply.ok_of_grants {reply : TokenReply} {jwt : String} {expiresIn : Option UInt64}
    (grants : reply.Grants jwt expiresIn) : exchangeInner reply = .ok (jwt, expiresIn) := by
  rcases grants with ⟨status, document, error, response, rfl, success, decoded, rfl, rfl⟩
  rw [exchangeInner_success success]
  simp only [Option.bind_some, decoded]

theorem TokenReply.rejects_of_error {reply : TokenReply}
    (outcome : exchangeInner reply = .error .idpRejected) : reply.Rejects := by
  have spec := exchangeInner_spec reply
  rw [outcome] at spec
  cases spec with
  | rejected rejects => exact rejects

theorem TokenReply.unreachable_of_error {reply : TokenReply} {detail : String}
    (outcome : exchangeInner reply = .error (.idpUnreachable detail)) :
    reply.Unreachable ∧ detail ≠ "recent transient failure" := by
  have spec := exchangeInner_spec reply
  rw [outcome] at spec
  cases spec with
  | unreachable unreachable fresh => exact ⟨unreachable, fresh⟩

theorem TokenReply.error_of_rejects {reply : TokenReply} (rejects : reply.Rejects) :
    exchangeInner reply = .error .idpRejected := by
  rcases rejects with ⟨status, body, rfl, code⟩
  have refused : status.code = 401 ∨ status.code = 403 ∨ status.code = 400 := by omega
  exact if_pos refused

theorem TokenReply.error_of_unreachable {reply : TokenReply} (unreachable : reply.Unreachable) :
    ∃ detail, exchangeInner reply = .error (.idpUnreachable detail) := by
  rcases unreachable with ⟨error, rfl⟩ | ⟨status, body, rfl, failed, bad, unauthorized, forbidden⟩
  · exact ⟨_, rfl⟩
  · have accepted : ¬ (status.code = 401 ∨ status.code = 403 ∨ status.code = 400) := by omega
    exact ⟨_, (if_neg accepted).trans (if_pos failed)⟩

/-- A malformed response is a 2xx answer whose body cannot be read, or is read
and not decoded. -/
theorem TokenReply.of_malformed {reply : TokenReply} {detail : String}
    (outcome : exchangeInner reply = .error (.idpMalformedResponse detail)) :
    (∃ status error, reply = .answered status (.unreadable error) ∧ status.isSuccess = true) ∨
      ∃ status document error, reply = .answered status (.complete document error) ∧
        status.isSuccess = true ∧ document.bind TokenResponse.deserialize = none := by
  cases reply with
  | sendFailed error => cases outcome
  | answered status body =>
      cases success : status.isSuccess with
      | false =>
          simp only [exchangeInner, success] at outcome
          split at outcome <;> cases outcome
      | true =>
          cases body with
          | unreadable error => exact Or.inl ⟨status, error, rfl, success⟩
          | complete document error =>
              refine Or.inr ⟨status, document, error, rfl, success, ?_⟩
              rw [exchangeInner_success success] at outcome
              cases decoded : document.bind TokenResponse.deserialize with
              | none => rfl
              | some response =>
                  simp only [decoded] at outcome
                  cases outcome

end Exchange
end OidcRs
