import OidcRs.Exchange.Departure

namespace OidcRs
namespace Exchange

open Foundation

/-!
# How the outcome of a token request is treated

What happened to a request is said here in terms of the request alone: it was
refused, it failed on the network, or it was answered with a body of some form.
`exchangeInner` reads and decodes the body in one call and reports both kinds of
failure alike.  So a connection lost in the body of a 2xx answer counts as a
malformed response, and nothing is cached for it.
-/

variable {inner : ExchangerInner}

/-! ## What happened -/

/-- The body is JSON with a string access token. -/
def HasStringToken (document : Option Json) : Prop :=
  ∃ fields token, document = some (.obj fields) ∧ ("access_token", Json.str token) ∈ fields

/-- A 2xx answer was received completely, and its body is not JSON with a string
access token. -/
def TokenReply.Malformed (reply : TokenReply) : Prop :=
  ∃ status document error, reply = .answered status (.complete document error) ∧
    status.isSuccess = true ∧ ¬ HasStringToken document

/-- The connection was lost in the body of an answer that is no refusal. -/
def TokenReply.BrokenOff (reply : TokenReply) : Prop :=
  ∃ status error, reply = .answered status (.unreadable error) ∧
    status.code ≠ 400 ∧ status.code ≠ 401 ∧ status.code ≠ 403

/-- The step after an answer treats the request by what happened to it: what the
call is on its way to return, what is left in the negative cache, and that a
token is stored for a granted request only. -/
structure TreatedAsHappened (inner : ExchangerInner) (reply : TokenReply) (state next : State)
    (index : Nat) (clientId secret : String) (lock : LockId) : Prop where
  malformed : ∀ detail,
    Leaves inner next index clientId secret lock (.error (.idpMalformedResponse detail)) →
    reply.Malformed
  unreachable : reply.Unreachable ∨ reply.BrokenOff →
    (∃ detail, Leaves inner next index clientId secret lock (.error (.idpUnreachable detail))) ∧
      next.shared.negative.lookup (cacheKey inner clientId secret) =
        some ⟨state.shared.clock + 5 * nanosPerSec, .transient⟩
  rejected : reply.Rejects →
    Leaves inner next index clientId secret lock (.error .idpRejected) ∧
      next.shared.negative.lookup (cacheKey inner clientId secret) =
        some ⟨state.shared.clock + 30 * nanosPerSec, .rejected⟩
  noToken : (∀ jwt expiresIn, ¬ reply.Grants jwt expiresIn) →
    next.shared.positive = state.shared.positive

/-! ## What the code tells apart -/

/-- A lifetime is not reported, or as null, or as a 64-bit number of seconds. -/
def ExpiryReadable (fields : List (String × Json)) : Prop :=
  match Json.readField fields "expires_in" with
  | .absent | .found .null | .found (.unsigned _) => True
  | _ => False

/-- A body with a string access token has no other access token, and nothing
beside it that cannot be decoded. -/
def Decodable (fields : List (String × Json)) : Prop :=
  (∀ token, ("access_token", Json.str token) ∈ fields →
    Json.readField fields "access_token" = .found (.str token)) ∧ ExpiryReadable fields

/-- A 2xx answer is not cut off in its body, its body, if it has a string access
token, can be decoded, and a failure's deadline fits. -/
structure TokenReply.ToldApart (reply : TokenReply) (now : Instant) : Prop where
  whole : ∀ status error, reply = .answered status (.unreadable error) →
    status.isSuccess = false
  decodable : ∀ status fields error token,
    reply = .answered status (.complete (some (.obj fields)) error) → status.isSuccess = true →
    ("access_token", Json.str token) ∈ fields → Decodable fields
  fitsTransient : reply.Unreachable → now + 5 * nanosPerSec < instantLimit
  fitsRejected : reply.Rejects → now + 30 * nanosPerSec < instantLimit

section Bodies

variable {fields : List (String × Json)}

theorem optional_unsigned_isSome_iff :
    (Json.optional Json.asUnsigned fields "expires_in").isSome = true ↔ ExpiryReadable fields := by
  unfold Json.optional ExpiryReadable
  cases Json.readField fields "expires_in" with
  | absent => simp
  | repeated => simp
  | found value => cases value <;> simp [Json.nullable, Json.asUnsigned]

/-- Of the bodies with a string access token, the decodable ones are decoded. -/
theorem deserialize_isSome_iff {token : String} (listed : ("access_token", Json.str token) ∈ fields) :
    (TokenResponse.deserialize (.obj fields)).isSome = true ↔ Decodable fields := by
  constructor
  · intro decoded
    simp only [TokenResponse.deserialize] at decoded
    refine ⟨fun other member => ?_, optional_unsigned_isSome_iff.mp ?_⟩
    · rcases Json.readField_of_mem member with found | repeated
      · exact found
      · simp only [Json.required, repeated] at decoded
        cases decoded
    · cases readExpiry : Json.optional Json.asUnsigned fields "expires_in" with
      | some expiresIn => rfl
      | none =>
          rw [readExpiry] at decoded
          cases read : Json.required Json.asString fields "access_token" <;>
            (rw [read] at decoded; cases decoded)
  · rintro ⟨once, expiry⟩
    rcases Option.isSome_iff_exists.mp (optional_unsigned_isSome_iff.mpr expiry) with
      ⟨expiresIn, readExpiry⟩
    have read : Json.required Json.asString fields "access_token" = some token := by
      simp only [Json.required, once token listed, Json.asString]
    simp only [TokenResponse.deserialize, read, readExpiry, Option.isSome_some]

end Bodies

/-! ## The step after the answer -/

section Step

variable {history : List (Moment State Action)} {state next : State} {index : Nat}
  {clientId secret : String} {lock : LockId} {reply : TokenReply} {error : AuthError}
  {reason : NegativeReason}

/-- A failure that is to be cached is cached and returned, if its deadline
fits. -/
theorem Received.fails (received : Received inner history state index clientId secret lock reply)
    (taken : step inner state (.advance index) = some next)
    (outcome : exchangeInner reply = .error error)
    (cached : NegativeReason.ofError error = some reason)
    (fits : state.shared.clock + reason.ttl.nanos < instantLimit) :
    Leaves inner next index clientId secret lock (.error error) ∧
      next.shared.negative.lookup (cacheKey inner clientId secret) =
        some ⟨state.shared.clock + reason.ttl.nanos, reason⟩ := by
  have found := received.here
  rw [outcome] at found
  rcases after_failure_store taken found cached (Instant.checkedAdd_of_lt fits) with
    ⟨stored, leaves⟩
  refine ⟨leaves_of_dropGuard leaves, ?_⟩
  rw [stored]
  exact Finmap.lookup_insert _

/-- A failure that is not to be cached is returned and leaves nothing behind. -/
theorem Received.passes_on (received : Received inner history state index clientId secret lock reply)
    (taken : step inner state (.advance index) = some next)
    (outcome : exchangeInner reply = .error error)
    (uncached : NegativeReason.ofError error = none) :
    Leaves inner next index clientId secret lock (.error error) ∧
      next.shared = state.shared := by
  have found := received.here
  rw [outcome] at found
  rcases after_uncached taken found uncached with ⟨same, leaves⟩
  exact ⟨leaves_of_dropGuard leaves, same⟩

/-- A call that returns an error returns the outcome of its request, and the
deadline of a cached failure fits. -/
theorem Received.of_leaves (received : Received inner history state index clientId secret lock reply)
    (taken : step inner state (.advance index) = some next)
    (leaves : Leaves inner next index clientId secret lock (.error error)) :
    exchangeInner reply = .error error ∧
      ∀ reason, NegativeReason.ofError error = some reason →
        state.shared.clock + reason.ttl.nanos < instantLimit := by
  rcases received.stores taken with ⟨stage, spec, there⟩
  have atGuard : stage = .dropGuard lock (.error error) :=
    congrArg ExchangeCall.stage (Option.some.inj (there.symm.trans leaves.dropGuard))
  subst atGuard
  generalize exchangeInner reply = outcome at spec ⊢
  generalize next.shared = shared at spec
  cases spec with
  | storeNothing uncached =>
      refine ⟨rfl, fun reason cached => ?_⟩
      rw [cached] at uncached
      cases uncached
  | storeFailure cached added =>
      refine ⟨rfl, fun reason cachedHere => ?_⟩
      rcases Option.some.inj (cached.symm.trans cachedHere) with rfl
      have bounded := Instant.lt_limit_of_checkedAdd added
      rwa [Instant.checkedAdd_eq_some added] at bounded

/-- No token is stored that was not granted. -/
theorem Received.keeps_tokens
    (received : Received inner history state index clientId secret lock reply)
    (taken : step inner state (.advance index) = some next)
    (ungranted : ∀ jwt expiresIn, ¬ reply.Grants jwt expiresIn) :
    next.shared.positive = state.shared.positive := by
  rcases received.stores taken with ⟨stage, spec, _⟩
  generalize outcome : exchangeInner reply = result at spec
  generalize next.shared = shared at spec ⊢
  cases spec with
  | storeToken => exact absurd (TokenReply.grants_of_ok outcome) (ungranted _ _)
  | storeFailure | storeNothing | storePanic => rfl

theorem toldApart_of_treated
    (received : Received inner history state index clientId secret lock reply)
    (taken : step inner state (.advance index) = some next)
    (treated : TreatedAsHappened inner reply state next index clientId secret lock) :
    reply.ToldApart state.shared.clock where
  whole := by
    rintro status error rfl
    by_contra notFailed
    have success : status.isSuccess = true := by simpa using notFailed
    have broken : (TokenReply.answered status (.unreadable error)).BrokenOff :=
      ⟨status, error, rfl, StatusCode.code_of_isSuccess success⟩
    rcases (treated.unreachable (Or.inr broken)).1 with ⟨detail, leaves⟩
    have outcome := (received.of_leaves taken leaves).1
    rw [exchangeInner_success success] at outcome
    cases outcome
  decodable := by
    rintro status fields error token rfl success listed
    rw [← deserialize_isSome_iff listed]
    cases decoded : TokenResponse.deserialize (.obj fields) with
    | some response => rfl
    | none =>
        have outcome : exchangeInner (.answered status (.complete (some (.obj fields)) error)) =
            .error (.idpMalformedResponse ("token body: " ++ error)) := by
          rw [exchangeInner_success success]
          simp only [Option.bind_some, decoded]
        have leaves := (received.passes_on taken outcome rfl).1
        rcases treated.malformed _ leaves with ⟨_, document, _, same, _, unusable⟩
        cases same
        exact absurd ⟨fields, token, rfl, listed⟩ unusable
  fitsTransient := by
    intro unreachable
    rcases (treated.unreachable (Or.inl unreachable)).1 with ⟨detail, leaves⟩
    exact (received.of_leaves taken leaves).2 .transient rfl
  fitsRejected := by
    intro rejects
    exact (received.of_leaves taken (treated.rejected rejects).1).2 .rejected rfl

theorem treated_of_toldApart
    (received : Received inner history state index clientId secret lock reply)
    (taken : step inner state (.advance index) = some next)
    (toldApart : reply.ToldApart state.shared.clock) :
    TreatedAsHappened inner reply state next index clientId secret lock where
  malformed := by
    intro detail leaves
    have outcome := (received.of_leaves taken leaves).1
    rcases TokenReply.of_malformed outcome with
      ⟨status, error, same, success⟩ | ⟨status, document, error, same, success, undecoded⟩
    · rw [toldApart.whole status error same] at success
      cases success
    · refine ⟨status, document, error, same, success, ?_⟩
      rintro ⟨fields, token, rfl, listed⟩
      have decoded := (deserialize_isSome_iff listed).mpr
        (toldApart.decodable status fields error token same success listed)
      rw [Option.bind_some] at undecoded
      rw [undecoded] at decoded
      cases decoded
  unreachable := by
    intro lost
    have unreachable : reply.Unreachable := by
      rcases lost with unreachable | ⟨status, error, rfl, codes⟩
      · exact unreachable
      · exact Or.inr ⟨status, _, rfl, toldApart.whole status error rfl, codes⟩
    rcases TokenReply.error_of_unreachable unreachable with ⟨detail, outcome⟩
    rcases received.fails taken outcome rfl (toldApart.fitsTransient unreachable) with
      ⟨leaves, cached⟩
    exact ⟨⟨detail, leaves⟩, cached⟩
  rejected := by
    intro rejects
    exact received.fails taken (TokenReply.error_of_rejects rejects) rfl
      (toldApart.fitsRejected rejects)
  noToken := received.keeps_tokens taken

end Step

/-- Only a call whose own POST was answered returns a malformed response: neither
cache ever holds one. -/
theorem answered_of_malformed {start state : State} {history : List (Moment State Action)}
    (run : Run (step inner) start history state) {index : Nat} {clientId secret detail : String}
    (fresh : start.calls[index]? = none)
    (returned : state.calls[index]? =
      some ⟨clientId, secret, .returned (.error (.idpMalformedResponse detail))⟩) :
    ∃ post reply, Answered inner history index clientId secret post reply ∧
      exchangeInner reply = .error (.idpMalformedResponse detail) := by
  have source : ResultSource inner history index clientId secret
      (.error (.idpMalformedResponse detail)) := accounted_of_run run fresh returned
  generalize same : (Except.error (.idpMalformedResponse detail) : Except AuthError String) =
    result at source
  cases source with
  | @answer post reply _ answered outcome =>
      refine ⟨post, reply, answered, ?_⟩
      rw [← same] at outcome
      cases classified : exchangeInner reply with
      | ok pair =>
          rw [classified] at outcome
          cases outcome
      | error error =>
          rw [classified] at outcome
          exact congrArg Except.error (Except.error.inj outcome)
  | @cached before reader entry read =>
      cases entry with
      | token cached => cases same
      | failure failure =>
          have named : AuthError.idpMalformedResponse detail = failure.error.toAuthError :=
            Except.error.inj same
          cases reason : failure.error <;> (rw [reason] at named; cases named)

/-- Whatever the reply, the step after it treats the request by what happened to
it exactly when a 2xx answer is not cut off in its body, its body can be decoded
if it has a string access token, and a failure's deadline fits. -/
theorem treated_iff_told_apart {history : List (Moment State Action)} {state next : State}
    {index : Nat} {clientId secret : String} {lock : LockId} {reply : TokenReply}
    (received : Received inner history state index clientId secret lock reply)
    (taken : step inner state (.advance index) = some next) :
    TreatedAsHappened inner reply state next index clientId secret lock ↔
      reply.ToldApart state.shared.clock :=
  ⟨toldApart_of_treated received taken, treated_of_toldApart received taken⟩

/-- A refusal is treated as one. -/
theorem treated_iff_told_apart_of_rejection :
    ∃ history state next lock,
      Received sampleInner history state 0 "c" "sec" lock sampleRejection ∧
      TreatedAsHappened sampleInner sampleRejection state next 0 "c" "sec" lock := by
  rcases received_alone sampleInner 0 "c" "sec" sampleRejection with
    ⟨history, state, lock, received, now, _, _⟩
  rcases exists_step received.here rfl with ⟨next, taken⟩
  have toldApart : sampleRejection.ToldApart state.shared.clock := by
    rw [now]
    refine ⟨?_, ?_, fun _ => by decide, fun _ => by decide⟩
    · rintro status error ⟨⟩
    · rintro status fields error token ⟨⟩
  exact ⟨history, state, next, lock, received,
    (treated_iff_told_apart received taken).mpr toldApart⟩

/-- A 2xx answer whose body does not arrive. -/
def cutOffReply : TokenReply := .answered ⟨200, "200 OK"⟩ (.unreadable "operation timed out")

/-- A 2xx answer with a token and a lifetime that is written as a text. -/
def textualLifetime : TokenReply :=
  .answered ⟨200, "200 OK"⟩ (.complete
    (some (.obj [("access_token", .str "jwt"), ("expires_in", .str "3600")])) "invalid type")

/-- A timeout in the body of a 2xx answer is returned as a malformed response and
nothing is cached for it.  So is a body with a string access token whose lifetime
is a text. -/
theorem not_treated_of_cut_off :
    (∃ history state next lock,
      Received sampleInner history state 0 "c" "sec" lock cutOffReply ∧
      step sampleInner state (.advance 0) = some next ∧
      Leaves sampleInner next 0 "c" "sec" lock
        (.error (.idpMalformedResponse "token body: operation timed out")) ∧
      next.shared.negative = ∅ ∧
      ¬ TreatedAsHappened sampleInner cutOffReply state next 0 "c" "sec" lock) ∧
    ∃ history state next lock,
      Received sampleInner history state 0 "c" "sec" lock textualLifetime ∧
      step sampleInner state (.advance 0) = some next ∧
      Leaves sampleInner next 0 "c" "sec" lock
        (.error (.idpMalformedResponse "token body: invalid type")) ∧
      ¬ TreatedAsHappened sampleInner textualLifetime state next 0 "c" "sec" lock := by
  constructor
  · rcases received_alone sampleInner 0 "c" "sec" cutOffReply with
      ⟨history, state, lock, received, _, _, nothing⟩
    rcases exists_step received.here rfl with ⟨next, taken⟩
    have outcome : exchangeInner cutOffReply =
        .error (.idpMalformedResponse "token body: operation timed out") := by decide
    rcases received.passes_on taken outcome rfl with ⟨leaves, same⟩
    refine ⟨history, state, next, lock, received, taken, leaves, same ▸ nothing, ?_⟩
    intro treated
    have whole := (toldApart_of_treated received taken treated).whole _ _ rfl
    cases whole
  · rcases received_alone sampleInner 0 "c" "sec" textualLifetime with
      ⟨history, state, lock, received, _⟩
    rcases exists_step received.here rfl with ⟨next, taken⟩
    have outcome : exchangeInner textualLifetime =
        .error (.idpMalformedResponse "token body: invalid type") := by decide
    refine ⟨history, state, next, lock, received, taken,
      (received.passes_on taken outcome rfl).1, ?_⟩
    intro treated
    have decodable := (toldApart_of_treated received taken treated).decodable _ _ _ "jwt" rfl rfl
      List.mem_cons_self
    exact decodable.2

end Exchange
end OidcRs
