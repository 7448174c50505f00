import OidcRs.Exchange.Evidence

namespace OidcRs
namespace Exchange

open Foundation

/-!
# A result is owed to its own credentials

The evidence behind a result, read as a statement about the IdP: a token was
granted, and a failure caused, by an answer to a POST that carried exactly the
credentials of the call.  What was cached was cached for less than its
lifetime when the call read it.
-/

variable {inner : ExchangerInner}

/-- The reply is a failure of this kind. -/
def TokenReply.Causes (reply : TokenReply) : NegativeReason → Prop
  | .rejected => reply.Rejects
  | .transient => reply.Unreachable

/-- The IdP refused the call's own POST. -/
def RejectedDuring (inner : ExchangerInner) (history : List (Moment State Action)) (index : Nat)
    (clientId secret : String) : Prop :=
  ∃ post reply, Answered inner history index clientId secret post reply ∧
    post.CarriesExactly clientId secret ∧ reply.Rejects

/-- The call read this entry in its cache, where it had been since a call with
the same credentials stored it on the answer to its own POST. -/
structure ServedFromCache (inner : ExchangerInner) (history : List (Moment State Action))
    (index : Nat) (clientId secret : String) (entry : Entry) (storer reader : State)
    (reply : TokenReply) : Prop where
  served : ∃ before early other lock post,
    ReadEntry inner history before reader index clientId secret entry ∧
    HeldSince (fun state => entry.At state.shared (cacheKey inner clientId secret)) before early
      (storer, .advance other) ∧
    Store inner (storer, .advance other) other clientId secret lock (exchangeInner reply) entry ∧
    Answered inner early other clientId secret post reply ∧ post.CarriesExactly clientId secret
  ordered : storer.shared.clock ≤ reader.shared.clock

/-- The call read a failure of this kind from the cache.  It had been stored,
less than its lifetime ago, after a POST with the same credentials failed so. -/
def FailedRecently (inner : ExchangerInner) (history : List (Moment State Action)) (index : Nat)
    (clientId secret : String) (reason : NegativeReason) : Prop :=
  ∃ deadline storer reader reply,
    ServedFromCache inner history index clientId secret (.failure ⟨deadline, reason⟩) storer reader
      reply ∧
    reply.Causes reason ∧ reader.shared.clock < storer.shared.clock + reason.ttl.nanos

/-- The IdP granted the token in answer to the call's own POST. -/
def GrantedDuring (inner : ExchangerInner) (history : List (Moment State Action)) (index : Nat)
    (clientId secret jwt : String) : Prop :=
  ∃ post reply expiresIn, Answered inner history index clientId secret post reply ∧
    post.CarriesExactly clientId secret ∧ reply.Grants jwt expiresIn

/-- The call read the token from the cache.  It had been stored, less than the
cap less a minute ago, after the IdP granted it to the same credentials. -/
def GrantedRecently (inner : ExchangerInner) (history : List (Moment State Action)) (index : Nat)
    (clientId secret jwt : String) : Prop :=
  ∃ deadline storer reader reply expiresIn,
    ServedFromCache inner history index clientId secret (.token ⟨jwt, deadline⟩) storer reader
      reply ∧
    reply.Grants jwt expiresIn ∧
    reader.shared.clock <
      storer.shared.clock + (inner.hardTtl.nanos - (Duration.fromSecs 60).nanos)

/-- The POST of an answered call carries the call's credentials. -/
theorem Answered.carriesExactly {history : List (Moment State Action)} {index : Nat}
    {clientId secret : String} {post : TokenPost} {reply : TokenReply}
    (answered : Answered inner history index clientId secret post reply) :
    post.CarriesExactly clientId secret := by
  rcases answered with ⟨_, _, _, _, _, _, _, _, _, _, rfl⟩
  exact tokenPost_carriesExactly inner clientId secret

theorem TokenReply.causes_of_ofError {reply : TokenReply} {error : AuthError}
    {reason : NegativeReason} (outcome : exchangeInner reply = .error error)
    (cached : NegativeReason.ofError error = some reason) : reply.Causes reason := by
  cases error <;> simp only [NegativeReason.ofError, reduceCtorEq, Option.some.injEq] at cached <;>
    subst cached
  · exact (TokenReply.unreachable_of_error outcome).1
  · exact TokenReply.rejects_of_error outcome

/-- A lifetime is at most the cap less a minute. -/
theorem positiveTtl_le (expiresIn : Option UInt64) :
    (positiveTtl inner expiresIn).nanos ≤ inner.hardTtl.nanos - (Duration.fromSecs 60).nanos := by
  rw [positiveTtl, Duration.saturatingSub_nanos]
  exact Nat.sub_le_sub_right (Duration.min_nanos_le_right _ _) _

section Read

variable {clock : Instant} {history before : List (Moment State Action)} {state reader : State}
  {index : Nat} {clientId secret : String} {stage : CallStage}

/-- An entry that a call has read was stored for it, on an outcome that makes
such an entry. -/
theorem served_from_cache (run : Run (step inner) (State.initial clock) history state)
    (separate : DigestsSeparate inner state.calls)
    (caller : state.calls[index]? = some ⟨clientId, secret, stage⟩) {entry : Entry}
    (read : ReadEntry inner history before reader index clientId secret entry) :
    ∃ storer reply, ServedFromCache inner history index clientId secret entry storer reader reply ∧
      Entry.Of inner storer.shared.clock (exchangeInner reply) entry := by
  rcases entry_backed run rfl (not_at_initial clock entry) separate caller read.passed
    read.found with
    ⟨early, storer, other, lock, post, reply, held, store, answered⟩
  rcases read.passed.cut run with ⟨_, _, _, runToReader, _, _⟩
  rcases held.passed.cut runToReader with ⟨_, _, _, _, taken, rest⟩
  have served : ServedFromCache inner history index clientId secret entry storer reader reply :=
    { served := ⟨before, early, other, lock, post, read, held, store, answered,
        answered.carriesExactly⟩
      ordered := clock_le_of_run (Run.cons taken rest) }
  exact ⟨storer, reply, served, store.made⟩

theorem ReadEntry.failedRecently (run : Run (step inner) (State.initial clock) history state)
    (separate : DigestsSeparate inner state.calls)
    (caller : state.calls[index]? = some ⟨clientId, secret, stage⟩) {entry : NegativeEntry}
    (read : ReadEntry inner history before reader index clientId secret (.failure entry)) :
    FailedRecently inner history index clientId secret entry.error := by
  rcases served_from_cache run separate caller read with ⟨storer, reply, served, made⟩
  have live : reader.shared.clock < entry.until := read.live
  generalize outcome : exchangeInner reply = result at made
  cases made with
  | failure cached added =>
      have deadline := Instant.checkedAdd_eq_some added
      rw [deadline] at live
      exact ⟨_, storer, reader, reply, served, TokenReply.causes_of_ofError outcome cached, live⟩

theorem ReadEntry.grantedRecently (run : Run (step inner) (State.initial clock) history state)
    (separate : DigestsSeparate inner state.calls)
    (caller : state.calls[index]? = some ⟨clientId, secret, stage⟩) {cached : CachedToken}
    (read : ReadEntry inner history before reader index clientId secret (.token cached)) :
    GrantedRecently inner history index clientId secret cached.jwt := by
  rcases served_from_cache run separate caller read with ⟨storer, reply, served, made⟩
  have live : reader.shared.clock < cached.expiresAt := read.live
  generalize outcome : exchangeInner reply = result at made
  cases made with
  | @token jwt expiresIn _ added =>
      have deadline := Instant.checkedAdd_eq_some added
      rw [deadline] at live
      exact ⟨_, storer, reader, reply, expiresIn, served, TokenReply.grants_of_ok outcome,
        Nat.lt_of_lt_of_le live (Nat.add_le_add_left (positiveTtl_le expiresIn) _)⟩

/-- A returned token was granted to exactly these credentials, now or recently. -/
theorem token_justified (run : Run (step inner) (State.initial clock) history state)
    (separate : DigestsSeparate inner state.calls) {jwt : String}
    (found : state.calls[index]? = some ⟨clientId, secret, .returned (.ok jwt)⟩) :
    GrantedDuring inner history index clientId secret jwt ∨
      GrantedRecently inner history index clientId secret jwt := by
  have source : ResultSource inner history index clientId secret (.ok jwt) :=
    accounted_of_run run rfl found
  generalize same : Except.ok jwt = result at source
  cases source with
  | @answer post reply _ answered outcome =>
      cases classified : exchangeInner reply with
      | error error =>
          rw [classified, ← same] at outcome
          cases outcome
      | ok pair =>
          rcases pair with ⟨token, expiresIn⟩
          rw [classified, ← same] at outcome
          cases outcome
          exact Or.inl ⟨post, reply, expiresIn, answered, answered.carriesExactly,
            TokenReply.grants_of_ok classified⟩
  | @cached _ _ entry read =>
      cases entry with
      | token cached =>
          cases same
          exact Or.inr (read.grantedRecently run separate found)
      | failure entry => cases same

/-- A returned failure that may come from the cache was read there, unless it
is the answer to the call's own POST. -/
theorem failure_justified (run : Run (step inner) (State.initial clock) history state)
    (separate : DigestsSeparate inner state.calls) {error : AuthError}
    (found : state.calls[index]? = some ⟨clientId, secret, .returned (.error error)⟩) :
    (∃ post reply, Answered inner history index clientId secret post reply ∧
        exchangeInner reply = .error error) ∨
      ∃ reason, error = reason.toAuthError ∧
        FailedRecently inner history index clientId secret reason := by
  have source : ResultSource inner history index clientId secret (.error error) :=
    accounted_of_run run rfl found
  generalize same : Except.error error = result at source
  cases source with
  | @answer post reply _ answered outcome =>
      cases classified : exchangeInner reply with
      | ok pair =>
          rw [classified, ← same] at outcome
          cases outcome
      | error raised =>
          rw [classified, ← same] at outcome
          cases outcome
          exact Or.inl ⟨post, reply, answered, classified⟩
  | @cached _ _ entry read =>
      cases entry with
      | token cached => cases same
      | failure entry =>
          cases same
          exact Or.inr ⟨entry.error, rfl, read.failedRecently run separate found⟩

end Read

/-- Failures are isolated between credentials: a rejection is returned only
after the IdP refused exactly these credentials, and the cached transient
failure only after a POST with exactly these credentials failed. -/
theorem failure_isolation {clock : Instant} {history : List (Moment State Action)} {state : State}
    (run : Run (step inner) (State.initial clock) history state)
    (separate : DigestsSeparate inner state.calls) (index : Nat) (clientId secret : String) :
    (state.calls[index]? = some ⟨clientId, secret, .returned (.error .idpRejected)⟩ →
      RejectedDuring inner history index clientId secret ∨
        FailedRecently inner history index clientId secret .rejected) ∧
    (state.calls[index]? = some ⟨clientId, secret,
        .returned (.error (.idpUnreachable "recent transient failure"))⟩ →
      FailedRecently inner history index clientId secret .transient) := by
  constructor
  · intro found
    rcases failure_justified run separate found with ⟨post, reply, answered, outcome⟩ |
      ⟨reason, same, recent⟩
    · exact Or.inl ⟨post, reply, answered, answered.carriesExactly,
        TokenReply.rejects_of_error outcome⟩
    · cases reason with
      | rejected => exact Or.inr recent
      | transient => cases same
  · intro found
    rcases failure_justified run separate found with ⟨post, reply, answered, outcome⟩ |
      ⟨reason, same, recent⟩
    · exact absurd rfl (TokenReply.unreachable_of_error outcome).2
    · cases reason with
      | rejected => cases same
      | transient => exact recent

/-- A wrong secret is refused once by the IdP and once from the cache, while
the right secret of the same client is granted a token. -/
theorem failure_isolation_of_wrong_secret :
    ∃ history state, Run (step sampleInner) (State.initial 0) history state ∧
      state.calls = [⟨"c", "bad", .returned (.error .idpRejected)⟩,
        ⟨"c", "bad", .returned (.error .idpRejected)⟩, ⟨"c", "sec", .returned (.ok "jwt")⟩] ∧
      (RejectedDuring sampleInner history 1 "c" "bad" ∨
        FailedRecently sampleInner history 1 "c" "bad" .rejected) := by
  obtain ⟨history, state, run, calls⟩ := execute_observed (step sampleInner)
    (State.initial 0)
    [.exchange "c" "bad", .advance 0, .advance 0, .advance 0, .advance 0, .advance 0,
      .advance 0, .answer 0 sampleRejection, .advance 0, .advance 0, .advance 0, .advance 0,
      .tick 1000, .exchange "c" "bad", .advance 1, .advance 1,
      .exchange "c" "sec", .advance 2, .advance 2, .advance 2, .advance 2, .advance 2, .advance 2,
      .answer 2 (sampleGrant "jwt" 300), .advance 2, .advance 2, .advance 2, .advance 2,
      .advance 2]
    (fun _ state => state.calls)
    [⟨"c", "bad", .returned (.error .idpRejected)⟩,
      ⟨"c", "bad", .returned (.error .idpRejected)⟩, ⟨"c", "sec", .returned (.ok "jwt")⟩]
    (by decide +kernel)
  refine ⟨history, state, run, calls, (failure_isolation run ?_ 1 "c" "bad").1 ?_⟩
  · rw [calls]
    decide +kernel
  · rw [calls]
    rfl

end Exchange
end OidcRs
