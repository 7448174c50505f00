import OidcRs.Exchange.Deadlines

namespace OidcRs
namespace Exchange

open Foundation

/-!
# Which caps leave the cache working

A minute is taken off every lifetime, and the cap is the longest of them.  So
under a cap of a minute or less, which the builder lets through like any other
that is not zero, every token has expired when it is stored.  Under a longer cap
a token that lives more than a minute is served to the next caller.
-/

variable {inner : ExchangerInner} {builder : AuthConfigBuilder}

/-- The step stores a live token, and once the call has returned the next one
with the same credentials is answered from the cache in its first step. -/
structure WorksAtOnce (inner : ExchangerInner) (state next : State) (index : Nat)
    (clientId secret : String) (lock : LockId) (outcome : ExchangeResult) (jwt : String) : Prop where
  live : ∃ cached, cached.jwt = jwt ∧
    Store inner (state, .advance index) index clientId secret lock outcome (.token cached) ∧
    next.shared.positive.lookup (cacheKey inner clientId secret) = some cached ∧
    next.shared.clock < cached.expiresAt
  served : ∀ after last, Run (step inner) next after last →
    (∀ moment ∈ after, moment.2 = .advance index) → ∃ asked answered,
      step inner last (.exchange clientId secret) = some asked ∧
      step inner asked (.advance last.calls.length) = some answered ∧
      answered.calls[last.calls.length]? = some ⟨clientId, secret, .returned (.ok jwt)⟩

/-! ## What the minute leaves of a lifetime -/

theorem sub_pos_of_min {lifetime cap minute : Nat} (roomy : minute < lifetime) :
    0 < Nat.min lifetime cap - minute ↔ minute < cap := by
  rw [Nat.sub_pos_iff_lt]
  constructor
  · intro left
    exact Nat.lt_of_lt_of_le left (Nat.min_le_right _ _)
  · intro left
    exact Nat.lt_min.mpr ⟨roomy, left⟩

/-- Of a lifetime of more than a minute something is left if the cap is longer
than a minute too. -/
theorem cachedFor_pos_iff {cap : Duration} {expiresIn : Option UInt64}
    (roomy : ∀ secs, expiresIn = some secs → 60 < secs.toNat) :
    0 < cachedFor cap expiresIn ↔ 60 * nanosPerSec < cap.nanos := by
  cases expiresIn with
  | none =>
      have same : Nat.min cap.nanos cap.nanos = cap.nanos := Nat.min_self cap.nanos
      change 0 < Nat.min cap.nanos cap.nanos - 60 * nanosPerSec ↔ _
      rw [same, Nat.sub_pos_iff_lt]
  | some secs =>
      have longer : 60 * nanosPerSec < secs.toNat * nanosPerSec :=
        Nat.mul_lt_mul_of_pos_right (roomy secs rfl) (by decide)
      exact sub_pos_of_min longer

theorem cachedFor_eq_zero {cap : Duration} (short : cap.nanos ≤ 60 * nanosPerSec)
    (expiresIn : Option UInt64) : cachedFor cap expiresIn = 0 :=
  Nat.sub_eq_zero_of_le (Nat.le_trans (Nat.min_le_right _ _) short)

/-- Under a short cap no cache ever holds a live token. -/
theorem expired_of_short_cap (deployed : Deployed builder inner)
    (short : builder.cacheTtl.nanos ≤ 60 * nanosPerSec) {clock : Instant}
    {history : List (Moment State Action)} {state : State}
    (run : Run (step inner) (State.initial clock) history state) {key : CacheKey}
    {cached : CachedToken} (found : state.shared.positive.lookup key = some cached) :
    cached.expiresAt ≤ state.shared.clock := by
  rcases entry_stored run (not_at_initial clock (.token cached) key) found with
    ⟨before, storer, index, clientId, secret, lock, outcome, held, _, store⟩
  rcases store.of_token with ⟨expiresIn, rfl, added⟩
  rcases held.passed.cut run with ⟨_, _, _, _, taken, rest⟩
  have ordered : storer.shared.clock ≤ state.shared.clock := clock_le_of_run (Run.cons taken rest)
  calc cached.expiresAt
      = storer.shared.clock + cachedFor builder.cacheTtl expiresIn := by
        rw [Instant.checkedAdd_eq_some added, deployed.positiveTtl_nanos]
    _ = storer.shared.clock := by rw [cachedFor_eq_zero short, Nat.add_zero]
    _ ≤ state.shared.clock := ordered

/-! ## The next caller -/

/-- A call on its way out touches neither the tokens nor the clock. -/
theorem kept_of_own_step {state next : State} {index : Nat} {call : ExchangeCall}
    (found : state.calls[index]? = some call) (late : 10 ≤ call.stage.rank)
    (taken : step inner state (.advance index) = some next) :
    next.shared.positive = state.shared.positive ∧ next.shared.clock = state.shared.clock := by
  rcases moved_of_found taken (Or.inl rfl) found with ⟨stage, move, _⟩
  refine ⟨?_, move.clock⟩
  have early : ∀ clientId secret stage, state.calls[index]? = some ⟨clientId, secret, stage⟩ →
      ¬ stage.rank < 10 := by
    intro clientId secret stage here
    rcases Option.some.inj (found.symm.trans here) with rfl
    exact Nat.not_lt_of_le late
  cases positive_change taken with
  | kept same => exact same
  | evicted acts caller _ =>
      rcases Action.advance.inj acts with rfl
      exact absurd (by decide) (early _ _ _ caller)
  | stored store _ =>
      rcases Action.advance.inj store.action with rfl
      exact absurd (Nat.lt_succ_self 9) (early _ _ _ store.caller)
  | flushed acts => cases acts

theorem kept_of_own_steps {start last : State} {after : List (Moment State Action)}
    (run : Run (step inner) start after last) {index : Nat} {call : ExchangeCall}
    (found : start.calls[index]? = some call) (late : 10 ≤ call.stage.rank)
    (own : ∀ moment ∈ after, moment.2 = .advance index) :
    last.shared.positive = start.shared.positive ∧ last.shared.clock = start.shared.clock := by
  induction run with
  | nil => exact ⟨rfl, rfl⟩
  | @snoc after state next action earlier taken inductionHypothesis =>
      have before := inductionHypothesis fun moment member =>
        own moment (List.mem_append_left _ member)
      have acts : action = .advance index := own (state, action) (by simp)
      subst acts
      rcases call_of_run earlier found with ⟨stage, here, forward⟩
      have kept := kept_of_own_step here (Nat.le_trans late forward) taken
      exact ⟨kept.1.trans before.1, kept.2.trans before.2⟩

section Works

variable {history : List (Moment State Action)} {state next : State} {index : Nat}
  {clientId secret : String} {lock : LockId} {reply : TokenReply} {jwt : String}
  {expiresIn : Option UInt64}

/-- A token stored with some lifetime left is served to the next caller. -/
theorem works_of_live (deployed : Deployed builder inner)
    (received : Received inner history state index clientId secret lock reply)
    (grants : reply.Grants jwt expiresIn)
    (taken : step inner state (.advance index) = some next)
    (live : 0 < cachedFor builder.cacheTtl expiresIn)
    (fits : state.shared.clock + cachedFor builder.cacheTtl expiresIn < instantLimit) :
    WorksAtOnce inner state next index clientId secret lock (exchangeInner reply) jwt := by
  have outcome := TokenReply.ok_of_grants grants
  have here := received.here
  rw [outcome] at here ⊢
  rw [← deployed.positiveTtl_nanos] at live fits
  have store : Store inner (state, .advance index) index clientId secret lock
      (.ok (jwt, expiresIn)) (.token ⟨jwt, _⟩) :=
    ⟨rfl, here, .token (Instant.checkedAdd_of_lt fits)⟩
  rcases present_after_store taken store with ⟨present, sameClock⟩
  have alive : next.shared.clock < state.shared.clock + (positiveTtl inner expiresIn).nanos := by
    rw [sameClock]
    exact Nat.lt_add_of_pos_right live
  refine ⟨⟨_, rfl, store, present, alive⟩, ?_⟩
  intro after last run own
  have onward := (after_token_store taken here (Instant.checkedAdd_of_lt fits)).2
  rcases kept_of_own_steps run onward (Nat.le_refl 10) own with ⟨tokens, clock⟩
  rw [← tokens] at present
  rw [← clock] at alive
  exact ⟨_, _, rfl, joinedBy_hits present alive, List.getElem?_concat_length⟩

/-- A token that is stored live had some lifetime left. -/
theorem live_of_works (deployed : Deployed builder inner) (grants : reply.Grants jwt expiresIn)
    (taken : step inner state (.advance index) = some next)
    (works : WorksAtOnce inner state next index clientId secret lock (exchangeInner reply) jwt) :
    0 < cachedFor builder.cacheTtl expiresIn ∧
      state.shared.clock + cachedFor builder.cacheTtl expiresIn < instantLimit := by
  rcases works.live with ⟨cached, _, store, present, live⟩
  have sameClock := (present_after_store taken store).2
  rcases store.of_token with ⟨lifetime, same, added⟩
  rw [TokenReply.ok_of_grants grants] at same
  rcases Prod.mk.inj (Except.ok.inj same) with ⟨_, rfl⟩
  have bounded := Instant.lt_limit_of_checkedAdd added
  rw [sameClock, Instant.checkedAdd_eq_some added, deployed.positiveTtl_nanos] at live
  rw [Instant.checkedAdd_eq_some added, deployed.positiveTtl_nanos] at bounded
  exact ⟨Nat.pos_of_lt_add_right live, bounded⟩

end Works

/-- After a response that leaves the token more than a minute, the cache of an
exchanger of an accepted configuration works exactly when the configured cap is
longer than a minute and the deadline fits.  Under a cap of a minute or less no
run ever has a live token in the cache. -/
theorem cache_works_iff (deployed : Deployed builder inner)
    {history : List (Moment State Action)} {state next : State} {index : Nat}
    {clientId secret : String} {lock : LockId} {reply : TokenReply} {jwt : String}
    {expiresIn : Option UInt64}
    (received : Received inner history state index clientId secret lock reply)
    (grants : reply.Grants jwt expiresIn)
    (roomy : ∀ secs, expiresIn = some secs → 60 < secs.toNat)
    (taken : step inner state (.advance index) = some next) :
    (WorksAtOnce inner state next index clientId secret lock (exchangeInner reply) jwt ↔
      60 * nanosPerSec < builder.cacheTtl.nanos ∧
        state.shared.clock + cachedFor builder.cacheTtl expiresIn < instantLimit) ∧
    (builder.cacheTtl.nanos ≤ 60 * nanosPerSec →
      ∀ clock history state, Run (step inner) (State.initial clock) history state →
        ∀ key cached, state.shared.positive.lookup key = some cached →
          cached.expiresAt ≤ state.shared.clock) := by
  refine ⟨?_, fun short clock history state run key cached found => ?_⟩
  · rw [← cachedFor_pos_iff roomy]
    constructor
    · exact live_of_works deployed grants taken
    · rintro ⟨live, fits⟩
      exact works_of_live deployed received grants taken live fits
  · exact expired_of_short_cap deployed short run found

/-- The default cap leaves the cache working. -/
theorem cache_works_iff_of_default :
    ∃ history state next lock,
      Received sampleInner history state 0 "c" "sec" lock (sampleGrant "jwt" 300) ∧
      WorksAtOnce sampleInner state next 0 "c" "sec" lock
        (exchangeInner (sampleGrant "jwt" 300)) "jwt" := by
  have deployed : Deployed (sampleBuilder (Duration.fromSecs 3600)) sampleInner :=
    deployed_sample (by decide)
  have grants : (sampleGrant "jwt" 300).Grants "jwt" (some 300) :=
    TokenReply.grants_of_ok (by decide)
  have roomy : ∀ secs, some (300 : UInt64) = some secs → 60 < secs.toNat := by
    rintro secs ⟨rfl⟩
    decide
  rcases received_alone sampleInner 0 "c" "sec" (sampleGrant "jwt" 300) with
    ⟨history, state, lock, received, now, _, _⟩
  rcases exists_step received.here rfl with ⟨next, taken⟩
  refine ⟨history, state, next, lock, received,
    (cache_works_iff deployed received grants roomy taken).1.mpr ⟨by decide, ?_⟩⟩
  rw [now]
  decide

/-- A cap of a minute is accepted.  A token that the IdP puts no limit on has
expired when it is stored, and a second call for it sends a second POST at the
same instant. -/
theorem not_cache_works_of_one_minute :
    ∃ inner, Deployed (sampleBuilder (Duration.fromSecs 60)) inner ∧
      (sampleOpenGrant "jwt").Grants "jwt" none ∧
      (∃ history state next lock,
        Received inner history state 0 "c" "sec" lock (sampleOpenGrant "jwt") ∧
        step inner state (.advance 0) = some next ∧
        ¬ WorksAtOnce inner state next 0 "c" "sec" lock
          (exchangeInner (sampleOpenGrant "jwt")) "jwt") ∧
      ∃ history state post, Run (step inner) (State.initial 0) history state ∧
        state.shared.clock = 0 ∧
        state.calls = [⟨"c", "sec", .returned (.ok "jwt")⟩, ⟨"c", "sec", .awaitAnswer 1 post⟩] := by
  have deployed : Deployed (sampleBuilder (Duration.fromSecs 60))
      { sampleInner with hardTtl := Duration.fromSecs 60 } := deployed_sample (by decide)
  have grants : (sampleOpenGrant "jwt").Grants "jwt" none := TokenReply.grants_of_ok (by decide)
  refine ⟨_, deployed, grants, ?_, ?_⟩
  · rcases received_alone { sampleInner with hardTtl := Duration.fromSecs 60 } 0 "c" "sec"
      (sampleOpenGrant "jwt") with ⟨history, state, lock, received, _⟩
    rcases exists_step received.here rfl with ⟨next, taken⟩
    refine ⟨history, state, next, lock, received, taken, fun works => ?_⟩
    have live := (live_of_works deployed grants taken works).1
    exact absurd live (by decide)
  · obtain ⟨history, state, run, observed⟩ := execute_observed
      (step { sampleInner with hardTtl := Duration.fromSecs 60 }) (State.initial 0)
      [.exchange "c" "sec", .advance 0, .advance 0, .advance 0, .advance 0, .advance 0,
        .advance 0, .answer 0 (sampleOpenGrant "jwt"), .advance 0, .advance 0, .advance 0,
        .advance 0, .advance 0, .exchange "c" "sec", .advance 1, .advance 1, .advance 1,
        .advance 1, .advance 1, .advance 1, .advance 1]
      (fun _ state => (state.shared.clock, state.calls))
      (0, [⟨"c", "sec", .returned (.ok "jwt")⟩, ⟨"c", "sec", .awaitAnswer 1
        ⟨"https://idp/token", [("grant_type", "client_credentials"), ("client_id", "c"),
          ("client_secret", "sec")]⟩⟩])
      (by decide +kernel)
    rcases Prod.mk.inj observed with ⟨now, calls⟩
    exact ⟨history, state, _, run, now, calls⟩

end Exchange
end OidcRs
