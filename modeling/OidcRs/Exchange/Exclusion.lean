import OidcRs.Exchange.Eviction
import OidcRs.Exchange.NegativeCaching

namespace OidcRs
namespace Exchange

open Foundation

/-!
# One live outcome at a time

Where no flush lets two locks of one client coexist, the last outcome of a key is
the only one that counts.  A call that asks the IdP has no live token behind its
back, so it never puts a failure beside one.  A success is put beside a failure
for as long as it takes to remove it.  And the token that a call has stored keeps
others from asking until its deadline, unless an eviction takes it.
-/

variable {inner : ExchangerInner}

/-- The call is about to ask the IdP, waits for its answer, or has not stored the
outcome yet. -/
def CallStage.asking : CallStage → Bool
  | sendPost _ | awaitAnswer _ _ | storeOutcome _ _ => true
  | _ => false

theorem CallStage.rank_of_asking {stage : CallStage} (asks : stage.asking = true) :
    7 ≤ stage.rank ∧ stage.rank ≤ 9 := by
  cases stage with
  | sendPost | awaitAnswer | storeOutcome => simp only [rank, Nat.reduceLeDiff, and_self]
  | lookupPositive | evictPositive | lookupNegative | evictNegative | takeHandle | awaitLock
  | recheckPositive | removeNegative | dropGuard | dropLock | cleanupInflight | returned
  | unwindGuard | unwindLock | aborted => cases asks

/-- A call has stored a token for the key and has not removed the failure yet. -/
def Superseding (inner : ExchangerInner) (state : State) (key : CacheKey) : Prop :=
  ∃ (index : Nat) (clientId secret : String) (lock : LockId) (jwt : String),
    state.calls[index]? = some ⟨clientId, secret, .removeNegative lock jwt⟩ ∧
      cacheKey inner clientId secret = key

/-- The key has no live failure beside a live token, but while a success is being
recorded, and no live token while the IdP is asked for one. -/
structure OneOutcome (inner : ExchangerInner) (state : State) (key : CacheKey) : Prop where
  exclusive : ∀ cached entry, state.shared.positive.lookup key = some cached →
    state.shared.clock < cached.expiresAt → state.shared.negative.lookup key = some entry →
    state.shared.clock < entry.until → Superseding inner state key
  unasked : ∀ (index : Nat) (call : ExchangeCall) cached, state.calls[index]? = some call →
    call.key inner = key → call.stage.asking = true →
    state.shared.positive.lookup key = some cached → cached.expiresAt ≤ state.shared.clock

/-! ## One step -/

section Step

variable {state next : State} {action : Action} {key : CacheKey}

/-- Whoever records a success goes on doing so until it has removed the failure. -/
theorem Superseding.step (superseding : Superseding inner state key)
    (taken : step inner state action = some next) :
    Superseding inner next key ∨ next.shared.negative.lookup key = none := by
  rcases superseding with ⟨index, clientId, secret, lock, jwt, found, rfl⟩
  rcases call_persists taken found with ⟨stage, there, same | move⟩
  · subst same
    exact Or.inl ⟨index, clientId, secret, lock, jwt, there, rfl⟩
  · refine Or.inr ?_
    generalize next.shared = shared at move ⊢
    cases move with
    | advance spec =>
        cases spec
        exact Finmap.lookup_erase _ _

/-- Storing a token is the beginning of recording a success. -/
theorem superseding_of_store {index : Nat} {clientId secret : String} {lock : LockId}
    {outcome : ExchangeResult} {cached : CachedToken}
    (taken : step inner state action = some next)
    (store : Store inner (state, action) index clientId secret lock outcome (.token cached)) :
    Superseding inner next (cacheKey inner clientId secret) := by
  have acts : action = .advance index := store.action
  subst acts
  rcases store.of_token with ⟨expiresIn, rfl, added⟩
  exact ⟨index, clientId, secret, lock, cached.jwt,
    (after_token_store taken store.caller added).2, rfl⟩

/-- What is left in front of a live failure after a step was there before, or the
failure has just been stored. -/
theorem failure_origin {entry : NegativeEntry} (taken : step inner state action = some next)
    (failed : next.shared.negative.lookup key = some entry) :
    state.shared.negative.lookup key = some entry ∨
      ∃ index clientId secret lock outcome, key = cacheKey inner clientId secret ∧
        Store inner (state, action) index clientId secret lock outcome (.failure entry) := by
  by_cases before : state.shared.negative.lookup key = some entry
  · exact Or.inl before
  · exact Or.inr (entry_appears taken before failed)

theorem token_origin {cached : CachedToken} (taken : step inner state action = some next)
    (found : next.shared.positive.lookup key = some cached) :
    state.shared.positive.lookup key = some cached ∨
      ∃ index clientId secret lock outcome, key = cacheKey inner clientId secret ∧
        Store inner (state, action) index clientId secret lock outcome (.token cached) := by
  by_cases before : state.shared.positive.lookup key = some cached
  · exact Or.inl before
  · exact Or.inr (entry_appears taken before found)

/-- No call stores a failure beside a live token, and whoever stores a token beside
a live failure is about to remove it. -/
theorem exclusive_step
    (exclusive : ∀ cached entry, state.shared.positive.lookup key = some cached →
      state.shared.clock < cached.expiresAt → state.shared.negative.lookup key = some entry →
      state.shared.clock < entry.until → Superseding inner state key)
    (dead : DeadWhilePosting inner state) (taken : step inner state action = some next)
    {cached : CachedToken} {entry : NegativeEntry}
    (found : next.shared.positive.lookup key = some cached)
    (live : next.shared.clock < cached.expiresAt)
    (failed : next.shared.negative.lookup key = some entry)
    (fresh : next.shared.clock < entry.until) : Superseding inner next key := by
  have forward := step_clock_le taken
  rcases token_origin taken found with before | ⟨_, _, _, _, _, rfl, store⟩
  · rcases failure_origin taken failed with failedBefore | ⟨index, _, _, _, _, rfl, store⟩
    · have recording := exclusive cached entry before (Nat.lt_of_le_of_lt forward live) failedBefore
        (Nat.lt_of_le_of_lt forward fresh)
      rcases recording.step taken with still | gone
      · exact still
      · rw [gone] at failed
        cases failed
    · -- the storing call has asked the IdP, so the key has no live token
      have expired := dead index _ store.caller (by simp [CallStage.rank])
        (by simp [CallStage.rank]) cached before
      exact absurd (Nat.lt_of_le_of_lt forward live) (Nat.not_lt_of_le expired)
  · exact superseding_of_store taken store

end Step

/-! ## Every run without flushes -/

section Whole

variable {clock : Instant} {history : List (Moment State Action)} {state : State}

/-- In a run without flushes every key has one live outcome at a time: the caches
never both hold a live entry for it, except between the two steps by which a
success is recorded, and nobody asks the IdP about it while its token is live. -/
theorem one_outcome_at_a_time
    (run : Run (step inner) (State.initial clock) history state)
    (noFlush : ∀ moment ∈ history, ∀ index, moment.2 ≠ .advanceFlush index) (key : CacheKey) :
    OneOutcome inner state key := by
  have exclusive : ∀ cached entry, state.shared.positive.lookup key = some cached →
      state.shared.clock < cached.expiresAt → state.shared.negative.lookup key = some entry →
      state.shared.clock < entry.until → Superseding inner state key := by
    refine run.history_invariant (fun before state =>
      (∀ moment ∈ before, ∀ index, moment.2 ≠ .advanceFlush index) →
      ∀ cached entry, state.shared.positive.lookup key = some cached →
        state.shared.clock < cached.expiresAt → state.shared.negative.lookup key = some entry →
        state.shared.clock < entry.until → Superseding inner state key) ?_ ?_ noFlush
    · intro _ cached entry found
      cases found
    · intro before state action next sofar exclusive taken spared cached entry found live failed
        fresh
      have sparedBefore := fun moment member => spared moment (List.mem_append_left _ member)
      exact exclusive_step (exclusive sparedBefore)
        (dead_while_posting_of_run sofar sparedBefore) taken found live failed fresh
  refine ⟨exclusive, ?_⟩
  rintro index call cached found rfl asks present
  have between := CallStage.rank_of_asking asks
  exact dead_while_posting_of_run run noFlush index call found between.1 between.2 cached present

/-- Two calls that fail and succeed one after the other. -/
theorem one_outcome_at_a_time_of_retry :
    ∃ history state, Run (step sampleInner) (State.initial 0) history state ∧
      state.calls = [⟨"c", "sec", .returned (.error (.idpUnreachable "token POST: reset"))⟩,
        ⟨"c", "sec", .removeNegative 0 "jwt"⟩] ∧
      OneOutcome sampleInner state (cacheKey sampleInner "c" "sec") := by
  obtain ⟨history, state, run, observed⟩ := execute_observed (step sampleInner)
    (State.initial 0)
    [.exchange "c" "sec", .advance 0, .advance 0, .advance 0, .advance 0, .advance 0,
      .advance 0, .exchange "c" "sec", .advance 1, .advance 1, .advance 1,
      .answer 0 (.sendFailed "reset"), .advance 0, .advance 0, .advance 0, .advance 0,
      .advance 1, .advance 1, .advance 1, .answer 1 (sampleGrant "jwt" 300), .advance 1]
    (fun history state => (state.calls,
      history.all (fun moment => moment.2.flushAdvanced.isNone)))
    ([⟨"c", "sec", .returned (.error (.idpUnreachable "token POST: reset"))⟩,
      ⟨"c", "sec", .removeNegative 0 "jwt"⟩], true) (by decide +kernel)
  rcases Prod.mk.inj observed with ⟨calls, spared⟩
  refine ⟨history, state, run, calls, one_outcome_at_a_time run ?_ _⟩
  rintro ⟨before, action⟩ member index rfl
  cases List.all_eq_true.mp spared _ member

/-- A stored token was taken out of the cache before its deadline, by a call that had
found an older token of the key expired before this one was stored. -/
def EvictedEarly (inner : ExchangerInner) (history before : List (Moment State Action))
    (stored : Moment State Action) (key : CacheKey) (cached : CachedToken) : Prop :=
  ∃ early evictor next index, Passed history early (evictor, .advance index) ∧
    Passed early before stored ∧ Removes inner evictor next index key (.token cached) ∧
    evictor.shared.clock < cached.expiresAt ∧
    ∃ front reader clientId secret old,
      FoundExpired inner before front reader index clientId secret (.token old) ∧
      cacheKey inner clientId secret = key

/-- A live token is lost by an eviction only: whoever would store another one has
asked the IdP, which nobody does while it is live. -/
theorem removed_of_lost {next : State} {action : Action} {key : CacheKey} {cached : CachedToken}
    (dead : DeadWhilePosting inner state) (taken : step inner state action = some next)
    (spared : ∀ index, action ≠ .advanceFlush index)
    (present : state.shared.positive.lookup key = some cached)
    (live : state.shared.clock < cached.expiresAt)
    (lost : next.shared.positive.lookup key ≠ some cached) :
    ∃ index, action = .advance index ∧ Removes inner state next index key (.token cached) := by
  cases positive_change taken with
  | kept same =>
      rw [same] at lost
      exact absurd present lost
  | @evicted index clientId secret acts caller erased =>
      by_cases same : key = cacheKey inner clientId secret
      · subst acts same
        exact ⟨index, rfl, removes_of_evicting taken caller present⟩
      · rw [erased, Finmap.lookup_erase_ne same] at lost
        exact absurd present lost
  | @stored index clientId secret lock outcome token store inserted =>
      by_cases same : key = cacheKey inner clientId secret
      · subst same
        have expired := dead index _ store.caller (by simp [CallStage.rank])
          (by simp [CallStage.rank]) cached present
        exact absurd live (Nat.not_lt_of_le expired)
      · rw [inserted, Finmap.lookup_insert_of_ne _ same] at lost
        exact absurd present lost
  | flushed acts => exact absurd acts (spared _)

/-- Whoever comes to evict a token that has been there since it was stored, and has not
expired, found another one expired before. -/
theorem found_before_store {before early : List (Moment State Action)} {storer evictor : State}
    {index evicting : Nat} {clientId secret otherClient otherSecret : String} {lock : LockId}
    {outcome : ExchangeResult} {cached : CachedToken}
    (run : Run (step inner) (State.initial clock) (before ++ (storer, .advance index) :: early)
      evictor)
    (store : Store inner (storer, .advance index) index clientId secret lock outcome (.token cached))
    (kept : ∀ moment ∈ early,
      moment.1.shared.positive.lookup (cacheKey inner otherClient otherSecret) = some cached)
    (caller : evictor.calls[evicting]? = some ⟨otherClient, otherSecret, .evictPositive⟩)
    (live : evictor.shared.clock < cached.expiresAt) :
    ∃ front reader old,
      FoundExpired inner before front reader evicting otherClient otherSecret (.token old) := by
  have prepared := prepared_of_run run rfl caller
  rcases prepared with ⟨front, reader, old, read⟩
  have passed := read.passed
  rw [← List.singleton_append, ← List.append_assoc] at passed
  rcases passed.of_joined with upToStore | ⟨rest, _, since⟩
  · rcases upToStore.of_joined with earlier | ⟨rest, _, atStore⟩
    · exact ⟨front, reader, old, earlier, read.caller, read.found, read.expired⟩
    · -- the moment of the store is no lookup
      rcases Prod.mk.inj (List.mem_singleton.mp atStore.mem) with ⟨rfl, sameAction⟩
      rcases Action.advance.inj sameAction with rfl
      have impossible := Option.some.inj (store.caller.symm.trans read.caller)
      cases impossible
  · have same : old = cached := Option.some.inj (read.found.symm.trans (kept _ since.mem))
    rcases read.passed.cut run with ⟨_, _, _, _, taken, runOn⟩
    have ordered : reader.shared.clock ≤ evictor.shared.clock :=
      clock_le_of_run (Run.cons taken runOn)
    have expired : old.expiresAt ≤ reader.shared.clock := read.expired
    rw [same] at expired
    exact absurd live (Nat.not_lt_of_le (Nat.le_trans expired ordered))

/-- In a run without flushes, the IdP is asked again about a key whose stored token
has time left only after somebody who had found an older token expired has evicted
that token. -/
theorem asked_again_only_after_eviction
    (run : Run (step inner) (State.initial clock) history state)
    (noFlush : ∀ moment ∈ history, ∀ index, moment.2 ≠ .advanceFlush index)
    {before middle : List (Moment State Action)} {storer : State} {index : Nat}
    {clientId secret : String} {lock : LockId} {outcome : ExchangeResult} {cached : CachedToken}
    {moment : Moment State Action}
    (store : Store inner (storer, .advance index) index clientId secret lock outcome
      (.token cached))
    (passed : Passed history middle moment) (later : Passed middle before (storer, .advance index))
    (asks : sendsPost inner (cacheKey inner clientId secret) moment = true)
    (live : moment.1.shared.clock < cached.expiresAt) :
    EvictedEarly inner middle before (storer, .advance index) (cacheKey inner clientId secret)
      cached := by
  rcases passed.cut run with ⟨_, _, _, runToMoment, _, _⟩
  rcases later.cut runToMoment with ⟨opened, between, rfl, runToStorer, stores, runBetween⟩
  have spared : ∀ other ∈ before ++ (storer, .advance index) :: between, ∀ flush,
      other.2 ≠ .advanceFlush flush := fun other member =>
    noFlush other (passed.before_prefix.subset member)
  have absent : ¬ moment.1.shared.positive.lookup (cacheKey inner clientId secret) =
      some cached := by
    intro present
    rcases sendsPost_iff.mp asks with ⟨poster, client, otherSecret, otherLock, _, found, keyed⟩
    rw [← keyed] at present
    have expired := dead_while_posting_of_run runToMoment spared poster _ found
      (by simp [CallStage.rank]) (by simp [CallStage.rank]) cached present
    exact absurd live (Nat.not_lt_of_le expired)
  have present := (present_after_store stores store).1
  rcases runBetween.first_loss
      (fun state => state.shared.positive.lookup (cacheKey inner clientId secret) = some cached)
      present absent with
    ⟨early, ⟨evictor, action⟩, rest, next, rfl, runToEvictor, there, taken, lost, runOn, kept⟩
  have earlyPassed : Passed (before ++ (storer, .advance index) :: (early ++ (evictor, action) ::
      rest)) (before ++ (storer, .advance index) :: early) (evictor, action) := by
    have inside : Passed (early ++ (evictor, action) :: rest) early (evictor, action) :=
      Passed.of_append
    have whole := inside.prepend (before ++ [(storer, .advance index)])
    rwa [List.append_assoc, List.append_assoc] at whole
  rcases earlyPassed.cut runToMoment with ⟨_, _, _, runEvictor, _, _⟩
  have ordered : evictor.shared.clock ≤ moment.1.shared.clock :=
    Nat.le_trans (step_clock_le taken) (clock_le_of_run runOn)
  have liveThen := Nat.lt_of_le_of_lt ordered live
  have sparedThen := fun other member flush =>
    spared other (earlyPassed.before_prefix.subset member) flush
  rcases removed_of_lost (dead_while_posting_of_run runEvictor sparedThen) taken
      (spared _ earlyPassed.mem) there liveThen lost with ⟨evicting, rfl, removes⟩
  rcases removes.own with ⟨client, otherSecret, sameKey, caller | ⟨⟨_, failing⟩, _⟩⟩
  · rw [sameKey] at kept
    rcases found_before_store runEvictor store kept caller liveThen with ⟨front, reader, old, found⟩
    exact ⟨_, evictor, next, evicting, earlyPassed, Passed.of_append, removes, liveThen, front,
      reader, client, otherSecret, old, found, sameKey.symm⟩
  · cases failing

end Whole

/-- A call that found the first token expired evicts the second one, which has
minutes left, and asks the IdP a third time. -/
theorem asked_again_only_after_eviction_of_overtaken :
    ∃ history state before storer middle poster cached,
      Run (step sampleInner) (State.initial 0) history state ∧
      Passed history middle (poster, .advance 1) ∧
      sendsPost sampleInner (cacheKey sampleInner "c" "sec") (poster, .advance 1) = true ∧
      EvictedEarly sampleInner middle before (storer, .advance 2) (cacheKey sampleInner "c" "sec")
        cached := by
  obtain ⟨history, state, run, observed⟩ := execute_observed (step sampleInner)
    (State.initial 0)
    [.exchange "c" "sec", .advance 0, .advance 0, .advance 0, .advance 0, .advance 0,
      .advance 0, .answer 0 (sampleGrant "first" 61), .advance 0, .advance 0, .advance 0,
      .advance 0, .advance 0, .tick 2000000000, .exchange "c" "sec", .advance 1,
      .exchange "c" "sec", .advance 2, .advance 2, .advance 2, .advance 2, .advance 2,
      .advance 2, .advance 2, .answer 2 (sampleGrant "second" 300), .advance 2, .advance 2,
      .advance 2, .advance 2, .advance 2, .advance 1, .advance 1, .advance 1, .advance 1,
      .advance 1, .advance 1]
    (fun history _ => (history[25]?.map glance, history[35]?.map glance,
      history.all (fun moment => moment.2.flushAdvanced.isNone)))
    (some ⟨some 2, [⟨"c", "sec", .returned (.ok "first")⟩, ⟨"c", "sec", .evictPositive⟩,
        ⟨"c", "sec", .storeOutcome 1 (.ok ("second", some 300))⟩], 2000000000⟩,
      some ⟨some 1, [⟨"c", "sec", .returned (.ok "first")⟩, ⟨"c", "sec", .sendPost 2⟩,
        ⟨"c", "sec", .returned (.ok "second")⟩], 2000000000⟩, true)
    (by decide +kernel)
  rcases Prod.mk.inj observed with ⟨storing, rest⟩
  rcases Prod.mk.inj rest with ⟨posting, spared⟩
  rcases Option.map_eq_some_iff.mp storing with ⟨⟨storer, stores⟩, hereStorer, seenStorer⟩
  rcases Option.map_eq_some_iff.mp posting with ⟨⟨poster, posts⟩, herePoster, seenPoster⟩
  simp only [glance, Glance.mk.injEq] at seenStorer seenPoster
  rcases seenStorer with ⟨storerActs, storerCalls, storerClock⟩
  rcases seenPoster with ⟨posterActs, posterCalls, posterClock⟩
  rcases Action.of_advanced storerActs with rfl
  rcases Action.of_advanced posterActs with rfl
  have store : Store sampleInner (storer, .advance 2) 2 "c" "sec" 1 (.ok ("second", some 300))
      (.token ⟨"second", 242000000000⟩) :=
    ⟨rfl, by rw [storerCalls]; rfl, .token (by rw [storerClock]; decide +kernel)⟩
  have asks : sendsPost sampleInner (cacheKey sampleInner "c" "sec") (poster, .advance 1) = true :=
    sendsPost_iff.mpr ⟨1, "c", "sec", 2, rfl, by rw [posterCalls]; rfl, rfl⟩
  have noFlush : ∀ moment ∈ history, ∀ index, moment.2 ≠ .advanceFlush index := by
    rintro ⟨before, action⟩ member index rfl
    cases List.all_eq_true.mp spared _ member
  have evicted := asked_again_only_after_eviction run noFlush store
    (Passed.of_getElem? herePoster) (Passed.of_getElem?_lt hereStorer (by decide)) asks
    (by rw [posterClock]; decide)
  exact ⟨history, state, _, storer, _, poster, _, run, Passed.of_getElem? herePoster, asks, evicted⟩

end Exchange
end OidcRs
