import OidcRs.Exchange.Calls

namespace OidcRs
namespace Exchange

open Foundation

/-!
# What one step does to each cache

Each cache is changed by four kinds of step and by no other: an expired entry
is evicted by the call that read it, an outcome is stored, a success removes
the failure it supersedes, and a flush filters the map.  Everything said later
about where an entry came from, or how long it stays, reads these lists.
-/

variable {inner : ExchangerInner}

/-- An entry of one of the two caches. -/
inductive Entry
  | token (cached : CachedToken)
  | failure (entry : NegativeEntry)

namespace Entry

/-- The cache the entry belongs to holds it under the key. -/
def At (shared : Shared) (key : CacheKey) : Entry → Prop
  | token cached => shared.positive.lookup key = some cached
  | failure entry => shared.negative.lookup key = some entry

def deadline : Entry → Instant
  | token cached => cached.expiresAt
  | failure entry => entry.until

/-- What a call that reads the entry returns. -/
def answer : Entry → Except AuthError String
  | token cached => .ok cached.jwt
  | failure entry => .error entry.error.toAuthError

/-- The stages at which a call looks in the cache the entry belongs to. -/
def ReadAt : Entry → CallStage → Prop
  | token _, stage => stage = .lookupPositive ∨ ∃ lock, stage = .recheckPositive lock
  | failure _, stage => stage = .lookupNegative

/-- The entry an outcome is stored as at this time. -/
inductive Of (inner : ExchangerInner) (now : Instant) : ExchangeResult → Entry → Prop
  | token {jwt : String} {expiresIn : Option UInt64} {deadline : Instant}
      (added : Instant.checkedAdd now (positiveTtl inner expiresIn) = some deadline) :
      Of inner now (.ok (jwt, expiresIn)) (.token ⟨jwt, deadline⟩)
  | failure {error : AuthError} {reason : NegativeReason} {deadline : Instant}
      (cached : NegativeReason.ofError error = some reason)
      (added : Instant.checkedAdd now reason.ttl = some deadline) :
      Of inner now (.error error) (.failure ⟨deadline, reason⟩)

end Entry

/-- The lifetime of a cached token, written out. -/
theorem positiveTtl_nanos (expiresIn : Option UInt64) : (positiveTtl inner expiresIn).nanos =
    Nat.min ((expiresIn.map (fun secs => secs.toNat * nanosPerSec)).getD inner.hardTtl.nanos)
      inner.hardTtl.nanos - 60 * nanosPerSec := by
  rw [positiveTtl, Duration.saturatingSub_nanos, Duration.min_nanos, Duration.fromSecs_nanos]
  cases expiresIn <;> rfl

/-- A call stores an entry under its key. -/
structure Store (inner : ExchangerInner) (moment : Moment State Action) (index : Nat)
    (clientId secret : String) (lock : LockId) (outcome : ExchangeResult) (entry : Entry) :
    Prop where
  action : moment.2 = .advance index
  caller : moment.1.calls[index]? = some ⟨clientId, secret, .storeOutcome lock outcome⟩
  made : Entry.Of inner moment.1.shared.clock outcome entry

/-- A stored token is the granted one, until its lifetime is over. -/
theorem Store.of_token {moment : Moment State Action} {index : Nat} {clientId secret : String}
    {lock : LockId} {outcome : ExchangeResult} {cached : CachedToken}
    (store : Store inner moment index clientId secret lock outcome (.token cached)) :
    ∃ expiresIn, outcome = .ok (cached.jwt, expiresIn) ∧
      Instant.checkedAdd moment.1.shared.clock (positiveTtl inner expiresIn) =
        some cached.expiresAt := by
  cases store.made with
  | @token jwt expiresIn deadline added => exact ⟨expiresIn, rfl, added⟩

/-- A stored failure is the one reported, until its lifetime is over. -/
theorem Store.of_failure {moment : Moment State Action} {index : Nat} {clientId secret : String}
    {lock : LockId} {outcome : ExchangeResult} {entry : NegativeEntry}
    (store : Store inner moment index clientId secret lock outcome (.failure entry)) :
    ∃ error, outcome = .error error ∧ NegativeReason.ofError error = some entry.error ∧
      Instant.checkedAdd moment.1.shared.clock entry.error.ttl = some entry.until := by
  cases store.made with
  | @failure error reason deadline cached added => exact ⟨error, rfl, cached, added⟩

/-- What a step does to the positive cache. -/
inductive PositiveChange (inner : ExchangerInner) (state : State) (action : Action)
    (next : State) : Prop
  | kept (same : next.shared.positive = state.shared.positive)
  | evicted {index : Nat} {clientId secret : String} (acts : action = .advance index)
      (caller : state.calls[index]? = some ⟨clientId, secret, .evictPositive⟩)
      (erased : next.shared.positive =
        state.shared.positive.erase (cacheKey inner clientId secret))
  | stored {index : Nat} {clientId secret : String} {lock : LockId} {outcome : ExchangeResult}
      {cached : CachedToken}
      (store : Store inner (state, action) index clientId secret lock outcome (.token cached))
      (inserted : next.shared.positive =
        state.shared.positive.insert (cacheKey inner clientId secret) cached)
  | flushed {index : Nat} {clientId : Option String} {posBefore negBefore : Nat}
      (acts : action = .advanceFlush index)
      (caller : state.flushes[index]? = some ⟨clientId, .flushPositive posBefore negBefore⟩)
      (filtered : next.shared.positive = flushMap clientId state.shared.positive)

/-- What a step does to the negative cache. -/
inductive NegativeChange (inner : ExchangerInner) (state : State) (action : Action)
    (next : State) : Prop
  | kept (same : next.shared.negative = state.shared.negative)
  | evicted {index : Nat} {clientId secret : String} (acts : action = .advance index)
      (caller : state.calls[index]? = some ⟨clientId, secret, .evictNegative⟩)
      (erased : next.shared.negative =
        state.shared.negative.erase (cacheKey inner clientId secret))
  | superseded {index : Nat} {clientId secret : String} {lock : LockId} {jwt : String}
      (acts : action = .advance index)
      (caller : state.calls[index]? = some ⟨clientId, secret, .removeNegative lock jwt⟩)
      (erased : next.shared.negative =
        state.shared.negative.erase (cacheKey inner clientId secret))
  | stored {index : Nat} {clientId secret : String} {lock : LockId} {outcome : ExchangeResult}
      {entry : NegativeEntry}
      (store : Store inner (state, action) index clientId secret lock outcome (.failure entry))
      (inserted : next.shared.negative =
        state.shared.negative.insert (cacheKey inner clientId secret) entry)
  | flushed {index : Nat} {clientId : Option String} {posBefore negBefore : Nat}
      (acts : action = .advanceFlush index)
      (caller : state.flushes[index]? = some ⟨clientId, .flushNegative posBefore negBefore⟩)
      (filtered : next.shared.negative = flushMap clientId state.shared.negative)

theorem positive_change {state next : State} {action : Action}
    (taken : step inner state action = some next) : PositiveChange inner state action next := by
  cases step_spec taken with
  | exchange | flush | tick => exact .kept rfl
  | @flushStep index call shared stage found spec =>
      rcases call with ⟨clientId, current⟩
      cases spec with
      | flushPositive => exact .flushed rfl found rfl
      | readPositiveLen | readNegativeLen | flushNegative | flushInflight | countPositive
      | positiveOverflow | countNegative | negativeOverflow => exact .kept rfl
  | @call index call action shared stage found move =>
      rcases call with ⟨clientId, secret, current⟩
      cases move with
      | answer | abandonWait | abandonPost => exact .kept rfl
      | advance spec =>
          cases spec with
          | evictPositive => exact .evicted rfl found rfl
          | storeToken added =>
              have store : Store inner (state, .advance index) index clientId secret _ _ _ :=
                ⟨rfl, found, .token added⟩
              exact .stored store rfl
          | positiveHit | positiveExpired | positiveMiss | negativeHit | negativeExpired
          | negativeMiss | evictNegative | takeHandle | acquire | recheckHit | recheckMiss
          | sendPost | storeFailure | storeNothing | storePanic | removeNegative | dropGuard
          | dropLock | cleanup | unwindGuard | unwindLock => exact .kept rfl

theorem negative_change {state next : State} {action : Action}
    (taken : step inner state action = some next) : NegativeChange inner state action next := by
  cases step_spec taken with
  | exchange | flush | tick => exact .kept rfl
  | @flushStep index call shared stage found spec =>
      rcases call with ⟨clientId, current⟩
      cases spec with
      | flushNegative => exact .flushed rfl found rfl
      | readPositiveLen | readNegativeLen | flushPositive | flushInflight | countPositive
      | positiveOverflow | countNegative | negativeOverflow => exact .kept rfl
  | @call index call action shared stage found move =>
      rcases call with ⟨clientId, secret, current⟩
      cases move with
      | answer | abandonWait | abandonPost => exact .kept rfl
      | advance spec =>
          cases spec with
          | evictNegative => exact .evicted rfl found rfl
          | removeNegative => exact .superseded rfl found rfl
          | storeFailure cached added =>
              have store : Store inner (state, .advance index) index clientId secret _ _ _ :=
                ⟨rfl, found, .failure cached added⟩
              exact .stored store rfl
          | positiveHit | positiveExpired | positiveMiss | evictPositive | negativeHit
          | negativeExpired | negativeMiss | takeHandle | acquire | recheckHit | recheckMiss
          | sendPost | storeToken | storeNothing | storePanic | dropGuard | dropLock | cleanup
          | unwindGuard | unwindLock => exact .kept rfl

/-! ## The step that stores -/

section Store

variable {state next : State} {index : Nat} {clientId secret : String} {lock : LockId}

/-- A token whose deadline fits is stored, and the call goes on to remove the
failure it supersedes. -/
theorem after_token_store {jwt : String} {expiresIn : Option UInt64} {deadline : Instant}
    (taken : step inner state (.advance index) = some next)
    (found : state.calls[index]? =
      some ⟨clientId, secret, .storeOutcome lock (.ok (jwt, expiresIn))⟩)
    (added : Instant.checkedAdd state.shared.clock (positiveTtl inner expiresIn) =
      some deadline) :
    next.shared =
        { state.shared with positive :=
          state.shared.positive.insert (cacheKey inner clientId secret) ⟨jwt, deadline⟩ } ∧
      next.calls[index]? = some ⟨clientId, secret, .removeNegative lock jwt⟩ := by
  rcases advanced_of_found taken found with ⟨stage, spec, there⟩
  generalize next.shared = shared at spec ⊢
  cases spec with
  | storeToken addedHere =>
      rcases Option.some.inj (added.symm.trans addedHere) with rfl
      exact ⟨rfl, there⟩
  | storePanic stored overflow =>
      rcases Option.some.inj stored with rfl
      exact absurd (added.symm.trans overflow) (Option.some_ne_none _)

/-- A failure that is to be cached is stored, if its deadline fits, and the call
leaves with it. -/
theorem after_failure_store {error : AuthError} {reason : NegativeReason} {deadline : Instant}
    (taken : step inner state (.advance index) = some next)
    (found : state.calls[index]? = some ⟨clientId, secret, .storeOutcome lock (.error error)⟩)
    (cached : NegativeReason.ofError error = some reason)
    (added : Instant.checkedAdd state.shared.clock reason.ttl = some deadline) :
    next.shared =
        { state.shared with negative :=
          state.shared.negative.insert (cacheKey inner clientId secret) ⟨deadline, reason⟩ } ∧
      next.calls[index]? = some ⟨clientId, secret, .dropGuard lock (.error error)⟩ := by
  rcases advanced_of_found taken found with ⟨stage, spec, there⟩
  generalize next.shared = shared at spec ⊢
  cases spec with
  | storeFailure cachedHere addedHere =>
      rcases Option.some.inj (cached.symm.trans cachedHere) with rfl
      rcases Option.some.inj (added.symm.trans addedHere) with rfl
      exact ⟨rfl, there⟩
  | storeNothing uncached =>
      exact absurd (cached.symm.trans uncached) (Option.some_ne_none reason)
  | storePanic stored overflow =>
      rw [storedTtl, cached] at stored
      rcases Option.some.inj stored with rfl
      exact absurd (added.symm.trans overflow) (Option.some_ne_none _)

/-- Any other failure leaves nothing behind, and the call leaves with it. -/
theorem after_uncached {error : AuthError}
    (taken : step inner state (.advance index) = some next)
    (found : state.calls[index]? = some ⟨clientId, secret, .storeOutcome lock (.error error)⟩)
    (uncached : NegativeReason.ofError error = none) :
    next.shared = state.shared ∧
      next.calls[index]? = some ⟨clientId, secret, .dropGuard lock (.error error)⟩ := by
  rcases advanced_of_found taken found with ⟨stage, spec, there⟩
  generalize next.shared = shared at spec ⊢
  cases spec with
  | storeNothing => exact ⟨rfl, there⟩
  | storeFailure cached =>
      exact absurd (cached.symm.trans uncached) (Option.some_ne_none _)
  | storePanic stored =>
      rw [storedTtl, uncached] at stored
      cases stored

/-- If the deadline does not fit, nothing is stored and the call unwinds. -/
theorem after_overflow {outcome : ExchangeResult} {ttl : Duration}
    (taken : step inner state (.advance index) = some next)
    (found : state.calls[index]? = some ⟨clientId, secret, .storeOutcome lock outcome⟩)
    (stored : storedTtl inner outcome = some ttl)
    (overflow : Instant.checkedAdd state.shared.clock ttl = none) :
    next.shared = state.shared ∧
      next.calls[index]? = some ⟨clientId, secret, .unwindGuard lock⟩ := by
  rcases advanced_of_found taken found with ⟨stage, spec, there⟩
  generalize next.shared = shared at spec ⊢
  cases spec with
  | storeToken added =>
      rcases Option.some.inj stored with rfl
      exact absurd (added.symm.trans overflow) (Option.some_ne_none _)
  | storeFailure cached added =>
      rw [storedTtl, cached] at stored
      rcases Option.some.inj stored with rfl
      exact absurd (added.symm.trans overflow) (Option.some_ne_none _)
  | storeNothing uncached =>
      rw [storedTtl, uncached] at stored
      cases stored
  | storePanic => exact ⟨rfl, there⟩

/-- Storing a token leaves it in the cache. -/
theorem present_after_store {action : Action} {outcome : ExchangeResult} {cached : CachedToken}
    (taken : step inner state action = some next)
    (store : Store inner (state, action) index clientId secret lock outcome (.token cached)) :
    next.shared.positive.lookup (cacheKey inner clientId secret) = some cached ∧
      next.shared.clock = state.shared.clock := by
  have acts : action = .advance index := store.action
  subst acts
  rcases store.of_token with ⟨expiresIn, rfl, added⟩
  rw [(after_token_store taken store.caller added).1]
  exact ⟨Finmap.lookup_insert _, rfl⟩

end Store

/-! ## Where an entry comes from -/

section Flush

variable {Value : Type} {clientId : Option String} {map : KeyedMap CacheKey Value}
  {key : CacheKey} {value : Value}

/-- A flush adds nothing. -/
theorem lookup_flushMap_some (found : (flushMap clientId map).lookup key = some value) :
    map.lookup key = some value := by
  cases clientId with
  | none => cases found
  | some cid => exact KeyedMap.lookup_retain_some found

/-- A flush that covers the client leaves none of its keys. -/
theorem lookup_flushMap_covered (covers : clientId = none ∨ clientId = some key.clientId) :
    (flushMap clientId map).lookup key = none := by
  rcases covers with rfl | rfl
  · rfl
  · exact KeyedMap.lookup_retain_of_dropped (fun _ => by simp)

end Flush

/-- An entry that was not in its cache before a step was stored by that step. -/
theorem entry_appears {state next : State} {action : Action}
    (taken : step inner state action = some next) {key : CacheKey} {entry : Entry}
    (absent : ¬ entry.At state.shared key) (present : entry.At next.shared key) :
    ∃ index clientId secret lock outcome, key = cacheKey inner clientId secret ∧
      Store inner (state, action) index clientId secret lock outcome entry := by
  cases entry with
  | token cached =>
      simp only [Entry.At] at absent present
      cases positive_change taken with
      | kept same => exact absurd (same ▸ present) absent
      | evicted _ _ erased =>
          rw [erased] at present
          exact absurd (KeyedMap.lookup_erase_some present).2 absent
      | flushed _ _ filtered =>
          rw [filtered] at present
          exact absurd (lookup_flushMap_some present) absent
      | stored store inserted =>
          rw [inserted] at present
          rcases KeyedMap.lookup_insert_some present with ⟨same, rfl⟩ | before
          · exact ⟨_, _, _, _, _, same, store⟩
          · exact absurd before absent
  | failure entry =>
      simp only [Entry.At] at absent present
      cases negative_change taken with
      | kept same => exact absurd (same ▸ present) absent
      | evicted _ _ erased | superseded _ _ erased =>
          rw [erased] at present
          exact absurd (KeyedMap.lookup_erase_some present).2 absent
      | flushed _ _ filtered =>
          rw [filtered] at present
          exact absurd (lookup_flushMap_some present) absent
      | stored store inserted =>
          rw [inserted] at present
          rcases KeyedMap.lookup_insert_some present with ⟨same, rfl⟩ | before
          · exact ⟨_, _, _, _, _, same, store⟩
          · exact absurd before absent

/-- An entry missing at the start of a run and present at its end was stored at
a moment of the run and has been in its cache since. -/
theorem entry_stored {start last : State} {history : List (Moment State Action)}
    (run : Run (step inner) start history last) {key : CacheKey} {entry : Entry}
    (absent : ¬ entry.At start.shared key) (present : entry.At last.shared key) :
    ∃ before storer index clientId secret lock outcome,
      HeldSince (fun state => entry.At state.shared key) history before
        (storer, .advance index) ∧
      key = cacheKey inner clientId secret ∧
      Store inner (storer, .advance index) index clientId secret lock outcome entry := by
  rcases run.last_crossing (fun state => entry.At state.shared key) absent present with
    ⟨before, ⟨storer, action⟩, after, next, rfl, _, missing, taken, appeared, _, kept⟩
  rcases entry_appears taken missing appeared with
    ⟨index, clientId, secret, lock, outcome, sameKey, store⟩
  have acts : action = .advance index := store.action
  subst acts
  exact ⟨before, storer, index, clientId, secret, lock, outcome, ⟨after, rfl, kept⟩, sameKey,
    store⟩

end Exchange
end OidcRs
