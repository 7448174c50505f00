import OidcRs.Exchange.Machine

namespace OidcRs
namespace Exchange

open Foundation

/-!
# What one step can do

Each constructor below is one branch of the step functions with its guard, the
memory it leaves and the stage it leads to.  Everything proved later about runs
goes through these relations and never unfolds the step functions again.
-/

/-- The reason under which an error is cached, if it is cached at all. -/
def NegativeReason.ofError : AuthError → Option NegativeReason
  | .idpRejected => some .rejected
  | .idpUnreachable _ => some .transient
  | _ => none

/-- The lifetime an outcome is cached with, if it is cached at all. -/
def storedTtl (inner : ExchangerInner) : ExchangeResult → Option Duration
  | .ok (_, expiresIn) => some (positiveTtl inner expiresIn)
  | .error error => (NegativeReason.ofError error).map NegativeReason.ttl

/-- One atomic step of an `exchange` call, branch by branch. -/
inductive CallSpec (inner : ExchangerInner) (shared : Shared) (clientId secret : String) :
    CallStage → Shared → CallStage → Prop
  | positiveHit {cached : CachedToken}
      (found : shared.positive.lookup (cacheKey inner clientId secret) = some cached)
      (live : shared.clock < cached.expiresAt) :
      CallSpec inner shared clientId secret .lookupPositive shared (.returned (.ok cached.jwt))
  | positiveExpired {cached : CachedToken}
      (found : shared.positive.lookup (cacheKey inner clientId secret) = some cached)
      (expired : cached.expiresAt ≤ shared.clock) :
      CallSpec inner shared clientId secret .lookupPositive shared .evictPositive
  | positiveMiss (absent : shared.positive.lookup (cacheKey inner clientId secret) = none) :
      CallSpec inner shared clientId secret .lookupPositive shared .lookupNegative
  | evictPositive : CallSpec inner shared clientId secret .evictPositive
      { shared with positive := shared.positive.erase (cacheKey inner clientId secret) }
      .lookupNegative
  | negativeHit {entry : NegativeEntry}
      (found : shared.negative.lookup (cacheKey inner clientId secret) = some entry)
      (live : shared.clock < entry.until) :
      CallSpec inner shared clientId secret .lookupNegative shared
        (.returned (.error entry.error.toAuthError))
  | negativeExpired {entry : NegativeEntry}
      (found : shared.negative.lookup (cacheKey inner clientId secret) = some entry)
      (expired : entry.until ≤ shared.clock) :
      CallSpec inner shared clientId secret .lookupNegative shared .evictNegative
  | negativeMiss (absent : shared.negative.lookup (cacheKey inner clientId secret) = none) :
      CallSpec inner shared clientId secret .lookupNegative shared .takeHandle
  | evictNegative : CallSpec inner shared clientId secret .evictNegative
      { shared with negative := shared.negative.erase (cacheKey inner clientId secret) }
      .takeHandle
  | takeHandle : CallSpec inner shared clientId secret .takeHandle
      { shared with inflight := (shared.inflight.checkout clientId).1 }
      (.awaitLock (shared.inflight.checkout clientId).2)
  | acquire {lock : LockId} (free : shared.inflight.heap.isLocked lock = false) :
      CallSpec inner shared clientId secret (.awaitLock lock)
        { shared with inflight :=
          { shared.inflight with heap := shared.inflight.heap.setLocked lock true } }
        (.recheckPositive lock)
  | recheckHit {lock : LockId} {cached : CachedToken}
      (found : shared.positive.lookup (cacheKey inner clientId secret) = some cached)
      (live : shared.clock < cached.expiresAt) :
      CallSpec inner shared clientId secret (.recheckPositive lock) shared
        (.dropGuard lock (.ok cached.jwt))
  | recheckMiss {lock : LockId}
      (dead : ∀ cached, shared.positive.lookup (cacheKey inner clientId secret) = some cached →
        cached.expiresAt ≤ shared.clock) :
      CallSpec inner shared clientId secret (.recheckPositive lock) shared (.sendPost lock)
  | sendPost {lock : LockId} : CallSpec inner shared clientId secret (.sendPost lock) shared
      (.awaitAnswer lock (tokenPost inner clientId secret))
  | storeToken {lock : LockId} {jwt : String} {expiresIn : Option UInt64} {deadline : Instant}
      (added : Instant.checkedAdd shared.clock (positiveTtl inner expiresIn) = some deadline) :
      CallSpec inner shared clientId secret (.storeOutcome lock (.ok (jwt, expiresIn)))
        { shared with positive :=
          shared.positive.insert (cacheKey inner clientId secret) ⟨jwt, deadline⟩ }
        (.removeNegative lock jwt)
  | storeFailure {lock : LockId} {error : AuthError} {reason : NegativeReason}
      {deadline : Instant} (cached : NegativeReason.ofError error = some reason)
      (added : Instant.checkedAdd shared.clock reason.ttl = some deadline) :
      CallSpec inner shared clientId secret (.storeOutcome lock (.error error))
        { shared with negative :=
          shared.negative.insert (cacheKey inner clientId secret) ⟨deadline, reason⟩ }
        (.dropGuard lock (.error error))
  | storeNothing {lock : LockId} {error : AuthError}
      (uncached : NegativeReason.ofError error = none) :
      CallSpec inner shared clientId secret (.storeOutcome lock (.error error)) shared
        (.dropGuard lock (.error error))
  | storePanic {lock : LockId} {result : ExchangeResult} {ttl : Duration}
      (stored : storedTtl inner result = some ttl)
      (overflow : Instant.checkedAdd shared.clock ttl = none) :
      CallSpec inner shared clientId secret (.storeOutcome lock result) shared (.unwindGuard lock)
  | removeNegative {lock : LockId} {jwt : String} :
      CallSpec inner shared clientId secret (.removeNegative lock jwt)
        { shared with negative := shared.negative.erase (cacheKey inner clientId secret) }
        (.dropGuard lock (.ok jwt))
  | dropGuard {lock : LockId} {result : Except AuthError String} :
      CallSpec inner shared clientId secret (.dropGuard lock result)
        { shared with inflight :=
          { shared.inflight with heap := shared.inflight.heap.setLocked lock false } }
        (.dropLock lock result)
  | dropLock {lock : LockId} {result : Except AuthError String} :
      CallSpec inner shared clientId secret (.dropLock lock result)
        { shared with inflight :=
          { shared.inflight with heap := shared.inflight.heap.release lock } }
        (.cleanupInflight result)
  | cleanup {result : Except AuthError String} :
      CallSpec inner shared clientId secret (.cleanupInflight result)
        (cleanupInflight shared clientId) (.returned result)
  | unwindGuard {lock : LockId} : CallSpec inner shared clientId secret (.unwindGuard lock)
      { shared with inflight :=
        { shared.inflight with heap := shared.inflight.heap.setLocked lock false } }
      (.unwindLock lock)
  | unwindLock {lock : LockId} : CallSpec inner shared clientId secret (.unwindLock lock)
      { shared with inflight :=
        { shared.inflight with heap := shared.inflight.heap.release lock } } .aborted

variable {inner : ExchangerInner}

/-- Storing a token either inserts it or panics.  The lifetime is a variable
here, so that nothing computes with the minute subtracted from it. -/
theorem storeToken_cases {shared next : Shared} {key : CacheKey} {lock : LockId} {jwt : String}
    {ttl : Duration} {stage : CallStage}
    (taken : storeToken shared key lock jwt ttl = (next, stage)) :
    (∃ deadline, Instant.checkedAdd shared.clock ttl = some deadline ∧
        next = { shared with positive := shared.positive.insert key ⟨jwt, deadline⟩ } ∧
        stage = .removeNegative lock jwt) ∨
      Instant.checkedAdd shared.clock ttl = none ∧ next = shared ∧ stage = .unwindGuard lock := by
  unfold storeToken at taken
  split at taken
  · next deadline added =>
      rcases Prod.mk.inj taken with ⟨rfl, rfl⟩
      exact Or.inl ⟨deadline, added, rfl, rfl⟩
  · next overflow =>
      rcases Prod.mk.inj taken with ⟨rfl, rfl⟩
      exact Or.inr ⟨overflow, rfl, rfl⟩

theorem storeFailure_spec {shared next : Shared} {clientId secret : String} {lock : LockId}
    {error : AuthError} {reason : NegativeReason} {stage : CallStage}
    (cached : NegativeReason.ofError error = some reason)
    (taken : storeFailure shared (cacheKey inner clientId secret) lock reason error =
      (next, stage)) :
    CallSpec inner shared clientId secret (.storeOutcome lock (.error error)) next stage := by
  unfold storeFailure at taken
  split at taken
  · next deadline added =>
      rcases Prod.mk.inj taken with ⟨rfl, rfl⟩
      exact .storeFailure cached added
  · next overflow =>
      rcases Prod.mk.inj taken with ⟨rfl, rfl⟩
      exact .storePanic (by rw [storedTtl, cached]; rfl) overflow

theorem storeOutcome_spec {shared next : Shared} {clientId secret : String} {lock : LockId}
    {result : ExchangeResult} {stage : CallStage}
    (taken : storeOutcome inner shared (cacheKey inner clientId secret) lock result =
      (next, stage)) :
    CallSpec inner shared clientId secret (.storeOutcome lock result) next stage := by
  cases result with
  | ok pair =>
      rcases pair with ⟨jwt, expiresIn⟩
      simp only [storeOutcome] at taken
      rcases storeToken_cases taken with ⟨deadline, added, rfl, rfl⟩ | ⟨overflow, rfl, rfl⟩
      · exact .storeToken added
      · exact .storePanic rfl overflow
  | error error =>
      cases error <;> simp only [storeOutcome] at taken
      case idpRejected | idpUnreachable => exact storeFailure_spec rfl taken
      all_goals
        rcases Prod.mk.inj taken with ⟨rfl, rfl⟩
        exact .storeNothing rfl

theorem callStep_spec {shared next : Shared} {call : ExchangeCall} {stage : CallStage}
    (taken : callStep inner shared call = some (next, stage)) :
    CallSpec inner shared call.clientId call.secret call.stage next stage := by
  rcases call with ⟨clientId, secret, current⟩
  cases current <;> simp only [callStep, ExchangeCall.key, reduceCtorEq, Option.some.injEq] at taken
  case lookupPositive =>
    split at taken
    · next cached found =>
        split at taken <;> obtain ⟨rfl, rfl⟩ := Prod.mk.inj (Option.some.inj taken)
        · next live => exact .positiveHit found live
        · next dead => exact .positiveExpired found (Nat.le_of_not_lt dead)
    · next absent =>
        rcases Prod.mk.inj (Option.some.inj taken) with ⟨rfl, rfl⟩
        exact .positiveMiss absent
  case lookupNegative =>
    split at taken
    · next entry found =>
        split at taken <;> obtain ⟨rfl, rfl⟩ := Prod.mk.inj (Option.some.inj taken)
        · next live => exact .negativeHit found live
        · next dead => exact .negativeExpired found (Nat.le_of_not_lt dead)
    · next absent =>
        rcases Prod.mk.inj (Option.some.inj taken) with ⟨rfl, rfl⟩
        exact .negativeMiss absent
  case awaitLock lock =>
    split at taken
    · cases taken
    · next free =>
        rcases Prod.mk.inj (Option.some.inj taken) with ⟨rfl, rfl⟩
        exact .acquire (Bool.eq_false_iff.mpr free)
  case recheckPositive lock =>
    split at taken
    · next cached found =>
        split at taken <;> obtain ⟨rfl, rfl⟩ := Prod.mk.inj (Option.some.inj taken)
        · next live => exact .recheckHit found live
        · next dead =>
            refine .recheckMiss (fun other here => ?_)
            rcases Option.some.inj (found.symm.trans here) with rfl
            exact Nat.le_of_not_lt dead
    · next absent =>
        rcases Prod.mk.inj (Option.some.inj taken) with ⟨rfl, rfl⟩
        exact .recheckMiss (fun other here => nomatch absent.symm.trans here)
  case storeOutcome lock result => exact storeOutcome_spec taken
  all_goals
    rcases Prod.mk.inj taken with ⟨rfl, rfl⟩
    constructor

/-- A change of one call's stage: its own step, the answer to its POST, or its
abandonment. -/
inductive CallMove (inner : ExchangerInner) (shared : Shared) (index : Nat)
    (clientId secret : String) : Action → CallStage → Shared → CallStage → Prop
  | advance {current stage : CallStage} {next : Shared}
      (spec : CallSpec inner shared clientId secret current next stage) :
      CallMove inner shared index clientId secret (.advance index) current next stage
  | answer {lock : LockId} {post : TokenPost} (reply : TokenReply) :
      CallMove inner shared index clientId secret (.answer index reply) (.awaitAnswer lock post)
        shared (.storeOutcome lock (exchangeInner reply))
  | abandonWait {lock : LockId} :
      CallMove inner shared index clientId secret (.abandon index) (.awaitLock lock)
        shared (.unwindLock lock)
  | abandonPost {lock : LockId} {post : TokenPost} :
      CallMove inner shared index clientId secret (.abandon index) (.awaitAnswer lock post)
        shared (.unwindGuard lock)

/-- One atomic step of a `flush` call, branch by branch. -/
inductive FlushSpec (shared : Shared) (clientId : Option String) :
    FlushStage → Shared → FlushStage → Prop
  | readPositiveLen : FlushSpec shared clientId .readPositiveLen shared
      (.readNegativeLen (KeyedMap.len shared.positive))
  | readNegativeLen {posBefore : Nat} : FlushSpec shared clientId (.readNegativeLen posBefore)
      shared (.flushPositive posBefore (KeyedMap.len shared.negative))
  | flushPositive {posBefore negBefore : Nat} :
      FlushSpec shared clientId (.flushPositive posBefore negBefore)
        { shared with positive := flushMap clientId shared.positive }
        (.flushNegative posBefore negBefore)
  | flushNegative {posBefore negBefore : Nat} :
      FlushSpec shared clientId (.flushNegative posBefore negBefore)
        { shared with negative := flushMap clientId shared.negative }
        (.flushInflight posBefore negBefore)
  | flushInflight {posBefore negBefore : Nat} :
      FlushSpec shared clientId (.flushInflight posBefore negBefore)
        { shared with inflight := flushRegistry clientId shared.inflight }
        (.countPositive posBefore negBefore)
  | countPositive {posBefore negBefore posEvicted : Nat}
      (counted : checkedSub posBefore (KeyedMap.len shared.positive) = some posEvicted) :
      FlushSpec shared clientId (.countPositive posBefore negBefore) shared
        (.countNegative posEvicted negBefore)
  | positiveOverflow {posBefore negBefore : Nat}
      (wrapped : checkedSub posBefore (KeyedMap.len shared.positive) = none) :
      FlushSpec shared clientId (.countPositive posBefore negBefore) shared .overflowed
  | countNegative {posEvicted negBefore negEvicted : Nat}
      (counted : checkedSub negBefore (KeyedMap.len shared.negative) = some negEvicted) :
      FlushSpec shared clientId (.countNegative posEvicted negBefore) shared
        (.returned posEvicted negEvicted)
  | negativeOverflow {posEvicted negBefore : Nat}
      (wrapped : checkedSub negBefore (KeyedMap.len shared.negative) = none) :
      FlushSpec shared clientId (.countNegative posEvicted negBefore) shared .overflowed

theorem flushStep_spec {shared next : Shared} {call : FlushCall} {stage : FlushStage}
    (taken : flushStep shared call = some (next, stage)) :
    FlushSpec shared call.clientId call.stage next stage := by
  rcases call with ⟨clientId, current⟩
  cases current <;> simp only [flushStep, reduceCtorEq, Option.some.injEq] at taken
  case countPositive posBefore negBefore =>
    split at taken <;> obtain ⟨rfl, rfl⟩ := Prod.mk.inj (Option.some.inj taken)
    · next counted => exact .countPositive counted
    · next wrapped => exact .positiveOverflow wrapped
  case countNegative posEvicted negBefore =>
    split at taken <;> obtain ⟨rfl, rfl⟩ := Prod.mk.inj (Option.some.inj taken)
    · next counted => exact .countNegative counted
    · next wrapped => exact .negativeOverflow wrapped
  all_goals
    rcases Prod.mk.inj taken with ⟨rfl, rfl⟩
    constructor

/-- What a step of the whole machine can do. -/
inductive StepSpec (inner : ExchangerInner) (state : State) : Action → State → Prop
  | exchange {clientId secret : String} :
      StepSpec inner state (.exchange clientId secret)
        { state with calls := state.calls ++ [⟨clientId, secret, .lookupPositive⟩] }
  | call {index : Nat} {call : ExchangeCall} {action : Action} {shared : Shared}
      {stage : CallStage} (found : state.calls[index]? = some call)
      (move : CallMove inner state.shared index call.clientId call.secret action call.stage
        shared stage) :
      StepSpec inner state action ⟨shared, state.setStage index call stage, state.flushes⟩
  | flush {clientId : Option String} :
      StepSpec inner state (.flush clientId)
        { state with flushes := state.flushes ++ [⟨clientId, .readPositiveLen⟩] }
  | flushStep {index : Nat} {call : FlushCall} {shared : Shared} {stage : FlushStage}
      (found : state.flushes[index]? = some call)
      (spec : FlushSpec state.shared call.clientId call.stage shared stage) :
      StepSpec inner state (.advanceFlush index)
        ⟨shared, state.calls, state.flushes.set index { call with stage := stage }⟩
  | tick {elapsed : Nat} :
      StepSpec inner state (.tick elapsed)
        { state with shared := { state.shared with clock := state.shared.clock + elapsed } }

theorem step_spec {state next : State} {action : Action}
    (taken : step inner state action = some next) : StepSpec inner state action next := by
  cases action with
  | exchange clientId secret =>
      cases taken
      exact .exchange
  | flush clientId =>
      cases taken
      exact .flush
  | tick elapsed =>
      cases taken
      exact .tick
  | advance index =>
      simp only [step] at taken
      split at taken
      · cases taken
      · next call found =>
          split at taken
          · cases taken
          · next shared stage moved =>
              cases taken
              exact .call found (.advance (callStep_spec moved))
  | answer index reply =>
      simp only [step] at taken
      split at taken
      · cases taken
      · next call found =>
          split at taken
          · cases taken
          · next stage moved =>
              cases taken
              rcases call with ⟨clientId, secret, current⟩
              cases current <;> simp only [answerStage, reduceCtorEq, Option.some.injEq] at moved
              subst moved
              exact .call found (.answer reply)
  | abandon index =>
      simp only [step] at taken
      split at taken
      · cases taken
      · next call found =>
          split at taken
          · cases taken
          · next stage moved =>
              cases taken
              rcases call with ⟨clientId, secret, current⟩
              cases current <;>
                simp only [abandonStage, reduceCtorEq, Option.some.injEq] at moved <;>
                subst moved
              · exact .call found .abandonWait
              · exact .call found .abandonPost
  | advanceFlush index =>
      simp only [step] at taken
      split at taken
      · cases taken
      · next call found =>
          split at taken
          · cases taken
          · next shared stage moved =>
              cases taken
              exact .flushStep found (flushStep_spec moved)

/-! ## The relations say no more than the step functions -/

theorem storeToken_taken {shared : Shared} {key : CacheKey} {lock : LockId} {jwt : String}
    {ttl : Duration} {deadline : Instant}
    (added : Instant.checkedAdd shared.clock ttl = some deadline) :
    storeToken shared key lock jwt ttl =
      ({ shared with positive := shared.positive.insert key ⟨jwt, deadline⟩ },
        .removeNegative lock jwt) := by
  simp only [storeToken, added]

theorem storeToken_panics {shared : Shared} {key : CacheKey} {lock : LockId} {jwt : String}
    {ttl : Duration} (overflow : Instant.checkedAdd shared.clock ttl = none) :
    storeToken shared key lock jwt ttl = (shared, .unwindGuard lock) := by
  simp only [storeToken, overflow]

theorem storeFailure_taken {shared : Shared} {key : CacheKey} {lock : LockId}
    {reason : NegativeReason} {error : AuthError} {deadline : Instant}
    (added : Instant.checkedAdd shared.clock reason.ttl = some deadline) :
    storeFailure shared key lock reason error =
      ({ shared with negative := shared.negative.insert key ⟨deadline, reason⟩ },
        .dropGuard lock (.error error)) := by
  simp only [storeFailure, added]

theorem storeFailure_panics {shared : Shared} {key : CacheKey} {lock : LockId}
    {reason : NegativeReason} {error : AuthError}
    (overflow : Instant.checkedAdd shared.clock reason.ttl = none) :
    storeFailure shared key lock reason error = (shared, .unwindGuard lock) := by
  simp only [storeFailure, overflow]

theorem storeOutcome_error {shared : Shared} {key : CacheKey} {lock : LockId} {error : AuthError}
    {reason : NegativeReason} (cached : NegativeReason.ofError error = some reason) :
    storeOutcome inner shared key lock (.error error) =
      storeFailure shared key lock reason error := by
  cases error <;> cases cached <;> rfl

theorem storeOutcome_ok {shared : Shared} {key : CacheKey} {lock : LockId} {jwt : String}
    {expiresIn : Option UInt64} : storeOutcome inner shared key lock (.ok (jwt, expiresIn)) =
      storeToken shared key lock jwt (positiveTtl inner expiresIn) := rfl

/-- Every branch of the match on an outcome. -/
theorem storeOutcome_taken {shared next : Shared} {clientId secret : String} {lock : LockId}
    {result : ExchangeResult} {stage : CallStage}
    (spec : CallSpec inner shared clientId secret (.storeOutcome lock result) next stage) :
    storeOutcome inner shared (cacheKey inner clientId secret) lock result = (next, stage) := by
  cases spec with
  | storeToken added => exact storeOutcome_ok.trans (storeToken_taken added)
  | storeFailure cached added =>
      exact (storeOutcome_error cached).trans (storeFailure_taken added)
  | @storeNothing lock error uncached =>
      cases error <;> cases uncached <;> rfl
  | @storePanic lock result ttl stored overflow =>
      rcases result with error | ⟨jwt, expiresIn⟩
      · rcases Option.map_eq_some_iff.mp stored with ⟨reason, cached, lifetime⟩
        rw [← lifetime] at overflow
        exact (storeOutcome_error cached).trans (storeFailure_panics overflow)
      · have lifetime : positiveTtl inner expiresIn = ttl := Option.some.inj stored
        rw [← lifetime] at overflow
        exact storeOutcome_ok.trans (storeToken_panics overflow)

theorem callStep_storeOutcome {shared : Shared} {clientId secret : String} {lock : LockId}
    {result : ExchangeResult} :
    callStep inner shared ⟨clientId, secret, .storeOutcome lock result⟩ =
      some (storeOutcome inner shared (cacheKey inner clientId secret) lock result) := rfl

theorem CallSpec.taken {shared next : Shared} {clientId secret : String}
    {current stage : CallStage} (spec : CallSpec inner shared clientId secret current next stage) :
    callStep inner shared ⟨clientId, secret, current⟩ = some (next, stage) := by
  cases current with
  | storeOutcome => exact callStep_storeOutcome.trans (congrArg some (storeOutcome_taken spec))
  | lookupPositive =>
      cases spec with
      | positiveHit found live => simp only [callStep, ExchangeCall.key, found, if_pos live]
      | positiveExpired found expired =>
          simp only [callStep, ExchangeCall.key, found, if_neg (Nat.not_lt_of_le expired)]
      | positiveMiss absent => simp only [callStep, ExchangeCall.key, absent]
  | lookupNegative =>
      cases spec with
      | negativeHit found live => simp only [callStep, ExchangeCall.key, found, if_pos live]
      | negativeExpired found expired =>
          simp only [callStep, ExchangeCall.key, found, if_neg (Nat.not_lt_of_le expired)]
      | negativeMiss absent => simp only [callStep, ExchangeCall.key, absent]
  | awaitLock =>
      cases spec with
      | acquire free => simp only [callStep, free, Bool.false_eq_true, if_false]
  | recheckPositive =>
      cases spec with
      | recheckHit found live => simp only [callStep, ExchangeCall.key, found, if_pos live]
      | recheckMiss dead =>
          cases found : shared.positive.lookup (cacheKey inner clientId secret) with
          | none => simp only [callStep, ExchangeCall.key, found]
          | some cached =>
              have expired := Nat.not_lt_of_le (dead cached found)
              simp only [callStep, ExchangeCall.key, found, if_neg expired]
  | evictPositive | evictNegative | takeHandle | sendPost | removeNegative | dropGuard | dropLock
  | cleanupInflight | unwindGuard | unwindLock =>
      cases spec
      rfl
  | awaitAnswer | returned | aborted => cases spec

theorem CallMove.taken {state : State} {index : Nat} {call : ExchangeCall} {action : Action}
    {shared : Shared} {stage : CallStage} (found : state.calls[index]? = some call)
    (move : CallMove inner state.shared index call.clientId call.secret action call.stage shared
      stage) :
    step inner state action = some ⟨shared, state.setStage index call stage, state.flushes⟩ := by
  rcases call with ⟨clientId, secret, current⟩
  cases move with
  | advance spec => simp only [step, found, spec.taken]
  | answer reply => simp only [step, found, answerStage]
  | abandonWait | abandonPost => simp only [step, found, abandonStage]

theorem FlushSpec.taken {state : State} {index : Nat} {call : FlushCall} {shared : Shared}
    {stage : FlushStage} (found : state.flushes[index]? = some call)
    (spec : FlushSpec state.shared call.clientId call.stage shared stage) :
    step inner state (.advanceFlush index) =
      some ⟨shared, state.calls, state.flushes.set index { call with stage := stage }⟩ := by
  rcases call with ⟨clientId, current⟩
  cases spec with
  | countPositive counted | countNegative counted =>
      simp only [step, found, flushStep, counted]
  | positiveOverflow wrapped | negativeOverflow wrapped =>
      simp only [step, found, flushStep, wrapped]
  | readPositiveLen | readNegativeLen | flushPositive | flushNegative | flushInflight =>
      simp only [step, found, flushStep]

end Exchange
end OidcRs
