import OidcRs.Exchange.Eviction
import OidcRs.Exchange.Locking

namespace OidcRs
namespace Exchange

open Foundation

/-!
# What an abandoned call leaves behind

A call whose future is dropped while it waits for the lock or for the IdP runs
its destructors and nothing else.  It has not stored anything, but the entry of
its lock is in the in-flight map, and the cleanup that would remove it is code
that is no longer run.  The entry is gone only if a flush has removed it.
-/

variable {inner : ExchangerInner}

/-- A step of the call leaves the two caches as they are, except that it may
remove an expired entry of its own key, and it leaves the other clients'
in-flight entries alone. -/
structure TouchesOnlyExpired (inner : ExchangerInner) (shared next : Shared)
    (clientId secret : String) : Prop where
  tokens : next.positive = shared.positive ∨
    next.positive = shared.positive.erase (cacheKey inner clientId secret) ∧
      ∀ cached, shared.positive.lookup (cacheKey inner clientId secret) = some cached →
        cached.expiresAt ≤ shared.clock
  failures : next.negative = shared.negative ∨
    next.negative = shared.negative.erase (cacheKey inner clientId secret) ∧
      ∀ entry, shared.negative.lookup (cacheKey inner clientId secret) = some entry →
        entry.until ≤ shared.clock
  handles : ∀ other, other ≠ clientId →
    next.inflight.entries.lookup other = shared.inflight.entries.lookup other

/-- The maps are as if the call had not been made: no step of it has touched
more than expired entries of its own key, and its client has no in-flight entry. -/
structure LeavesNoTrace (inner : ExchangerInner) (history : List (Moment State Action))
    (state : State) (index : Nat) (clientId secret : String) : Prop where
  untouched : ∀ before earlier action next, Passed history before (earlier, action) →
    action.Names index → step inner earlier action = some next →
    TouchesOnlyExpired inner earlier.shared next.shared clientId secret
  noEntry : state.shared.inflight.entries.lookup clientId = none

/-- While the call is pending, no other call of its client is. -/
def AloneForClient (history : List (Moment State Action)) (index : Nat) (clientId : String) :
    Prop :=
  ∀ moment ∈ history, ∀ call, moment.1.calls[index]? = some call → call.Pending →
    ∀ other rival, other ≠ index → moment.1.calls[other]? = some rival →
      rival.clientId = clientId → ¬ rival.Pending

/-- A flush has removed the client's in-flight entry since the call took its handle. -/
def FlushedSinceHandle (inner : ExchangerInner) (history : List (Moment State Action))
    (index : Nat) (clientId : String) : Prop :=
  ∃ flushBefore moment before taker call, Passed history flushBefore moment ∧
    FlushRemoves inner clientId moment ∧
    Passed flushBefore before (taker, .advance index) ∧
    taker.calls[index]? = some call ∧ call.stage = .takeHandle

/-- The destructors of a call that was dropped at one of its await points have
just ended. -/
structure Dropped (inner : ExchangerInner) (clock : Instant) (history : List (Moment State Action))
    (last state : State) (index : Nat) (clientId secret : String) : Prop where
  run : Run (step inner) (State.initial clock) (history ++ [(last, .advance index)]) state
  unwound : ∃ lock, last.calls[index]? = some ⟨clientId, secret, .unwindLock lock⟩
  abandoned : ∃ before dropper, Passed history before (dropper, .abandon index)

/-- A call is abandoned before its POST is answered, and unwinds. -/
theorem CallMove.of_abandon {shared next : Shared} {index other : Nat} {clientId secret : String}
    {current stage : CallStage}
    (move : CallMove inner shared other clientId secret (.abandon index) current next stage) :
    current.rank ≤ 8 ∧ 15 ≤ stage.rank := by
  cases move with
  | abandonWait | abandonPost => simp only [CallStage.rank, Nat.reduceLeDiff, and_self]

/-- A move that neither stores nor follows a store changes at most expired
entries of its own key, if what it evicts has expired. -/
theorem CallMove.touches_only_expired {shared next : Shared} {index : Nat}
    {clientId secret : String} {action : Action} {current stage : CallStage}
    (move : CallMove inner shared index clientId secret action current next stage)
    (bound : current.rank ≤ 8 ∨ 15 ≤ current.rank)
    (expired : ∀ entry : Entry, current = entry.evictStage →
      entry.At shared (cacheKey inner clientId secret) → entry.deadline ≤ shared.clock) :
    TouchesOnlyExpired inner shared next clientId secret := by
  cases move with
  | answer | abandonWait | abandonPost => exact ⟨Or.inl rfl, Or.inl rfl, fun _ _ => rfl⟩
  | advance spec =>
      cases spec with
      | evictPositive =>
          have evictsExpired := fun cached => expired (.token cached) rfl
          exact ⟨Or.inr ⟨rfl, evictsExpired⟩, Or.inl rfl, fun _ _ => rfl⟩
      | evictNegative =>
          have evictsExpired := fun entry => expired (.failure entry) rfl
          exact ⟨Or.inl rfl, Or.inr ⟨rfl, evictsExpired⟩, fun _ _ => rfl⟩
      | takeHandle =>
          refine ⟨Or.inl rfl, Or.inl rfl, fun other different => ?_⟩
          exact LockRegistry.lookup_checkout_ne _ different
      | positiveHit | positiveExpired | positiveMiss | negativeHit | negativeExpired
      | negativeMiss | acquire | recheckHit | recheckMiss | sendPost | unwindGuard
      | unwindLock => exact ⟨Or.inl rfl, Or.inl rfl, fun _ _ => rfl⟩
      | storeToken | storeFailure | storeNothing | storePanic | removeNegative | dropGuard
      | dropLock | cleanup =>
          simp only [CallStage.rank, Nat.reduceLeDiff, or_self] at bound

/-- A call that holds a handle has taken it. -/
theorem took_handle {start state : State} {history : List (Moment State Action)}
    (run : Run (step inner) start history state) {index : Nat}
    (fresh : start.calls[index]? = none) {call : ExchangeCall} {lock : LockId}
    (found : state.calls[index]? = some call) (held : call.handle = some lock) :
    ∃ before taker after taking, history = before ++ (taker, .advance index) :: after ∧
      taker.calls[index]? = some taking ∧ taking.stage = .takeHandle := by
  have empty : ¬ ∃ call lock, start.calls[index]? = some call ∧ call.handle = some lock := by
    rintro ⟨call, lock, found, _⟩
    rw [fresh] at found
    cases found
  rcases run.last_crossing (fun state => ∃ call lock, state.calls[index]? = some call ∧
    call.handle = some lock) empty ⟨call, lock, found, held⟩ with
    ⟨before, ⟨taker, action⟩, after, next, whole, _, handless, taken, ⟨taking, newLock, there,
      heldNow⟩, _, _⟩
  cases call_origin taken there with
  | unchanged here => exact absurd ⟨taking, newLock, here, heldNow⟩ handless
  | begun _ _ same =>
      subst same
      cases heldNow
  | @moved earlier stage here same move =>
      subst same
      rcases move.handle_before heldNow with ⟨takes, _⟩ | heldBefore
      · have acts : action = .advance index := by
          rw [takes] at move
          cases move
          rfl
        subst acts
        exact ⟨before, taker, after, earlier, whole, here, takes⟩
      · exact absurd ⟨earlier, newLock, here, heldBefore⟩ handless

theorem CallMove.entry_added {shared next : Shared} {index : Nat} {clientId secret : String}
    {action : Action} {current stage : CallStage}
    (move : CallMove inner shared index clientId secret action current next stage)
    {added : String} {lock : LockId} (absent : shared.inflight.entries.lookup added = none)
    (present : next.inflight.entries.lookup added = some lock) :
    current = .takeHandle ∧ clientId = added := by
  cases move with
  | answer | abandonWait | abandonPost =>
      rw [absent] at present
      cases present
  | advance spec =>
      cases spec with
      | takeHandle =>
          refine ⟨rfl, ?_⟩
          by_contra different
          rw [LockRegistry.lookup_checkout_ne _ (Ne.symm different), absent] at present
          cases present
      | cleanup =>
          have before := (LockRegistry.lookup_removeIf_some present).1
          rw [absent] at before
          cases before
      | positiveHit | positiveExpired | positiveMiss | evictPositive | negativeHit
      | negativeExpired | negativeMiss | evictNegative | acquire | recheckHit | recheckMiss
      | sendPost | storeToken | storeFailure | storeNothing | storePanic | removeNegative
      | dropGuard | dropLock | unwindGuard | unwindLock =>
          rw [absent] at present
          cases present

/-- An entry that a step adds is added for a call that takes its handle. -/
theorem entry_added {state next : State} {action : Action}
    (taken : step inner state action = some next) {clientId : String} {lock : LockId}
    (absent : state.shared.inflight.entries.lookup clientId = none)
    (present : next.shared.inflight.entries.lookup clientId = some lock) :
    ∃ (index : Nat) (call : ExchangeCall), state.calls[index]? = some call ∧
      call.stage = .takeHandle ∧ call.clientId = clientId := by
  cases step_spec taken with
  | exchange | flush | tick =>
      rw [absent] at present
      cases present
  | @call index call action shared stage found move =>
      rcases move.entry_added absent present with ⟨takes, sameClient⟩
      exact ⟨index, call, found, takes, sameClient⟩
  | @flushStep index call shared stage found spec =>
      have before : state.shared.inflight.entries.lookup clientId = some lock := by
        rcases call with ⟨scope, current⟩
        cases spec with
        | flushInflight => cases scope <;> exact KeyedMap.lookup_retain_some present
        | readPositiveLen | readNegativeLen | flushPositive | flushNegative | countPositive
        | positiveOverflow | countNegative | negativeOverflow => exact present
      rw [absent] at before
      cases before

namespace Dropped

variable {clock : Instant} {history : List (Moment State Action)} {last state : State}
  {index : Nat} {clientId secret : String}

theorem earlier (dropped : Dropped inner clock history last state index clientId secret) :
    Run (step inner) (State.initial clock) history last := dropped.run.snoc_inv.1

/-- Every stage the call is seen at lies before its POST's answer or in its
unwinding: it never stores. -/
theorem stage_bound (dropped : Dropped inner clock history last state index clientId secret)
    {before : List (Moment State Action)} {moment : Moment State Action}
    (passed : Passed (history ++ [(last, .advance index)]) before moment) {call : ExchangeCall}
    (found : moment.1.calls[index]? = some call) :
    call.stage.rank ≤ 8 ∨ 15 ≤ call.stage.rank := by
  rcases dropped.abandoned with ⟨dropBefore, dropper, dropping⟩
  have inWhole : Passed (history ++ [(last, .advance index)]) dropBefore
    (dropper, .abandon index) := dropping.snoc
  rcases inWhole.cut dropped.run with ⟨afterDrop, _, _, runToDrop, abandons, _⟩
  rcases moved_of_step abandons (Or.inr (Or.inr rfl)) with ⟨waiting, stage, here, move, there⟩
  rcases move.of_abandon with ⟨early, late⟩
  rcases passed.cut dropped.run with ⟨_, _, _, runToMoment, _, _⟩
  rcases passed.compare inWhole with first | ⟨_, same⟩ | second
  · rcases first.cut runToDrop with ⟨_, _, _, _, taken, rest⟩
    have forward := rank_le_of_run (Run.cons taken rest) found here
    exact Or.inl (Nat.le_trans forward early)
  · subst same
    rcases Option.some.inj (here.symm.trans found) with rfl
    exact Or.inl early
  · rcases second.cut runToMoment with ⟨_, _, _, _, taken, rest⟩
    rcases Option.some.inj (abandons.symm.trans taken) with rfl
    have forward := rank_le_of_run rest there found
    exact Or.inr (Nat.le_trans late forward)

/-- Until its destructors have ended, the call is pending. -/
theorem pending (dropped : Dropped inner clock history last state index clientId secret)
    {before : List (Moment State Action)} {moment : Moment State Action}
    (passed : Passed (history ++ [(last, .advance index)]) before moment) {call : ExchangeCall}
    (found : moment.1.calls[index]? = some call) :
    call.Pending ∧ call = ⟨clientId, secret, call.stage⟩ := by
  rcases dropped.unwound with ⟨lock, unwinds⟩
  rcases passed.exists_after with ⟨after, whole⟩
  rcases split_snoc whole with ⟨_, latest, _⟩ | ⟨shorter, _, older⟩
  · rw [latest] at found
    rcases Option.some.inj (unwinds.symm.trans found) with rfl
    exact ⟨rfl, rfl⟩
  · have inHistory : Passed history before moment := older ▸ Passed.of_append
    rcases inHistory.cut dropped.earlier with ⟨_, _, _, _, taken, rest⟩
    rcases call_of_run (Run.cons taken rest) found with ⟨stage, atLast, _⟩
    have sameCall := Option.some.inj (unwinds.symm.trans atLast)
    have sameArguments : call = ⟨clientId, secret, call.stage⟩ := by
      rcases call with ⟨callClient, callSecret, callStage⟩
      rcases ExchangeCall.mk.inj sameCall with ⟨rfl, rfl, _⟩
      rfl
    refine ⟨?_, sameArguments⟩
    by_contra idle
    have stays := finished_of_run (Run.cons taken rest) found
      (ExchangeCall.finished_of_not_pending idle)
    have ended := ExchangeCall.finished_of_not_pending idle
    rcases Option.some.inj (unwinds.symm.trans stays) with rfl
    cases ended

/-- Whoever else has the client is not pending where the call is. -/
theorem rival_idle (dropped : Dropped inner clock history last state index clientId secret)
    (alone : AloneForClient (history ++ [(last, .advance index)]) index clientId)
    {before : List (Moment State Action)} {moment : Moment State Action}
    (passed : Passed (history ++ [(last, .advance index)]) before moment) {call rival : ExchangeCall}
    (found : moment.1.calls[index]? = some call) {other : Nat} (different : other ≠ index)
    (there : moment.1.calls[other]? = some rival) (sameClient : rival.clientId = clientId) :
    ¬ rival.Pending :=
  alone moment passed.mem call found (dropped.pending passed found).1 other rival different there
    sameClient

/-- What the call evicts has expired, if no other call of its client is pending. -/
theorem evicts_expired (dropped : Dropped inner clock history last state index clientId secret)
    (alone : AloneForClient (history ++ [(last, .advance index)]) index clientId)
    {before : List (Moment State Action)} {moment : Moment State Action}
    (passed : Passed (history ++ [(last, .advance index)]) before moment) {entry : Entry}
    (evicting : moment.1.calls[index]? = some ⟨clientId, secret, entry.evictStage⟩)
    (present : entry.At moment.1.shared (cacheKey inner clientId secret)) :
    entry.deadline ≤ moment.1.shared.clock := by
  rcases Nat.lt_or_ge moment.1.shared.clock entry.deadline with live | expired
  · rcases passed.cut dropped.run with ⟨_, _, _, runToMoment, _, _⟩
    have overtaken := overtaken_of_live runToMoment evicting present live
    rcases overtaken.stored with ⟨early, storer, other, otherClient, otherSecret, lock, outcome,
      held, sameKey, store, lookedBefore, reader, lookedFirst, reads⟩
    have storePassed := held.passed.extend passed.before_prefix
    have caller : storer.calls[other]? =
      some ⟨otherClient, otherSecret, .storeOutcome lock outcome⟩ := store.caller
    by_cases same : other = index
    · subst same
      rcases dropped.stage_bound storePassed caller with early | late
      · simp only [CallStage.rank, Nat.reduceLeDiff] at early
      · simp only [CallStage.rank, Nat.reduceLeDiff] at late
    · rcases held.passed.cut runToMoment with ⟨_, _, _, runToStorer, _, _⟩
      rcases lookedFirst.cut runToStorer with ⟨_, _, _, _, taken, rest⟩
      rcases call_of_run (Run.cons taken rest) reads with ⟨_, atStorer, _⟩
      have idle := dropped.rival_idle alone storePassed atStorer same caller
        (congrArg CacheKey.clientId sameKey).symm
      exact absurd rfl idle
  · exact expired

/-- No step of the call touches more than it may, if no other call of its
client is pending. -/
theorem untouched (dropped : Dropped inner clock history last state index clientId secret)
    (alone : AloneForClient (history ++ [(last, .advance index)]) index clientId)
    {before : List (Moment State Action)} {earlier next : State} {action : Action}
    (passed : Passed (history ++ [(last, .advance index)]) before (earlier, action))
    (names : action.Names index) (taken : step inner earlier action = some next) :
    TouchesOnlyExpired inner earlier.shared next.shared clientId secret := by
  rcases moved_of_step taken names with ⟨call, stage, found, move, _⟩
  have sameCall := (dropped.pending passed found).2
  rw [sameCall] at found move
  apply move.touches_only_expired (dropped.stage_bound passed found)
  intro entry evicts present
  rw [evicts] at found
  exact dropped.evicts_expired alone passed found present

/-- Once it has taken its handle, the client's entry is there until a flush
removes it. -/
theorem entry_left (dropped : Dropped inner clock history last state index clientId secret)
    (spared : ¬ FlushedSinceHandle inner history index clientId) :
    state.shared.inflight.entries.lookup clientId ≠ none := by
  rcases dropped.unwound with ⟨lock, unwinds⟩
  have held : ExchangeCall.handle ⟨clientId, secret, .unwindLock lock⟩ = some lock := rfl
  have took : TookHandleSinceFlush inner history index clientId := by
    rcases took_handle dropped.earlier rfl unwinds held with
      ⟨before, taker, after, taking, whole, found, takes⟩
    refine ⟨before, taker, taking, after, whole, found, takes, fun moment member flushes => ?_⟩
    rcases List.append_of_mem member with ⟨front, rest, rfl⟩
    have passed : Passed history (before ++ (taker, .advance index) :: front) moment := by
      rw [whole, ← List.cons_append, ← List.append_assoc]
      exact Passed.of_append
    exact spared ⟨_, moment, before, taker, taking, passed, flushes, Passed.of_append, found,
      takes⟩
  have present := handle_is_current dropped.earlier unwinds held took
  have kept : state.shared.inflight.entries = last.shared.inflight.entries := by
    rcases advanced_of_found dropped.run.snoc_inv.2 unwinds with ⟨stage, spec, _⟩
    generalize state.shared = after at spec
    cases spec
    rfl
  rw [kept, present]
  exact Option.some_ne_none lock

/-- Nobody stores a new entry for the client after a flush has removed it. -/
theorem no_entry_after_flush
    (dropped : Dropped inner clock history last state index clientId secret)
    (alone : AloneForClient (history ++ [(last, .advance index)]) index clientId)
    (flushed : FlushedSinceHandle inner history index clientId) :
    state.shared.inflight.entries.lookup clientId = none := by
  rcases flushed with ⟨flushBefore, moment, before, taker, taking, passed, flushes, tookFirst,
    found, takes⟩
  rcases flushes with ⟨_, cleared, _, _, removes, _, gone⟩
  rcases passed.snoc.cut dropped.run with ⟨next, after, whole, _, taken, rest⟩
  rcases Option.some.inj (removes.symm.trans taken) with rfl
  by_contra left
  -- the entry was added again by some step behind the flush
  rcases rest.last_crossing (fun state => state.shared.inflight.entries.lookup clientId ≠ none)
    (fun there => there gone) left with
    ⟨between, ⟨adder, action⟩, _, later, rfl, _, missing, adds, present, _, _⟩
  rcases Option.ne_none_iff_exists'.mp present with ⟨lock, present⟩
  rcases entry_added adds (not_not.mp missing) present with
    ⟨other, rival, there, rivalTakes, sameClient⟩
  have addsLater : Passed (history ++ [(last, .advance index)]) (flushBefore ++ moment :: between)
      (adder, action) := by
    rw [whole, ← List.cons_append, ← List.append_assoc]
    exact Passed.of_append
  have tookEarlier : Passed (flushBefore ++ moment :: between) before (taker, .advance index) :=
    tookFirst.extend (List.prefix_append _ _)
  rcases addsLater.cut dropped.run with ⟨_, _, _, runToAdder, _, _⟩
  rcases tookEarlier.cut runToAdder with ⟨_, _, _, _, took, sofar⟩
  rcases moved_of_found took (Or.inl rfl) found with ⟨stage, move, moved⟩
  rcases call_of_run sofar moved with ⟨reached, atAdder, forward⟩
  by_cases same : other = index
  · subst same
    rcases Option.some.inj (there.symm.trans atAdder) with rfl
    have beyond := Nat.lt_of_lt_of_le move.rank_lt forward
    have takesAgain : reached = .takeHandle := rivalTakes
    rw [takes, takesAgain] at beyond
    exact absurd beyond (Nat.lt_irrefl _)
  · have idle := dropped.rival_idle alone addsLater atAdder same there sameClient
    rw [ExchangeCall.Pending, rivalTakes] at idle
    exact idle rfl

end Dropped

/-- An abandoned call leaves its client's in-flight entry behind, unless a flush
has removed it.  If no other call of the client is pending meanwhile, the call
leaves no trace exactly if a flush has. -/
theorem leaves_no_trace_iff_flushed {clock : Instant} {history : List (Moment State Action)}
    {last state : State} {index : Nat} {clientId secret : String}
    (dropped : Dropped inner clock history last state index clientId secret) :
    (¬ FlushedSinceHandle inner history index clientId →
      state.shared.inflight.entries.lookup clientId ≠ none) ∧
    (AloneForClient (history ++ [(last, .advance index)]) index clientId →
      (LeavesNoTrace inner (history ++ [(last, .advance index)]) state index clientId secret ↔
        FlushedSinceHandle inner history index clientId)) := by
  refine ⟨dropped.entry_left, fun alone => ?_⟩
  constructor
  · intro traceless
    by_contra spared
    exact dropped.entry_left spared traceless.noEntry
  · intro flushed
    refine ⟨?_, dropped.no_entry_after_flush alone flushed⟩
    intro before earlier action next passed names taken
    exact dropped.untouched alone passed names taken

/-! ## With and without a flush -/

/-- A run with a single call that ends before the call's last destructor. -/
theorem dropped_of_unwinding {history : List (Moment State Action)} {last : State}
    (run : Run (step sampleInner) (State.initial 0) history last)
    (unwinds : last.calls[0]? = some ⟨"c", "sec", .unwindLock 0⟩) {position : Nat}
    (abandoned : history[position]?.any (fun moment => moment.2.abandoned = some 0) = true)
    (single : history.all (fun moment => moment.1.calls.length ≤ 1) = true)
    (singleLast : last.calls.length ≤ 1) :
    ∃ state, Dropped sampleInner 0 history last state 0 "c" "sec" ∧
      AloneForClient (history ++ [(last, .advance 0)]) 0 "c" ∧
      state.shared.inflight.entries = last.shared.inflight.entries := by
  have ends : ∃ state, step sampleInner last (.advance 0) = some state ∧
      state.shared.inflight.entries = last.shared.inflight.entries := by
    simp only [step, unwinds, callStep, Option.some.injEq, exists_eq_left']
  rcases ends with ⟨state, taken, kept⟩
  rcases Option.any_eq_true _ _ |>.mp abandoned with ⟨⟨dropper, action⟩, here, acts⟩
  rcases Action.of_abandoned (of_decide_eq_true acts) with rfl
  refine ⟨state, ⟨run.snoc taken, ⟨0, unwinds⟩, _, dropper, Passed.of_getElem? here⟩, ?_, kept⟩
  intro moment member _ _ _ other rival different there
  have few : moment.1.calls.length ≤ 1 := by
    rcases List.mem_append.mp member with earlier | final
    · exact of_decide_eq_true (List.all_eq_true.mp single moment earlier)
    · rw [List.mem_singleton.mp final]
      exact singleLast
  rw [List.getElem?_eq_none (by omega)] at there
  cases there

/-- A lone call is dropped while it waits for the IdP, and its client's entry
stays. -/
theorem not_leaves_no_trace :
    ∃ history last state, Dropped sampleInner 0 history last state 0 "c" "sec" ∧
      AloneForClient (history ++ [(last, .advance 0)]) 0 "c" ∧
      ¬ LeavesNoTrace sampleInner (history ++ [(last, .advance 0)]) state 0 "c" "sec" := by
  obtain ⟨history, last, run, observed⟩ := execute_observed (step sampleInner)
    (State.initial 0)
    [.exchange "c" "sec", .advance 0, .advance 0, .advance 0, .advance 0, .advance 0,
      .advance 0, .abandon 0, .advance 0]
    (fun history last => (last.calls, last.shared.inflight.entries.lookup "c",
      history[7]?.any (fun moment => moment.2.abandoned = some 0),
      history.all (fun moment => moment.1.calls.length ≤ 1)))
    ([⟨"c", "sec", .unwindLock 0⟩], some 0, true, true) (by decide +kernel)
  rcases Prod.mk.inj observed with ⟨calls, rest⟩
  rcases Prod.mk.inj rest with ⟨present, rest⟩
  rcases Prod.mk.inj rest with ⟨abandoned, single⟩
  have unwinds : last.calls[0]? = some ⟨"c", "sec", .unwindLock 0⟩ := by rw [calls]; rfl
  have singleLast : last.calls.length ≤ 1 := by rw [calls]; decide
  rcases dropped_of_unwinding run unwinds abandoned single singleLast with
    ⟨state, dropped, alone, kept⟩
  refine ⟨history, last, state, dropped, alone, fun traceless => ?_⟩
  have absent := traceless.noEntry
  rw [kept, present] at absent
  cases absent

/-- The client is flushed while the call waits, so that nothing is left of it. -/
theorem leaves_no_trace_iff_flushed_when_flushed :
    ∃ history last state, Dropped sampleInner 0 history last state 0 "c" "sec" ∧
      LeavesNoTrace sampleInner (history ++ [(last, .advance 0)]) state 0 "c" "sec" := by
  obtain ⟨history, last, run, observed⟩ := execute_observed (step sampleInner)
    (State.initial 0)
    [.exchange "c" "sec", .advance 0, .advance 0, .advance 0, .advance 0, .advance 0,
      .advance 0, .flush (some "c"), .advanceFlush 0, .advanceFlush 0, .advanceFlush 0,
      .advanceFlush 0, .advanceFlush 0, .abandon 0, .advance 0]
    (fun history last => (last.calls,
      history[13]?.any (fun moment => moment.2.abandoned = some 0),
      history.all (fun moment => moment.1.calls.length ≤ 1),
      history[3]?.any (fun moment => moment.2.advanced = some 0 &&
        moment.1.calls[0]? = some ⟨"c", "sec", .takeHandle⟩),
      history[12]?.any (fun moment => moment.2.flushAdvanced = some 0 &&
        moment.1.shared.inflight.entries.lookup "c" = some 0 &&
        (step sampleInner moment.1 moment.2).map
          (fun next => next.shared.inflight.entries.lookup "c") = some none)))
    ([⟨"c", "sec", .unwindLock 0⟩], true, true, true, true) (by decide +kernel)
  rcases Prod.mk.inj observed with ⟨calls, rest⟩
  rcases Prod.mk.inj rest with ⟨abandoned, rest⟩
  rcases Prod.mk.inj rest with ⟨single, rest⟩
  rcases Prod.mk.inj rest with ⟨taking, flushing⟩
  have unwinds : last.calls[0]? = some ⟨"c", "sec", .unwindLock 0⟩ := by rw [calls]; rfl
  have singleLast : last.calls.length ≤ 1 := by rw [calls]; decide
  rcases dropped_of_unwinding run unwinds abandoned single singleLast with
    ⟨state, dropped, alone, _⟩
  rcases Option.any_eq_true _ _ |>.mp taking with ⟨⟨taker, takes⟩, hereTaker, seenTaker⟩
  rcases Option.any_eq_true _ _ |>.mp flushing with ⟨⟨flusher, flushes⟩, hereFlush, seenFlush⟩
  simp only [Bool.and_eq_true, decide_eq_true_eq] at seenTaker seenFlush
  rcases seenTaker with ⟨takerActs, found⟩
  rcases seenFlush with ⟨⟨flushActs, present⟩, cleared⟩
  rcases Action.of_advanced takerActs with rfl
  rcases Option.map_eq_some_iff.mp cleared with ⟨next, removes, gone⟩
  refine ⟨history, last, state, dropped, ((leaves_no_trace_iff_flushed dropped).2 alone).mpr ?_⟩
  exact ⟨_, (flusher, flushes), _, taker, _, Passed.of_getElem? hereFlush,
    ⟨0, next, 0, Action.of_flushAdvanced flushActs, removes, present, gone⟩,
    Passed.of_getElem?_lt hereTaker (by decide), found, rfl⟩

end Exchange
end OidcRs
