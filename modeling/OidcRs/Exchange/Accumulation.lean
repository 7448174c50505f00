import OidcRs.Exchange.Calls

namespace OidcRs
namespace Exchange

open Foundation

/-!
# Expired entries accumulate

An expired entry is removed when its own key is looked up again, or flushed.
A caller that never repeats its credentials looks no key up twice, so what its
calls leave behind stays.  The runs built here make one call after another,
each with a client of its own and each refused by the IdP.
-/

variable {inner : ExchangerInner}

/-! ## Counting what has expired -/

def expiredTokens (shared : Shared) : KeyedMap CacheKey CachedToken :=
  KeyedMap.retain (fun _ cached => cached.expiresAt < shared.clock) shared.positive

def expiredFailures (shared : Shared) : KeyedMap CacheKey NegativeEntry :=
  KeyedMap.retain (fun _ entry => entry.until < shared.clock) shared.negative

/-- The entries of both caches whose deadline has passed. -/
def expiredCount (shared : Shared) : Nat :=
  KeyedMap.len (expiredTokens shared) + KeyedMap.len (expiredFailures shared)

def ExchangeCall.credentials (call : ExchangeCall) : String × String :=
  (call.clientId, call.secret)

/-- However many calls are made, each with credentials of its own: when one of
them has just returned, no more than `bound` entries have expired. -/
def ExpiredAtMost (inner : ExchangerInner) (bound : Nat) : Prop :=
  ∀ clock history last state index clientId secret result,
    Run (step inner) (State.initial clock) (history ++ [(last, .advance index)]) state →
    state.flushes = [] → (state.calls.map ExchangeCall.credentials).Nodup →
    state.calls[index]? = some ⟨clientId, secret, .returned result⟩ →
    expiredCount state.shared ≤ bound

/-! ## A call nobody interferes with -/

section Alone

variable {state : State} {clientId secret : String}

/-- Nothing changed but the client's lock and its handle. -/
structure OnlyHandle (clientId : String) (before after : Shared) : Prop where
  tokens : after.positive = before.positive
  failures : after.negative = before.negative
  clock : after.clock = before.clock
  others : ∀ other, other ≠ clientId →
    after.inflight.entries.lookup other = before.inflight.entries.lookup other

/-- A call for an unknown client sends its POST. -/
theorem asks_alone
    (noToken : state.shared.positive.lookup (cacheKey inner clientId secret) = none)
    (noFailure : state.shared.negative.lookup (cacheKey inner clientId secret) = none)
    (noHandle : state.shared.inflight.entries.lookup clientId = none) :
    ∃ history shared lock post,
      Run (step inner) state history
        (state.joinedBy clientId secret shared (.awaitAnswer lock post)) ∧
      OnlyHandle clientId state.shared shared := by
  have called : step inner state (.exchange clientId secret) =
      some (state.joinedBy clientId secret state.shared .lookupPositive) := rfl
  have missesToken : callStep inner state.shared ⟨clientId, secret, .lookupPositive⟩ =
      some (state.shared, .lookupNegative) := by
    simp only [callStep, ExchangeCall.key, noToken]
  have missesFailure : callStep inner state.shared ⟨clientId, secret, .lookupNegative⟩ =
      some (state.shared, .takeHandle) := by
    simp only [callStep, ExchangeCall.key, noFailure]
  generalize held : state.shared.inflight.checkout clientId = handed
  have takes : callStep inner state.shared ⟨clientId, secret, .takeHandle⟩ =
      some ({ state.shared with inflight := handed.1 }, .awaitLock handed.2) := by
    rw [← held]
    rfl
  have free : handed.1.heap.isLocked handed.2 = false := by
    rw [← held, LockRegistry.checkout_of_none noHandle]
    simp only [LockHeap.isLocked_alloc, if_true]
  let guarded : Shared := { state.shared with
    inflight := { handed.1 with heap := handed.1.heap.setLocked handed.2 true } }
  have acquires : callStep inner { state.shared with inflight := handed.1 }
      ⟨clientId, secret, .awaitLock handed.2⟩ = some (guarded, .recheckPositive handed.2) := by
    simp only [callStep, free, Bool.false_eq_true, if_false]
    rfl
  have rechecks : callStep inner guarded ⟨clientId, secret, .recheckPositive handed.2⟩ =
      some (guarded, .sendPost handed.2) := by
    have stillNone : guarded.positive.lookup (cacheKey inner clientId secret) = none := noToken
    simp only [callStep, ExchangeCall.key, stillNone]
  have sends : callStep inner guarded ⟨clientId, secret, .sendPost handed.2⟩ =
      some (guarded, .awaitAnswer handed.2 (tokenPost inner clientId secret)) := rfl
  have run := (Run.single called).snoc (joinedBy_advance missesToken)
    |>.snoc (joinedBy_advance missesFailure) |>.snoc (joinedBy_advance takes)
    |>.snoc (joinedBy_advance acquires) |>.snoc (joinedBy_advance rechecks)
    |>.snoc (joinedBy_advance sends)
  refine ⟨_, guarded, handed.2, _, run, rfl, rfl, rfl, fun other different => ?_⟩
  change handed.1.entries.lookup other = _
  rw [← held]
  exact LockRegistry.lookup_checkout_ne _ different

/-- What a refused call leaves: a failure under its key. -/
structure Refused (inner : ExchangerInner) (state : State) (clientId secret : String)
    (deadline : Instant) (next : State) : Prop where
  calls : next.calls = state.calls ++ [⟨clientId, secret, .returned (.error .idpRejected)⟩]
  flushes : next.flushes = state.flushes
  clock : next.shared.clock = state.shared.clock
  tokens : next.shared.positive = state.shared.positive
  failures : next.shared.negative =
    state.shared.negative.insert (cacheKey inner clientId secret) ⟨deadline, .rejected⟩
  others : ∀ other, other ≠ clientId → next.shared.inflight.entries.lookup other =
    state.shared.inflight.entries.lookup other

theorem storeFailure_of_added {shared : Shared} {key : CacheKey} {lock : LockId}
    {reason : NegativeReason} {deadline : Instant} (error : AuthError)
    (added : Instant.checkedAdd shared.clock reason.ttl = some deadline) :
    storeFailure shared key lock reason error =
      ({ shared with negative := shared.negative.insert key ⟨deadline, reason⟩ },
        .dropGuard lock (.error error)) := by
  simp only [storeFailure, added]

/-- A call for an unknown client runs to its refusal. -/
theorem refused_alone {deadline : Instant}
    (noToken : state.shared.positive.lookup (cacheKey inner clientId secret) = none)
    (noFailure : state.shared.negative.lookup (cacheKey inner clientId secret) = none)
    (noHandle : state.shared.inflight.entries.lookup clientId = none)
    (added : Instant.checkedAdd state.shared.clock NegativeReason.rejected.ttl = some deadline) :
    ∃ history last next, Run (step inner) state
        (history ++ [(last, .advance state.calls.length)]) next ∧
      Refused inner state clientId secret deadline next := by
  rcases asks_alone noToken noFailure noHandle with ⟨history, shared, lock, post, asked, only⟩
  rw [← only.clock] at added
  have rejected : exchangeInner sampleRejection = .error .idpRejected := by
    simp only [sampleRejection, exchangeInner, true_or, if_true]
  have answered := asked.snoc (joinedBy_answer sampleRejection)
  rw [rejected] at answered
  have stores : callStep inner shared ⟨clientId, secret, .storeOutcome lock (.error .idpRejected)⟩ =
      some ({ shared with negative :=
        shared.negative.insert (cacheKey inner clientId secret) ⟨deadline, .rejected⟩ },
        .dropGuard lock (.error .idpRejected)) := by
    rw [← storeFailure_of_added .idpRejected added]
    rfl
  have run := (answered.snoc (joinedBy_advance stores)).snoc (joinedBy_advance rfl)
    |>.snoc (joinedBy_advance rfl) |>.snoc (joinedBy_advance rfl)
  refine ⟨_, _, _, run, rfl, rfl, only.clock, only.tokens, ?_, ?_⟩
  · change shared.negative.insert _ _ = _
    rw [only.failures]
  · intro other different
    exact (LockRegistry.lookup_removeIf_ne _ _ different).trans (only.others other different)

end Alone

/-! ## One refused call after another -/

/-- A client of its own for every call. -/
def clientNamed (number : Nat) : String := String.ofList (List.replicate number 'c')

theorem clientNamed_injective {first second : Nat}
    (same : clientNamed first = clientNamed second) : first = second := by
  have characters := congrArg (fun name => name.toList.length) same
  simpa only [clientNamed, String.toList_ofList, List.length_replicate] using characters

theorem cacheKey_clientNamed_injective {first second : Nat}
    (same : cacheKey inner (clientNamed first) "" = cacheKey inner (clientNamed second) "") :
    first = second :=
  clientNamed_injective (congrArg CacheKey.clientId same)

/-- The first clients have been refused at time zero, and nothing else has happened. -/
structure Filled (inner : ExchangerInner) (deadline : Instant) (count : Nat) (state : State) :
    Prop where
  calls : state.calls = (List.range count).map
    (fun number => ⟨clientNamed number, "", .returned (.error .idpRejected)⟩)
  flushes : state.flushes = []
  tokens : state.shared.positive = ∅
  failures : ∀ number, state.shared.negative.lookup (cacheKey inner (clientNamed number) "") =
    if number < count then some ⟨deadline, .rejected⟩ else none
  handles : ∀ number, count ≤ number →
    state.shared.inflight.entries.lookup (clientNamed number) = none

/-- One more refused call. -/
theorem Filled.refuse {deadline later : Instant} {count : Nat} {state : State}
    (filled : Filled inner deadline count state)
    (added : Instant.checkedAdd state.shared.clock NegativeReason.rejected.ttl = some later) :
    ∃ history last next, Run (step inner) state
        (history ++ [(last, .advance state.calls.length)]) next ∧
      Refused inner state (clientNamed count) "" later next := by
  apply refused_alone
  · rw [filled.tokens]
    rfl
  · rw [filled.failures, if_neg (Nat.lt_irrefl count)]
  · exact filled.handles count (Nat.le_refl count)
  · exact added

theorem Filled.succ {deadline : Instant} {count : Nat} {state next : State}
    (filled : Filled inner deadline count state)
    (refused : Refused inner state (clientNamed count) "" deadline next) :
    Filled inner deadline (count + 1) next where
  calls := by rw [refused.calls, filled.calls, List.range_succ, List.map_append, List.map_singleton]
  flushes := refused.flushes.trans filled.flushes
  tokens := refused.tokens.trans filled.tokens
  failures := by
    intro number
    rw [refused.failures]
    by_cases newest : number = count
    · subst newest
      rw [Finmap.lookup_insert, if_pos (Nat.lt_succ_self number)]
    · have different : cacheKey inner (clientNamed number) "" ≠
          cacheKey inner (clientNamed count) "" :=
        fun same => newest (cacheKey_clientNamed_injective same)
      rw [Finmap.lookup_insert_of_ne _ different, filled.failures]
      by_cases earlier : number < count
      · rw [if_pos earlier, if_pos (Nat.lt_succ_of_lt earlier)]
      · rw [if_neg earlier, if_neg (by omega)]
  handles := by
    intro number beyond
    have different : clientNamed number ≠ clientNamed count :=
      fun same => Nat.ne_of_gt beyond (clientNamed_injective same)
    rw [refused.others _ different]
    exact filled.handles number (Nat.le_of_succ_le beyond)

/-- As many clients as wanted are refused, all at time zero. -/
theorem filled_run (inner : ExchangerInner) {deadline : Instant}
    (added : Instant.checkedAdd 0 NegativeReason.rejected.ttl = some deadline) (count : Nat) :
    ∃ history state, Run (step inner) (State.initial 0) history state ∧ state.shared.clock = 0 ∧
      Filled inner deadline count state := by
  induction count with
  | zero =>
      refine ⟨[], State.initial 0, Run.nil, rfl, rfl, rfl, rfl, fun number => ?_, fun _ _ => rfl⟩
      rw [if_neg (Nat.not_lt_zero number)]
      rfl
  | succ count inductionHypothesis =>
      rcases inductionHypothesis with ⟨history, state, run, atZero, filled⟩
      rw [← atZero] at added
      rcases filled.refuse added with ⟨more, last, next, calls, refused⟩
      exact ⟨_, next, run.append calls, refused.clock.trans atZero, filled.succ refused⟩

/-- The entries of the first clients have all expired once their deadline has passed. -/
theorem expiredCount_of_filled {deadline : Instant} {count : Nat} {shared : Shared}
    (failures : ∀ number, number < count →
      shared.negative.lookup (cacheKey inner (clientNamed number) "") =
        some ⟨deadline, .rejected⟩) (past : deadline < shared.clock) :
    count ≤ expiredCount shared := by
  have expired : (Finset.range count).image (fun number => cacheKey inner (clientNamed number) "") ⊆
      (expiredFailures shared).keys := by
    intro key member
    rcases Finset.mem_image.mp member with ⟨number, within, rfl⟩
    rw [KeyedMap.mem_keys_iff]
    refine ⟨⟨deadline, .rejected⟩, ?_⟩
    rw [expiredFailures, KeyedMap.lookup_retain, failures number (Finset.mem_range.mp within),
      Option.filter_some, if_pos (decide_eq_true past)]
  calc count = ((Finset.range count).image
        (fun number => cacheKey inner (clientNamed number) "")).card := by
        rw [Finset.card_image_of_injective _ (fun _ _ => cacheKey_clientNamed_injective),
          Finset.card_range]
    _ ≤ KeyedMap.len (expiredFailures shared) := Finset.card_le_card expired
    _ ≤ expiredCount shared := Nat.le_add_left _ _

theorem credentials_distinct (count : Nat) :
    (((List.range count).map (fun number => (⟨clientNamed number, "",
      .returned (.error .idpRejected)⟩ : ExchangeCall))).map ExchangeCall.credentials).Nodup := by
  rw [List.map_map]
  apply List.Nodup.map ?_ List.nodup_range
  intro first second same
  exact clientNamed_injective (congrArg Prod.fst same)

/-- More than half a minute after the last of them was refused, one more call returns. -/
theorem accumulated_run (inner : ExchangerInner) (count : Nat) :
    ∃ history last state index clientId secret result,
      Run (step inner) (State.initial 0) (history ++ [(last, .advance index)]) state ∧
      state.flushes = [] ∧ (state.calls.map ExchangeCall.credentials).Nodup ∧
      state.calls[index]? = some ⟨clientId, secret, .returned result⟩ ∧
      count ≤ expiredCount state.shared := by
  have added : Instant.checkedAdd 0 NegativeReason.rejected.ttl = some 30000000000 := by
    decide +kernel
  have addedLate : Instant.checkedAdd 31000000000 NegativeReason.rejected.ttl =
      some 61000000000 := by
    decide +kernel
  rcases filled_run inner added count with ⟨history, state, run, atZero, filled⟩
  let waited : State :=
    { state with shared := { state.shared with clock := state.shared.clock + 31000000000 } }
  have ticked : step inner state (.tick 31000000000) = some waited := rfl
  have filledStill : Filled inner 30000000000 count waited :=
    ⟨filled.calls, filled.flushes, filled.tokens, filled.failures, filled.handles⟩
  have now : waited.shared.clock = 31000000000 := by
    change state.shared.clock + 31000000000 = _
    rw [atZero, Nat.zero_add]
  rw [← now] at addedLate
  rcases filledStill.refuse addedLate with ⟨more, last, next, calls, refused⟩
  have whole := (run.snoc ticked).append calls
  rw [← List.append_assoc] at whole
  refine ⟨_, last, next, waited.calls.length, clientNamed count, "", .error .idpRejected, whole,
    refused.flushes.trans filled.flushes, ?_, ?_, ?_⟩
  · have listed : next.calls = (List.range (count + 1)).map (fun number =>
        ⟨clientNamed number, "", .returned (.error .idpRejected)⟩) := by
      rw [refused.calls, filledStill.calls, List.range_succ, List.map_append, List.map_singleton]
    rw [listed]
    exact credentials_distinct (count + 1)
  · rw [refused.calls]
    exact List.getElem?_concat_length
  · have past : (30000000000 : Instant) < next.shared.clock := by
      rw [refused.clock, now]
      decide
    have kept : ∀ number, number < count →
        next.shared.negative.lookup (cacheKey inner (clientNamed number) "") =
          some ⟨30000000000, .rejected⟩ := by
      intro number within
      have different : cacheKey inner (clientNamed number) "" ≠
          cacheKey inner (clientNamed count) "" :=
        fun same => Nat.ne_of_lt within (cacheKey_clientNamed_injective same)
      rw [refused.failures, Finmap.lookup_insert_of_ne _ different, filledStill.failures,
        if_pos within]
    exact expiredCount_of_filled kept past

/-- One call more than the bound exceeds it. -/
theorem exceeds_bound (inner : ExchangerInner) (bound : Nat) : ¬ ExpiredAtMost inner bound := by
  intro bounded
  rcases accumulated_run inner (bound + 1) with ⟨history, last, state, index, clientId, secret,
    result, run, unflushed, distinct, returned, many⟩
  have few := bounded 0 history last state index clientId secret result run unflushed distinct
    returned
  exact absurd many (Nat.not_le_of_lt (Nat.lt_succ_of_le few))

/-- Whatever the configuration, no number bounds the expired entries of every run. -/
theorem not_expired_bounded (inner : ExchangerInner) : ¬ ∃ bound, ExpiredAtMost inner bound := by
  rintro ⟨bound, bounded⟩
  exact exceeds_bound inner bound bounded

/-- In particular not with a cap of an hour and neither audience nor scope. -/
theorem not_expired_bounded_sample : ¬ ∃ bound, ExpiredAtMost sampleInner bound := by
  rintro ⟨bound, bounded⟩
  exact exceeds_bound sampleInner bound bounded

end Exchange
end OidcRs
