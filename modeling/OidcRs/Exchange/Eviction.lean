import OidcRs.Exchange.Caches

namespace OidcRs
namespace Exchange

open Foundation

/-!
# What eviction on read removes

A call that finds an entry expired releases it and removes the key in a later
step, whatever the map holds by then.  So a removal takes a live entry exactly
when another call has stored one since the removing call looked.
-/

variable {inner : ExchangerInner}

/-! ## Removals -/

/-- The stage at which a call finds the entry expired. -/
def Entry.lookupStage : Entry → CallStage
  | token _ => .lookupPositive
  | failure _ => .lookupNegative

/-- The stage at which it removes the key. -/
def Entry.evictStage : Entry → CallStage
  | token _ => .evictPositive
  | failure _ => .evictNegative

/-- The cache the entry belongs to holds nothing under the key. -/
def Entry.GoneFrom (shared : Shared) (key : CacheKey) : Entry → Prop
  | token _ => shared.positive.lookup key = none
  | failure _ => shared.negative.lookup key = none

/-- A step of the call takes the entry out of its cache. -/
structure Removes (inner : ExchangerInner) (state next : State) (index : Nat) (key : CacheKey)
    (entry : Entry) : Prop where
  taken : step inner state (.advance index) = some next
  present : entry.At state.shared key
  gone : entry.GoneFrom next.shared key

/-- The call removes the failure that its own success supersedes: it has stored a
token for the key. -/
def Supersedes (inner : ExchangerInner) (history : List (Moment State Action)) (state : State)
    (index : Nat) (key : CacheKey) : Prop :=
  ∃ clientId secret lock jwt, state.calls[index]? = some ⟨clientId, secret, .removeNegative lock jwt⟩ ∧
    key = cacheKey inner clientId secret ∧
    ∃ before storer outcome cached, Passed history before (storer, .advance index) ∧
      Store inner (storer, .advance index) index clientId secret lock outcome (.token cached) ∧
      cached.jwt = jwt

/-- Calls remove what has expired, and a failure also if it is superseded. -/
def RemovesOnlyExpired (inner : ExchangerInner) (history : List (Moment State Action)) : Prop :=
  ∀ before state index next key entry, Passed history before (state, .advance index) →
    Removes inner state next index key entry →
    entry.deadline ≤ state.shared.clock ∨
      (∃ failure, entry = .failure failure) ∧ Supersedes inner before state index key

/-! ## Where an eviction comes from -/

/-- The call found the entry expired at an earlier moment. -/
structure FoundExpired (inner : ExchangerInner) (history before : List (Moment State Action))
    (reader : State) (index : Nat) (clientId secret : String) (entry : Entry) : Prop where
  passed : Passed history before (reader, .advance index)
  caller : reader.calls[index]? = some ⟨clientId, secret, entry.lookupStage⟩
  found : entry.At reader.shared (cacheKey inner clientId secret)
  expired : entry.deadline ≤ reader.shared.clock

/-- What the history says about a call that is about to remove something. -/
def Prepared (inner : ExchangerInner) (history : List (Moment State Action)) (index : Nat)
    (clientId secret : String) : CallStage → Prop
  | .evictPositive => ∃ before reader cached,
      FoundExpired inner history before reader index clientId secret (.token cached)
  | .evictNegative => ∃ before reader failure,
      FoundExpired inner history before reader index clientId secret (.failure failure)
  | .removeNegative lock jwt => ∃ before storer outcome cached,
      Passed history before (storer, .advance index) ∧
      Store inner (storer, .advance index) index clientId secret lock outcome (.token cached) ∧
      cached.jwt = jwt
  | .lookupPositive | .lookupNegative | .takeHandle | .awaitLock _ | .recheckPositive _
  | .sendPost _ | .awaitAnswer _ _ | .storeOutcome _ _ | .dropGuard _ _ | .dropLock _ _
  | .cleanupInflight _ | .returned _ | .unwindGuard _ | .unwindLock _ | .aborted => True

section Extend

variable {history : List (Moment State Action)} {newest : Moment State Action} {index : Nat}
  {clientId secret : String}

theorem FoundExpired.snoc {before : List (Moment State Action)} {reader : State} {entry : Entry}
    (read : FoundExpired inner history before reader index clientId secret entry) :
    FoundExpired inner (history ++ [newest]) before reader index clientId secret entry :=
  ⟨read.passed.snoc, read.caller, read.found, read.expired⟩

theorem Prepared.snoc {stage : CallStage}
    (prepared : Prepared inner history index clientId secret stage) :
    Prepared inner (history ++ [newest]) index clientId secret stage := by
  cases stage with
  | evictPositive | evictNegative =>
      rcases prepared with ⟨before, reader, entry, read⟩
      exact ⟨before, reader, entry, read.snoc⟩
  | removeNegative =>
      rcases prepared with ⟨before, storer, outcome, cached, passed, rest⟩
      exact ⟨before, storer, outcome, cached, passed.snoc, rest⟩
  | lookupPositive | lookupNegative | takeHandle | awaitLock | recheckPositive | sendPost
  | awaitAnswer | storeOutcome | dropGuard | dropLock | cleanupInflight | returned | unwindGuard
  | unwindLock | aborted => trivial

end Extend

theorem Prepared.move {history : List (Moment State Action)} {state : State} {action : Action}
    {next : Shared} {index : Nat} {clientId secret : String} {current stage : CallStage}
    (found : state.calls[index]? = some ⟨clientId, secret, current⟩)
    (move : CallMove inner state.shared index clientId secret action current next stage) :
    Prepared inner (history ++ [(state, action)]) index clientId secret stage := by
  cases move with
  | answer | abandonWait | abandonPost => trivial
  | advance spec =>
      cases spec with
      | @positiveExpired cached there expired =>
          exact ⟨history, state, cached, Passed.last, found, there, expired⟩
      | @negativeExpired entry there expired =>
          exact ⟨history, state, entry, Passed.last, found, there, expired⟩
      | @storeToken lock jwt expiresIn deadline added =>
          exact ⟨history, state, _, ⟨jwt, deadline⟩, Passed.last, ⟨rfl, found, .token added⟩, rfl⟩
      | positiveHit | positiveMiss | evictPositive | negativeHit | negativeMiss | evictNegative
      | takeHandle | acquire | recheckHit | recheckMiss | sendPost | storeFailure | storeNothing
      | storePanic | removeNegative | dropGuard | dropLock | cleanup | unwindGuard
      | unwindLock => trivial

theorem prepared_of_run {start state : State} {history : List (Moment State Action)}
    (run : Run (step inner) start history state) {index : Nat}
    (fresh : start.calls[index]? = none) {call : ExchangeCall}
    (found : state.calls[index]? = some call) :
    Prepared inner history index call.clientId call.secret call.stage := by
  refine run.history_invariant (fun history state => ∀ call, state.calls[index]? = some call →
    Prepared inner history index call.clientId call.secret call.stage) ?_ ?_ call found
  · intro call listed
    rw [fresh] at listed
    cases listed
  · intro history state action next _ prepared taken call found
    cases call_origin taken found with
    | unchanged before => exact (prepared call before).snoc
    | moved before same move =>
        subst same
        exact Prepared.move before move
    | begun _ _ same =>
        subst same
        trivial

/-! ## What a removal takes -/

section Removal

variable {state next : State} {index : Nat} {key : CacheKey} {entry : Entry}

/-- A lookup that fails after a removal of another key failed before. -/
theorem lookup_erase_none {Value : Type} {map : KeyedMap CacheKey Value} {other : CacheKey}
    {value : Value} (present : map.lookup key = some value)
    (gone : (map.erase other).lookup key = none) : key = other := by
  by_contra different
  rw [Finmap.lookup_erase_ne different, present] at gone
  cases gone

theorem lookup_insert_ne_none {Value : Type} {map : KeyedMap CacheKey Value} {other : CacheKey}
    {value inserted : Value} (present : map.lookup key = some value) :
    (map.insert other inserted).lookup key ≠ none := by
  intro gone
  by_cases same : key = other
  · subst same
    rw [Finmap.lookup_insert] at gone
    cases gone
  · rw [Finmap.lookup_insert_of_ne _ same, present] at gone
    cases gone

/-- A call removes an entry of its own key, at the stage that evicts it, or a
failure after its own success. -/
theorem Removes.own (removes : Removes inner state next index key entry) :
    ∃ clientId secret, key = cacheKey inner clientId secret ∧
      (state.calls[index]? = some ⟨clientId, secret, entry.evictStage⟩ ∨
        (∃ failure, entry = .failure failure) ∧ ∃ lock jwt,
          state.calls[index]? = some ⟨clientId, secret, .removeNegative lock jwt⟩) := by
  rcases removes with ⟨taken, present, gone⟩
  cases entry with
  | token cached =>
      simp only [Entry.At] at present
      simp only [Entry.GoneFrom] at gone
      cases positive_change taken with
      | kept same =>
          rw [same, present] at gone
          cases gone
      | @evicted other clientId secret acts caller erased =>
          rcases Action.advance.inj acts with rfl
          rw [erased] at gone
          exact ⟨clientId, secret, lookup_erase_none present gone, Or.inl caller⟩
      | stored _ inserted =>
          rw [inserted] at gone
          exact absurd gone (lookup_insert_ne_none present)
      | flushed acts => cases acts
  | failure failure =>
      simp only [Entry.At] at present
      simp only [Entry.GoneFrom] at gone
      cases negative_change taken with
      | kept same =>
          rw [same, present] at gone
          cases gone
      | @evicted other clientId secret acts caller erased =>
          rcases Action.advance.inj acts with rfl
          rw [erased] at gone
          exact ⟨clientId, secret, lookup_erase_none present gone, Or.inl caller⟩
      | @superseded other clientId secret lock jwt acts caller erased =>
          rcases Action.advance.inj acts with rfl
          rw [erased] at gone
          exact ⟨clientId, secret, lookup_erase_none present gone,
            Or.inr ⟨⟨failure, rfl⟩, lock, jwt, caller⟩⟩
      | stored _ inserted =>
          rw [inserted] at gone
          exact absurd gone (lookup_insert_ne_none present)
      | flushed acts => cases acts

/-- The evicting stage removes whatever the cache holds under the key. -/
theorem removes_of_evicting {clientId secret : String}
    (taken : step inner state (.advance index) = some next)
    (caller : state.calls[index]? = some ⟨clientId, secret, entry.evictStage⟩)
    (present : entry.At state.shared (cacheKey inner clientId secret)) :
    Removes inner state next index (cacheKey inner clientId secret) entry := by
  refine ⟨taken, present, ?_⟩
  rcases advanced_of_found taken caller with ⟨stage, spec, _⟩
  generalize next.shared = after at spec
  cases entry with
  | token cached =>
      simp only [Entry.evictStage] at spec
      cases spec
      exact Finmap.lookup_erase _ _
  | failure failure =>
      simp only [Entry.evictStage] at spec
      cases spec
      exact Finmap.lookup_erase _ _

/-- Looking an entry up changes neither cache. -/
theorem shared_of_lookup {clientId secret : String}
    (taken : step inner state (.advance index) = some next)
    (caller : state.calls[index]? = some ⟨clientId, secret, entry.lookupStage⟩) :
    next.shared = state.shared := by
  rcases advanced_of_found taken caller with ⟨stage, spec, _⟩
  generalize next.shared = after at spec
  cases entry with
  | token cached =>
      simp only [Entry.lookupStage] at spec
      cases spec <;> rfl
  | failure failure =>
      simp only [Entry.lookupStage] at spec
      cases spec <;> rfl

end Removal

/-- The cache holds one entry under a key. -/
theorem Entry.at_unique {shared : Shared} {key : CacheKey} {first second : Entry}
    (sameCache : first.lookupStage = second.lookupStage) (here : first.At shared key)
    (there : second.At shared key) : first = second := by
  cases first <;> cases second <;> try cases sameCache
  · exact congrArg Entry.token (Option.some.inj (here.symm.trans there))
  · exact congrArg Entry.failure (Option.some.inj (here.symm.trans there))

/-! ## When an eviction takes a live entry -/

/-- The call is about to remove its key.  Since it looked, some call has stored
an entry there, which is still there and has not expired. -/
structure Overtaken (inner : ExchangerInner) (history : List (Moment State Action)) (state : State)
    (index : Nat) (clientId secret : String) (entry : Entry) : Prop where
  evicting : state.calls[index]? = some ⟨clientId, secret, entry.evictStage⟩
  stored : ∃ before storer other otherClient otherSecret lock outcome,
    HeldSince (fun state => entry.At state.shared (cacheKey inner clientId secret)) history before
      (storer, .advance other) ∧
    cacheKey inner clientId secret = cacheKey inner otherClient otherSecret ∧
    Store inner (storer, .advance other) other otherClient otherSecret lock outcome entry ∧
    ∃ early reader, Passed before early (reader, .advance index) ∧
      reader.calls[index]? = some ⟨clientId, secret, entry.lookupStage⟩
  present : entry.At state.shared (cacheKey inner clientId secret)
  live : state.shared.clock < entry.deadline

/-- A live entry that a call is about to evict was stored since the call looked. -/
theorem overtaken_of_live {clock : Instant} {history : List (Moment State Action)} {state : State}
    (run : Run (step inner) (State.initial clock) history state) {index : Nat}
    {clientId secret : String} {entry : Entry}
    (evicting : state.calls[index]? = some ⟨clientId, secret, entry.evictStage⟩)
    (present : entry.At state.shared (cacheKey inner clientId secret))
    (live : state.shared.clock < entry.deadline) :
    Overtaken inner history state index clientId secret entry := by
  have looked : ∃ early reader old, FoundExpired inner history early reader index clientId secret
      old ∧ old.lookupStage = entry.lookupStage := by
    have prepared := prepared_of_run run rfl evicting
    cases entry with
    | token _ =>
        rcases prepared with ⟨early, reader, cached, read⟩
        exact ⟨early, reader, .token cached, read, rfl⟩
    | failure _ =>
        rcases prepared with ⟨early, reader, failure, read⟩
        exact ⟨early, reader, .failure failure, read, rfl⟩
  rcases looked with ⟨early, reader, old, read, sameCache⟩
  rcases read.passed.cut run with ⟨next, after, rfl, _, taken, rest⟩
  have sameShared : next.shared = reader.shared := shared_of_lookup taken read.caller
  have absent : ¬ entry.At next.shared (cacheKey inner clientId secret) := by
    intro already
    rw [sameShared] at already
    rcases Entry.at_unique sameCache read.found already with rfl
    have earlier : reader.shared.clock ≤ state.shared.clock :=
      clock_le_of_run (Run.cons taken rest)
    exact absurd live (Nat.not_lt_of_le (Nat.le_trans read.expired earlier))
  rcases entry_stored rest absent present with
    ⟨before, storer, other, otherClient, otherSecret, lock, outcome, held, sameKey, store⟩
  have caller := read.caller
  rw [sameCache] at caller
  have heldSince := held.prepend (early ++ [(reader, .advance index)])
  rw [List.append_assoc, List.singleton_append] at heldSince
  have lookedFirst : Passed (early ++ [(reader, .advance index)] ++ before) early
      (reader, .advance index) := List.prefix_append _ _
  exact
    { evicting := evicting
      stored := ⟨_, storer, other, otherClient, otherSecret, lock, outcome, heldSince, sameKey,
        store, early, reader, lookedFirst, caller⟩
      present := present
      live := live }

/-- In every run, calls remove only what has expired, or what their own success
supersedes, exactly when no eviction was overtaken by a store. -/
theorem removes_only_expired_iff {clock : Instant} {history : List (Moment State Action)}
    {final : State} (run : Run (step inner) (State.initial clock) history final) :
    RemovesOnlyExpired inner history ↔
      ∀ before state index clientId secret entry, Passed history before (state, .advance index) →
        ¬ Overtaken inner before state index clientId secret entry := by
  constructor
  · intro expiredOnly before state index clientId secret entry passed overtaken
    rcases passed.cut run with ⟨next, _, _, _, taken, _⟩
    have removes := removes_of_evicting taken overtaken.evicting overtaken.present
    rcases expiredOnly before state index next _ entry passed removes with
      expired | ⟨⟨failure, rfl⟩, superseding⟩
    · exact absurd overtaken.live (Nat.not_lt_of_le expired)
    · rcases superseding with ⟨_, _, _, _, caller, _⟩
      have stages := Option.some.inj (overtaken.evicting.symm.trans caller)
      cases stages
  · intro neverOvertaken before state index next key entry passed removes
    rcases passed.cut run with ⟨_, _, _, earlier, _, _⟩
    rcases removes.own with ⟨clientId, secret, rfl, evicting | ⟨failing, lock, jwt, caller⟩⟩
    · rcases Nat.lt_or_ge state.shared.clock entry.deadline with live | expired
      · exact absurd (overtaken_of_live earlier evicting removes.present live)
          (neverOvertaken before state index clientId secret entry passed)
      · exact Or.inl expired
    · have prepared := prepared_of_run earlier rfl caller
      exact Or.inr ⟨failing, clientId, secret, lock, jwt, caller, rfl, prepared⟩

/-- Two calls find the same expired token.  The first has removed it and stored
its successor when the second comes to remove the key. -/
theorem fresh_token_evicted_run :
    ∃ history state cached, Run (step sampleInner) (State.initial 0) history state ∧
      (∀ moment ∈ history, ∀ index, moment.2 ≠ .advanceFlush index) ∧
      state.calls[1]? = some ⟨"c", "sec", .evictPositive⟩ ∧
      (Entry.token cached).At state.shared (cacheKey sampleInner "c" "sec") ∧
      state.shared.clock < cached.expiresAt := by
  obtain ⟨history, state, run, observed⟩ := execute_observed (step sampleInner)
    (State.initial 0)
    [.exchange "c" "sec", .advance 0, .advance 0, .advance 0, .advance 0, .advance 0,
      .advance 0, .answer 0 (sampleGrant "old" 120), .advance 0, .advance 0, .advance 0, .advance 0,
      .advance 0, .tick 60000000000, .exchange "c" "sec", .advance 1, .exchange "c" "sec",
      .advance 2, .advance 2, .advance 2, .advance 2, .advance 2, .advance 2, .advance 2,
      .answer 2 (sampleGrant "new" 300), .advance 2]
    (fun history state => (history.all (fun moment => moment.2.flushAdvanced.isNone),
      state.calls[1]?, state.shared.positive.lookup (cacheKey sampleInner "c" "sec"),
      state.shared.clock))
    (true, some ⟨"c", "sec", .evictPositive⟩, some ⟨"new", 300000000000⟩, 60000000000)
    (by decide +kernel)
  rcases Prod.mk.inj observed with ⟨spared, rest⟩
  rcases Prod.mk.inj rest with ⟨caller, rest⟩
  rcases Prod.mk.inj rest with ⟨present, now⟩
  refine ⟨history, state, _, run, ?_, caller, present, ?_⟩
  · rintro ⟨state, action⟩ member index rfl
    cases List.all_eq_true.mp spared _ member
  · rw [now]
    decide

/-- Nobody flushes, and a call removes a token that is good for minutes. -/
theorem not_removes_only_expired :
    ∃ history state, Run (step sampleInner) (State.initial 0) history state ∧
      (∀ moment ∈ history, ∀ index, moment.2 ≠ .advanceFlush index) ∧
      ¬ RemovesOnlyExpired sampleInner history := by
  rcases fresh_token_evicted_run with ⟨history, state, cached, run, unflushed, caller, present, live⟩
  have evicts : ∃ next, step sampleInner state (.advance 1) = some next := by
    simp only [step, caller, callStep, Option.some.injEq, exists_eq']
  rcases evicts with ⟨next, taken⟩
  refine ⟨_, next, run.snoc taken, ?_, fun expiredOnly => ?_⟩
  · intro moment member index
    rcases List.mem_append.mp member with earlier | last
    · exact unflushed moment earlier index
    · rw [List.mem_singleton.mp last]
      exact Action.noConfusion
  · have removes : Removes sampleInner state next 1 _ (.token cached) :=
      removes_of_evicting taken caller present
    rcases expiredOnly history state 1 next _ _ Passed.last removes with expired | ⟨⟨_, same⟩, _⟩
    · exact absurd live (Nat.not_lt_of_le expired)
    · cases same

/-- Whoever is about to remove a token still finds it expired, and nobody is
about to evict a failure. -/
def undisturbed (state : State) : Bool :=
  state.calls.all (fun call =>
    match call.stage with
    | .evictPositive =>
        (state.shared.positive.lookup (call.key sampleInner)).all
          (fun cached => cached.expiresAt ≤ state.shared.clock)
    | .evictNegative => false
    | _ => true)

/-- A single call finds the expired token, removes it and is granted a new one. -/
theorem removes_only_expired_iff_in_sequence :
    ∃ history state, Run (step sampleInner) (State.initial 0) history state ∧
      state.calls[1]? = some ⟨"c", "sec", .returned (.ok "new")⟩ ∧
      RemovesOnlyExpired sampleInner history := by
  obtain ⟨history, state, run, observed⟩ := execute_observed (step sampleInner)
    (State.initial 0)
    [.exchange "c" "sec", .advance 0, .advance 0, .advance 0, .advance 0, .advance 0,
      .advance 0, .answer 0 (sampleGrant "old" 120), .advance 0, .advance 0, .advance 0, .advance 0,
      .advance 0, .tick 60000000000, .exchange "c" "sec", .advance 1, .advance 1, .advance 1,
      .advance 1, .advance 1, .advance 1, .advance 1, .answer 1 (sampleGrant "new" 300),
      .advance 1, .advance 1, .advance 1, .advance 1, .advance 1]
    (fun history state => (state.calls[1]?, history.all (fun moment => undisturbed moment.1)))
    (some ⟨"c", "sec", .returned (.ok "new")⟩, true) (by decide +kernel)
  rcases Prod.mk.inj observed with ⟨returned, checked⟩
  refine ⟨history, state, run, returned, (removes_only_expired_iff run).mpr ?_⟩
  rintro before evictor index clientId secret entry passed overtaken
  have good := List.all_eq_true.mp (List.all_eq_true.mp checked _ passed.mem) _
    (List.mem_of_getElem? overtaken.evicting)
  cases entry with
  | token cached =>
      have present : evictor.shared.positive.lookup (cacheKey sampleInner clientId secret) =
        some cached := overtaken.present
      simp only [Entry.evictStage, ExchangeCall.key, present, Option.all_some,
        decide_eq_true_eq] at good
      exact absurd overtaken.live (Nat.not_lt_of_le good)
  | failure failure => cases good

end Exchange
end OidcRs
