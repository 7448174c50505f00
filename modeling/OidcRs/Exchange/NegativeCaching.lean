import OidcRs.Exchange.Coalescing

namespace OidcRs
namespace Exchange

open Foundation

/-!
# A cached failure and the calls that do not look at it

Under the lock the positive cache is read a second time, the negative cache is
not.  A call that queued behind the one whose failure was just cached therefore
sends its own POST.  An eviction has the same effect when the expired entry it
was meant for has been replaced in the meantime: the fresh one goes.  These are
the only two ways past a live failure.  In a run that takes neither, the
failure holds until its deadline.
-/

variable {inner : ExchangerInner}

/-- The call has not sent its POST in this state, or has not begun. -/
def BeforePost (state : State) (index : Nat) : Prop :=
  ∀ call, state.calls[index]? = some call → call.stage.rank < 8

/-- After a failure is stored for the key, and until its deadline, no POST is
sent for the key, and what had not been sent by then returns the failure. -/
def Throttled (inner : ExchangerInner) (key : CacheKey) (history : List (Moment State Action)) :
    Prop :=
  ∀ before storer index clientId secret lock outcome entry,
    Passed history before (storer, .advance index) →
    Store inner (storer, .advance index) index clientId secret lock outcome (.failure entry) →
    cacheKey inner clientId secret = key →
    ∀ middle moment, Passed history middle moment → Passed middle before (storer, .advance index) →
      storer.shared.clock < moment.1.shared.clock → moment.1.shared.clock < entry.until →
      sendsPost inner key moment = false ∧
      ∀ other otherClient otherSecret next result, moment.2.Names other →
        BeforePost storer other → step inner moment.1 moment.2 = some next →
        cacheKey inner otherClient otherSecret = key →
        next.calls[other]? = some ⟨otherClient, otherSecret, .returned result⟩ →
          result = .error entry.error.toAuthError

/-- A call that has just got the lock, or evicts, while a live failure is
cached under its key. -/
def PassesFailure (inner : ExchangerInner) (key : CacheKey) (moment : Moment State Action) : Prop :=
  ∃ index call entry, moment.2 = .advance index ∧ moment.1.calls[index]? = some call ∧
    call.key inner = key ∧
    ((∃ lock, call.stage = .recheckPositive lock) ∨ call.stage = .evictNegative) ∧
    moment.1.shared.negative.lookup key = some entry ∧ moment.1.shared.clock < entry.until

/-! ## No token is live while a call for the key posts -/

/-- Between the recheck and the store the key has no live token. -/
def DeadWhilePosting (inner : ExchangerInner) (state : State) : Prop :=
  ∀ (index : Nat) (call : ExchangeCall), state.calls[index]? = some call →
    7 ≤ call.stage.rank → call.stage.rank ≤ 9 → ∀ cached,
    state.shared.positive.lookup (call.key inner) = some cached →
      cached.expiresAt ≤ state.shared.clock

theorem CallStage.guards_of_rank {stage : CallStage} (low : 6 ≤ stage.rank)
    (high : stage.rank ≤ 11) : stage.guards = true := by
  cases stage <;> simp only [rank] at low high <;> first | rfl | omega

/-- A step towards the POST or its outcome changes nothing shared, and the
recheck that leads there has seen no live token. -/
theorem CallMove.into_posting {shared next : Shared} {index : Nat} {clientId secret : String}
    {action : Action} {current stage : CallStage}
    (move : CallMove inner shared index clientId secret action current next stage)
    (low : 7 ≤ stage.rank) (high : stage.rank ≤ 9) :
    next = shared ∧ (7 ≤ current.rank ∧ current.rank ≤ 9 ∨
      ∀ cached, shared.positive.lookup (cacheKey inner clientId secret) = some cached →
        cached.expiresAt ≤ shared.clock) := by
  cases move with
  | answer => exact ⟨rfl, Or.inl (by simp only [CallStage.rank, Nat.reduceLeDiff, and_self])⟩
  | abandonWait | abandonPost => simp [CallStage.rank] at high
  | advance spec =>
      cases spec with
      | recheckMiss dead => exact ⟨rfl, Or.inr dead⟩
      | sendPost => exact ⟨rfl, Or.inl (by simp only [CallStage.rank, Nat.reduceLeDiff, and_self])⟩
      | positiveHit | positiveExpired | positiveMiss | evictPositive | negativeHit
      | negativeExpired | negativeMiss | evictNegative | takeHandle | acquire | recheckHit
      | storeToken | storeFailure | storeNothing | storePanic | removeNegative | dropGuard
      | dropLock | cleanup | unwindGuard | unwindLock => simp [CallStage.rank] at low high

theorem DeadWhilePosting.step {state next : State} {action : Action}
    (dead : DeadWhilePosting inner state) (taken : step inner state action = some next)
    (current : ∀ clientId, HandlesCurrent clientId state) (sound : (lockView state).Sound) :
    DeadWhilePosting inner next := by
  intro index call found low high cached present
  have forward := step_clock_le taken
  cases call_origin taken found with
  | begun _ _ same =>
      subst same
      simp [CallStage.rank] at low
  | @moved earlier stage before same move =>
      subst same
      rcases move.into_posting low high with ⟨sameShared, posting | dead'⟩
      · rw [sameShared] at present ⊢
        exact dead index earlier before posting.1 posting.2 cached present
      · rw [sameShared] at present ⊢
        exact dead' cached present
  | unchanged before =>
      have kept := dead index call before low high
      cases positive_change taken with
      | kept same =>
          rw [same] at present
          exact Nat.le_trans (kept cached present) forward
      | evicted _ _ erased =>
          rw [erased] at present
          exact Nat.le_trans (kept cached (KeyedMap.lookup_erase_some present).2) forward
      | flushed _ _ filtered =>
          rw [filtered] at present
          exact Nat.le_trans (kept cached (lookup_flushMap_some present)) forward
      | @stored storer clientId secret lock expiresIn token store inserted =>
          by_cases sameKey : call.key inner = cacheKey inner clientId secret
          · -- the storing call would hold the same guard, so it is this call
            obtain rfl := (current clientId).guard_unique sound before store.caller
              (congrArg CacheKey.clientId sameKey) rfl
              (CallStage.guards_of_rank (by omega) (by omega)) rfl
            exact absurd found (not_still_of_named taken (Or.inl store.action) before)
          · rw [inserted, Finmap.lookup_insert_of_ne _ sameKey] at present
            exact Nat.le_trans (kept cached present) forward

/-! ## The window of a cached failure -/

/-- The state of affairs until the deadline of a failure stored in `storer`. -/
structure Window (inner : ExchangerInner) (key : CacheKey) (storer : State)
    (entry : NegativeEntry) (state : State) : Prop where
  present : state.shared.negative.lookup key = some entry
  dead : ∀ cached, state.shared.positive.lookup key = some cached →
    cached.expiresAt ≤ state.shared.clock
  idle : ∀ (index : Nat) (call : ExchangeCall), state.calls[index]? = some call →
    call.key inner = key → call.stage.rank ≤ 6 ∨ 11 ≤ call.stage.rank
  fails : ∀ (index : Nat) (call : ExchangeCall), state.calls[index]? = some call →
    call.key inner = key → BeforePost storer index →
    call.stage.rank ≤ 6 ∨ call.stage.unwinding = true ∨
      call.stage = .returned (.error entry.error.toAuthError)

/-- A call that moves inside the window either stays in front of its POST or
returns the cached failure. -/
theorem CallMove.in_window {shared next : Shared} {index : Nat} {clientId secret : String}
    {action : Action} {current stage : CallStage} {entry : NegativeEntry}
    (move : CallMove inner shared index clientId secret action current next stage)
    (present : shared.negative.lookup (cacheKey inner clientId secret) = some entry)
    (live : shared.clock < entry.until)
    (dead : ∀ cached, shared.positive.lookup (cacheKey inner clientId secret) = some cached →
      cached.expiresAt ≤ shared.clock)
    (early : current.rank ≤ 6)
    (respects : action = .advance index → (∀ lock, current ≠ .recheckPositive lock) ∧
      current ≠ .evictNegative) :
    stage.rank ≤ 6 ∨ stage.unwinding = true ∨
      stage = .returned (.error entry.error.toAuthError) := by
  cases move with
  | abandonWait => exact Or.inr (Or.inl rfl)
  | answer | abandonPost => simp [CallStage.rank] at early
  | advance spec =>
      rcases respects rfl with ⟨noRecheck, noEvict⟩
      cases spec with
      | positiveHit found fresh => exact absurd fresh (Nat.not_lt.mpr (dead _ found))
      | negativeHit found fresh =>
          rw [present] at found
          cases found
          exact Or.inr (Or.inr rfl)
      | negativeExpired found expired =>
          rw [present] at found
          cases found
          exact absurd live (Nat.not_lt.mpr expired)
      | negativeMiss absent =>
          rw [present] at absent
          cases absent
      | evictNegative => exact absurd rfl noEvict
      | recheckHit | recheckMiss => exact absurd rfl (noRecheck _)
      | positiveExpired | positiveMiss | evictPositive | takeHandle | acquire =>
          exact Or.inl (by simp only [CallStage.rank, Nat.reduceLeDiff])
      | sendPost | storeToken | storeFailure | storeNothing | storePanic | removeNegative
      | dropGuard | dropLock | cleanup | unwindGuard | unwindLock =>
          simp [CallStage.rank] at early

section Window

variable {key : CacheKey} {storer state next : State} {entry : NegativeEntry} {action : Action}

/-- No call for the key is between its POST and the way out. -/
theorem Window.apart (window : Window inner key storer entry state) {index : Nat}
    {clientId secret : String} {stage : CallStage}
    (found : state.calls[index]? = some ⟨clientId, secret, stage⟩) (low : 7 ≤ stage.rank)
    (high : stage.rank ≤ 10) : key ≠ cacheKey inner clientId secret := by
  intro keyed
  have idle : stage.rank ≤ 6 ∨ 11 ≤ stage.rank := window.idle index _ found keyed.symm
  omega

/-- So nothing is stored under the key. -/
theorem Window.not_stored (window : Window inner key storer entry state) {index : Nat}
    {clientId secret : String} {lock : LockId} {outcome : ExchangeResult} {stored : Entry}
    (store : Store inner (state, action) index clientId secret lock outcome stored) :
    key ≠ cacheKey inner clientId secret :=
  window.apart store.caller (by simp [CallStage.rank]) (by simp [CallStage.rank])

/-- A call for the key that has not passed the failure runs into it. -/
theorem Window.moves (window : Window inner key storer entry state)
    (live : state.shared.clock < entry.until)
    (respects : ¬ PassesFailure inner key (state, action)) {index : Nat} {call : ExchangeCall}
    {stage : CallStage} (found : state.calls[index]? = some call) (keyed : call.key inner = key)
    (move : CallMove inner state.shared index call.clientId call.secret action call.stage
      next.shared stage) (early : call.stage.rank ≤ 6) :
    stage.rank ≤ 6 ∨ stage.unwinding = true ∨
      stage = .returned (.error entry.error.toAuthError) := by
  refine move.in_window (by rw [← window.present, ← keyed]; rfl) live
    (by rw [← keyed] at window; exact window.dead) early (fun acts => ⟨?_, ?_⟩)
  · exact fun lock same => respects ⟨index, call, entry, acts, found, keyed, Or.inl ⟨lock, same⟩,
      window.present, live⟩
  · exact fun same => respects ⟨index, call, entry, acts, found, keyed, Or.inr same,
      window.present, live⟩

theorem Window.present_step (window : Window inner key storer entry state)
    (taken : step inner state action = some next) (live : state.shared.clock < entry.until)
    (noFlush : ∀ index, action ≠ .advanceFlush index)
    (respects : ¬ PassesFailure inner key (state, action)) :
    next.shared.negative.lookup key = some entry := by
  cases negative_change taken with
  | kept same =>
      rw [same]
      exact window.present
  | flushed acts => exact absurd acts (noFlush _)
  | @evicted index clientId secret acts caller erased =>
      have different : key ≠ cacheKey inner clientId secret := fun keyed =>
        respects ⟨index, _, entry, acts, caller, keyed.symm, Or.inr rfl, window.present, live⟩
      rw [erased, Finmap.lookup_erase_ne different]
      exact window.present
  | superseded _ caller erased =>
      have different := window.apart caller (by simp [CallStage.rank]) (by simp [CallStage.rank])
      rw [erased, Finmap.lookup_erase_ne different]
      exact window.present
  | stored store inserted =>
      rw [inserted, Finmap.lookup_insert_of_ne _ (window.not_stored store)]
      exact window.present

theorem Window.dead_step (window : Window inner key storer entry state)
    (taken : step inner state action = some next) {cached : CachedToken}
    (found : next.shared.positive.lookup key = some cached) :
    cached.expiresAt ≤ next.shared.clock := by
  refine Nat.le_trans (window.dead cached ?_) (step_clock_le taken)
  cases positive_change taken with
  | kept same => rwa [same] at found
  | evicted _ _ erased =>
      rw [erased] at found
      exact (KeyedMap.lookup_erase_some found).2
  | flushed _ _ filtered =>
      rw [filtered] at found
      exact lookup_flushMap_some found
  | stored store inserted =>
      rwa [inserted, Finmap.lookup_insert_of_ne _ (window.not_stored store)] at found

theorem window_step (window : Window inner key storer entry state)
    (taken : step inner state action = some next) (live : state.shared.clock < entry.until)
    (noFlush : ∀ index, action ≠ .advanceFlush index)
    (respects : ¬ PassesFailure inner key (state, action)) :
    Window inner key storer entry next := by
  refine ⟨window.present_step taken live noFlush respects, ?_, ?_, ?_⟩
  · intro cached found
    exact window.dead_step taken found
  · intro index call found keyed
    cases call_origin taken found with
    | unchanged before => exact window.idle index call before keyed
    | begun _ _ same =>
        subst same
        exact Or.inl (Nat.zero_le _)
    | @moved earlier stage before same move =>
        subst same
        rcases window.idle index earlier before keyed with early | late
        · rcases window.moves live respects before keyed move early with still | unwinds | fails
          · exact Or.inl still
          · have late : 15 ≤ stage.rank := (CallStage.unwinding_iff stage).mp unwinds
            exact Or.inr (show 11 ≤ stage.rank by omega)
          · exact Or.inr (by rw [fails]; simp only [CallStage.rank, Nat.reduceLeDiff])
        · exact Or.inr (Nat.le_trans late (Nat.le_of_lt move.rank_lt))
  · intro index call found keyed unsent
    cases call_origin taken found with
    | unchanged before => exact window.fails index call before keyed unsent
    | begun _ _ same =>
        subst same
        exact Or.inl (Nat.zero_le _)
    | @moved earlier stage before same move =>
        subst same
        rcases window.fails index earlier before keyed unsent with early | unwinds | returned
        · exact window.moves live respects before keyed move early
        · refine Or.inr (Or.inl ((CallStage.unwinding_iff stage).mpr ?_))
          exact Nat.le_trans ((CallStage.unwinding_iff _).mp unwinds) (Nat.le_of_lt move.rank_lt)
        · have stuck := move.unfinished
          rw [returned] at stuck
          cases stuck

/-- The window opens when the failure is stored. -/
theorem window_opens {index : Nat} {clientId secret : String} {lock : LockId}
    {outcome : ExchangeResult} (taken : step inner state (.advance index) = some next)
    (store : Store inner (state, .advance index) index clientId secret lock outcome
      (.failure entry))
    (keyed : cacheKey inner clientId secret = key)
    (current : HandlesCurrent key.clientId state) (sound : (lockView state).Sound)
    (dead : DeadWhilePosting inner state) : Window inner key state entry next := by
  rcases store.of_failure with ⟨error, rfl, known, added⟩
  rcases after_failure_store taken store.caller known added with ⟨sharedAfter, after⟩
  rw [keyed] at sharedAfter
  have others : ∀ (other : Nat) (otherCall : ExchangeCall), other ≠ index →
      next.calls[other]? = some otherCall → otherCall.key inner = key →
      (state.calls[other]? = some otherCall ∧
        (otherCall.stage.rank ≤ 5 ∨ 12 ≤ otherCall.stage.rank)) := by
    intro other otherCall different found otherKeyed
    cases call_origin taken found with
    | begun acts => cases acts
    | moved _ _ otherMove => exact absurd (otherMove.names.unique (Or.inl rfl)) different
    | unchanged before =>
        refine ⟨before, ?_⟩
        by_contra middle
        exact different (current.guard_unique sound before store.caller
          (ExchangeCall.client_of_key otherKeyed) (congrArg CacheKey.clientId keyed)
          (CallStage.guards_of_rank (by omega) (by omega)) rfl)
  refine ⟨?_, ?_, ?_, ?_⟩
  · rw [sharedAfter]
    exact Finmap.lookup_insert _
  · intro cached found
    rw [sharedAfter] at found ⊢
    subst keyed
    exact dead index _ store.caller (by simp [CallStage.rank]) (by simp [CallStage.rank]) cached found
  · intro other otherCall found otherKeyed
    by_cases same : other = index
    · subst same
      rcases Option.some.inj (after.symm.trans found) with rfl
      exact Or.inr (by simp only [CallStage.rank, Nat.reduceLeDiff])
    · rcases others other otherCall same found otherKeyed with ⟨_, early | late⟩
      · exact Or.inl (by omega)
      · exact Or.inr (by omega)
  · intro other otherCall found otherKeyed unsent
    by_cases same : other = index
    · subst same
      have late := unsent _ store.caller
      simp [CallStage.rank] at late
    · rcases others other otherCall same found otherKeyed with ⟨before, early | late⟩
      · exact Or.inl (by omega)
      · have bound := unsent otherCall before
        omega

end Window

section Whole

variable {clock : Instant} {history : List (Moment State Action)} {last : State}

theorem handles_current_without_flush
    (run : Run (step inner) (State.initial clock) history last)
    (noFlush : ∀ moment ∈ history, ∀ index, moment.2 ≠ .advanceFlush index) (clientId : String) :
    HandlesCurrent clientId last :=
  handles_current_of_run Run.nil (fun _ listed => nomatch listed) run noFlush

theorem dead_while_posting_of_run
    (run : Run (step inner) (State.initial clock) history last)
    (noFlush : ∀ moment ∈ history, ∀ index, moment.2 ≠ .advanceFlush index) :
    DeadWhilePosting inner last := by
  refine run.history_invariant (fun before state =>
    (∀ moment ∈ before, ∀ index, moment.2 ≠ .advanceFlush index) → DeadWhilePosting inner state)
    ?_ ?_ noFlush
  · intro _ index call found
    cases found
  · intro before state action next sofar dead taken spared
    have sparedBefore := fun moment member => spared moment (List.mem_append_left _ member)
    exact (dead sparedBefore).step taken (handles_current_without_flush sofar sparedBefore)
      (sound_of_run sofar)

/-- In a run that never passes a live failure of the key, a cached failure
holds the key's POSTs back until its deadline. -/
theorem throttled_of_respected {key : CacheKey}
    (run : Run (step inner) (State.initial clock) history last)
    (noFlush : ∀ moment ∈ history, ∀ index, moment.2 ≠ .advanceFlush index)
    (respected : ∀ moment ∈ history, ¬ PassesFailure inner key moment) :
    Throttled inner key history := by
  intro before storer index clientId secret lock outcome entry passed store keyed middle moment
    passedMoment passedStore _ live
  rcases passedMoment.cut run with ⟨next, _, _, runToMoment, taken, _⟩
  rcases passedStore.cut runToMoment with ⟨opened, between, whole, runToStorer, stores, runBetween⟩
  have early : ∀ later ∈ before, later ∈ history := fun later member =>
    passed.before_prefix.subset member
  have inside : ∀ later ∈ between, later ∈ history := fun later member =>
    passedMoment.before_prefix.subset (by rw [whole]; simp [member])
  have unflushed : ∀ later ∈ before, ∀ other, later.2 ≠ .advanceFlush other := fun later member =>
    noFlush later (early later member)
  have opens : Window inner key storer entry opened :=
    window_opens stores store keyed (handles_current_without_flush runToStorer unflushed key.clientId)
      (sound_of_run runToStorer) (dead_while_posting_of_run runToStorer unflushed)
  have window : moment.1.shared.clock < entry.until →
      Window inner key storer entry moment.1 := by
    refine runBetween.invariant_of_moments
      (fun state => state.shared.clock < entry.until → Window inner key storer entry state)
      (fun later => (∀ other, later.2 ≠ .advanceFlush other) ∧ ¬ PassesFailure inner key later)
      ?_ (fun _ => opens)
      (fun later member => ⟨noFlush later (inside later member),
        respected later (inside later member)⟩)
    intro state action after held allowed stepped fresh
    have freshBefore := Nat.lt_of_le_of_lt (step_clock_le stepped) fresh
    exact window_step (held freshBefore) stepped freshBefore allowed.1 allowed.2
  constructor
  · cases fires : sendsPost inner key moment with
    | false => rfl
    | true =>
        rcases sendsPost_iff.mp fires with
          ⟨other, client, otherSecret, otherLock, _, found, otherKeyed⟩
        have idle := (window live).idle other _ found otherKeyed
        simp [CallStage.rank] at idle
  · intro other otherClient otherSecret after result _ unsent stepped otherKeyed returned
    have windowAfter := window_step (window live) stepped live (noFlush moment passedMoment.mem)
      (respected moment passedMoment.mem)
    rcases windowAfter.fails other _ returned otherKeyed unsent with early | unwinds | fails
    · simp [CallStage.rank] at early
    · cases unwinds
    · exact CallStage.returned.inj fails

end Whole

/-- What a moment shows: whose step it is, the calls before it and the time. -/
structure Glance where
  mover : Option Nat
  calls : List ExchangeCall
  clock : Instant
  deriving DecidableEq

def glance (moment : Moment State Action) : Glance where
  mover := moment.2.advanced
  calls := moment.1.calls
  clock := moment.1.shared.clock

/-- Two calls with a wrong secret: the second waits while the first is refused,
and a second later asks the IdP again. -/
theorem not_throttled_when_queued :
    ∃ history last, Run (step sampleInner) (State.initial 0) history last ∧
      (∀ moment ∈ history, ∀ index, moment.2 ≠ .advanceFlush index) ∧
      ¬ Throttled sampleInner (cacheKey sampleInner "c" "bad") history := by
  obtain ⟨history, last, run, observed⟩ := execute_observed (step sampleInner)
    (State.initial 0)
    [.exchange "c" "bad", .advance 0, .advance 0, .advance 0, .advance 0, .advance 0,
      .advance 0, .exchange "c" "bad", .advance 1, .advance 1, .advance 1,
      .answer 0 sampleRejection, .advance 0, .advance 0, .advance 0, .advance 0,
      .tick 1000000000, .advance 1, .advance 1, .advance 1]
    (fun history _ => (history[12]?.map glance, history[19]?.map glance,
      history.all (fun moment => moment.2.flushAdvanced.isNone)))
    (some ⟨some 0, [⟨"c", "bad", .storeOutcome 0 (.error .idpRejected)⟩,
        ⟨"c", "bad", .awaitLock 0⟩], 0⟩,
      some ⟨some 1, [⟨"c", "bad", .returned (.error .idpRejected)⟩, ⟨"c", "bad", .sendPost 0⟩],
        1000000000⟩, true)
    (by decide +kernel)
  rcases Prod.mk.inj observed with ⟨storing, rest⟩
  rcases Prod.mk.inj rest with ⟨posting, spared⟩
  refine ⟨history, last, run, ?_, fun throttled => ?_⟩
  · rintro ⟨state, action⟩ member index rfl
    cases List.all_eq_true.mp spared _ member
  · rcases Option.map_eq_some_iff.mp storing with ⟨⟨storer, stores⟩, hereStorer, seenStorer⟩
    rcases Option.map_eq_some_iff.mp posting with ⟨⟨poster, posts⟩, herePoster, seenPoster⟩
    simp only [glance, Glance.mk.injEq] at seenStorer seenPoster
    rcases seenStorer with ⟨storerActs, storerCalls, storerClock⟩
    rcases seenPoster with ⟨posterActs, posterCalls, posterClock⟩
    rcases Action.of_advanced storerActs with rfl
    rcases Action.of_advanced posterActs with rfl
    have store : Store sampleInner (storer, .advance 0) 0 "c" "bad" 0 (.error .idpRejected)
        (.failure ⟨30000000000, .rejected⟩) :=
      ⟨rfl, by rw [storerCalls]; rfl, .failure rfl (by rw [storerClock]; decide +kernel)⟩
    have silent := (throttled _ storer 0 "c" "bad" 0 _ _ (Passed.of_getElem? hereStorer)
      store rfl _ (poster, .advance 1) (Passed.of_getElem? herePoster)
      (Passed.of_getElem?_lt hereStorer (by decide)) (by rw [storerClock, posterClock]; decide)
      (by rw [posterClock]; decide)).1
    have fires : sendsPost sampleInner (cacheKey sampleInner "c" "bad") (poster, .advance 1) =
        true :=
      sendsPost_iff.mpr ⟨1, "c", "bad", 0, rfl, by rw [posterCalls]; rfl, rfl⟩
    rw [fires] at silent
    cases silent

/-- No flush moves, and nobody passes a live failure: whoever is about to
recheck finds none, and none is evicted. -/
def respectful (moment : Moment State Action) : Bool :=
  moment.2.flushAdvanced.isNone && moment.1.calls.all (fun call =>
    match call.stage with
    | .recheckPositive _ => (moment.1.shared.negative.lookup (call.key sampleInner)).isNone
    | .evictNegative => false
    | _ => true)

/-- Two calls with a wrong secret one after the other: the second finds the
cached refusal. -/
theorem throttled_of_respected_in_sequence :
    ∃ history last, Run (step sampleInner) (State.initial 0) history last ∧
      last.calls = [⟨"c", "bad", .returned (.error .idpRejected)⟩,
        ⟨"c", "bad", .returned (.error .idpRejected)⟩] ∧
      Throttled sampleInner (cacheKey sampleInner "c" "bad") history := by
  obtain ⟨history, last, run, observed⟩ := execute_observed (step sampleInner)
    (State.initial 0)
    [.exchange "c" "bad", .advance 0, .advance 0, .advance 0, .advance 0, .advance 0,
      .advance 0, .answer 0 sampleRejection, .advance 0, .advance 0, .advance 0, .advance 0,
      .tick 1000000000, .exchange "c" "bad", .advance 1, .advance 1]
    (fun history state => (state.calls, history.all respectful))
    ([⟨"c", "bad", .returned (.error .idpRejected)⟩,
      ⟨"c", "bad", .returned (.error .idpRejected)⟩], true)
    (by decide +kernel)
  rcases Prod.mk.inj observed with ⟨calls, checked⟩
  refine ⟨history, last, run, calls, throttled_of_respected run ?_ ?_⟩
  · rintro ⟨state, action⟩ member index rfl
    cases List.all_eq_true.mp checked _ member
  · rintro ⟨state, action⟩ member ⟨index, call, entry, _, found, keyed, passing, present, _⟩
    have good := List.all_eq_true.mp checked _ member
    rw [respectful, Bool.and_eq_true, List.all_eq_true] at good
    have goodCall := good.2 call (List.mem_of_getElem? found)
    rcases passing with ⟨lock, stage⟩ | stage
    · rw [stage, keyed] at goodCall
      change state.shared.negative.lookup _ = some entry at present
      simp only [present, Option.isNone_some, Bool.false_eq_true] at goodCall
    · rw [stage] at goodCall
      cases goodCall

end Exchange
end OidcRs
