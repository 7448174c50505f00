import OidcRs.Exchange.Isolation
import OidcRs.Exchange.SingleFlight

namespace OidcRs
namespace Exchange

open Foundation

/-!
# Concurrent exchanges of one key share one POST

A burst of calls for one key starts where neither cache knows the key and no
call of its client is under way.  The burst passes through three phases: no
POST sent yet, one POST outstanding, its token stored.  `Progress` is the
invariant; what carries it from the second phase to the third is that the
token is inserted before the guard is dropped, and that whoever gets the guard
next looks at the cache again.
-/

variable {inner : ExchangerInner}

/-- Stages at which a call has not yet got the guard, on the path of a miss. -/
def CallStage.queued : CallStage → Bool
  | lookupPositive | lookupNegative | takeHandle | awaitLock _ => true
  | _ => false

/-- Stages at which a call has the guard and has not sent its POST. -/
def CallStage.ahead : CallStage → Bool
  | recheckPositive _ | sendPost _ => true
  | _ => false

/-- Stages at which a call is about to return this token, or has. -/
def CallStage.serves (jwt : String) : CallStage → Bool
  | removeNegative _ token => token = jwt
  | dropGuard _ result | dropLock _ result | cleanupInflight result | returned result =>
      result = .ok jwt
  | _ => false

/-- The stages possible for a call once the token is in the cache. -/
def CallStage.settling (jwt : String) (stage : CallStage) : Prop :=
  stage.queued = true ∨ (∃ lock, stage = .recheckPositive lock) ∨ stage.serves jwt = true

/-- The POST of the call is outstanding, or was granted and not yet stored. -/
def CallStage.posting (stage : CallStage) : Prop :=
  (∃ lock post, stage = .awaitAnswer lock post) ∨
    ∃ lock jwt expiresIn, stage = .storeOutcome lock (.ok (jwt, expiresIn))

/-- The calls for a key from a given one on. -/
def CallsFrom (inner : ExchangerInner) (first : Nat) (key : CacheKey) (state : State)
    (property : Nat → CallStage → Prop) : Prop :=
  ∀ index call, first ≤ index → state.calls[index]? = some call → call.key inner = key →
    property index call.stage

/-- How far a burst of calls for one key has got. -/
inductive Progress (inner : ExchangerInner) (first : Nat) (key : CacheKey)
    (history : List (Moment State Action)) (state : State) : Prop
  | unsent (posts : history.countP (sendsPost inner key) = 0)
      (tokenless : state.shared.positive.lookup key = none)
      (calls : CallsFrom inner first key state
        (fun _ stage => stage.queued = true ∨ stage.ahead = true))
  | outstanding {poster : Nat} {call : ExchangeCall}
      (posts : history.countP (sendsPost inner key) = 1)
      (tokenless : state.shared.positive.lookup key = none)
      (found : state.calls[poster]? = some call) (keyed : call.key inner = key)
      (posting : call.stage.posting)
      (calls : CallsFrom inner first key state
        (fun index stage => index ≠ poster → stage.queued = true))
  | stored {before : List (Moment State Action)} {storer : State} {index : Nat}
      {clientId secret : String} {lock : LockId} {outcome : ExchangeResult}
      {cached : CachedToken} (posts : history.countP (sendsPost inner key) = 1)
      (present : state.shared.positive.lookup key = some cached)
      (passed : Passed history before (storer, .advance index)) (recent : first ≤ index)
      (keyed : cacheKey inner clientId secret = key)
      (store : Store inner (storer, .advance index) index clientId secret lock outcome
        (.token cached))
      (calls : CallsFrom inner first key state (fun _ stage => stage.settling cached.jwt))

/-! ## Moves of a call in each phase -/

section Moves

variable {shared next : Shared} {index : Nat} {clientId secret : String} {action : Action}
  {current stage : CallStage}

/-- With nothing cached, a call that has not sent its POST goes on towards it. -/
theorem CallMove.before_post
    (move : CallMove inner shared index clientId secret action current next stage)
    (tokenless : shared.positive.lookup (cacheKey inner clientId secret) = none)
    (failureless : shared.negative.lookup (cacheKey inner clientId secret) = none)
    (kept : action ≠ .abandon index)
    (early : current.queued = true ∨ current.ahead = true) :
    stage.queued = true ∨ stage.ahead = true ∨ ∃ lock, current = .sendPost lock := by
  cases move with
  | abandonWait | abandonPost => exact absurd rfl kept
  | answer => exact early.elim (fun wrong => nomatch wrong) (fun wrong => nomatch wrong)
  | advance spec =>
      cases spec with
      | positiveHit found | positiveExpired found =>
          rw [tokenless] at found
          cases found
      | negativeHit found | negativeExpired found =>
          rw [failureless] at found
          cases found
      | recheckHit found =>
          rw [tokenless] at found
          cases found
      | positiveMiss | negativeMiss | takeHandle => exact Or.inl rfl
      | acquire | recheckMiss => exact Or.inr (Or.inl rfl)
      | sendPost => exact Or.inr (Or.inr ⟨_, rfl⟩)
      | evictPositive | evictNegative | storeToken | storeFailure | storeNothing | storePanic
      | removeNegative | dropGuard | dropLock | cleanup | unwindGuard | unwindLock =>
          exact early.elim (fun wrong => nomatch wrong) (fun wrong => nomatch wrong)

/-- A queued call leaves the queue only by taking the guard. -/
theorem CallMove.of_queued
    (move : CallMove inner shared index clientId secret action current next stage)
    (tokenless : shared.positive.lookup (cacheKey inner clientId secret) = none)
    (failureless : shared.negative.lookup (cacheKey inner clientId secret) = none)
    (kept : action ≠ .abandon index) (queued : current.queued = true) :
    stage.queued = true ∨ stage.guards = true := by
  rcases move.before_post tokenless failureless kept (Or.inl queued) with still | ahead |
    ⟨lock, same⟩
  · exact Or.inl still
  · cases stage <;> first | exact Or.inr rfl | cases ahead
  · subst same
    cases queued

/-- With a live token cached, every call goes on towards returning it. -/
theorem CallMove.after_store
    (move : CallMove inner shared index clientId secret action current next stage)
    {cached : CachedToken}
    (present : shared.positive.lookup (cacheKey inner clientId secret) = some cached)
    (live : shared.clock < cached.expiresAt)
    (failureless : shared.negative.lookup (cacheKey inner clientId secret) = none)
    (kept : action ≠ .abandon index) (settling : current.settling cached.jwt) :
    stage.settling cached.jwt := by
  cases move with
  | abandonWait | abandonPost => exact absurd rfl kept
  | answer => rcases settling with wrong | ⟨_, wrong⟩ | wrong <;> cases wrong
  | advance spec =>
      cases spec with
      | positiveHit found | recheckHit found =>
          rw [present] at found
          cases found
          exact Or.inr (Or.inr (decide_eq_true rfl))
      | positiveExpired found expired =>
          rw [present] at found
          cases found
          exact absurd live (Nat.not_lt.mpr expired)
      | recheckMiss dead => exact absurd live (Nat.not_lt.mpr (dead cached present))
      | positiveMiss absent =>
          rw [present] at absent
          cases absent
      | negativeHit found | negativeExpired found =>
          rw [failureless] at found
          cases found
      | negativeMiss | takeHandle => exact Or.inl rfl
      | acquire => exact Or.inr (Or.inl ⟨_, rfl⟩)
      | removeNegative =>
          rcases settling with wrong | ⟨_, wrong⟩ | serves
          · cases wrong
          · cases wrong
          · refine Or.inr (Or.inr (decide_eq_true ?_))
            rw [of_decide_eq_true serves]
      | dropGuard | dropLock | cleanup =>
          rcases settling with wrong | ⟨_, wrong⟩ | serves
          · cases wrong
          · cases wrong
          · exact Or.inr (Or.inr serves)
      | evictPositive | evictNegative | sendPost | storeToken | storeFailure | storeNothing
      | storePanic | unwindGuard | unwindLock =>
          rcases settling with wrong | ⟨_, wrong⟩ | wrong <;> cases wrong

/-- The step after `sendPost` leaves the call waiting for its answer. -/
theorem CallMove.of_sendPost {lock : LockId}
    (move : CallMove inner shared index clientId secret action (.sendPost lock) next stage) :
    next = shared ∧ stage = .awaitAnswer lock (tokenPost inner clientId secret) := by
  cases move with
  | advance spec =>
      cases spec
      exact ⟨rfl, rfl⟩

/-- What a call whose POST was granted can do next. -/
theorem CallMove.of_posting
    (move : CallMove inner shared index clientId secret action current next stage)
    (kept : action ≠ .abandon index) (posting : current.posting) :
    (∃ reply lock, action = .answer index reply ∧ next = shared ∧
        stage = .storeOutcome lock (exchangeInner reply)) ∨
      (∃ lock jwt expiresIn deadline, action = .advance index ∧
        current = .storeOutcome lock (.ok (jwt, expiresIn)) ∧
        Instant.checkedAdd shared.clock (positiveTtl inner expiresIn) = some deadline ∧
        next = { shared with positive :=
          shared.positive.insert (cacheKey inner clientId secret) ⟨jwt, deadline⟩ } ∧
        stage = .removeNegative lock jwt) ∨
      stage.unwinding = true := by
  cases move with
  | answer reply => exact Or.inl ⟨reply, _, rfl, rfl, rfl⟩
  | abandonWait | abandonPost => exact absurd rfl kept
  | advance spec =>
      rcases posting with ⟨lock, post, rfl⟩ | ⟨lock, jwt, expiresIn, rfl⟩
      · cases spec
      · cases spec with
        | storeToken added =>
            exact Or.inr (Or.inl ⟨lock, jwt, expiresIn, _, rfl, rfl, added, rfl, rfl⟩)
        | storePanic => exact Or.inr (Or.inr rfl)

end Moves

/-! ## One step of a burst -/

/-- What is known about a step inside a burst. -/
structure BurstStep (inner : ExchangerInner) (first : Nat) (key : CacheKey) (state : State)
    (action : Action) (next : State) : Prop where
  taken : step inner state action = some next
  noFlush : ∀ index, action ≠ .advanceFlush index
  noAbandon : ∀ index, action ≠ .abandon index
  /-- earlier calls for the key are over -/
  old : ∀ index call, index < first → state.calls[index]? = some call →
    call.key inner = key → call.stage.finished = true
  /-- one call of the client at most holds the guard -/
  exclusive : ∀ (left right : Nat) (leftCall rightCall : ExchangeCall),
    next.calls[left]? = some leftCall → next.calls[right]? = some rightCall →
    leftCall.clientId = key.clientId → rightCall.clientId = key.clientId →
    leftCall.stage.guards = true → rightCall.stage.guards = true → left = right
  granted : ∀ index reply call, action = .answer index reply → state.calls[index]? = some call →
    call.key inner = key → ∃ jwt expiresIn, exchangeInner reply = .ok (jwt, expiresIn)
  steady : ∀ index call, first ≤ index → next.calls[index]? = some call →
    call.key inner = key → call.stage.unwinding = false

section Burst

variable {first : Nat} {key : CacheKey} {history : List (Moment State Action)}
  {state next : State} {action : Action}

theorem ExchangeCall.client_of_key {call : ExchangeCall} (keyed : call.key inner = key) :
    call.clientId = key.clientId := by rw [← keyed]; rfl

/-- A call for the key that still moves belongs to the burst. -/
theorem BurstStep.recent (known : BurstStep inner first key state action next) {index : Nat}
    {call : ExchangeCall} (found : state.calls[index]? = some call)
    (keyed : call.key inner = key) (unfinished : call.stage.finished = false) :
    first ≤ index := by
  by_contra earlier
  rw [known.old index call (by omega) found keyed] at unfinished
  cases unfinished

/-- The calls of a burst after a step: those that did not move are as they
were, a new one is at its start, and the one that moved is left to show. -/
theorem BurstStep.calls_from (known : BurstStep inner first key state action next)
    {before after : Nat → CallStage → Prop} (calls : CallsFrom inner first key state before)
    (still : ∀ index stage, before index stage → after index stage)
    (begins : ∀ index, after index .lookupPositive)
    (moves : ∀ index call stage, state.calls[index]? = some call → call.key inner = key →
      before index call.stage → CallMove inner state.shared index call.clientId call.secret action
        call.stage next.shared stage → next.calls[index]? = some { call with stage := stage } →
      after index stage) :
    CallsFrom inner first key next after := by
  intro index call recent found keyed
  cases call_origin known.taken found with
  | unchanged earlier => exact still index call.stage (calls index call recent earlier keyed)
  | begun _ _ same =>
      subst same
      exact begins index
  | @moved earlier stage here same move =>
      subst same
      exact moves index earlier stage here keyed (calls index earlier recent here keyed) move found

/-- A key without a token stays so unless a call for it stores one. -/
theorem tokenless_step (taken : step inner state action = some next)
    (tokenless : state.shared.positive.lookup key = none)
    (unstored : ∀ index clientId secret lock outcome, action = .advance index →
      state.calls[index]? = some ⟨clientId, secret, .storeOutcome lock outcome⟩ →
        cacheKey inner clientId secret ≠ key) :
    next.shared.positive.lookup key = none := by
  cases present : next.shared.positive.lookup key with
  | none => rfl
  | some cached =>
      have absent : ¬ (Entry.token cached).At state.shared key := by
        rw [Entry.At, tokenless]
        exact (Option.some_ne_none cached).symm
      rcases entry_appears taken absent present with
        ⟨index, clientId, secret, lock, outcome, same, store⟩
      exact absurd same.symm (unstored index clientId secret lock outcome store.action store.caller)

/-- A key without a failure stays so unless a call for it stores one. -/
theorem failureless_step (taken : step inner state action = some next)
    (failureless : state.shared.negative.lookup key = none)
    (unstored : ∀ index clientId secret lock error, action = .advance index →
      state.calls[index]? = some ⟨clientId, secret, .storeOutcome lock (.error error)⟩ →
        cacheKey inner clientId secret ≠ key) :
    next.shared.negative.lookup key = none := by
  cases present : next.shared.negative.lookup key with
  | none => rfl
  | some entry =>
      have absent : ¬ (Entry.failure entry).At state.shared key := by
        rw [Entry.At, failureless]
        exact (Option.some_ne_none entry).symm
      rcases entry_appears taken absent present with
        ⟨index, clientId, secret, lock, outcome, same, store⟩
      rcases store.of_failure with ⟨error, rfl, _⟩
      exact absurd same.symm (unstored index clientId secret lock error store.action store.caller)

/-- The posts counted after a step that sends none for the key. -/
theorem countP_silent (history : List (Moment State Action))
    (silent : sendsPost inner key (state, action) ≠ true) :
    (history ++ [(state, action)]).countP (sendsPost inner key) =
      history.countP (sendsPost inner key) := by
  simp [List.countP_append, silent]

theorem Progress.step_unsent (known : BurstStep inner first key state action next)
    (failureless : state.shared.negative.lookup key = none)
    (posts : history.countP (sendsPost inner key) = 0)
    (tokenless : state.shared.positive.lookup key = none)
    (calls : CallsFrom inner first key state
      (fun _ stage => stage.queued = true ∨ stage.ahead = true)) :
    Progress inner first key (history ++ [(state, action)]) next := by
  by_cases fires : sendsPost inner key (state, action) = true
  · rcases sendsPost_iff.mp fires with ⟨poster, clientId, secret, lock, acts, found, keyed⟩
    rcases moved_of_found known.taken (Or.inl acts) found with ⟨stage, move, there⟩
    rcases move.of_sendPost with ⟨sameShared, rfl⟩
    refine .outstanding (by simp [List.countP_append, posts, fires])
      (by rw [sameShared]; exact tokenless) there keyed (Or.inl ⟨_, _, rfl⟩) ?_
    intro index other recent listed otherKeyed different
    cases call_origin known.taken listed with
    | begun _ _ same =>
        subst same
        rfl
    | moved _ _ otherMove => exact absurd (otherMove.names.unique (Or.inl acts)) different
    | unchanged earlier =>
        rcases calls index other recent earlier otherKeyed with queued | ahead
        · exact queued
        · have guards : other.stage.guards = true := by
            rcases other with ⟨_, _, otherStage⟩
            cases otherStage <;> first | rfl | cases ahead
          exact absurd (known.exclusive index poster _ _ listed there
            (ExchangeCall.client_of_key otherKeyed) (ExchangeCall.client_of_key keyed) guards rfl)
            different
  · refine .unsent ((countP_silent history fires).trans posts) ?_ ?_
    · refine tokenless_step known.taken tokenless
        (fun index clientId secret lock result _ found keyed => ?_)
      have recent := known.recent found keyed rfl
      exact (calls index _ recent found keyed).elim (fun wrong => nomatch wrong)
        (fun wrong => nomatch wrong)
    · apply known.calls_from calls (fun _ _ same => same) (fun _ => Or.inl rfl)
      intro index call stage found keyed early move _
      rcases move.before_post (by rw [← keyed] at tokenless; exact tokenless)
        (by rw [← keyed] at failureless; exact failureless) (known.noAbandon index) early with
        queued | ahead | ⟨lock, sending⟩
      · exact Or.inl queued
      · exact Or.inr ahead
      · refine absurd (sendsPost_iff.mpr ⟨index, call.clientId, call.secret, lock, ?_, ?_, keyed⟩)
          fires
        · rcases move.names with acts | ⟨reply, acts⟩ | acts
          · exact acts
          · subst acts
            rw [sending] at move
            generalize next.shared = after at move
            cases move
          · exact absurd acts (known.noAbandon index)
        · rw [← sending]
          exact found

/-- No call of a burst sends a POST where the stages exclude it. -/
theorem BurstStep.silent (known : BurstStep inner first key state action next)
    {property : Nat → CallStage → Prop} (calls : CallsFrom inner first key state property)
    (excluded : ∀ index lock, ¬ property index (.sendPost lock)) :
    sendsPost inner key (state, action) ≠ true := by
  intro fires
  rcases sendsPost_iff.mp fires with ⟨index, clientId, secret, lock, _, found, keyed⟩
  exact excluded index lock (calls index _ (known.recent found keyed rfl) found keyed)

theorem CallStage.posting.guards {stage : CallStage} (posting : stage.posting) :
    stage.guards = true := by
  rcases posting with ⟨lock, post, rfl⟩ | ⟨lock, jwt, expiresIn, rfl⟩ <;> rfl

/-- Somebody else moves.  The poster keeps the guard, so nobody joins it. -/
theorem Progress.step_beside (known : BurstStep inner first key state action next)
    (failureless : state.shared.negative.lookup key = none) {poster : Nat} {call : ExchangeCall}
    (counted : (history ++ [(state, action)]).countP (sendsPost inner key) = 1)
    (tokenless : state.shared.positive.lookup key = none)
    (found : state.calls[poster]? = some call) (there : next.calls[poster]? = some call)
    (keyed : call.key inner = key) (posting : call.stage.posting)
    (calls : CallsFrom inner first key state
      (fun index stage => index ≠ poster → stage.queued = true)) :
    Progress inner first key (history ++ [(state, action)]) next := by
  refine .outstanding counted ?_ there keyed posting ?_
  · refine tokenless_step known.taken tokenless
      (fun index clientId secret lock result acts here otherKeyed => ?_)
    by_cases mover : index = poster
    · subst mover
      exact absurd there (not_still_of_named known.taken (Or.inl acts) found)
    · cases calls index _ (known.recent here otherKeyed rfl) here otherKeyed mover
  · apply known.calls_from calls (fun _ _ queued => queued) (fun _ _ => rfl)
    intro index other later here otherKeyed queued move moved different
    rcases move.of_queued (by rw [← otherKeyed] at tokenless; exact tokenless)
      (by rw [← otherKeyed] at failureless; exact failureless) (known.noAbandon index)
      (queued different) with still | guards
    · exact still
    · exact absurd (known.exclusive index poster _ _ moved there
        (ExchangeCall.client_of_key otherKeyed) (ExchangeCall.client_of_key keyed) guards
        posting.guards) different

/-- The poster moves: its POST is answered, or it stores the token. -/
theorem Progress.step_poster (known : BurstStep inner first key state action next)
    {poster : Nat} {call : ExchangeCall} {stage : CallStage}
    (counted : (history ++ [(state, action)]).countP (sendsPost inner key) = 1)
    (tokenless : state.shared.positive.lookup key = none)
    (found : state.calls[poster]? = some call) (recent : first ≤ poster)
    (move : CallMove inner state.shared poster call.clientId call.secret action call.stage
      next.shared stage)
    (there : next.calls[poster]? = some { call with stage := stage })
    (keyed : call.key inner = key) (posting : call.stage.posting)
    (calls : CallsFrom inner first key state
      (fun index stage => index ≠ poster → stage.queued = true)) :
    Progress inner first key (history ++ [(state, action)]) next := by
  have others : CallsFrom inner first key next
      (fun index stage => index ≠ poster → stage.queued = true) := by
    apply known.calls_from calls (fun _ _ queued => queued) (fun _ _ => rfl)
    intro index other later _ _ _ otherMove _ different
    exact absurd (otherMove.names.unique move.names) different
  rcases move.of_posting (known.noAbandon poster) posting with
    ⟨reply, lock, acts, sameShared, rfl⟩ |
    ⟨lock, jwt, expiresIn, deadline, acts, storing, added, stored, rfl⟩ | unwinding
  · rcases known.granted poster reply call acts found keyed with ⟨jwt, expiresIn, granted⟩
    rw [granted] at there
    exact .outstanding counted (by rw [sameShared]; exact tokenless) there keyed
      (Or.inr ⟨lock, jwt, expiresIn, rfl⟩) others
  · subst acts
    rcases call with ⟨clientId, secret, current⟩
    obtain rfl : current = .storeOutcome lock (.ok (jwt, expiresIn)) := storing
    have store : Store inner (state, .advance poster) poster clientId secret lock
        (.ok (jwt, expiresIn)) (.token ⟨jwt, deadline⟩) := ⟨rfl, found, .token added⟩
    refine .stored counted ?_ Passed.last recent keyed store ?_
    · rw [stored, ← keyed]
      exact Finmap.lookup_insert _
    · intro index other listedFrom listed otherKeyed
      by_cases same : index = poster
      · subst same
        rcases Option.some.inj (there.symm.trans listed) with rfl
        exact Or.inr (Or.inr (decide_eq_true rfl))
      · exact Or.inl (others index other listedFrom listed otherKeyed same)
  · have steady := known.steady poster _ recent there keyed
    change stage.unwinding = false at steady
    rw [unwinding] at steady
    cases steady

theorem Progress.step_outstanding (known : BurstStep inner first key state action next)
    (failureless : state.shared.negative.lookup key = none) {poster : Nat} {call : ExchangeCall}
    (posts : history.countP (sendsPost inner key) = 1)
    (tokenless : state.shared.positive.lookup key = none)
    (found : state.calls[poster]? = some call) (keyed : call.key inner = key)
    (posting : call.stage.posting)
    (calls : CallsFrom inner first key state
      (fun index stage => index ≠ poster → stage.queued = true)) :
    Progress inner first key (history ++ [(state, action)]) next := by
  have unfinished : call.stage.finished = false := by
    rcases posting with ⟨lock, post, stage⟩ | ⟨lock, jwt, expiresIn, stage⟩ <;> rw [stage] <;> rfl
  have recent := known.recent found keyed unfinished
  have silent : sendsPost inner key (state, action) ≠ true := by
    intro fires
    rcases sendsPost_iff.mp fires with ⟨index, clientId, secret, lock, _, here, otherKeyed⟩
    by_cases same : index = poster
    · subst same
      rw [found] at here
      cases here
      rcases posting with ⟨_, _, wrong⟩ | ⟨_, _, _, wrong⟩ <;> cases wrong
    · cases calls index _ (known.recent here otherKeyed rfl) here otherKeyed same
  have counted := (countP_silent history silent).trans posts
  rcases call_persists known.taken found with ⟨stage, there, same | move⟩
  · rw [same] at there
    exact Progress.step_beside known failureless counted tokenless found there keyed posting calls
  · exact Progress.step_poster known counted tokenless found recent move there keyed posting calls

theorem Progress.step_stored (known : BurstStep inner first key state action next)
    (failureless : state.shared.negative.lookup key = none)
    {before : List (Moment State Action)} {storer : State} {index : Nat}
    {clientId secret : String} {lock : LockId} {outcome : ExchangeResult} {cached : CachedToken}
    (posts : history.countP (sendsPost inner key) = 1)
    (present : state.shared.positive.lookup key = some cached)
    (passed : Passed history before (storer, .advance index)) (recent : first ≤ index)
    (keyed : cacheKey inner clientId secret = key)
    (store : Store inner (storer, .advance index) index clientId secret lock outcome
      (.token cached))
    (calls : CallsFrom inner first key state (fun _ stage => stage.settling cached.jwt))
    (live : ∀ mover call, action.Names mover → state.calls[mover]? = some call →
      call.key inner = key → call.stage.finished = false →
        state.shared.clock < cached.expiresAt) :
    Progress inner first key (history ++ [(state, action)]) next := by
  have excluded : ∀ stage : CallStage, stage.queued = false →
      (∀ lock, stage ≠ .recheckPositive lock) → stage.serves cached.jwt = false →
        ¬ stage.settling cached.jwt := by
    rintro stage unqueued noRecheck unserved (queued | ⟨lock, recheck⟩ | serves)
    · rw [unqueued] at queued
      cases queued
    · exact noRecheck lock recheck
    · rw [unserved] at serves
      cases serves
  have silent := known.silent calls
    (fun _ lock => excluded (.sendPost lock) rfl (fun _ wrong => nomatch wrong) rfl)
  refine .stored ((countP_silent history silent).trans posts) ?_ passed.snoc recent keyed store ?_
  · cases positive_change known.taken with
    | kept same => rwa [same]
    | flushed acts => exact absurd acts (known.noFlush _)
    | @evicted mover client otherSecret _ found erased =>
        have different : key ≠ cacheKey inner client otherSecret := fun same =>
          excluded .evictPositive rfl (fun _ wrong => nomatch wrong) rfl
            (calls mover _ (known.recent found same.symm rfl) found same.symm)
        rw [erased, Finmap.lookup_erase_ne different]
        exact present
    | @stored mover client otherSecret otherLock otherOutcome other otherStore inserted =>
        have different : key ≠ cacheKey inner client otherSecret := fun same =>
          excluded (.storeOutcome otherLock otherOutcome) rfl
            (fun _ wrong => nomatch wrong) rfl
            (calls mover _ (known.recent otherStore.caller same.symm rfl) otherStore.caller
              same.symm)
        rw [inserted, Finmap.lookup_insert_of_ne _ different]
        exact present
  · apply known.calls_from calls (fun _ _ settling => settling) (fun _ => Or.inl rfl)
    intro mover call stage found otherKeyed settling move _
    exact move.after_store (by rw [← otherKeyed] at present; exact present)
      (live mover call move.names found otherKeyed move.unfinished)
      (by rw [← otherKeyed] at failureless; exact failureless) (known.noAbandon mover) settling

/-- In no phase does a call for the key hold a failure to store. -/
theorem Progress.no_failure (progress : Progress inner first key history state) {index : Nat}
    (recent : first ≤ index) {clientId secret : String} {lock : LockId} {error : AuthError}
    (found : state.calls[index]? = some ⟨clientId, secret, .storeOutcome lock (.error error)⟩) :
    cacheKey inner clientId secret ≠ key := by
  intro keyed
  cases progress with
  | unsent _ _ calls =>
      exact (calls index _ recent found keyed).elim (fun wrong => nomatch wrong)
        (fun wrong => nomatch wrong)
  | @outstanding poster call _ _ here _ posting calls =>
      by_cases same : index = poster
      · subst same
        rw [found] at here
        cases here
        rcases posting with ⟨_, _, wrong⟩ | ⟨_, _, _, wrong⟩ <;> cases wrong
      · cases calls index _ recent found keyed same
  | stored _ _ _ _ _ _ calls =>
      rcases calls index _ recent found keyed with wrong | ⟨_, wrong⟩ | wrong <;> cases wrong

end Burst

/-! ## A whole burst -/

/-- The step of this moment makes a call for the key return. -/
def Returns (inner : ExchangerInner) (key : CacheKey) (moment : Moment State Action) : Prop :=
  ∃ index clientId secret stage next result, moment.2 = .advance index ∧
    moment.1.calls[index]? = some ⟨clientId, secret, stage⟩ ∧
    cacheKey inner clientId secret = key ∧ step inner moment.1 moment.2 = some next ∧
    next.calls[index]? = some ⟨clientId, secret, .returned result⟩

/-- A run of calls for one key among other calls, without flushes and without
abandoned calls, in which the IdP grants every POST for the key. -/
structure GrantedBurst (inner : ExchangerInner) (key : CacheKey) (start : State)
    (history : List (Moment State Action)) (last : State) : Prop where
  noFlush : ∀ moment ∈ history, ∀ index, moment.2 ≠ .advanceFlush index
  noAbandon : ∀ moment ∈ history, ∀ index, moment.2 ≠ .abandon index
  granted : ∀ moment ∈ history, ∀ index reply call, moment.2 = .answer index reply →
    moment.1.calls[index]? = some call → call.key inner = key →
    ∃ jwt expiresIn, reply.Grants jwt expiresIn ∧ 0 < (positiveTtl inner expiresIn).nanos
  /-- every call for the key that began in the run has returned -/
  returned : ∀ (index : Nat) (call : ExchangeCall), start.calls.length ≤ index →
    last.calls[index]? = some call → call.key inner = key →
    ∃ result, call.stage = .returned result
  /-- and did so before the stored token expired -/
  inTime : ∀ before storer index clientId secret lock outcome cached,
    Passed history before (storer, .advance index) →
    Store inner (storer, .advance index) index clientId secret lock outcome (.token cached) →
    cacheKey inner clientId secret = key →
    ∀ moment ∈ history, Returns inner key moment → moment.1.shared.clock < cached.expiresAt

/-- A call that is under way and has returned by the end of a run did so at a
moment of it. -/
theorem returns_later {start last : State} {history : List (Moment State Action)}
    (run : Run (step inner) start history last) {index : Nat} {call : ExchangeCall}
    (found : start.calls[index]? = some call) (unfinished : call.stage.finished = false)
    {result : Except AuthError String}
    (finally_ : last.calls[index]? = some { call with stage := .returned result }) :
    ∃ moment ∈ history, Returns inner (call.key inner) moment ∧
      start.shared.clock ≤ moment.1.shared.clock := by
  have absent : ¬ start.calls[index]? = some { call with stage := .returned result } := by
    intro here
    rw [found] at here
    rw [Option.some.inj here] at unfinished
    cases unfinished
  obtain ⟨before, ⟨mover, action⟩, after, next, rfl, first, missing, taken, present, _⟩ :=
    run.last_crossing
      (fun state => state.calls[index]? = some { call with stage := .returned result })
      absent finally_
  refine ⟨(mover, action), by simp, ?_, clock_le_of_run first⟩
  cases call_origin taken present with
  | unchanged here => exact absurd here missing
  | begun _ _ same => cases same
  | @moved earlier stage here same move =>
      rcases earlier with ⟨clientId, secret, current⟩
      cases same
      refine ⟨index, call.clientId, call.secret, current, next, result, ?_, here, rfl, taken, present⟩
      rcases move.names with acts | ⟨reply, acts⟩ | acts
      · exact acts
      · subst acts
        generalize next.shared = shared at move
        cases move
      · subst acts
        generalize next.shared = shared at move
        cases move

/-- Without flush steps and with no call of the client under way at the start,
handles stay current. -/
theorem handles_current_of_run {clock : Instant} {past history : List (Moment State Action)}
    {start last : State} {clientId : String}
    (earlier : Run (step inner) (State.initial clock) past start)
    (idle : ∀ call ∈ start.calls, call.clientId = clientId → ¬ call.Pending)
    (run : Run (step inner) start history last)
    (noFlush : ∀ moment ∈ history, ∀ index, moment.2 ≠ .advanceFlush index) :
    HandlesCurrent clientId last := by
  refine run.history_invariant (fun before state =>
    (∀ moment ∈ before, ∀ index, moment.2 ≠ .advanceFlush index) → HandlesCurrent clientId state)
    ?_ ?_ noFlush
  · intro _ call listed sameClient lock held
    have ended := ExchangeCall.finished_of_not_pending (idle call listed sameClient)
    rw [ExchangeCall.handle_of_finished ended] at held
    cases held
  · intro before state action next sofar current taken spared
    refine (current (fun moment member => spared moment (List.mem_append_left _ member))).step
      (sound_of_run (earlier.append sofar)) taken ?_
    rintro ⟨index, _, _, acts, _⟩
    exact spared (state, action) (by simp) index acts

section Whole

variable {clock : Instant} {past history : List (Moment State Action)} {start last : State}
  {key : CacheKey}

/-- Calls for the key that were there at the start stay finished. -/
theorem finished_of_idle
    (idle : ∀ call ∈ start.calls, call.clientId = key.clientId → ¬ call.Pending)
    (run : Run (step inner) start history last) {index : Nat} {call : ExchangeCall}
    (before : index < start.calls.length) (found : last.calls[index]? = some call)
    (keyed : call.key inner = key) : call.stage.finished = true := by
  have known := List.getElem?_eq_getElem before
  rcases call_of_run run known with ⟨stage, here, _⟩
  rw [found] at here
  have sameClient : start.calls[index].clientId = key.clientId := by
    rw [← ExchangeCall.client_of_key keyed, Option.some.inj here]
  have ended := ExchangeCall.finished_of_not_pending
    (idle _ (List.getElem_mem before) sameClient)
  have stays := finished_of_run run known ended
  rw [found] at stays
  rwa [Option.some.inj stays]

/-- A call that returns in the end was not unwinding before. -/
theorem steady_of_returned (run : Run (step inner) start history last) {index : Nat}
    {call : ExchangeCall} {result : Except AuthError String}
    (found : start.calls[index]? = some call)
    (ended : last.calls[index]? = some { call with stage := .returned result }) :
    call.stage.unwinding = false := by
  have early : call.stage.rank ≤ 14 := rank_le_of_run run found ended
  rw [Bool.eq_false_iff]
  intro unwinds
  have late : 15 ≤ call.stage.rank := (CallStage.unwinding_iff call.stage).mp unwinds
  omega

section WithinBurst

variable {before after : List (Moment State Action)} {state next : State} {action : Action}

/-- A call of a burst that is there now has returned in the end. -/
theorem GrantedBurst.ends_returned (burst : GrantedBurst inner key start history last)
    (rest : Run (step inner) next after last) {index : Nat} {call : ExchangeCall}
    (recent : start.calls.length ≤ index) (found : next.calls[index]? = some call)
    (keyed : call.key inner = key) :
    ∃ result, last.calls[index]? = some { call with stage := .returned result } := by
  rcases call_of_run rest found with ⟨stage, here, _⟩
  rcases burst.returned index _ recent here keyed with ⟨result, rfl⟩
  exact ⟨result, here⟩

/-- What a burst as a whole says of each of its steps. -/
theorem GrantedBurst.step_known (burst : GrantedBurst inner key start history last)
    (earlier : Run (step inner) (State.initial clock) past start)
    (idle : ∀ call ∈ start.calls, call.clientId = key.clientId → ¬ call.Pending)
    (passed : Passed history before (state, action)) (sofar : Run (step inner) start before state)
    (taken : step inner state action = some next) (rest : Run (step inner) next after last) :
    BurstStep inner start.calls.length key state action next := by
  have current := handles_current_of_run earlier idle (sofar.snoc taken)
    (fun moment member => burst.noFlush moment (passed.subset member))
  have sound := sound_of_run (earlier.append (sofar.snoc taken))
  exact
    { taken := taken
      noFlush := burst.noFlush (state, action) passed.mem
      noAbandon := burst.noAbandon (state, action) passed.mem
      old := fun index call early found keyed => finished_of_idle idle sofar early found keyed
      exclusive := fun left right leftCall rightCall foundLeft foundRight leftClient
        rightClient leftGuards rightGuards => current.guard_unique sound foundLeft foundRight
          leftClient rightClient leftGuards rightGuards
      granted := fun index reply call acts found keyed => by
        rcases burst.granted (state, action) passed.mem index reply call acts found keyed with
          ⟨jwt, expiresIn, grants, _⟩
        exact ⟨jwt, expiresIn, TokenReply.ok_of_grants grants⟩
      steady := fun index call recent found keyed => by
        rcases burst.ends_returned rest recent found keyed with ⟨result, here⟩
        exact steady_of_returned rest found here }

/-- While a call of a burst is under way, the token it has stored is live. -/
theorem GrantedBurst.live (burst : GrantedBurst inner key start history last)
    (passed : Passed history before (state, action)) (taken : step inner state action = some next)
    (rest : Run (step inner) next after last) (split : history = before ++ (state, action) :: after)
    {earlier : List (Moment State Action)} {storer : State} {index mover : Nat}
    {clientId secret : String} {lock : LockId} {outcome : ExchangeResult} {cached : CachedToken}
    (passedStore : Passed before earlier (storer, .advance index))
    (keyed : cacheKey inner clientId secret = key)
    (store : Store inner (storer, .advance index) index clientId secret lock outcome
      (.token cached))
    {call : ExchangeCall} (recent : start.calls.length ≤ mover)
    (found : state.calls[mover]? = some call) (moverKeyed : call.key inner = key)
    (unfinished : call.stage.finished = false) : state.shared.clock < cached.expiresAt := by
  rcases call_persists taken found with ⟨stage, there, _⟩
  rcases burst.ends_returned rest recent there moverKeyed with ⟨result, ended⟩
  rcases returns_later (Run.cons taken rest) found unfinished ended with
    ⟨moment, member, returns, later⟩
  have inHistory : moment ∈ history := by
    rw [split]
    exact List.mem_append_right _ member
  rw [moverKeyed] at returns
  exact Nat.lt_of_le_of_lt later (burst.inTime _ storer index _ _ _ _ cached
    (passedStore.extend passed.before_prefix) store keyed moment inHistory returns)

end WithinBurst

/-- Every state of a burst is in one of the three phases. -/
theorem progress_of_burst (earlier : Run (step inner) (State.initial clock) past start)
    (tokenless : start.shared.positive.lookup key = none)
    (failureless : start.shared.negative.lookup key = none)
    (idle : ∀ call ∈ start.calls, call.clientId = key.clientId → ¬ call.Pending)
    (run : Run (step inner) start history last) (burst : GrantedBurst inner key start history last) :
    Progress inner start.calls.length key history last := by
  have whole : history <+: history → last.shared.negative.lookup key = none ∧
      Progress inner start.calls.length key history last := by
    refine run.history_invariant (fun before state => before <+: history →
      state.shared.negative.lookup key = none ∧
        Progress inner start.calls.length key before state) ?_ ?_
    · refine fun _ => ⟨failureless, .unsent rfl tokenless ?_⟩
      intro index call recent found
      rw [List.getElem?_eq_none recent] at found
      cases found
    · intro before state action next sofar holds taken isPrefix
      have passed : Passed history before (state, action) := isPrefix
      rcases holds passed.before_prefix with ⟨failureless, progress⟩
      rcases passed.cut run with ⟨next', after, split, _, again, rest⟩
      rcases Option.some.inj (taken.symm.trans again) with rfl
      have known := burst.step_known earlier idle passed sofar taken rest
      have failureless' : next.shared.negative.lookup key = none :=
        failureless_step taken failureless (fun index clientId secret lock error _ found keyed =>
          progress.no_failure (known.recent found keyed rfl) found keyed)
      refine ⟨failureless', ?_⟩
      cases progress with
      | unsent posts tokenless calls => exact .step_unsent known failureless posts tokenless calls
      | outstanding posts tokenless found keyed posting calls =>
          exact .step_outstanding known failureless posts tokenless found keyed posting calls
      | stored posts present passedStore recent keyed store calls =>
          refine .step_stored known failureless posts present passedStore recent keyed store calls ?_
          intro mover call names found moverKeyed unfinished
          have moverRecent := known.recent found moverKeyed unfinished
          exact burst.live passed taken rest split passedStore keyed store moverRecent found
            moverKeyed unfinished
  exact (whole List.prefix_rfl).2

/-- A burst of calls for a key that neither cache knows sends exactly one POST,
and every call returns the token of its answer. -/
theorem coalescing (earlier : Run (step inner) (State.initial clock) past start)
    (tokenless : start.shared.positive.lookup key = none)
    (failureless : start.shared.negative.lookup key = none)
    (idle : ∀ call ∈ start.calls, call.clientId = key.clientId → ¬ call.Pending)
    (run : Run (step inner) start history last) (burst : GrantedBurst inner key start history last)
    (nonempty : ∃ (index : Nat) (call : ExchangeCall), start.calls.length ≤ index ∧
      last.calls[index]? = some call ∧ call.key inner = key) :
    history.countP (sendsPost inner key) = 1 ∧
    ∃ jwt, (∃ index clientId secret post reply expiresIn, cacheKey inner clientId secret = key ∧
        Answered inner history index clientId secret post reply ∧ reply.Grants jwt expiresIn) ∧
      ∀ (index : Nat) (call : ExchangeCall), start.calls.length ≤ index →
        last.calls[index]? = some call → call.key inner = key →
        call.stage = .returned (.ok jwt) := by
  have progress := progress_of_burst earlier tokenless failureless idle run burst
  cases progress with
  | unsent _ _ calls =>
      rcases nonempty with ⟨index, call, recent, found, keyed⟩
      rcases burst.returned index call recent found keyed with ⟨result, ended⟩
      have waiting := calls index call recent found keyed
      rw [ended] at waiting
      rcases waiting with wrong | wrong <;> cases wrong
  | @outstanding poster call _ _ found keyed posting calls =>
      have recent : start.calls.length ≤ poster := by
        by_contra before
        have ended := finished_of_idle idle run (Nat.lt_of_not_le before) found keyed
        rcases posting with ⟨_, _, stage⟩ | ⟨_, _, _, stage⟩ <;> rw [stage] at ended <;> cases ended
      rcases burst.returned poster call recent found keyed with ⟨result, ended⟩
      rcases posting with ⟨_, _, stage⟩ | ⟨_, _, _, stage⟩ <;> rw [ended] at stage <;> cases stage
  | @stored before storer index clientId secret lock outcome cached posts _ passed recent keyed
      store calls =>
      refine ⟨posts, cached.jwt, ?_, ?_⟩
      · rcases passed.cut run with ⟨_, _, _, runToStorer, _, _⟩
        rcases accounted_of_run runToStorer (List.getElem?_eq_none recent) store.caller with
          ⟨post, reply, answered, classified⟩
        rcases store.of_token with ⟨expiresIn, same, _⟩
        exact ⟨index, clientId, secret, post, reply, expiresIn, keyed,
          answered.extend passed.before_prefix,
          TokenReply.grants_of_ok (classified.trans same)⟩
      · intro other call recentOther found otherKeyed
        rcases burst.returned other call recentOther found otherKeyed with ⟨result, ended⟩
        have settling := calls other call recentOther found otherKeyed
        rw [ended] at settling ⊢
        rcases settling with wrong | ⟨_, wrong⟩ | serves
        · cases wrong
        · cases wrong
        · rw [of_decide_eq_true serves]

end Whole

/-- No flush and no abandonment, one kind of answer and of outcome, early
clocks. -/
def plain (moment : Moment State Action) : Bool :=
  (match moment.2 with
    | .advanceFlush _ | .abandon _ => false
    | .answer _ reply => exchangeInner reply = .ok ("jwt", some 300)
    | _ => true) &&
  moment.1.shared.clock < 100 &&
  moment.1.calls.all (fun call =>
    match call.stage with
    | .storeOutcome _ (.ok (_, expiresIn)) => expiresIn = some 300
    | _ => true)

/-- A burst of two calls: the second misses the cache before the first one's
token is stored, and finds it once it has the guard. -/
theorem coalescing_of_two_calls :
    ∃ history last, Run (step sampleInner) (State.initial 0) history last ∧
      last.calls = [⟨"c", "sec", .returned (.ok "jwt")⟩, ⟨"c", "sec", .returned (.ok "jwt")⟩] ∧
      history.countP (sendsPost sampleInner (cacheKey sampleInner "c" "sec")) = 1 := by
  obtain ⟨history, last, run, observed⟩ := execute_observed (step sampleInner)
    (State.initial 0)
    [.exchange "c" "sec", .advance 0, .advance 0, .advance 0, .advance 0, .advance 0,
      .advance 0, .exchange "c" "sec", .advance 1, .advance 1, .advance 1, .tick 7,
      .answer 0 (sampleGrant "jwt" 300), .advance 0, .advance 0, .advance 0, .advance 0,
      .advance 0, .advance 1, .advance 1, .advance 1, .advance 1, .advance 1]
    (fun history state => (state.calls, history.all plain))
    ([⟨"c", "sec", .returned (.ok "jwt")⟩, ⟨"c", "sec", .returned (.ok "jwt")⟩], true)
    (by decide +kernel)
  rcases Prod.mk.inj observed with ⟨calls, checked⟩
  have plainly := List.all_eq_true.mp checked
  refine ⟨history, last, run, calls, (coalescing Run.nil rfl rfl (fun _ listed => nomatch listed)
    run ?_ ⟨0, ⟨"c", "sec", .returned (.ok "jwt")⟩, Nat.le_refl _, by rw [calls]; rfl, rfl⟩).1⟩
  refine ⟨?_, ?_, ?_, ?_, ?_⟩
  · rintro ⟨state, action⟩ member index rfl
    cases plainly _ member
  · rintro ⟨state, action⟩ member index rfl
    cases plainly _ member
  · rintro ⟨state, action⟩ member index reply call rfl _ _
    have good := plainly _ member
    simp only [plain, Bool.and_eq_true, decide_eq_true_eq] at good
    exact ⟨"jwt", some 300, TokenReply.grants_of_ok good.1.1, by decide +kernel⟩
  · intro index call _ found _
    rw [calls] at found
    obtain rfl : call = ⟨"c", "sec", .returned (.ok "jwt")⟩ := by
      rcases index with _ | _ | index <;> cases found <;> rfl
    exact ⟨_, rfl⟩
  · intro before storer index clientId secret lock outcome cached passed store _ moment member _
    have good := plainly _ member
    have stored := plainly _ passed.mem
    simp only [plain, Bool.and_eq_true, decide_eq_true_eq, List.all_eq_true] at good stored
    rcases store.of_token with ⟨expiresIn, rfl, added⟩
    obtain rfl : expiresIn = some 300 :=
      of_decide_eq_true (stored.2 _ (List.mem_of_getElem? store.caller))
    have deadline := Instant.checkedAdd_eq_some added
    have long : 100 < (positiveTtl sampleInner (some 300)).nanos := by decide +kernel
    rw [deadline]
    exact Nat.lt_of_lt_of_le (Nat.lt_trans good.1.2 long) (Nat.le_add_left _ _)

end Exchange
end OidcRs
