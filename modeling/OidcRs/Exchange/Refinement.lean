import OidcRs.Exchange.NegativeCaching
import OidcRs.Exchange.Reference

namespace OidcRs
namespace Exchange

open Foundation

/-!
# The two maps refine the one

When calls follow one another, the exchanger shows nothing that the reference
machine cannot show.  Between calls a key is in one of the two maps at most,
and the reference slot is whichever entry is there.  During a call the relation
says how far the key of the call may deviate: an expired entry is evicted
before the slot is overwritten, and a token is inserted before the failure it
supersedes is removed.
-/

variable {inner : ExchangerInner}

/-! ## The exchanger as a machine with events -/

/-- The event of a call's own step, from the stages around it. -/
def moveEvent (inner : ExchangerInner) (clientId secret : String) :
    CallStage → CallStage → Option Reference.Event
  | .sendPost _, _ => some (.posted (tokenPost inner clientId secret))
  | _, .returned result => some (.returned result)
  | _, _ => none

/-- The event of a step, with calls told apart by nothing but their order. -/
def event (inner : ExchangerInner) (moment : Moment State Action) : Option Reference.Event :=
  match moment.2 with
  | .exchange clientId secret => some (.called clientId secret)
  | .answer _ reply => some (.answered reply)
  | .abandon _ => none
  | .flush scope => some (.flushCalled scope)
  | .tick elapsed => some (.elapsed elapsed)
  | .advance index =>
      match moment.1.calls[index]?, step inner moment.1 moment.2 with
      | some call, some next =>
          (next.calls[index]?).bind (fun later =>
            moveEvent inner call.clientId call.secret call.stage later.stage)
      | _, _ => none
  | .advanceFlush index =>
      match step inner moment.1 moment.2 with
      | some next =>
          match next.flushes[index]? with
          | some ⟨_, .returned posEvicted negEvicted⟩ => some (.flushReturned posEvicted negEvicted)
          | _ => none
      | none => none

def machine (inner : ExchangerInner) : Machine State Action Reference.Event :=
  ⟨step inner, event inner⟩

def FlushStage.finished : FlushStage → Bool
  | returned _ _ | overflowed => true
  | _ => false

/-- Nothing is under way. -/
structure Quiet (state : State) : Prop where
  calls : ∀ (index : Nat) (call : ExchangeCall), state.calls[index]? = some call →
    call.stage.finished = true
  flushes : ∀ (index : Nat) (call : FlushCall), state.flushes[index]? = some call →
    call.stage.finished = true

/-- One after another: a call begins when nothing is under way and runs to its
end, and the deadlines it computes are representable. -/
def Sequential (inner : ExchangerInner) (moment : Moment State Action) : Prop :=
  match moment.2 with
  | .exchange _ _ | .flush _ => Quiet moment.1
  | .abandon _ => False
  | .advance index => ∀ clientId secret lock outcome ttl,
      moment.1.calls[index]? = some ⟨clientId, secret, .storeOutcome lock outcome⟩ →
      storedTtl inner outcome = some ttl → Instant.checkedAdd moment.1.shared.clock ttl ≠ none
  | .answer _ _ | .advanceFlush _ | .tick _ => True

/-! ## Slots and entries -/

/-- What the two maps say about a key, as one slot. -/
inductive SlotAt (positive : KeyedMap CacheKey CachedToken)
    (negative : KeyedMap CacheKey NegativeEntry) (key : CacheKey) :
    Option Reference.Slot → Prop
  | token {cached : CachedToken} (found : positive.lookup key = some cached)
      (failureless : negative.lookup key = none) :
      SlotAt positive negative key (some (.token cached.jwt cached.expiresAt))
  | failed {entry : NegativeEntry} (tokenless : positive.lookup key = none)
      (found : negative.lookup key = some entry) :
      SlotAt positive negative key (some (.failed entry.error entry.until))
  | empty (tokenless : positive.lookup key = none) (failureless : negative.lookup key = none) :
      SlotAt positive negative key none

/-- The one map agrees with the two maps on all keys but those excepted. -/
def Agrees (positive : KeyedMap CacheKey CachedToken) (negative : KeyedMap CacheKey NegativeEntry)
    (slots : KeyedMap CacheKey Reference.Slot) (excepted : CacheKey → Prop) : Prop :=
  ∀ key, ¬ excepted key → SlotAt positive negative key (slots.lookup key)

section Slots

variable {positive otherPositive : KeyedMap CacheKey CachedToken}
  {negative otherNegative : KeyedMap CacheKey NegativeEntry}
  {slots : KeyedMap CacheKey Reference.Slot} {key other : CacheKey} {slot : Option Reference.Slot}

theorem SlotAt.congr (at_ : SlotAt positive negative key slot)
    (samePositive : otherPositive.lookup other = positive.lookup key)
    (sameNegative : otherNegative.lookup other = negative.lookup key) :
    SlotAt otherPositive otherNegative other slot := by
  cases at_ with
  | token found failureless =>
      exact .token (samePositive.trans found) (sameNegative.trans failureless)
  | failed tokenless found =>
      exact .failed (samePositive.trans tokenless) (sameNegative.trans found)
  | empty tokenless failureless =>
      exact .empty (samePositive.trans tokenless) (sameNegative.trans failureless)

/-- A key is never in both maps. -/
theorem SlotAt.disjoint (at_ : SlotAt positive negative key slot) :
    positive.lookup key = none ∨ negative.lookup key = none := by
  cases at_ with
  | token _ failureless => exact Or.inr failureless
  | failed tokenless | empty tokenless => exact Or.inl tokenless

/-- Changing the entries of the excepted key alone keeps the agreement. -/
theorem Agrees.except {excepted : CacheKey → Prop} (agrees : Agrees positive negative slots excepted)
    (includes : ∀ other, excepted other → other = key)
    (samePositive : ∀ other, other ≠ key → otherPositive.lookup other = positive.lookup other)
    (sameNegative : ∀ other, other ≠ key → otherNegative.lookup other = negative.lookup other) :
    Agrees otherPositive otherNegative slots (fun other => other = key) := by
  intro other different
  exact (agrees other (fun wrong => different (includes other wrong))).congr
    (samePositive other different) (sameNegative other different)

/-- Overwriting the excepted slot restores the agreement. -/
theorem Agrees.restore (agrees : Agrees positive negative slots (fun other => other = key))
    (samePositive : ∀ other, other ≠ key → otherPositive.lookup other = positive.lookup other)
    (sameNegative : ∀ other, other ≠ key → otherNegative.lookup other = negative.lookup other)
    (here : SlotAt otherPositive otherNegative key slot) :
    Agrees otherPositive otherNegative (Reference.overwrite slots key slot) (fun _ => False) := by
  intro other _
  by_cases same : other = key
  · subst same
    cases slot with
    | none => simpa only [Reference.overwrite, Finmap.lookup_erase] using here
    | some written => simpa only [Reference.overwrite, Finmap.lookup_insert] using here
  · have kept : (Reference.overwrite slots key slot).lookup other = slots.lookup other := by
      cases slot with
      | none => exact Finmap.lookup_erase_ne same
      | some written => exact Finmap.lookup_insert_of_ne _ same
    rw [kept]
    exact (agrees other same).congr (samePositive other same) (sameNegative other same)

end Slots

/-! ## The phases of a call -/

/-- Stages between a miss of both maps and the POST. -/
def CallStage.missing : CallStage → Bool
  | lookupNegative | takeHandle | awaitLock _ | recheckPositive _ | sendPost _ => true
  | _ => false

/-- Stages between the last change of the maps and the return. -/
def CallStage.leaves : CallStage → Option (Except AuthError String)
  | dropGuard _ result | dropLock _ result | cleanupInflight result => some result
  | _ => none

/-- What a call is doing, in the exchanger and in the reference machine. -/
inductive ExchangePhase (inner : ExchangerInner) (positive : KeyedMap CacheKey CachedToken)
    (negative : KeyedMap CacheKey NegativeEntry) (slots : KeyedMap CacheKey Reference.Slot)
    (clientId secret : String) : CallStage → Reference.Activity → Prop
  | starting (agrees : Agrees positive negative slots (fun _ => False)) :
      ExchangePhase inner positive negative slots clientId secret .lookupPositive
        (.reading clientId secret)
  | tokenExpired
      (agrees : Agrees positive negative slots (fun key => key = cacheKey inner clientId secret))
      (failureless : negative.lookup (cacheKey inner clientId secret) = none) :
      ExchangePhase inner positive negative slots clientId secret .evictPositive
        (.sending clientId secret)
  | looking (agrees : Agrees positive negative slots (fun _ => False))
      (tokenless : positive.lookup (cacheKey inner clientId secret) = none) :
      ExchangePhase inner positive negative slots clientId secret .lookupNegative
        (.reading clientId secret)
  | failureExpired
      (agrees : Agrees positive negative slots (fun key => key = cacheKey inner clientId secret))
      (tokenless : positive.lookup (cacheKey inner clientId secret) = none) :
      ExchangePhase inner positive negative slots clientId secret .evictNegative
        (.sending clientId secret)
  | missed {stage : CallStage} (missing : stage.missing = true)
      (agrees : Agrees positive negative slots (fun key => key = cacheKey inner clientId secret))
      (tokenless : positive.lookup (cacheKey inner clientId secret) = none)
      (failureless : negative.lookup (cacheKey inner clientId secret) = none) :
      ExchangePhase inner positive negative slots clientId secret stage (.sending clientId secret)
  | waiting {lock : LockId} {post : TokenPost}
      (agrees : Agrees positive negative slots (fun key => key = cacheKey inner clientId secret))
      (tokenless : positive.lookup (cacheKey inner clientId secret) = none)
      (failureless : negative.lookup (cacheKey inner clientId secret) = none) :
      ExchangePhase inner positive negative slots clientId secret (.awaitAnswer lock post)
        (.waiting clientId secret)
  | writing {lock : LockId} {outcome : ExchangeResult}
      (agrees : Agrees positive negative slots (fun key => key = cacheKey inner clientId secret))
      (tokenless : positive.lookup (cacheKey inner clientId secret) = none)
      (failureless : negative.lookup (cacheKey inner clientId secret) = none) :
      ExchangePhase inner positive negative slots clientId secret (.storeOutcome lock outcome)
        (.writing clientId secret outcome)
  | superseding {lock : LockId} {jwt : String}
      (agrees : Agrees positive negative slots (fun _ => False))
      (failureless : negative.lookup (cacheKey inner clientId secret) = none) :
      ExchangePhase inner positive negative slots clientId secret (.removeNegative lock jwt)
        (.returning (.ok jwt))
  | leaving {stage : CallStage} {result : Except AuthError String}
      (leaves : stage.leaves = some result)
      (agrees : Agrees positive negative slots (fun _ => False)) :
      ExchangePhase inner positive negative slots clientId secret stage (.returning result)

/-- The slot a granted token is written as. -/
theorem slotOf_ok (now : Instant) (jwt : String) (expiresIn : Option UInt64) :
    Reference.slotOf inner now (.ok (jwt, expiresIn)) =
      some (.token jwt (now + (positiveTtl inner expiresIn).nanos)) := by
  rw [positiveTtl_nanos]
  rfl

/-- The slot a cached failure is written as. -/
theorem slotOf_error (now : Instant) {error : AuthError} {reason : NegativeReason}
    (cached : NegativeReason.ofError error = some reason) :
    Reference.slotOf inner now (.error error) = some (.failed reason (now + reason.ttl.nanos)) := by
  cases error <;> cases cached <;> rfl

theorem slotOf_token {now deadline : Instant} {jwt : String} {expiresIn : Option UInt64}
    (added : Instant.checkedAdd now (positiveTtl inner expiresIn) = some deadline) :
    Reference.slotOf inner now (.ok (jwt, expiresIn)) = some (.token jwt deadline) := by
  rw [slotOf_ok, Instant.checkedAdd_eq_some added]

theorem slotOf_failure {now deadline : Instant} {error : AuthError} {reason : NegativeReason}
    (cached : NegativeReason.ofError error = some reason)
    (added : Instant.checkedAdd now reason.ttl = some deadline) :
    Reference.slotOf inner now (.error error) = some (.failed reason deadline) := by
  rw [slotOf_error now cached, Instant.checkedAdd_eq_some added]

theorem slotOf_nothing {now : Instant} {error : AuthError}
    (uncached : NegativeReason.ofError error = none) :
    Reference.slotOf inner now (.error error) = none := by
  cases error <;> first | rfl | cases uncached

/-- What follows a move: the call goes on in some phase, or is over. -/
def Continues (inner : ExchangerInner) (next : Shared) (above : Reference.State)
    (clientId secret : String) (stage : CallStage) : Prop :=
  (stage.finished = false ∧ ExchangePhase inner next.positive next.negative above.slots clientId
      secret stage above.activity) ∨
    stage.finished = true ∧ above.activity = .idle ∧
      Agrees next.positive next.negative above.slots (fun _ => False)

/-- The reference machine stays where it is, or takes one step that shows the
same events. -/
inductive Keeps (inner : ExchangerInner) (above : Reference.State) (events : List Reference.Event)
    (aboveNext : Reference.State) : Prop
  | stays (same : aboveNext = above) (silent : events = [])
  | moves (action : Reference.Action) (taken : Reference.step inner above action = some aboveNext)
      (shows : (Reference.event inner (above, action)).toList = events)
      (representable : Reference.Representable inner (above, action))

/-- Steps other than a write compute no deadline. -/
theorem representable_of_ne_write {above : Reference.State} {action : Reference.Action}
    (other : action ≠ .write) : Reference.Representable inner (above, action) :=
  fun _ _ _ _ writes => absurd writes other

/-- The reference machine reads a live slot and returns it. -/
theorem reference_hit {slots : KeyedMap CacheKey Reference.Slot} {now : Instant}
    {clientId secret : String} {slot : Reference.Slot}
    (found : slots.lookup (cacheKey inner clientId secret) = some slot)
    (live : now < slot.deadline) :
    Keeps inner ⟨slots, now, .reading clientId secret⟩ [.returned slot.answer]
      ⟨slots, now, .idle⟩ := by
  have fresh : Reference.live ⟨slots, now, .reading clientId secret⟩
      (cacheKey inner clientId secret) = some slot := by
    simp only [Reference.live, found, Option.filter, live, decide_true, if_true]
  refine .moves .read ?_ ?_ (representable_of_ne_write (fun wrong => nomatch wrong))
  · simp only [Reference.step, fresh]
  · simp only [Reference.event, fresh, Option.map_some, Option.toList_some]

/-- The reference machine reads a slot that is missing or dead. -/
theorem reference_miss {slots : KeyedMap CacheKey Reference.Slot} {now : Instant}
    {clientId secret : String}
    (dead : ∀ slot, slots.lookup (cacheKey inner clientId secret) = some slot →
      slot.deadline ≤ now) :
    Keeps inner ⟨slots, now, .reading clientId secret⟩ []
      ⟨slots, now, .sending clientId secret⟩ := by
  have stale : Reference.live ⟨slots, now, .reading clientId secret⟩
      (cacheKey inner clientId secret) = none := by
    rw [Reference.live, Option.filter_eq_none_iff]
    intro slot found
    simpa using dead slot found
  refine .moves .read ?_ ?_ (representable_of_ne_write (fun wrong => nomatch wrong))
  · simp only [Reference.step, stale]
  · simp only [Reference.event, stale, Option.map_none, Option.toList_none]

/-- A slot that has expired is dead. -/
theorem reference_expired {slots : KeyedMap CacheKey Reference.Slot} {now : Instant}
    {clientId secret : String} {slot : Reference.Slot}
    (looked : slots.lookup (cacheKey inner clientId secret) = some slot)
    (expired : slot.deadline ≤ now) :
    Keeps inner ⟨slots, now, .reading clientId secret⟩ []
      ⟨slots, now, .sending clientId secret⟩ := by
  apply reference_miss
  intro other same
  rw [← Option.some.inj (looked.symm.trans same)]
  exact expired

/-- What a move of the one call under way shows. -/
def shown (inner : ExchangerInner) (clientId secret : String) (action : Action)
    (current stage : CallStage) : List Reference.Event :=
  match action with
  | .answer _ reply => [.answered reply]
  | _ => (moveEvent inner clientId secret current stage).toList

/-- The reference machine stays where it is. -/
theorem stutter {above : Reference.State} {next : Shared} {clientId secret : String}
    {action : Action} {current stage : CallStage}
    (silent : shown inner clientId secret action current stage = [])
    (clock : above.clock = next.clock)
    (unfinished : stage.finished = false)
    (phase : ExchangePhase inner next.positive next.negative above.slots clientId secret stage
      above.activity) :
    ∃ aboveNext, Keeps inner above (shown inner clientId secret action current stage) aboveNext ∧
      aboveNext.clock = next.clock ∧ Continues inner next aboveNext clientId secret stage :=
  ⟨above, .stays rfl silent, clock, Or.inl ⟨unfinished, phase⟩⟩

/-- A stage past a miss of both maps is silent except for the POST itself. -/
theorem ExchangePhase.move_missed {shared next : Shared} {slots : KeyedMap CacheKey Reference.Slot}
    {index : Nat} {clientId secret : String} {action : Action} {current stage : CallStage}
    (missing : current.missing = true)
    (agrees : Agrees shared.positive shared.negative slots
      (fun key => key = cacheKey inner clientId secret))
    (tokenless : shared.positive.lookup (cacheKey inner clientId secret) = none)
    (failureless : shared.negative.lookup (cacheKey inner clientId secret) = none)
    (kept : action ≠ .abandon index)
    (move : CallMove inner shared index clientId secret action current next stage) :
    ∃ aboveNext, Keeps inner ⟨slots, shared.clock, .sending clientId secret⟩
        (shown inner clientId secret action current stage) aboveNext ∧
      aboveNext.clock = next.clock ∧ Continues inner next aboveNext clientId secret stage := by
  cases move with
  | abandonWait | abandonPost => exact absurd rfl kept
  | answer => cases missing
  | advance spec =>
      cases spec with
      | negativeHit found | negativeExpired found =>
          rw [failureless] at found
          cases found
      | recheckHit found =>
          rw [tokenless] at found
          cases found
      | negativeMiss | takeHandle | acquire | recheckMiss =>
          exact stutter rfl rfl rfl (.missed rfl agrees tokenless failureless)
      | sendPost =>
          exact ⟨⟨slots, shared.clock, .waiting clientId secret⟩,
            .moves .send rfl rfl
              (representable_of_ne_write (fun wrong => nomatch wrong)),
            rfl, Or.inl ⟨rfl, .waiting agrees tokenless failureless⟩⟩
      | positiveHit | positiveExpired | positiveMiss | evictPositive | evictNegative | storeToken
      | storeFailure | storeNothing | storePanic | removeNegative | dropGuard | dropLock | cleanup
      | unwindGuard | unwindLock => cases missing

/-- Storing the outcome is the reference machine's overwriting of the slot. -/
theorem ExchangePhase.move_writing {shared next : Shared}
    {slots : KeyedMap CacheKey Reference.Slot} {clientId secret : String} {lock : LockId}
    {outcome : ExchangeResult} {stage : CallStage} {index : Nat}
    (agrees : Agrees shared.positive shared.negative slots
      (fun key => key = cacheKey inner clientId secret))
    (tokenless : shared.positive.lookup (cacheKey inner clientId secret) = none)
    (failureless : shared.negative.lookup (cacheKey inner clientId secret) = none)
    (representable : ∀ ttl, storedTtl inner outcome = some ttl →
      Instant.checkedAdd shared.clock ttl ≠ none)
    (spec : CallSpec inner shared clientId secret (.storeOutcome lock outcome) next stage) :
    ∃ aboveNext, Keeps inner ⟨slots, shared.clock, .writing clientId secret outcome⟩
        (shown inner clientId secret (.advance index) (.storeOutcome lock outcome) stage)
        aboveNext ∧
      aboveNext.clock = next.clock ∧ Continues inner next aboveNext clientId secret stage := by
  -- the write, given what it writes and that its deadline is representable
  have writes : ∀ slot, Reference.slotOf inner shared.clock outcome = slot →
      (∀ written, slot = some written → written.deadline < instantLimit) →
      Keeps inner ⟨slots, shared.clock, .writing clientId secret outcome⟩ []
        ⟨Reference.overwrite slots (cacheKey inner clientId secret) slot, shared.clock,
          .returning (outcome.map Prod.fst)⟩ := by
    rintro slot rfl bounded
    refine .moves .write rfl rfl ?_
    intro _ _ other written _ doing same
    rcases Reference.Activity.writing.inj doing with ⟨rfl, rfl, rfl⟩
    exact bounded written same
  cases spec with
  | storePanic stored overflow => exact absurd overflow (representable _ stored)
  | @storeToken _ jwt expiresIn deadline added =>
      refine ⟨_, writes _ (slotOf_token added) (fun written same => ?_), rfl,
        Or.inl ⟨rfl, .superseding ?_ failureless⟩⟩
      · rw [← Option.some.inj same]
        exact Instant.lt_limit_of_checkedAdd added
      · refine agrees.restore (fun other different => Finmap.lookup_insert_of_ne _ different)
          (fun _ _ => rfl) ?_
        have stored : (shared.positive.insert (cacheKey inner clientId secret)
            (⟨jwt, deadline⟩ : CachedToken)).lookup (cacheKey inner clientId secret) =
              some ⟨jwt, deadline⟩ := Finmap.lookup_insert _
        exact .token stored failureless
  | @storeFailure _ error reason deadline cached added =>
      refine ⟨_, writes _ (slotOf_failure cached added) (fun written same => ?_), rfl,
        Or.inl ⟨rfl, .leaving rfl ?_⟩⟩
      · rw [← Option.some.inj same]
        exact Instant.lt_limit_of_checkedAdd added
      · refine agrees.restore (fun _ _ => rfl)
          (fun other different => Finmap.lookup_insert_of_ne _ different) ?_
        have stored : (shared.negative.insert (cacheKey inner clientId secret)
            (⟨deadline, reason⟩ : NegativeEntry)).lookup (cacheKey inner clientId secret) =
              some ⟨deadline, reason⟩ := Finmap.lookup_insert _
        exact .failed tokenless stored
  | storeNothing uncached =>
      refine ⟨_, writes _ (slotOf_nothing uncached) (fun _ same => nomatch same), rfl,
        Or.inl ⟨rfl, .leaving rfl ?_⟩⟩
      exact agrees.restore (fun _ _ => rfl) (fun _ _ => rfl) (.empty tokenless failureless)

/-! The phases in which the call looks, removes and leaves, one by one. -/

section Phases

variable {shared next : Shared} {slots : KeyedMap CacheKey Reference.Slot} {index : Nat}
  {clientId secret : String} {action : Action} {stage : CallStage}

/-- A call that finds a live token returns it, and so does the reference
machine.  It goes on where that one finds the slot dead. -/
theorem ExchangePhase.move_starting
    (agrees : Agrees shared.positive shared.negative slots (fun _ => False))
    (move : CallMove inner shared index clientId secret action .lookupPositive next stage) :
    ∃ aboveNext, Keeps inner ⟨slots, shared.clock, .reading clientId secret⟩
        (shown inner clientId secret action .lookupPositive stage) aboveNext ∧
      aboveNext.clock = next.clock ∧ Continues inner next aboveNext clientId secret stage := by
  have here := agrees (cacheKey inner clientId secret) not_false
  generalize looked : slots.lookup (cacheKey inner clientId secret) = slot at here
  cases move with
  | advance spec =>
      cases spec with
      | positiveHit found live =>
          cases here with
          | token stored =>
              rcases Option.some.inj (stored.symm.trans found) with rfl
              exact ⟨_, reference_hit looked live, rfl, Or.inr ⟨rfl, rfl, agrees⟩⟩
          | failed tokenless | empty tokenless =>
              rw [tokenless] at found
              cases found
      | positiveExpired found expired =>
          cases here with
          | token stored failureless =>
              rcases Option.some.inj (stored.symm.trans found) with rfl
              exact ⟨_, reference_expired looked expired, rfl, Or.inl ⟨rfl, .tokenExpired
                (agrees.except (fun _ wrong => wrong.elim) (fun _ _ => rfl) (fun _ _ => rfl))
                failureless⟩⟩
          | failed tokenless | empty tokenless =>
              rw [tokenless] at found
              cases found
      | positiveMiss absent => exact stutter rfl rfl rfl (.looking agrees absent)

/-- The same for a call that has found no token and looks for a failure. -/
theorem ExchangePhase.move_looking
    (agrees : Agrees shared.positive shared.negative slots (fun _ => False))
    (tokenless : shared.positive.lookup (cacheKey inner clientId secret) = none)
    (move : CallMove inner shared index clientId secret action .lookupNegative next stage) :
    ∃ aboveNext, Keeps inner ⟨slots, shared.clock, .reading clientId secret⟩
        (shown inner clientId secret action .lookupNegative stage) aboveNext ∧
      aboveNext.clock = next.clock ∧ Continues inner next aboveNext clientId secret stage := by
  have here := agrees (cacheKey inner clientId secret) not_false
  generalize looked : slots.lookup (cacheKey inner clientId secret) = slot at here
  have except : Agrees shared.positive shared.negative slots
      (fun other => other = cacheKey inner clientId secret) :=
    agrees.except (fun _ wrong => wrong.elim) (fun _ _ => rfl) (fun _ _ => rfl)
  cases move with
  | advance spec =>
      cases here with
      | token stored =>
          rw [tokenless] at stored
          cases stored
      | failed _ stored =>
          cases spec with
          | negativeHit found live =>
              rcases Option.some.inj (stored.symm.trans found) with rfl
              exact ⟨_, reference_hit looked live, rfl, Or.inr ⟨rfl, rfl, agrees⟩⟩
          | negativeExpired found expired =>
              rcases Option.some.inj (stored.symm.trans found) with rfl
              exact ⟨_, reference_expired looked expired, rfl,
                Or.inl ⟨rfl, .failureExpired except tokenless⟩⟩
          | negativeMiss absent =>
              rw [stored] at absent
              cases absent
      | empty _ failureless =>
          cases spec with
          | negativeHit found | negativeExpired found =>
              rw [failureless] at found
              cases found
          | negativeMiss absent =>
              have dead : ∀ slot, slots.lookup (cacheKey inner clientId secret) = some slot →
                  slot.deadline ≤ shared.clock := by
                intro slot same
                rw [looked] at same
                cases same
              exact ⟨_, reference_miss dead, rfl,
                Or.inl ⟨rfl, .missed rfl except tokenless failureless⟩⟩

/-- Removing the failure that a token supersedes is not seen: there is none. -/
theorem ExchangePhase.move_superseding {lock : LockId} {jwt : String}
    (agrees : Agrees shared.positive shared.negative slots (fun _ => False))
    (failureless : shared.negative.lookup (cacheKey inner clientId secret) = none)
    (move : CallMove inner shared index clientId secret action (.removeNegative lock jwt) next
      stage) :
    ∃ aboveNext, Keeps inner ⟨slots, shared.clock, .returning (.ok jwt)⟩
        (shown inner clientId secret action (.removeNegative lock jwt) stage) aboveNext ∧
      aboveNext.clock = next.clock ∧ Continues inner next aboveNext clientId secret stage := by
  cases move with
  | advance spec =>
      cases spec with
      | removeNegative =>
          refine stutter rfl rfl rfl (.leaving rfl (fun key _ => ?_))
          apply (agrees key not_false).congr rfl
          by_cases same : key = cacheKey inner clientId secret
          · rw [same, failureless]
            exact Finmap.lookup_erase _ _
          · exact Finmap.lookup_erase_ne same

/-- Of the way out only the return is seen. -/
theorem ExchangePhase.move_leaving {current : CallStage} {result : Except AuthError String}
    (leaves : current.leaves = some result)
    (agrees : Agrees shared.positive shared.negative slots (fun _ => False))
    (move : CallMove inner shared index clientId secret action current next stage) :
    ∃ aboveNext, Keeps inner ⟨slots, shared.clock, .returning result⟩
        (shown inner clientId secret action current stage) aboveNext ∧
      aboveNext.clock = next.clock ∧ Continues inner next aboveNext clientId secret stage := by
  cases move with
  | abandonWait | abandonPost | answer => cases leaves
  | advance spec =>
      cases spec with
      | dropGuard | dropLock => exact stutter rfl rfl rfl (.leaving leaves agrees)
      | cleanup =>
          cases leaves
          exact ⟨⟨slots, shared.clock, .idle⟩, .moves .finish rfl rfl
            (representable_of_ne_write (fun wrong => nomatch wrong)), rfl,
            Or.inr ⟨rfl, rfl, agrees⟩⟩
      | positiveHit | positiveExpired | positiveMiss | evictPositive | negativeHit
      | negativeExpired | negativeMiss | evictNegative | takeHandle | acquire | recheckHit
      | recheckMiss | sendPost | storeToken | storeFailure | storeNothing | storePanic
      | removeNegative | unwindGuard | unwindLock => cases leaves

end Phases

/-- Every move of the one call under way is matched, phase by phase. -/
theorem ExchangePhase.move {shared next : Shared} {slots : KeyedMap CacheKey Reference.Slot}
    {activity : Reference.Activity} {index : Nat} {clientId secret : String} {action : Action}
    {current stage : CallStage}
    (phase : ExchangePhase inner shared.positive shared.negative slots clientId secret current
      activity)
    (kept : action ≠ .abandon index)
    (representable : ∀ lock outcome ttl, current = .storeOutcome lock outcome →
      storedTtl inner outcome = some ttl → Instant.checkedAdd shared.clock ttl ≠ none)
    (move : CallMove inner shared index clientId secret action current next stage) :
    ∃ aboveNext, Keeps inner ⟨slots, shared.clock, activity⟩
        (shown inner clientId secret action current stage) aboveNext ∧
      aboveNext.clock = next.clock ∧ Continues inner next aboveNext clientId secret stage := by
  cases phase with
  | starting agrees => exact ExchangePhase.move_starting agrees move
  | tokenExpired agrees failureless =>
      cases move with
      | advance spec =>
          cases spec with
          | evictPositive =>
              refine stutter rfl rfl rfl (.missed rfl ?_ (Finmap.lookup_erase _ _) failureless)
              exact agrees.except (fun _ same => same)
                (fun other different => Finmap.lookup_erase_ne different) (fun _ _ => rfl)
  | looking agrees tokenless => exact ExchangePhase.move_looking agrees tokenless move
  | failureExpired agrees tokenless =>
      cases move with
      | advance spec =>
          cases spec with
          | evictNegative =>
              refine stutter rfl rfl rfl (.missed rfl ?_ tokenless (Finmap.lookup_erase _ _))
              exact agrees.except (fun _ same => same) (fun _ _ => rfl)
                (fun other different => Finmap.lookup_erase_ne different)
  | missed missing agrees tokenless failureless =>
      exact ExchangePhase.move_missed missing agrees tokenless failureless kept move
  | waiting agrees tokenless failureless =>
      cases move with
      | abandonPost => exact absurd rfl kept
      | answer reply =>
          exact ⟨⟨slots, shared.clock, .writing clientId secret (exchangeInner reply)⟩,
            .moves (.answer reply) rfl rfl
              (representable_of_ne_write (fun wrong => nomatch wrong)),
            rfl, Or.inl ⟨rfl, .writing agrees tokenless failureless⟩⟩
      | advance spec => cases spec
  | writing agrees tokenless failureless =>
      cases move with
      | advance spec =>
          exact ExchangePhase.move_writing agrees tokenless failureless
            (fun ttl stored => representable _ _ ttl rfl stored) spec
  | superseding agrees failureless =>
      exact ExchangePhase.move_superseding agrees failureless move
  | leaving leaves agrees => exact ExchangePhase.move_leaving leaves agrees move

/-! ## The phases of a flush -/

/-- How far a flush has got.  The reference machine empties its slots when the
two maps have been filtered and the first count is taken. -/
inductive FlushPhase (positive : KeyedMap CacheKey CachedToken)
    (negative : KeyedMap CacheKey NegativeEntry) (slots : KeyedMap CacheKey Reference.Slot)
    (scope : Option String) : FlushStage → Reference.Activity → Prop
  | readingPositive (agrees : Agrees positive negative slots (fun _ => False)) :
      FlushPhase positive negative slots scope .readPositiveLen (.flushing scope)
  | readingNegative (agrees : Agrees positive negative slots (fun _ => False)) :
      FlushPhase positive negative slots scope (.readNegativeLen (KeyedMap.len positive))
        (.flushing scope)
  | ready (agrees : Agrees positive negative slots (fun _ => False)) :
      FlushPhase positive negative slots scope
        (.flushPositive (KeyedMap.len positive) (KeyedMap.len negative)) (.flushing scope)
  | half {tokens : KeyedMap CacheKey CachedToken}
      (agrees : Agrees tokens negative slots (fun _ => False))
      (filtered : positive = flushMap scope tokens) :
      FlushPhase positive negative slots scope
        (.flushNegative (KeyedMap.len tokens) (KeyedMap.len negative)) (.flushing scope)
  | filtered {tokens : KeyedMap CacheKey CachedToken} {failures : KeyedMap CacheKey NegativeEntry}
      (agrees : Agrees tokens failures slots (fun _ => False))
      (filteredTokens : positive = flushMap scope tokens)
      (filteredFailures : negative = flushMap scope failures) :
      FlushPhase positive negative slots scope
        (.flushInflight (KeyedMap.len tokens) (KeyedMap.len failures)) (.flushing scope)
  | counting {tokens : KeyedMap CacheKey CachedToken} {failures : KeyedMap CacheKey NegativeEntry}
      (agrees : Agrees tokens failures slots (fun _ => False))
      (filteredTokens : positive = flushMap scope tokens)
      (filteredFailures : negative = flushMap scope failures) :
      FlushPhase positive negative slots scope
        (.countPositive (KeyedMap.len tokens) (KeyedMap.len failures)) (.flushing scope)
  | counted {posEvicted negBefore negEvicted : Nat}
      (agrees : Agrees positive negative slots (fun _ => False))
      (counts : checkedSub negBefore (KeyedMap.len negative) = some negEvicted) :
      FlushPhase positive negative slots scope (.countNegative posEvicted negBefore)
        (.emptied posEvicted negEvicted)

section Flush

variable {Value : Type} {scope : Option String}

theorem flushMap_eq_retain (map : KeyedMap CacheKey Value) :
    flushMap scope map = KeyedMap.retain (fun key _ => !Reference.covers scope key) map := by
  cases scope with
  | none =>
      refine Finmap.ext_lookup (fun key => ?_)
      rw [KeyedMap.lookup_retain_of_dropped (fun _ => rfl)]
      rfl
  | some clientId =>
      have same : (fun (key : CacheKey) (_ : Value) => decide (key.clientId ≠ clientId)) =
          fun key _ => !Reference.covers (some clientId) key := by
        funext key _
        simp [Reference.covers]
      rw [flushMap, same]

/-- What a flush takes off the length of a map. -/
theorem checkedSub_flushMap (scope : Option String) (map : KeyedMap CacheKey Value) :
    checkedSub (KeyedMap.len map) (KeyedMap.len (flushMap scope map)) =
      some ((map.keys.filter (fun key => Reference.covers scope key = true)).card) := by
  rw [flushMap_eq_retain, checkedSub, if_pos (KeyedMap.len_retain_le _ _),
    KeyedMap.len_sub_len_retain]
  simp only [Bool.not_eq_false']

variable {tokens : KeyedMap CacheKey CachedToken} {failures : KeyedMap CacheKey NegativeEntry}
  {slots : KeyedMap CacheKey Reference.Slot}

/-- Filtering the two maps is emptying the one. -/
theorem Agrees.flush (agrees : Agrees tokens failures slots (fun _ => False)) :
    Agrees (flushMap scope tokens) (flushMap scope failures) (Reference.empty scope slots)
      (fun _ => False) := by
  intro key _
  rw [flushMap_eq_retain, flushMap_eq_retain, Reference.empty]
  cases covered : Reference.covers scope key with
  | true =>
      have dropped : (!Reference.covers scope key) = false := by rw [covered]; rfl
      rw [KeyedMap.lookup_retain_of_dropped (fun _ => dropped)]
      exact .empty (KeyedMap.lookup_retain_of_dropped (fun _ => dropped))
        (KeyedMap.lookup_retain_of_dropped (fun _ => dropped))
  | false =>
      have kept : (!Reference.covers scope key) = true := by rw [covered]; rfl
      rw [KeyedMap.lookup_retain_of_kept (fun _ => kept)]
      exact (agrees key not_false).congr (KeyedMap.lookup_retain_of_kept (fun _ => kept))
        (KeyedMap.lookup_retain_of_kept (fun _ => kept))

theorem Agrees.count_tokens (agrees : Agrees tokens failures slots (fun _ => False)) :
    Reference.count scope Reference.Slot.isToken slots =
      (tokens.keys.filter (fun key => Reference.covers scope key = true)).card := by
  refine congrArg Finset.card (Finset.ext fun key => ?_)
  rw [Finset.mem_filter, Finset.mem_filter, KeyedMap.mem_keys_iff, KeyedMap.mem_keys_iff]
  have here := agrees key not_false
  generalize slots.lookup key = slot at here
  cases here with
  | token found => simp [found, Reference.Slot.isToken]
  | failed tokenless | empty tokenless => simp [tokenless, Reference.Slot.isToken]

theorem Agrees.count_failures (agrees : Agrees tokens failures slots (fun _ => False)) :
    Reference.count scope (fun slot => !slot.isToken) slots =
      (failures.keys.filter (fun key => Reference.covers scope key = true)).card := by
  refine congrArg Finset.card (Finset.ext fun key => ?_)
  rw [Finset.mem_filter, Finset.mem_filter, KeyedMap.mem_keys_iff, KeyedMap.mem_keys_iff]
  have here := agrees key not_false
  generalize slots.lookup key = slot at here
  cases here with
  | token _ failureless | empty _ failureless => simp [failureless, Reference.Slot.isToken]
  | failed _ found => simp [found, Reference.Slot.isToken]

/-- What a step of the one flush under way shows. -/
def flushShown : FlushStage → List Reference.Event
  | .returned posEvicted negEvicted => [.flushReturned posEvicted negEvicted]
  | _ => []

/-- Every step of the one flush under way is matched. -/
theorem FlushPhase.move (inner : ExchangerInner) {activity : Reference.Activity}
    {shared next : Shared}
    {current stage : FlushStage}
    (phase : FlushPhase shared.positive shared.negative slots scope current activity)
    (spec : FlushSpec shared scope current next stage) :
    ∃ aboveNext, Keeps inner ⟨slots, shared.clock, activity⟩ (flushShown stage) aboveNext ∧
      aboveNext.clock = next.clock ∧
      (stage.finished = false ∧ FlushPhase next.positive next.negative aboveNext.slots scope stage
          aboveNext.activity ∨
        stage.finished = true ∧ aboveNext.activity = .idle ∧
          Agrees next.positive next.negative aboveNext.slots (fun _ => False)) := by
  cases phase with
  | readingPositive agrees =>
      cases spec
      exact ⟨_, .stays rfl rfl, rfl, Or.inl ⟨rfl, .readingNegative agrees⟩⟩
  | readingNegative agrees =>
      cases spec
      exact ⟨_, .stays rfl rfl, rfl, Or.inl ⟨rfl, .ready agrees⟩⟩
  | ready agrees =>
      cases spec
      exact ⟨_, .stays rfl rfl, rfl, Or.inl ⟨rfl, .half agrees rfl⟩⟩
  | half agrees filtered =>
      cases spec
      exact ⟨_, .stays rfl rfl, rfl, Or.inl ⟨rfl, .filtered agrees filtered rfl⟩⟩
  | filtered agrees filteredTokens filteredFailures =>
      cases spec
      exact ⟨_, .stays rfl rfl, rfl, Or.inl ⟨rfl, .counting agrees filteredTokens filteredFailures⟩⟩
  | @counting tokens failures agrees filteredTokens filteredFailures =>
      have countedTokens := checkedSub_flushMap scope tokens
      have countedFailures := checkedSub_flushMap scope failures
      rw [← filteredTokens, ← agrees.count_tokens] at countedTokens
      rw [← filteredFailures, ← agrees.count_failures] at countedFailures
      cases spec with
      | positiveOverflow wrapped =>
          rw [countedTokens] at wrapped
          cases wrapped
      | countPositive counts =>
          rcases Option.some.inj (countedTokens.symm.trans counts) with rfl
          refine ⟨⟨Reference.empty scope slots, shared.clock, _⟩, .moves .empty rfl rfl
            (representable_of_ne_write (fun wrong => nomatch wrong)), rfl,
            Or.inl ⟨rfl, .counted ?_ countedFailures⟩⟩
          rw [filteredTokens, filteredFailures]
          exact agrees.flush
  | counted agrees counted =>
      cases spec with
      | negativeOverflow wrapped =>
          rw [counted] at wrapped
          cases wrapped
      | countNegative counts =>
          rcases Option.some.inj (counted.symm.trans counts) with rfl
          exact ⟨⟨slots, shared.clock, .idle⟩, .moves .returnFlush rfl rfl
            (representable_of_ne_write (fun wrong => nomatch wrong)), rfl,
            Or.inr ⟨rfl, rfl, agrees⟩⟩

end Flush

/-! ## The simulation -/

/-- Nothing is under way on either side. -/
structure AtRest (state : State) (above : Reference.State) : Prop where
  quiet : Quiet state
  clock : above.clock = state.shared.clock
  activity : above.activity = .idle
  agrees : Agrees state.shared.positive state.shared.negative above.slots (fun _ => False)

/-- One exchange call is under way, on both sides. -/
structure Exchanging (inner : ExchangerInner) (state : State) (above : Reference.State)
    (index : Nat) (clientId secret : String) (stage : CallStage) : Prop where
  found : state.calls[index]? = some ⟨clientId, secret, stage⟩
  unfinished : stage.finished = false
  others : ∀ (other : Nat) (call : ExchangeCall), other ≠ index →
    state.calls[other]? = some call → call.stage.finished = true
  flushes : ∀ (other : Nat) (call : FlushCall), state.flushes[other]? = some call →
    call.stage.finished = true
  clock : above.clock = state.shared.clock
  phase : ExchangePhase inner state.shared.positive state.shared.negative above.slots
    clientId secret stage above.activity

/-- One flush is under way, on both sides. -/
structure Flushing (state : State) (above : Reference.State) (index : Nat) (scope : Option String)
    (stage : FlushStage) : Prop where
  found : state.flushes[index]? = some ⟨scope, stage⟩
  unfinished : stage.finished = false
  others : ∀ (other : Nat) (call : FlushCall), other ≠ index →
    state.flushes[other]? = some call → call.stage.finished = true
  calls : ∀ (other : Nat) (call : ExchangeCall), state.calls[other]? = some call →
    call.stage.finished = true
  clock : above.clock = state.shared.clock
  phase : FlushPhase state.shared.positive state.shared.negative above.slots scope stage
    above.activity

/-- The exchanger and the reference machine are at the same point. -/
inductive Follows (inner : ExchangerInner) (state : State) (above : Reference.State) : Prop
  | atRest (rests : AtRest state above)
  | exchanging {index : Nat} {clientId secret : String} {stage : CallStage}
      (exchanges : Exchanging inner state above index clientId secret stage)
  | flushing {index : Nat} {scope : Option String} {stage : FlushStage}
      (flushes : Flushing state above index scope stage)

section Follows

variable {state next : State} {above : Reference.State} {action : Action}

theorem FlushSpec.unfinished {shared later : Shared} {scope : Option String}
    {current stage : FlushStage} (spec : FlushSpec shared scope current later stage) :
    current.finished = false := by
  cases spec <;> rfl

/-- While nothing is under way in the exchanger, both sides rest. -/
theorem Follows.rests (follows : Follows inner state above) (quiet : Quiet state) :
    AtRest state above := by
  cases follows with
  | atRest rests => exact rests
  | exchanging exchanges =>
      have unfinished := exchanges.unfinished
      rw [quiet.calls _ _ exchanges.found] at unfinished
      cases unfinished
  | flushing flushes =>
      have unfinished := flushes.unfinished
      rw [quiet.flushes _ _ flushes.found] at unfinished
      cases unfinished

/-- A moving call is the one under way. -/
theorem Follows.moving (follows : Follows inner state above) {index : Nat} {call : ExchangeCall}
    (found : state.calls[index]? = some call) (unfinished : call.stage.finished = false) :
    Exchanging inner state above index call.clientId call.secret call.stage := by
  cases follows with
  | atRest rests =>
      rw [rests.quiet.calls index call found] at unfinished
      cases unfinished
  | flushing flushes =>
      rw [flushes.calls index call found] at unfinished
      cases unfinished
  | @exchanging under clientId secret current exchanges =>
      obtain rfl : index = under := by
        by_contra different
        rw [exchanges.others index call different found] at unfinished
        cases unfinished
      rcases Option.some.inj (exchanges.found.symm.trans found) with rfl
      exact exchanges

/-- A moving flush is the one under way. -/
theorem Follows.moving_flush (follows : Follows inner state above) {index : Nat} {call : FlushCall}
    (found : state.flushes[index]? = some call) (unfinished : call.stage.finished = false) :
    Flushing state above index call.clientId call.stage := by
  cases follows with
  | atRest rests =>
      rw [rests.quiet.flushes index call found] at unfinished
      cases unfinished
  | exchanging exchanges =>
      rw [exchanges.flushes index call found] at unfinished
      cases unfinished
  | @flushing under scope current flushes =>
      obtain rfl : index = under := by
        by_contra different
        rw [flushes.others index call different found] at unfinished
        cases unfinished
      rcases Option.some.inj (flushes.found.symm.trans found) with rfl
      exact flushes

/-- The event of a step that moves a call. -/
theorem event_of_move {index : Nat} {call : ExchangeCall} {stage : CallStage}
    (taken : step inner state action = some next) (found : state.calls[index]? = some call)
    (moved : next.calls[index]? = some { call with stage := stage })
    (names : action.Names index) (kept : action ≠ .abandon index) :
    trace (event inner) [(state, action)] =
      shown inner call.clientId call.secret action call.stage stage := by
  rcases names with rfl | ⟨reply, rfl⟩ | rfl
  · simp only [trace, List.filterMap_cons, List.filterMap_nil, event, found, taken, moved,
      Option.bind_some, shown]
    cases moveEvent inner call.clientId call.secret call.stage stage <;> rfl
  · rfl
  · exact absurd rfl kept

theorem event_of_flush_step {index : Nat} {scope : Option String} {stage : FlushStage}
    (taken : step inner state (.advanceFlush index) = some next)
    (moved : next.flushes[index]? = some ⟨scope, stage⟩) :
    trace (event inner) [(state, .advanceFlush index)] = flushShown stage := by
  simp only [trace, List.filterMap_cons, List.filterMap_nil, event, taken, moved]
  cases stage <;> rfl

/-- A new call is the one under way. -/
theorem AtRest.call (rests : AtRest state above) (clientId secret : String) :
    Follows inner { state with calls := state.calls ++ [⟨clientId, secret, .lookupPositive⟩] }
      { above with activity := .reading clientId secret } := by
  refine .exchanging ⟨List.getElem?_concat_length, rfl, ?_,
    rests.quiet.flushes, rests.clock, .starting rests.agrees⟩
  intro other call different found
  rcases Roll.of_joined found with earlier | ⟨same, _⟩
  · exact rests.quiet.calls other call earlier
  · exact absurd same different

/-- A new flush is the one under way. -/
theorem AtRest.flush (rests : AtRest state above) (scope : Option String) :
    Follows inner { state with flushes := state.flushes ++ [⟨scope, .readPositiveLen⟩] }
      { above with activity := .flushing scope } := by
  refine .flushing ⟨List.getElem?_concat_length, rfl, ?_,
    rests.quiet.calls, rests.clock, .readingPositive rests.agrees⟩
  intro other call different found
  rcases Roll.of_joined found with earlier | ⟨same, _⟩
  · exact rests.quiet.flushes other call earlier
  · exact absurd same different

/-- Time passes on both sides alike. -/
theorem Follows.tick (follows : Follows inner state above) (elapsed : Nat) :
    Follows inner
      { state with shared := { state.shared with clock := state.shared.clock + elapsed } }
      { above with clock := above.clock + elapsed } := by
  cases follows with
  | atRest rests =>
      exact .atRest ⟨⟨rests.quiet.calls, rests.quiet.flushes⟩,
        congrArg (· + elapsed) rests.clock, rests.activity, rests.agrees⟩
  | exchanging exchanges =>
      exact .exchanging ⟨exchanges.found, exchanges.unfinished, exchanges.others,
        exchanges.flushes, congrArg (· + elapsed) exchanges.clock, exchanges.phase⟩
  | flushing flushes =>
      exact .flushing ⟨flushes.found, flushes.unfinished, flushes.others, flushes.calls,
        congrArg (· + elapsed) flushes.clock, flushes.phase⟩

/-- The one call under way moves, and goes on or ends. -/
theorem Exchanging.move {index : Nat} {clientId secret : String} {current stage : CallStage}
    (exchanges : Exchanging inner state above index clientId secret current)
    (sequential : Sequential inner (state, action)) {shared : Shared}
    (move : CallMove inner state.shared index clientId secret action current shared stage) :
    ∃ aboveNext, Keeps inner above (shown inner clientId secret action current stage) aboveNext ∧
      (Exchanging inner ⟨shared, state.setStage index ⟨clientId, secret, current⟩ stage,
          state.flushes⟩ aboveNext index clientId secret stage ∨
        AtRest ⟨shared, state.setStage index ⟨clientId, secret, current⟩ stage, state.flushes⟩
          aboveNext) := by
  rcases exchanges with ⟨found, _, others, flushes, clock, phase⟩
  rcases above with ⟨slots, now, activity⟩
  obtain rfl : now = state.shared.clock := clock
  have kept : action ≠ .abandon index := by
    rintro rfl
    exact sequential
  have representable : ∀ lock outcome ttl, current = .storeOutcome lock outcome →
      storedTtl inner outcome = some ttl → Instant.checkedAdd state.shared.clock ttl ≠ none := by
    rintro lock outcome ttl rfl stored
    cases move with
    | advance spec => exact sequential clientId secret lock outcome ttl found stored
  rcases phase.move kept representable move with ⟨aboveNext, keeps, sameClock, continues⟩
  refine ⟨aboveNext, keeps, ?_⟩
  have moved : (state.setStage index ⟨clientId, secret, current⟩ stage)[index]? =
      some ⟨clientId, secret, stage⟩ := Roll.replaced_self found _
  rcases continues with ⟨ongoing, phaseNext⟩ | ⟨finished, idle, agrees⟩
  · refine Or.inl ⟨moved, ongoing, fun other call different listed => ?_, flushes, sameClock,
      phaseNext⟩
    rcases Roll.of_replaced found listed with ⟨same, _⟩ | ⟨_, before⟩
    · exact absurd same.symm different
    · exact others other call different before
  · refine Or.inr ⟨⟨fun other call listed => ?_, flushes⟩, sameClock, idle, agrees⟩
    rcases Roll.of_replaced found listed with ⟨_, rfl⟩ | ⟨different, before⟩
    · exact finished
    · exact others other call (Ne.symm different) before

/-- The one flush under way takes its next step, and goes on or ends. -/
theorem Flushing.move (inner : ExchangerInner) {index : Nat} {scope : Option String}
    {current stage : FlushStage}
    (flushing : Flushing state above index scope current) {shared : Shared}
    (spec : FlushSpec state.shared scope current shared stage) :
    ∃ aboveNext, Keeps inner above (flushShown stage) aboveNext ∧
      (Flushing ⟨shared, state.calls, state.flushes.set index ⟨scope, stage⟩⟩ aboveNext index scope
          stage ∨
        AtRest ⟨shared, state.calls, state.flushes.set index ⟨scope, stage⟩⟩ aboveNext) := by
  rcases flushing with ⟨found, _, others, calls, clock, phase⟩
  rcases above with ⟨slots, now, activity⟩
  obtain rfl : now = state.shared.clock := clock
  rcases phase.move inner spec with ⟨aboveNext, keeps, sameClock, continues⟩
  refine ⟨aboveNext, keeps, ?_⟩
  have moved : (state.flushes.set index ⟨scope, stage⟩)[index]? = some ⟨scope, stage⟩ :=
    Roll.replaced_self found _
  rcases continues with ⟨ongoing, phaseNext⟩ | ⟨finished, idle, agrees⟩
  · refine Or.inl ⟨moved, ongoing, fun other call different listed => ?_, calls, sameClock,
      phaseNext⟩
    rcases Roll.of_replaced found listed with ⟨same, _⟩ | ⟨_, before⟩
    · exact absurd same.symm different
    · exact others other call different before
  · refine Or.inr ⟨⟨calls, fun other call listed => ?_⟩, sameClock, idle, agrees⟩
    rcases Roll.of_replaced found listed with ⟨_, rfl⟩ | ⟨different, before⟩
    · exact finished
    · exact others other call (Ne.symm different) before

end Follows

/-- At most one step of the reference machine, as a run. -/
theorem Keeps.run {above aboveNext : Reference.State} {events : List Reference.Event}
    (keeps : Keeps inner above events aboveNext) :
    ∃ history, Run (Reference.step inner) above history aboveNext ∧
      (∀ moment ∈ history, Reference.Representable inner moment) ∧
      trace (Reference.event inner) history = events := by
  cases keeps with
  | stays same silent =>
      subst same
      exact ⟨[], Run.nil, by simp, silent.symm⟩
  | moves action taken shows representable =>
      refine ⟨[(above, action)], Run.single taken, ?_, ?_⟩
      · intro moment member
        rw [List.mem_singleton.mp member]
        exact representable
      · rw [← shows, trace, List.filterMap_cons]
        cases Reference.event inner (above, action) <;> rfl

/-- Calls made one after another refine the reference machine. -/
def sequentialSimulation (inner : ExchangerInner) :
    Simulation (machine inner) (Reference.machine inner) (Sequential inner)
      (Reference.Representable inner) where
  relation := Follows inner
  matches_step := by
    intro state above action next follows sequential taken
    have byKeeping : ∀ {aboveNext events}, Keeps inner above events aboveNext →
        trace (event inner) [(state, action)] = events → Follows inner next aboveNext →
        ∃ history aboveNext, Run (Reference.step inner) above history aboveNext ∧
          (∀ moment ∈ history, Reference.Representable inner moment) ∧
          trace (Reference.event inner) history = trace (event inner) [(state, action)] ∧
          Follows inner next aboveNext := by
      intro aboveNext events keeps shows followsNext
      rcases keeps.run with ⟨history, run, representable, sameTrace⟩
      exact ⟨history, aboveNext, run, representable, sameTrace.trans shows.symm, followsNext⟩
    cases step_spec taken with
    | @exchange clientId secret =>
        have rests := follows.rests sequential
        refine byKeeping (.moves (.call clientId secret) ?_ rfl
          (representable_of_ne_write (fun wrong => nomatch wrong))) rfl (rests.call clientId secret)
        simp only [Reference.step, rests.activity]
    | @flush scope =>
        have rests := follows.rests sequential
        refine byKeeping (.moves (.flush scope) ?_ rfl
          (representable_of_ne_write (fun wrong => nomatch wrong))) rfl (rests.flush scope)
        simp only [Reference.step, rests.activity]
    | @tick elapsed =>
        exact byKeeping (.moves (.tick elapsed) rfl rfl
          (representable_of_ne_write (fun wrong => nomatch wrong))) rfl (follows.tick elapsed)
    | @call index call action shared stage found move =>
        rcases (follows.moving found move.unfinished).move sequential move with
          ⟨aboveNext, keeps, continues⟩
        refine byKeeping keeps (event_of_move taken found (Roll.replaced_self found _) move.names ?_)
          (continues.elim .exchanging .atRest)
        rintro rfl
        exact sequential
    | @flushStep index call shared stage found spec =>
        rcases (follows.moving_flush found spec.unfinished).move inner spec with
          ⟨aboveNext, keeps, continues⟩
        exact byKeeping keeps (event_of_flush_step taken (Roll.replaced_self found _))
          (continues.elim .flushing .atRest)

/-- Both machines start at the same point. -/
theorem follows_initial (inner : ExchangerInner) (clock : Instant) :
    Follows inner (State.initial clock) (Reference.State.initial clock) := by
  refine .atRest ⟨⟨fun _ _ found => ?_, fun _ _ found => ?_⟩, rfl, rfl, fun _ _ => .empty rfl rfl⟩
  · cases found
  · cases found

end Exchange
end OidcRs
