import OidcRs.Exchange.FlushBarrier
import OidcRs.Exchange.Isolation

namespace OidcRs
namespace Exchange

open Foundation

/-!
# When the IdP reverses its verdict

The IdP alone knows that a secret has been revoked, or that an outage is over.  The
exchanger learns of it by asking, and it asks once it has no live entry of the key
left.  From the moment on at which a verdict is not given any more, the entries that
were made on it only go: by their deadlines, which were never further off than its
lifetime, or by a flush.  A call that begins after that comes away without it.
-/

/-- What the IdP makes of credentials. -/
inductive Verdict
  | granted
  | failed
  deriving DecidableEq

namespace Verdict

def ofResult {Value : Type} : Except AuthError Value → Verdict
  | .ok _ => granted
  | .error _ => failed

/-- How long a cache may hold the verdict, at most. -/
def lifetime (inner : ExchangerInner) : Verdict → Nat
  | granted => inner.hardTtl.nanos - (Duration.fromSecs 60).nanos
  | failed => (Duration.fromSecs 30).nanos

end Verdict

/-- The verdict that an entry was made on. -/
def Entry.verdict : Entry → Verdict
  | token _ => .granted
  | failure _ => .failed

/-- The verdict that a call has in its hands. -/
def CallStage.verdict : CallStage → Option Verdict
  | storeOutcome _ result => some (.ofResult result)
  | removeNegative _ _ => some .granted
  | dropGuard _ result | dropLock _ result | cleanupInflight result | returned result =>
      some (.ofResult result)
  | _ => none

variable {inner : ExchangerInner} {key : CacheKey}

theorem Entry.Of.sameVerdict {now : Instant} {outcome : ExchangeResult} {entry : Entry}
    (made : Entry.Of inner now outcome entry) : Verdict.ofResult outcome = entry.verdict := by
  cases made <;> rfl

/-- An entry is made for no longer than the lifetime of its verdict. -/
theorem Entry.Of.deadline_le {now : Instant} {outcome : ExchangeResult} {entry : Entry}
    (made : Entry.Of inner now outcome entry) :
    entry.deadline ≤ now + entry.verdict.lifetime inner := by
  cases made with
  | token added =>
      rw [Entry.deadline, Instant.checkedAdd_eq_some added]
      exact Nat.add_le_add_left (positiveTtl_le _) _
  | @failure _ reason _ _ added =>
      have short : reason.ttl.nanos ≤ (Duration.fromSecs 30).nanos := by cases reason <;> decide
      rw [Entry.deadline, Instant.checkedAdd_eq_some added]
      exact Nat.add_le_add_left short _

/-- No entry has longer to live than the lifetime of its verdict. -/
theorem deadline_le_of_run {clock : Instant} {history : List (Moment State Action)} {state : State}
    (run : Run (step inner) (State.initial clock) history state) {entry : Entry}
    (found : entry.At state.shared key) :
    entry.deadline ≤ state.shared.clock + entry.verdict.lifetime inner := by
  refine run.invariant (fun state => entry.At state.shared key →
    entry.deadline ≤ state.shared.clock + entry.verdict.lifetime inner) ?_
    (fun found => absurd found (not_at_initial clock entry key)) found
  intro state action next bounded taken found
  refine Nat.le_trans ?_ (Nat.add_le_add_right (step_clock_le taken) _)
  by_cases before : entry.At state.shared key
  · exact bounded before
  · rcases entry_appears taken before found with ⟨_, _, _, _, _, _, store⟩
    exact store.made.deadline_le

/-! ## A verdict that is not given any more -/

/-- A POST for the key is answered with this verdict. -/
def GivenAt (inner : ExchangerInner) (key : CacheKey) (verdict : Verdict)
    (moment : Moment State Action) : Prop :=
  ∃ index reply call, moment.2 = .answer index reply ∧ moment.1.calls[index]? = some call ∧
    call.key inner = key ∧ Verdict.ofResult (exchangeInner reply) = verdict

/-- The moment is an answer with this verdict. -/
def answeredWith (verdict : Verdict) (moment : Moment State Action) : Bool :=
  match moment.2 with
  | .answer _ reply => .ofResult (exchangeInner reply) = verdict
  | _ => false

/-- No call for the key has been given the verdict and is still to store it. -/
def NoneInHand (inner : ExchangerInner) (key : CacheKey) (verdict : Verdict) (state : State) :
    Prop :=
  ∀ (index : Nat) call lock result, state.calls[index]? = some call → call.key inner = key →
    call.stage = .storeOutcome lock result → Verdict.ofResult result ≠ verdict

section Reversal

variable {verdict : Verdict} {mid later state next : State} {action : Action}

theorem noneInHand_step (none : NoneInHand inner key verdict state)
    (taken : step inner state action = some next)
    (ungiven : ¬ GivenAt inner key verdict (state, action)) :
    NoneInHand inner key verdict next := by
  intro index call lock result found sameKey storing sameVerdict
  cases call_origin taken found with
  | unchanged before => exact none index call lock result before sameKey storing sameVerdict
  | @moved earlier stage before same move =>
      subst same
      change stage = _ at storing
      rcases earlier with ⟨clientId, secret, current⟩
      generalize next.shared = shared at move
      cases move with
      | answer reply =>
          have given : exchangeInner reply = result := (CallStage.storeOutcome.inj storing).2
          exact ungiven ⟨index, reply, _, rfl, before, sameKey, given ▸ sameVerdict⟩
      | advance spec => cases spec <;> cases storing
      | abandonWait | abandonPost => cases storing
  | begun _ _ same =>
      subst same
      cases storing

/-- With nothing left to store, the entries of the key were there before. -/
theorem entry_before_of_noneInHand (none : NoneInHand inner key verdict state)
    (taken : step inner state action = some next) {entry : Entry} (same : entry.verdict = verdict)
    (found : entry.At next.shared key) : entry.At state.shared key := by
  by_contra absent
  rcases entry_appears taken absent found with ⟨index, clientId, secret, lock, _, rfl, store⟩
  exact none index _ lock _ store.caller rfl rfl (store.made.sameVerdict.trans same)

/-- Along a run in which the verdict is not given, nothing comes to hand and no entry
is added. -/
theorem entry_before_of_run {history : List (Moment State Action)}
    (run : Run (step inner) mid history later) (settled : NoneInHand inner key verdict mid)
    (ungiven : ∀ moment ∈ history, ¬ GivenAt inner key verdict moment) :
    NoneInHand inner key verdict later ∧ ∀ entry : Entry, entry.verdict = verdict →
      entry.At later.shared key → entry.At mid.shared key := by
  refine Run.invariant_of_moments (fun state => NoneInHand inner key verdict state ∧
    ∀ entry : Entry, entry.verdict = verdict → entry.At state.shared key → entry.At mid.shared key)
    (fun moment => ¬ GivenAt inner key verdict moment) ?_ ⟨settled, fun _ _ found => found⟩ run
    ungiven
  rintro state action next ⟨none, kept⟩ ungiven taken
  exact ⟨noneInHand_step none taken ungiven,
    fun entry same found => kept entry same (entry_before_of_noneInHand none taken same found)⟩

/-! ## Waiting, or flushing -/

/-- A flush that was not there at the start of a run opened in it. -/
theorem flush_opened {history : List (Moment State Action)}
    (run : Run (step inner) mid history later) {index : Nat} {scope : Option String}
    {stage : FlushStage} (new : mid.flushes.length ≤ index)
    (found : later.flushes[index]? = some ⟨scope, stage⟩) :
    ∃ before after opened, history = before ++ after ∧ Run (step inner) mid before opened ∧
      Run (step inner) opened after later ∧
      opened.flushes[index]? = some ⟨scope, .readPositiveLen⟩ := by
  have absent : ¬ ∃ call, mid.flushes[index]? = some call := by
    rintro ⟨call, there⟩
    rw [List.getElem?_eq_none new] at there
    cases there
  rcases run.last_crossing (fun state => ∃ call, state.flushes[index]? = some call) absent
    ⟨_, found⟩ with
    ⟨before, ⟨state, action⟩, after, next, rfl, untilOpened, missing, taken, ⟨call, here⟩, rest, _⟩
  refine ⟨before ++ [(state, action)], after, next, by simp, untilOpened.snoc taken, rest, ?_⟩
  have opens : call.stage = .readPositiveLen := by
    cases step_spec taken with
    | exchange | call | tick => exact absurd ⟨call, here⟩ missing
    | flush =>
        rcases Roll.of_joined here with before | ⟨_, rfl⟩
        · exact absurd ⟨call, before⟩ missing
        · rfl
    | flushStep there =>
        rcases Roll.of_replaced there here with ⟨rfl, _⟩ | ⟨_, before⟩
        · exact absurd ⟨_, there⟩ missing
        · exact absurd ⟨call, before⟩ missing
  rcases flush_of_run rest here with ⟨_, same, _⟩
  rcases call with ⟨client, first⟩
  rcases FlushCall.mk.inj (Option.some.inj (same.symm.trans found)) with ⟨rfl, _⟩
  rwa [← opens]

/-- Between two moments a flush of the client begins and returns. -/
def FlushedBetween (mid later : State) (clientId : String) : Prop :=
  ∃ (index : Nat) (scope : Option String) (posEvicted negEvicted : Nat),
    mid.flushes.length ≤ index ∧
    later.flushes[index]? = some ⟨scope, .returned posEvicted negEvicted⟩ ∧
    (scope = none ∨ scope = some clientId)

/-- The lifetime of the verdict has passed, or the client has been flushed. -/
def Lapsed (inner : ExchangerInner) (verdict : Verdict) (mid later : State) (clientId : String) :
    Prop :=
  mid.shared.clock + verdict.lifetime inner ≤ later.shared.clock ∨
    FlushedBetween mid later clientId

/-- What is left of the key's entries then is dead. -/
theorem dead_of_lapsed {clock : Instant} {before between : List (Moment State Action)}
    (early : Run (step inner) (State.initial clock) before mid)
    (wait : Run (step inner) mid between later) (settled : NoneInHand inner key verdict mid)
    (ungiven : ∀ moment ∈ between, ¬ GivenAt inner key verdict moment)
    (lapsed : Lapsed inner verdict mid later key.clientId) {entry : Entry}
    (same : entry.verdict = verdict) (found : entry.At later.shared key) :
    entry.deadline ≤ later.shared.clock := by
  rcases lapsed with waited | ⟨index, scope, posEvicted, negEvicted, new, returned, covers⟩
  · have old := (entry_before_of_run wait settled ungiven).2 entry same found
    subst same
    exact Nat.le_trans (deadline_le_of_run early old) waited
  · exfalso
    rcases flush_opened wait new returned with
      ⟨front, after, opened, rfl, untilOpened, sinceOpened, opens⟩
    have past : entry.filteredRank ≤ (FlushStage.returned posEvicted negEvicted).rank := by
      cases entry <;> simp [Entry.filteredRank, FlushStage.rank]
    rcases entry_filtered key entry sinceOpened opens returned past covers with
      ⟨middle, rest, filtered, _, rfl, sinceFiltered, _, _, gone⟩
    -- an entry found after the filter was stored after it, when nothing was in hand
    rcases entry_stored sinceFiltered gone found with
      ⟨storeBefore, storer, caller, client, secret, lock, _, held, rfl, store⟩
    have passed := held.passed.prepend (front ++ middle)
    rw [List.append_assoc] at passed
    rcases passed.cut wait with ⟨_, _, _, untilStorer, _, _⟩
    have meanwhile : ∀ moment ∈ front ++ middle ++ storeBefore,
        ¬ GivenAt inner (cacheKey inner client secret) verdict moment :=
      fun moment member => ungiven moment (passed.before_prefix.subset member)
    exact (entry_before_of_run untilStorer settled meanwhile).1 caller _ lock _ store.caller rfl rfl
      (store.made.sameVerdict.trans same)

/-! ## Coming away without it -/

/-- The key has no live entry of the verdict, and the calls from the given number on
do not have it in their hands. -/
structure ShutOut (inner : ExchangerInner) (key : CacheKey) (verdict : Verdict) (first : Nat)
    (state : State) : Prop where
  noneInHand : NoneInHand inner key verdict state
  dead : ∀ entry : Entry, entry.verdict = verdict → entry.At state.shared key →
    entry.deadline ≤ state.shared.clock
  emptyHanded : ∀ (index : Nat) call, first ≤ index → state.calls[index]? = some call →
    call.key inner = key → call.stage.verdict ≠ some verdict

theorem shutOut_step {first : Nat} (shut : ShutOut inner key verdict first state)
    (taken : step inner state action = some next)
    (ungiven : ¬ GivenAt inner key verdict (state, action)) :
    ShutOut inner key verdict first next := by
  have settled := noneInHand_step shut.noneInHand taken ungiven
  refine ⟨settled, fun entry same found => ?_, fun index call new found sameKey => ?_⟩
  · have before := entry_before_of_noneInHand shut.noneInHand taken same found
    exact Nat.le_trans (shut.dead entry same before) (step_clock_le taken)
  · cases call_origin taken found with
    | unchanged before => exact shut.emptyHanded index call new before sameKey
    | @moved earlier stage before same move =>
        subst same
        rcases earlier with ⟨clientId, secret, current⟩
        change cacheKey inner clientId secret = key at sameKey
        have empty : current.verdict ≠ some verdict := shut.emptyHanded index _ new before sameKey
        change stage.verdict ≠ some verdict
        subst sameKey
        intro carries
        generalize next.shared = shared at move
        cases move with
        | answer reply =>
            exact settled index _ _ _ found rfl rfl (Option.some.inj carries)
        | advance spec =>
            cases spec with
            | @positiveHit cached hit live | @recheckHit _ cached hit live =>
                exact Nat.not_lt.mpr (shut.dead (.token cached) (Option.some.inj carries) hit) live
            | @negativeHit entry hit live =>
                exact Nat.not_lt.mpr (shut.dead (.failure entry) (Option.some.inj carries) hit) live
            | storeToken | storeFailure | storeNothing | removeNegative | dropGuard | dropLock
            | cleanup => exact empty carries
            | positiveExpired | positiveMiss | evictPositive | negativeExpired | negativeMiss
            | evictNegative | takeHandle | acquire | recheckMiss | sendPost | storePanic
            | unwindGuard | unwindLock => cases carries
        | abandonWait | abandonPost => cases carries
    | begun _ _ same =>
        subst same
        exact nofun

/-- A call for the key that begins when the verdict is not given any more, and has lapsed,
comes away without it. -/
theorem emptyHanded_of_lapsed {clock : Instant} {before between after : List (Moment State Action)}
    (early : Run (step inner) (State.initial clock) before mid)
    (wait : Run (step inner) mid between later) (late : Run (step inner) later after state)
    (settled : NoneInHand inner key verdict mid)
    (ungiven : ∀ moment ∈ between ++ after, ¬ GivenAt inner key verdict moment)
    (lapsed : Lapsed inner verdict mid later key.clientId) {index : Nat}
    (new : later.calls.length ≤ index) {call : ExchangeCall}
    (found : state.calls[index]? = some call) (sameKey : call.key inner = key) :
    call.stage.verdict ≠ some verdict := by
  have meanwhile : ∀ moment ∈ between, ¬ GivenAt inner key verdict moment :=
    fun moment member => ungiven moment (List.mem_append_left _ member)
  have initially : ShutOut inner key verdict later.calls.length later :=
    { noneInHand := (entry_before_of_run wait settled meanwhile).1
      dead := fun _ same => dead_of_lapsed early wait settled meanwhile lapsed same
      emptyHanded := fun index call new found => by
        rw [List.getElem?_eq_none new] at found
        cases found }
  have shut : ShutOut inner key verdict later.calls.length state :=
    Run.invariant_of_moments _ (fun moment => ¬ GivenAt inner key verdict moment)
      (fun _ _ _ shut ungiven taken => shutOut_step shut taken ungiven) initially late
      (fun moment member => ungiven moment (List.mem_append_right _ member))
  exact shut.emptyHanded index call new found sameKey

/-! ## Credentials and their key -/

/-- From this state on no POST of these credentials is answered with the verdict, and
those that were have been stored. -/
structure Ended (verdict : Verdict) (state : State) (later : List (Moment State Action))
    (clientId secret : String) : Prop where
  ungiven : ∀ moment ∈ later, ∀ (index : Nat) reply stage, moment.2 = .answer index reply →
    moment.1.calls[index]? = some ⟨clientId, secret, stage⟩ →
    Verdict.ofResult (exchangeInner reply) ≠ verdict
  settled : ∀ (index : Nat) lock result,
    state.calls[index]? = some ⟨clientId, secret, .storeOutcome lock result⟩ →
    Verdict.ofResult result ≠ verdict

variable {clientId secret : String} {stage : CallStage} {index : Nat}

/-- It is enough that nobody is answered so, and every call has finished. -/
theorem Ended.of_finished {history : List (Moment State Action)}
    (silent : history.all (fun moment => !answeredWith verdict moment) = true)
    (finished : state.calls.all (fun call => call.stage.finished) = true) :
    Ended verdict state history clientId secret where
  ungiven := by
    rintro ⟨there, _⟩ member index reply stage rfl _ given
    have silent := List.all_eq_true.mp silent _ member
    simp [answeredWith, given] at silent
  settled index lock result found := by
    have ends := List.all_eq_true.mp finished _ (List.mem_of_getElem? found)
    cases ends

theorem Ended.not_givenAt {history : List (Moment State Action)}
    (ended : Ended verdict mid history clientId secret)
    (run : Run (step inner) mid history state) (separate : DigestsSeparate inner state.calls)
    (caller : state.calls[index]? = some ⟨clientId, secret, stage⟩) :
    ∀ moment ∈ history, ¬ GivenAt inner (cacheKey inner clientId secret) verdict moment := by
  rintro moment member ⟨other, reply, ⟨otherClient, otherSecret, otherStage⟩, acts, found, sameKey,
    given⟩
  rcases List.append_of_mem member with ⟨before, after, rfl⟩
  rcases listed_of_passed run Passed.of_append found with ⟨_, listed⟩
  rcases separate.credentials caller listed sameKey.symm with ⟨rfl, rfl⟩
  exact ended.ungiven moment member other reply _ acts found given

theorem Ended.noneInHand {history : List (Moment State Action)}
    (ended : Ended verdict mid history clientId secret)
    (run : Run (step inner) mid history state) (separate : DigestsSeparate inner state.calls)
    (caller : state.calls[index]? = some ⟨clientId, secret, stage⟩) :
    NoneInHand inner (cacheKey inner clientId secret) verdict mid := by
  rintro other ⟨otherClient, otherSecret, _⟩ lock result found sameKey rfl
  rcases call_of_run run found with ⟨_, listed, _⟩
  rcases separate.credentials caller listed sameKey.symm with ⟨rfl, rfl⟩
  exact ended.settled other lock result found

/-- Calls are only added. -/
theorem calls_length_le_of_run {history : List (Moment State Action)}
    (run : Run (step inner) mid history later) : mid.calls.length ≤ later.calls.length := by
  by_contra fewer
  rw [Nat.not_le] at fewer
  rcases call_of_run run (List.getElem?_eq_getElem fewer) with ⟨_, here, _⟩
  rw [List.getElem?_eq_none (Nat.le_refl _)] at here
  cases here

end Reversal
end Exchange
end OidcRs
