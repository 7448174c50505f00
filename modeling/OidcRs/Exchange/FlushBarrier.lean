import OidcRs.Exchange.NegativeCaching

namespace OidcRs
namespace Exchange

open Foundation

/-!
# What a flush keeps from later calls

A flush filters the caches one after the other and does not stop calls whose
POST is outstanding.  What such a call stores afterwards is served to calls
that begin after the flush has returned.  This is the only way across: an entry
that was in a cache when the flush filtered it is gone.
-/

variable {inner : ExchangerInner}

/-- How the result of a call rests on the answer to a POST: it is the call's own,
or the call read the entry that the poster stored on it and that had been in its
cache since. -/
inductive Basis (inner : ExchangerInner) (history : List (Moment State Action)) (index : Nat)
    (clientId secret : String) (poster : Nat) (reply : TokenReply) : Except AuthError String → Prop
  | own {result : Except AuthError String} (same : poster = index)
      (outcome : (exchangeInner reply).map Prod.fst = result) :
      Basis inner history index clientId secret poster reply result
  | cached {before storeBefore : List (Moment State Action)} {reader storer : State}
      {otherSecret : String} {lock : LockId} {entry : Entry}
      (read : ReadEntry inner history before reader index clientId secret entry)
      (held : HeldSince (fun state => entry.At state.shared (cacheKey inner clientId secret)) before
        storeBefore (storer, .advance poster))
      (store : Store inner (storer, .advance poster) poster clientId otherSecret lock
        (exchangeInner reply) entry) :
      Basis inner history index clientId secret poster reply entry.answer

/-- The result of a call rests on the answer to a POST with the key of its
credentials, sent at the given moment. -/
structure Ground (inner : ExchangerInner) (history : List (Moment State Action)) (index : Nat)
    (clientId secret : String) (result : Except AuthError String)
    (sentBefore : List (Moment State Action)) (sender : State) (poster : Nat)
    (reply : TokenReply) : Prop where
  sent : Passed history sentBefore (sender, .advance poster)
  answered : ∃ otherSecret post lock,
    Answered inner history poster clientId otherSecret post reply ∧
    sender.calls[poster]? = some ⟨clientId, otherSecret, .sendPost lock⟩ ∧
    cacheKey inner clientId otherSecret = cacheKey inner clientId secret
  basis : Basis inner history index clientId secret poster reply result

/-- A flush that covers the client, begun at one moment and returned when a
call of the client begins at a later one. -/
structure FlushedBefore (history : List (Moment State Action)) (clientId secret : String)
    (beginBefore : List (Moment State Action)) (beginState : State) (scope : Option String)
    (callBefore : List (Moment State Action)) (callState : State) : Prop where
  begun : Passed history beginBefore (beginState, .flush scope)
  covers : scope = none ∨ scope = some clientId
  called : Passed history callBefore (callState, .exchange clientId secret)
  returned : ∃ posEvicted negEvicted, callState.flushes[beginState.flushes.length]? =
    some ⟨scope, .returned posEvicted negEvicted⟩

/-- Every result of a call that began after a flush rests on an answer to a
POST sent after the flush began. -/
def Barrier (inner : ExchangerInner) (history : List (Moment State Action)) (state : State) :
    Prop :=
  ∀ beginBefore beginState scope callBefore callState clientId secret result,
    FlushedBefore history clientId secret beginBefore beginState scope callBefore callState →
    state.calls[callState.calls.length]? = some ⟨clientId, secret, .returned result⟩ →
    ∃ sentBefore sender poster reply,
      Ground inner history callState.calls.length clientId secret result sentBefore sender poster
        reply ∧
      Passed sentBefore beginBefore (beginState, .flush scope)

/-- The rank of the stage from which on a flush has filtered the cache that the
entry belongs to. -/
def Entry.filteredRank : Entry → Nat
  | token _ => 3
  | failure _ => 4

/-- The POST was sent before the flush began, and its outcome was stored when
the flush had already filtered the cache it went to. -/
def StoredAcross (inner : ExchangerInner) (history : List (Moment State Action))
    (beginBefore : List (Moment State Action)) (beginState : State) (scope : Option String)
    (sentBefore : List (Moment State Action)) (sender : State) (poster : Nat) (clientId : String)
    (reply : TokenReply) : Prop :=
  Passed beginBefore sentBefore (sender, .advance poster) ∧
    ∃ storeBefore storer otherSecret lock entry stage,
      Passed history storeBefore (storer, .advance poster) ∧
      Store inner (storer, .advance poster) poster clientId otherSecret lock (exchangeInner reply)
        entry ∧
      storer.flushes[beginState.flushes.length]? = some ⟨scope, stage⟩ ∧
      entry.filteredRank ≤ stage.rank

/-! ## The moment a cache is filtered -/

section Filter

variable {start last : State} {history : List (Moment State Action)} {index : Nat}
  {scope : Option String} {first final : FlushStage}

/-- Between two of its stages a flush takes the step in between. -/
theorem flush_passes (run : Run (step inner) start history last)
    (found : start.flushes[index]? = some ⟨scope, first⟩)
    (ended : last.flushes[index]? = some ⟨scope, final⟩) {threshold : Nat}
    (below : first.rank < threshold) (above : threshold ≤ final.rank) :
    ∃ before moment after next current stage, history = before ++ moment :: after ∧
      Run (step inner) start before moment.1 ∧ step inner moment.1 moment.2 = some next ∧
      Run (step inner) next after last ∧ next.flushes[index]? = some ⟨scope, stage⟩ ∧
      FlushSpec moment.1.shared scope current next.shared stage ∧
      current.rank < threshold ∧ threshold ≤ stage.rank := by
  have absent : ¬ ∃ stage, start.flushes[index]? = some ⟨scope, stage⟩ ∧
      threshold ≤ stage.rank := by
    rintro ⟨stage, here, high⟩
    have same : first = stage :=
      congrArg FlushCall.stage (Option.some.inj (found.symm.trans here))
    subst same
    omega
  rcases run.last_crossing (fun state => ∃ stage, state.flushes[index]? = some ⟨scope, stage⟩ ∧
      threshold ≤ stage.rank) absent ⟨final, ended, above⟩ with
    ⟨before, moment, after, next, whole, runBefore, missing, taken, ⟨stage, here, high⟩,
      runAfter, _⟩
  rcases flush_of_run runBefore found with ⟨current, there, _⟩
  have low : current.rank < threshold := by
    by_contra reached
    exact missing ⟨current, there, Nat.le_of_not_lt reached⟩
  rcases flush_persists taken there with ⟨later, after', changed⟩
  obtain rfl : later = stage := congrArg FlushCall.stage (Option.some.inj (after'.symm.trans here))
  rcases changed with same | ⟨_, spec⟩
  · have still : later = current := same
    rw [still] at high
    omega
  · exact ⟨before, moment, after, next, current, later, whole, runBefore, taken, runAfter, here,
      spec, low, high⟩

/-- A flush filters the cache of an entry on its way. -/
theorem entry_filtered (key : CacheKey) (entry : Entry) (run : Run (step inner) start history last)
    (found : start.flushes[index]? = some ⟨scope, .readPositiveLen⟩)
    (ended : last.flushes[index]? = some ⟨scope, final⟩) (above : entry.filteredRank ≤ final.rank)
    (covers : scope = none ∨ scope = some key.clientId) :
    ∃ before after next stage, history = before ++ after ∧ Run (step inner) next after last ∧
      next.flushes[index]? = some ⟨scope, stage⟩ ∧ entry.filteredRank ≤ stage.rank ∧
      ¬ entry.At next.shared key := by
  have below : FlushStage.readPositiveLen.rank < entry.filteredRank := by
    cases entry <;> exact Nat.succ_pos _
  rcases flush_passes run found ended below above with
    ⟨before, moment, after, next, current, stage, rfl, _, _, runAfter, here, spec, low, high⟩
  refine ⟨before ++ [moment], after, next, stage, by simp, runAfter, here, high, ?_⟩
  generalize next.shared = shared at spec
  cases entry with
  | token cached =>
      change FlushStage.rank current < 3 at low
      change 3 ≤ FlushStage.rank stage at high
      cases spec with
      | flushPositive => simp [Entry.At, lookup_flushMap_covered covers]
      | readPositiveLen | readNegativeLen => simp [FlushStage.rank] at high
      | flushNegative | flushInflight | countPositive | positiveOverflow | countNegative
      | negativeOverflow => simp [FlushStage.rank] at low
  | failure failed =>
      change FlushStage.rank current < 4 at low
      change 4 ≤ FlushStage.rank stage at high
      cases spec with
      | flushNegative => simp [Entry.At, lookup_flushMap_covered covers]
      | readPositiveLen | readNegativeLen | flushPositive => simp [FlushStage.rank] at high
      | flushInflight | countPositive | positiveOverflow | countNegative | negativeOverflow =>
          simp [FlushStage.rank] at low

end Filter

/-! ## What is served after a flush -/

section Served

variable {clock : Instant} {history : List (Moment State Action)} {state : State}
  {clientId secret : String} {beginBefore callBefore before : List (Moment State Action)}
  {beginState callState : State} {scope : Option String}

/-- A call named at some moment began before it. -/
theorem passed_call (run : Run (step inner) (State.initial clock) history state)
    (called : Passed history callBefore (callState, .exchange clientId secret))
    {mover : State} {index : Nat} (passed : Passed history before (mover, .advance index))
    {call : ExchangeCall}
    (found : mover.calls[callState.calls.length]? = some call) :
    Passed before callBefore (callState, .exchange clientId secret) := by
  rcases called.compare passed with earlier | ⟨_, same⟩ | later
  · exact earlier
  · cases congrArg Prod.snd same
  · rcases called.cut run with ⟨_, _, _, runToCall, _, _⟩
    rcases later.cut runToCall with ⟨_, _, _, _, taken, rest⟩
    rcases call_of_run (Run.cons taken rest) found with ⟨_, still, _⟩
    rw [List.getElem?_eq_none (Nat.le_refl _)] at still
    cases still

/-- The flush began before the call did. -/
theorem FlushedBefore.begun_first
    (flushed : FlushedBefore history clientId secret beginBefore beginState scope callBefore
      callState)
    (run : Run (step inner) (State.initial clock) history state) :
    Passed callBefore beginBefore (beginState, .flush scope) := by
  rcases flushed.begun.compare flushed.called with earlier | ⟨_, same⟩ | later
  · exact earlier
  · cases congrArg Prod.snd same
  · rcases flushed.returned with ⟨posEvicted, negEvicted, returned⟩
    rcases flushed.begun.cut run with ⟨_, _, _, runToBegin, _, _⟩
    rcases later.cut runToBegin with ⟨_, _, _, _, taken, rest⟩
    rcases flush_of_run (Run.cons taken rest) returned with ⟨_, still, _⟩
    rw [List.getElem?_eq_none (Nat.le_refl _)] at still
    cases still

/-- What a call reads from the store of an outcome, when the flush had already
filtered the cache. -/
theorem ground_of_store (run : Run (step inner) (State.initial clock) history state)
    (begun : Passed history beginBefore (beginState, .flush scope)) {index : Nat}
    {readBefore storeBefore : List (Moment State Action)} {reader storer : State} {poster : Nat}
    {otherSecret : String} {lock : LockId} {outcome : ExchangeResult} {entry : Entry}
    {stage : FlushStage}
    (read : ReadEntry inner history readBefore reader index clientId secret entry)
    (held : HeldSince (fun state => entry.At state.shared (cacheKey inner clientId secret))
      readBefore storeBefore (storer, .advance poster))
    (store : Store inner (storer, .advance poster) poster clientId otherSecret lock outcome entry)
    (sameKey : cacheKey inner clientId otherSecret = cacheKey inner clientId secret)
    (flushing : storer.flushes[beginState.flushes.length]? = some ⟨scope, stage⟩)
    (late : entry.filteredRank ≤ stage.rank) :
    ∃ sentBefore sender poster reply,
      Ground inner history index clientId secret entry.answer sentBefore sender poster reply ∧
      (Passed sentBefore beginBefore (beginState, .flush scope) ∨
        StoredAcross inner history beginBefore beginState scope sentBefore sender poster clientId
          reply) := by
  have passed := held.passed.extend read.passed.before_prefix
  rcases passed.cut run with ⟨_, _, _, runToStorer, _, _⟩
  rcases accounted_of_run runToStorer rfl store.caller with ⟨post, reply, answered, rfl⟩
  have known := answered.extend passed.before_prefix
  rcases answered with ⟨answerBefore, waiting, answerLock, passedAnswer, waits, sentBefore, sender,
    sendLock, passedSent, sends, samePost⟩
  have sent : Passed history sentBefore (sender, .advance poster) :=
    passedSent.extend (passedAnswer.before_prefix.trans passed.before_prefix)
  have ground : Ground inner history index clientId secret entry.answer sentBefore sender poster
      reply :=
    { sent := sent
      answered := ⟨otherSecret, post, sendLock, known, sends, sameKey⟩
      basis := .cached read held store }
  refine ⟨sentBefore, sender, poster, reply, ground, ?_⟩
  rcases sent.compare begun with before | ⟨_, same⟩ | after
  · exact Or.inr ⟨before, storeBefore, storer, otherSecret, lock, entry, stage, passed, store,
      flushing, late⟩
  · cases congrArg Prod.snd same
  · exact Or.inl after

/-- What a call reads after a flush: the run from the flush's beginning to the
read, in which the flush goes through all its stages. -/
theorem FlushedBefore.run_to_read
    (flushed : FlushedBefore history clientId secret beginBefore beginState scope callBefore
      callState)
    (run : Run (step inner) (State.initial clock) history state) {reader : State} {action : Action}
    (passed : Passed history before (reader, action))
    (afterCall : Passed before callBefore (callState, .exchange clientId secret)) :
    ∃ opened tail final, before = beginBefore ++ (beginState, .flush scope) :: tail ∧
      Run (step inner) opened tail reader ∧
      opened.flushes[beginState.flushes.length]? = some ⟨scope, .readPositiveLen⟩ ∧
      reader.flushes[beginState.flushes.length]? = some ⟨scope, final⟩ ∧ 4 ≤ final.rank := by
  rcases flushed.returned with ⟨posEvicted, negEvicted, returned⟩
  rcases passed.cut run with ⟨_, _, _, runToReader, _, _⟩
  rcases afterCall.cut runToReader with ⟨_, _, _, _, taken, rest⟩
  rcases flush_of_run (Run.cons taken rest) returned with ⟨final, ended, high⟩
  rcases ((flushed.begun_first run).extend afterCall.before_prefix).cut runToReader with
    ⟨opened, tail, whole, _, begins, runTail⟩
  have filtered : 4 ≤ final.rank := by
    have past : 7 ≤ final.rank := high
    omega
  refine ⟨opened, tail, final, whole, runTail, ?_, ended, filtered⟩
  cases begins
  exact List.getElem?_concat_length

end Served

/-- Every result of a call that began after a flush rests on an answer to a
POST sent after the flush began, or to one that was outstanding then and whose
outcome was stored after the flush had filtered the cache. -/
theorem barrier_except_stored_across {clock : Instant} {history : List (Moment State Action)}
    {state : State} (run : Run (step inner) (State.initial clock) history state)
    {beginBefore callBefore : List (Moment State Action)} {beginState callState : State}
    {scope : Option String} {clientId secret : String} {result : Except AuthError String}
    (flushed : FlushedBefore history clientId secret beginBefore beginState scope callBefore
      callState)
    (found : state.calls[callState.calls.length]? = some ⟨clientId, secret, .returned result⟩) :
    ∃ sentBefore sender poster reply,
      Ground inner history callState.calls.length clientId secret result sentBefore sender poster
        reply ∧
      (Passed sentBefore beginBefore (beginState, .flush scope) ∨
        StoredAcross inner history beginBefore beginState scope sentBefore sender poster clientId
          reply) := by
  have source : ResultSource inner history callState.calls.length clientId secret result :=
    accounted_of_run run rfl found
  have begunFirst := flushed.begun_first run
  cases source with
  | @answer post reply _ answered outcome =>
      have kept := answered
      rcases answered with ⟨answerBefore, waiting, answerLock, passedAnswer, waits, sentBefore,
        sender, sendLock, passedSent, sends, samePost⟩
      have sent := passedSent.extend passedAnswer.before_prefix
      have afterCall := passed_call run flushed.called sent sends
      have ground : Ground inner history callState.calls.length clientId secret result sentBefore
          sender callState.calls.length reply :=
        { sent := sent
          answered := ⟨secret, post, sendLock, kept, sends, rfl⟩
          basis := .own rfl outcome }
      exact ⟨sentBefore, sender, _, reply, ground,
        Or.inl (begunFirst.extend afterCall.before_prefix)⟩
  | @cached before reader entry read =>
      rcases read.caller with ⟨_, caller, _⟩
      have afterCall := passed_call run flushed.called read.passed caller
      rcases flushed.run_to_read run read.passed afterCall with
        ⟨opened, tail, final, whole, runTail, opens, ended, high⟩
      have above : entry.filteredRank ≤ final.rank := by
        cases entry with
        | token => exact Nat.le_of_succ_le high
        | failure => exact high
      rcases entry_filtered (cacheKey inner clientId secret) entry runTail opens ended above
        flushed.covers with ⟨front, back, filtered, stage, rfl, runBack, flushing, late, gone⟩
      -- the entry read was stored after the filter, by a call that is still to be found
      rcases entry_stored runBack gone read.found with
        ⟨storeBefore, storer, poster, client, otherSecret, lock, outcome, held, sameKey, store⟩
      rcases held.passed.cut runBack with ⟨_, _, _, runToStorer, _, _⟩
      rcases flush_of_run runToStorer flushing with ⟨later, flushingStore, further⟩
      obtain rfl : client = clientId := (congrArg CacheKey.clientId sameKey).symm
      have sameHistory : (beginBefore ++ (beginState, .flush scope) :: front) ++ back = before := by
        rw [whole]
        simp
      have heldWhole := held.prepend (beginBefore ++ (beginState, .flush scope) :: front)
      rw [sameHistory] at heldWhole
      exact ground_of_store run flushed.begun read heldWhole store sameKey.symm flushingStore
        (Nat.le_trans late further)

/-- POSTs are sent at time zero only. -/
def postsEarly (moment : Moment State Action) : Bool :=
  moment.1.shared.clock = 0 ||
    match moment.2 with
    | .advance index =>
        match moment.1.calls[index]? with
        | some ⟨_, _, .sendPost _⟩ => false
        | _ => true
    | _ => true

/-- A POST is outstanding when the flush begins.  Its token is stored after the
flush has returned, and a call that begins then is served it. -/
theorem stored_across_run :
    ∃ history state beginBefore beginState callBefore callState,
      Run (step sampleInner) (State.initial 0) history state ∧
      FlushedBefore history "c" "sec" beginBefore beginState (some "c") callBefore callState ∧
      state.calls[callState.calls.length]? = some ⟨"c", "sec", .returned (.ok "old")⟩ ∧
      beginState.shared.clock = 1 ∧
      ∀ moment ∈ history, ∀ index clientId secret lock, moment.2 = .advance index →
        moment.1.calls[index]? = some ⟨clientId, secret, .sendPost lock⟩ →
          moment.1.shared.clock = 0 := by
  obtain ⟨history, state, run, observed⟩ := execute_observed (step sampleInner)
    (State.initial 0)
    [.exchange "c" "sec", .advance 0, .advance 0, .advance 0, .advance 0, .advance 0,
      .advance 0, .tick 1, .flush (some "c"), .advanceFlush 0, .advanceFlush 0, .advanceFlush 0,
      .advanceFlush 0, .advanceFlush 0, .advanceFlush 0, .advanceFlush 0,
      .answer 0 (sampleGrant "old" 300), .advance 0, .exchange "c" "sec", .advance 1]
    (fun history state => (state.calls[1]?,
      history[8]?.any (fun moment => moment.1.shared.clock = 1 && moment.1.flushes.length = 0 &&
        moment.2.flushed = some (some "c")),
      history[18]?.any (fun moment => moment.1.calls.length = 1 &&
        moment.1.flushes = [⟨some "c", .returned 0 0⟩] &&
        moment.2.called = some ("c", "sec")),
      history.all postsEarly))
    (some ⟨"c", "sec", .returned (.ok "old")⟩, true, true, true) (by decide +kernel)
  rcases Prod.mk.inj observed with ⟨found, rest⟩
  rcases Prod.mk.inj rest with ⟨begins, rest⟩
  rcases Prod.mk.inj rest with ⟨calling, early⟩
  rcases Option.any_eq_true _ _ |>.mp begins with ⟨⟨beginState, beginAction⟩, hereBegin, begins⟩
  rcases Option.any_eq_true _ _ |>.mp calling with ⟨⟨callState, callAction⟩, hereCall, calling⟩
  simp only [Bool.and_eq_true, decide_eq_true_eq] at begins calling
  rcases begins with ⟨⟨beginClock, beginFlushes⟩, beginActs⟩
  rcases calling with ⟨⟨callCount, callFlushes⟩, callActs⟩
  refine ⟨history, state, history.take 8, beginState, history.take 18, callState, run,
    ⟨?_, Or.inr rfl, ?_, 0, 0, ?_⟩, ?_, beginClock, ?_⟩
  · rcases Action.of_flushed beginActs with rfl
    exact Passed.of_getElem? hereBegin
  · rcases Action.of_called callActs with rfl
    exact Passed.of_getElem? hereCall
  · rw [callFlushes, beginFlushes]
    rfl
  · rw [callCount]
    exact found
  · rintro ⟨sender, action⟩ member index clientId secret lock rfl sends
    have good := List.all_eq_true.mp early _ member
    change sender.calls[index]? = _ at sends
    simpa only [postsEarly, sends, Bool.or_false, decide_eq_true_eq] using good

/-- No flush is a barrier against the answers that are still to come. -/
theorem not_barrier_when_outstanding :
    ∃ history state, Run (step sampleInner) (State.initial 0) history state ∧
      ¬ Barrier sampleInner history state := by
  rcases stored_across_run with
    ⟨history, state, beginBefore, beginState, callBefore, callState, run, flushed, found,
      beginClock, early⟩
  refine ⟨history, state, run, fun barrier => ?_⟩
  rcases barrier _ _ _ _ _ _ _ _ flushed found with
    ⟨sentBefore, sender, poster, reply, ground, afterBegin⟩
  rcases ground.answered with ⟨_, _, lock, _, sends, _⟩
  have sentClock := early _ ground.sent.mem poster _ _ lock rfl sends
  rcases ground.sent.cut run with ⟨_, _, _, runToSender, _, _⟩
  rcases afterBegin.cut runToSender with ⟨_, _, _, _, taken, rest⟩
  have forward := clock_le_of_run (Run.cons taken rest)
  change sender.shared.clock = 0 at sentClock
  rw [beginClock, sentClock] at forward
  exact absurd forward (by decide)

/-- The late store grounds what is served after the flush. -/
theorem barrier_except_stored_across_late :
    ∃ history index beginBefore beginState sentBefore sender poster reply,
      Ground sampleInner history index "c" "sec" (.ok "old") sentBefore sender poster reply ∧
      (Passed sentBefore beginBefore (beginState, .flush (some "c")) ∨
        StoredAcross sampleInner history beginBefore beginState (some "c") sentBefore sender poster
          "c" reply) := by
  rcases stored_across_run with
    ⟨history, state, beginBefore, beginState, callBefore, callState, run, flushed, found, _⟩
  exact ⟨history, callState.calls.length, beginBefore, beginState,
    barrier_except_stored_across run flushed found⟩

end Exchange
end OidcRs
