import OidcRs.Exchange.Refinement

namespace OidcRs
namespace Exchange

open Foundation

/-!
# The two maps and the one are indistinguishable

The other direction of the refinement.  Whatever the reference machine does
next, the exchanger catches up with it: the call or flush under way is never
stuck, and its steps stay silent until one of them does what the reference
machine did.
-/

variable {inner : ExchangerInner}

/-- Steps the reference machine takes on its own account in the middle of a
call or a flush. -/
def Reference.Action.own : Reference.Action → Bool
  | .read | .send | .write | .finish | .empty | .returnFlush => true
  | .call _ _ | .answer _ | .flush _ | .tick _ => false

/-- The one step of its own that an activity leads to. -/
def Reference.Activity.next : Reference.Activity → Option Reference.Action
  | .reading _ _ => some .read
  | .sending _ _ => some .send
  | .writing _ _ _ => some .write
  | .returning _ => some .finish
  | .flushing _ => some .empty
  | .emptied _ _ => some .returnFlush
  | .idle | .waiting _ _ => none

theorem next_of_step {above aboveNext : Reference.State} {action : Reference.Action}
    (taken : Reference.step inner above action = some aboveNext) :
    (∃ elapsed, action = .tick elapsed) ∨
      above.activity.next = if action.own then some action else none := by
  cases action <;> simp only [Reference.step] at taken
  case tick elapsed => exact Or.inl ⟨elapsed, rfl⟩
  all_goals
    split at taken
    · next doing =>
        rw [doing]
        exact Or.inr rfl
    · cases taken

theorem next_of_own {above aboveNext : Reference.State} {action : Reference.Action}
    (taken : Reference.step inner above action = some aboveNext) (own : action.own = true) :
    above.activity.next = some action := by
  rcases next_of_step taken with ⟨elapsed, rfl⟩ | next
  · cases own
  · rwa [if_pos own] at next

/-- In the middle of a call or a flush the reference machine has one next step
of its own. -/
theorem own_unique {above first second : Reference.State} {action other : Reference.Action}
    (taken : Reference.step inner above action = some first) (own : action.own = true)
    (takenOther : Reference.step inner above other = some second)
    (timeless : ∀ elapsed, other ≠ .tick elapsed) : other = action := by
  have next := next_of_own taken own
  rcases next_of_step takenOther with ⟨elapsed, same⟩ | nextOther
  · exact absurd same (timeless elapsed)
  · rw [next] at nextOther
    split at nextOther
    · exact (Option.some.inj nextOther).symm
    · cases nextOther

/-- A match that shows no passing of time is that next step, or none. -/
theorem Keeps.own {above aboveNext reached : Reference.State} {action : Reference.Action}
    {events : List Reference.Event} (keeps : Keeps inner above events reached)
    (taken : Reference.step inner above action = some aboveNext) (own : action.own = true)
    (timeless : ∀ elapsed, events ≠ [.elapsed elapsed]) :
    (reached = above ∧ events = []) ∨
      (reached = aboveNext ∧ events = (Reference.event inner (above, action)).toList) := by
  cases keeps with
  | stays same silent => exact Or.inl ⟨same, silent⟩
  | moves other takenOther shows _ =>
      have notTick : ∀ elapsed, other ≠ .tick elapsed := by
        rintro elapsed rfl
        exact timeless elapsed shows.symm
      have same := own_unique taken own takenOther notTick
      subst same
      exact Or.inr ⟨Option.some.inj (takenOther.symm.trans taken), shows.symm⟩

/-- The deadline to be written is the one the exchanger computes. -/
theorem slotOf_stored (now : Instant) {outcome : ExchangeResult} {ttl : Duration}
    (stored : storedTtl inner outcome = some ttl) :
    ∃ slot, Reference.slotOf inner now outcome = some slot ∧ slot.deadline = now + ttl.nanos := by
  cases outcome with
  | ok pair =>
      rcases pair with ⟨jwt, expiresIn⟩
      have lifetime : positiveTtl inner expiresIn = ttl := Option.some.inj stored
      refine ⟨.token jwt (now + ttl.nanos), ?_, rfl⟩
      rw [slotOf_ok, lifetime]
  | error error =>
      rcases Option.map_eq_some_iff.mp stored with ⟨reason, cached, lifetime⟩
      refine ⟨.failed reason (now + ttl.nanos), ?_, rfl⟩
      rw [slotOf_error now cached, lifetime]

theorem checkedAdd_of_representable {now : Instant} {outcome : ExchangeResult} {ttl : Duration}
    (stored : storedTtl inner outcome = some ttl)
    (bounded : ∀ slot, Reference.slotOf inner now outcome = some slot →
      slot.deadline < instantLimit) : Instant.checkedAdd now ttl ≠ none := by
  rcases slotOf_stored now stored with ⟨slot, written, deadline⟩
  have small := bounded slot written
  rw [deadline] at small
  rw [Instant.checkedAdd_of_lt small]
  exact Option.some_ne_none _

/-! ## The one under way is never stuck -/

section Progress

variable {state : State} {above aboveNext : Reference.State} {action : Reference.Action}

/-- A call that does not wait for the lock or for an answer can take a step. -/
theorem callStep_enabled (inner : ExchangerInner) (shared : Shared) (clientId secret : String)
    {stage : CallStage}
    (unfinished : stage.finished = false) (answered : ∀ lock post, stage ≠ .awaitAnswer lock post)
    (free : ∀ lock, stage = .awaitLock lock → shared.inflight.heap.isLocked lock = false) :
    ∃ next later, callStep inner shared ⟨clientId, secret, stage⟩ = some (next, later) := by
  cases stage <;> simp only [callStep]
  case lookupPositive | lookupNegative | recheckPositive =>
    split
    · split <;> exact ⟨_, _, rfl⟩
    · exact ⟨_, _, rfl⟩
  case awaitLock lock =>
    rw [free lock rfl]
    exact ⟨_, _, rfl⟩
  case awaitAnswer lock post => exact absurd rfl (answered lock post)
  case storeOutcome lock result => exact ⟨_, _, rfl⟩
  case returned | aborted => cases unfinished
  all_goals exact ⟨_, _, rfl⟩

/-- With one call under way, nobody else holds the lock it waits for. -/
theorem Exchanging.lock_free {index : Nat} {clientId secret : String} {lock : LockId}
    (exchanges : Exchanging inner state above index clientId secret (.awaitLock lock))
    (sound : (lockView state).Sound) : state.shared.inflight.heap.isLocked lock = false := by
  rcases sound with ⟨home, soundAt⟩
  have counted := soundAt.lockedExact lock
  cases locked : state.shared.inflight.heap.isLocked lock with
  | false => rfl
  | true =>
      have tallied : Roster.tally Phase.guard (lockView state).members lock = 1 := by
        rw [counted]
        change (if state.shared.inflight.heap.isLocked lock = true then 1 else 0) = 1
        rw [locked]
        rfl
      rcases Roster.exists_of_tally_pos (Nat.lt_of_lt_of_eq Nat.zero_lt_one tallied.symm) with
        ⟨member, listed, guards⟩
      rcases List.mem_map.mp listed with ⟨call, known, rfl⟩
      rcases List.mem_iff_getElem?.mp known with ⟨position, found⟩
      by_cases same : position = index
      · subst same
        rcases Option.some.inj (exchanges.found.symm.trans found) with rfl
        cases guards
      · have released := ExchangeCall.handle_of_finished (exchanges.others position call same found)
        have held : call.handle = some lock := Roster.handle_of_guard guards
        rw [held] at released
        cases released

/-- The exchanger can run on until it has shown these events and follows the
reference machine in its next state. -/
def CatchesUp (inner : ExchangerInner) (state : State) (events : List Reference.Event)
    (aboveNext : Reference.State) : Prop :=
  ∃ history next, Run (step inner) state history next ∧
    (∀ moment ∈ history, Sequential inner moment) ∧ trace (event inner) history = events ∧
    Follows inner next aboveNext ∧ (lockView next).Sound

/-- One step shows it all. -/
theorem CatchesUp.now (first : Action) {next : State} {events : List Reference.Event}
    (sound : (lockView state).Sound) (stepped : step inner state first = some next)
    (sequential : Sequential inner (state, first))
    (shows : trace (event inner) [(state, first)] = events)
    (follows : Follows inner next aboveNext) : CatchesUp inner state events aboveNext := by
  refine ⟨[(state, first)], next, Run.single stepped, ?_, shows, follows, sound_step sound stepped⟩
  intro moment member
  rw [List.mem_singleton.mp member]
  exact sequential

/-- A silent step may go first. -/
theorem CatchesUp.later {next : State} {first : Action} {events : List Reference.Event}
    (stepped : step inner state first = some next) (sequential : Sequential inner (state, first))
    (silent : trace (event inner) [(state, first)] = [])
    (rest : CatchesUp inner next events aboveNext) : CatchesUp inner state events aboveNext := by
  rcases rest with ⟨history, last, run, allSequential, shows, follows, sound⟩
  refine ⟨(state, first) :: history, last, Run.cons stepped run, ?_, ?_, follows, sound⟩
  · intro moment member
    rcases List.mem_cons.mp member with rfl | member
    · exact sequential
    · exact allSequential moment member
  · rw [← List.singleton_append, trace_append, silent, shows]
    rfl

/-- The next step of the one call under way computes a representable deadline,
if it computes one at all: the reference machine writes it. -/
theorem Exchanging.sequential {index : Nat} {clientId secret : String} {stage : CallStage}
    (exchanges : Exchanging inner state above index clientId secret stage)
    (taken : Reference.step inner above action = some aboveNext) (own : action.own = true)
    (representable : Reference.Representable inner (above, action)) :
    Sequential inner (state, .advance index) := by
  intro client other lock outcome ttl listed stored
  rcases ExchangeCall.mk.inj (Option.some.inj (exchanges.found.symm.trans listed)) with
    ⟨rfl, rfl, rfl⟩
  rcases above with ⟨slots, now, activity⟩
  have nextAction : activity.next = some action := next_of_own taken own
  have phase : ExchangePhase inner state.shared.positive state.shared.negative slots clientId
    secret (.storeOutcome lock outcome) activity := exchanges.phase
  have sameClock : now = state.shared.clock := exchanges.clock
  cases phase with
  | missed missing => cases missing
  | leaving leaves => cases leaves
  | writing =>
      apply checkedAdd_of_representable stored
      intro slot written
      rcases Option.some.inj nextAction with rfl
      rw [← sameClock] at written
      exact representable clientId secret outcome slot rfl rfl written

/-- A call under way catches up with the reference machine's next own step. -/
theorem Exchanging.catch_up {index : Nat} {clientId secret : String} {stage : CallStage}
    (exchanges : Exchanging inner state above index clientId secret stage)
    (sound : (lockView state).Sound) (taken : Reference.step inner above action = some aboveNext)
    (own : action.own = true) (representable : Reference.Representable inner (above, action)) :
    CatchesUp inner state (Reference.event inner (above, action)).toList aboveNext := by
  -- every silent step leaves the call closer to its end
  induction measure : 18 - stage.rank using Nat.strong_induction_on generalizing state stage with
  | _ bound inductionHypothesis =>
      have nextAction := next_of_own taken own
      have unanswered : ∀ lock post, stage ≠ .awaitAnswer lock post := by
        rintro lock post rfl
        have phase := exchanges.phase
        generalize above.activity = activity at phase nextAction
        cases phase with
        | missed missing => cases missing
        | leaving leaves => cases leaves
        | waiting => cases nextAction
      have free : ∀ lock, stage = .awaitLock lock →
          state.shared.inflight.heap.isLocked lock = false := by
        rintro lock rfl
        exact exchanges.lock_free sound
      rcases callStep_enabled inner state.shared clientId secret exchanges.unfinished unanswered
        free with ⟨shared, later, moved⟩
      have found := exchanges.found
      have stepped : step inner state (.advance index) = some
          ⟨shared, state.setStage index ⟨clientId, secret, stage⟩ later, state.flushes⟩ := by
        simp only [step, found, moved]
      have sequential := exchanges.sequential taken own representable
      have move : CallMove inner state.shared index clientId secret (.advance index) stage
          shared later := .advance (callStep_spec moved)
      rcases exchanges.move sequential move with ⟨reached, keeps, continues⟩
      have shows := event_of_move stepped found (Roll.replaced_self found _) (Or.inl rfl) (by simp)
      have timeless : ∀ elapsed,
          shown inner clientId secret (.advance index) stage later ≠ [.elapsed elapsed] := by
        intro elapsed
        simp only [shown]
        cases stage <;> cases later <;> simp [moveEvent]
      rcases keeps.own taken own timeless with ⟨rfl, silent⟩ | ⟨rfl, same⟩
      · rcases continues with ongoing | rests
        · have closer : 18 - later.rank < bound := by
            have forward : stage.rank < later.rank := move.rank_lt
            have low := stage.rank_lt
            omega
          exact .later stepped sequential (shows.trans silent)
            (inductionHypothesis _ closer ongoing (sound_step sound stepped) rfl)
        · rw [rests.activity] at nextAction
          cases nextAction
      · exact .now _ sound stepped sequential (shows.trans same)
          (continues.elim .exchanging .atRest)

/-- A flush that has not returned can take a step. -/
theorem flushStep_enabled (shared : Shared) (scope : Option String) {stage : FlushStage}
    (unfinished : stage.finished = false) :
    ∃ next later, flushStep shared ⟨scope, stage⟩ = some (next, later) := by
  cases stage <;> simp only [flushStep]
  case countPositive | countNegative => split <;> exact ⟨_, _, rfl⟩
  case returned | overflowed => cases unfinished
  all_goals exact ⟨_, _, rfl⟩

/-- A flush under way catches up with the reference machine's next own step. -/
theorem Flushing.catch_up {index : Nat} {scope : Option String} {stage : FlushStage}
    (flushing : Flushing state above index scope stage) (sound : (lockView state).Sound)
    (taken : Reference.step inner above action = some aboveNext) (own : action.own = true) :
    CatchesUp inner state (Reference.event inner (above, action)).toList aboveNext := by
  induction measure : 8 - stage.rank using Nat.strong_induction_on generalizing state stage with
  | _ bound inductionHypothesis =>
      have nextAction := next_of_own taken own
      rcases flushStep_enabled state.shared scope flushing.unfinished with ⟨shared, later, moved⟩
      have found := flushing.found
      have stepped : step inner state (.advanceFlush index) = some
          ⟨shared, state.calls, state.flushes.set index ⟨scope, later⟩⟩ := by
        simp only [step, found, moved]
      have spec := flushStep_spec moved
      rcases flushing.move inner spec with ⟨reached, keeps, continues⟩
      have shows := event_of_flush_step stepped (Roll.replaced_self found _)
      have timeless : ∀ elapsed, flushShown later ≠ [.elapsed elapsed] := by
        intro elapsed
        cases later <;> simp [flushShown]
      rcases keeps.own taken own timeless with ⟨rfl, silent⟩ | ⟨rfl, same⟩
      · rcases continues with ongoing | rests
        · have closer : 8 - later.rank < bound := by
            have forward : stage.rank < later.rank := spec.rank_lt
            have last : later.rank ≤ 8 := by cases later <;> simp [FlushStage.rank]
            omega
          exact .later stepped trivial (shows.trans silent)
            (inductionHypothesis _ closer ongoing (sound_step sound stepped) rfl)
        · rw [rests.activity] at nextAction
          cases nextAction
      · exact .now _ sound stepped trivial (shows.trans same) (continues.elim .flushing .atRest)

end Progress

/-! ## The simulation back -/

theorem answer_of_event {above : Reference.State} {action : Reference.Action} {reply : TokenReply}
    (shows : Reference.event inner (above, action) = some (.answered reply)) :
    action = .answer reply := by
  rcases above with ⟨slots, now, activity⟩
  cases action <;> cases activity <;> simp_all [Reference.event]

/-- The activities of the reference machine in which it takes no step of its
own, seen from the exchanger. -/
theorem Follows.idle {state : State} {above : Reference.State}
    (follows : Follows inner state above) (idle : above.activity = .idle) :
    AtRest state above := by
  cases follows with
  | atRest rests => exact rests
  | exchanging exchanges =>
      have phase := exchanges.phase
      rw [idle] at phase
      cases phase
  | flushing flushing =>
      have phase := flushing.phase
      rw [idle] at phase
      cases phase

theorem Follows.waiting {state : State} {above : Reference.State} {clientId secret : String}
    (follows : Follows inner state above) (waits : above.activity = .waiting clientId secret) :
    ∃ index lock post,
      Exchanging inner state above index clientId secret (.awaitAnswer lock post) := by
  cases follows with
  | atRest rests =>
      rw [rests.activity] at waits
      cases waits
  | flushing flushing =>
      have phase := flushing.phase
      rw [waits] at phase
      cases phase
  | @exchanging index _ _ stage exchanges =>
      have phase := exchanges.phase
      rw [waits] at phase
      cases phase with
      | waiting => exact ⟨index, _, _, exchanges⟩

theorem Follows.catch_up {state : State} {above aboveNext : Reference.State}
    {action : Reference.Action} (follows : Follows inner state above)
    (sound : (lockView state).Sound) (taken : Reference.step inner above action = some aboveNext)
    (own : action.own = true) (representable : Reference.Representable inner (above, action)) :
    CatchesUp inner state (Reference.event inner (above, action)).toList aboveNext := by
  cases follows with
  | atRest rests =>
      have next := next_of_own taken own
      rw [rests.activity] at next
      cases next
  | exchanging exchanges => exact exchanges.catch_up sound taken own representable
  | flushing flushing => exact flushing.catch_up sound taken own

/-- A call that waits for its answer takes the one the reference machine takes. -/
theorem Exchanging.answer {state : State} {above : Reference.State} {index : Nat}
    {clientId secret : String} {lock : LockId} {post : TokenPost}
    (exchanges : Exchanging inner state above index clientId secret (.awaitAnswer lock post))
    (sound : (lockView state).Sound) (reply : TokenReply)
    (waits : above.activity = .waiting clientId secret) :
    CatchesUp inner state [.answered reply]
      { above with activity := .writing clientId secret (exchangeInner reply) } := by
  have found := exchanges.found
  have stepped : step inner state (.answer index reply) = some { state with
      calls := state.setStage index ⟨clientId, secret, .awaitAnswer lock post⟩
        (.storeOutcome lock (exchangeInner reply)) } := by
    simp only [step, found, answerStage]
  rcases exchanges.move (show Sequential inner (state, .answer index reply) from trivial)
    (.answer reply) with ⟨reached, keeps, continues⟩
  have same : reached =
      { above with activity := .writing clientId secret (exchangeInner reply) } := by
    cases keeps with
    | stays _ silent => cases silent
    | moves other taken shows =>
        rcases answer_of_event (Option.toList_eq_singleton_iff.mp shows) with rfl
        simp only [Reference.step, waits] at taken
        exact (Option.some.inj taken).symm
  subst same
  exact .now _ sound stepped trivial rfl (continues.elim .exchanging .atRest)

/-- Whatever the reference machine shows, the exchanger can show. -/
def referenceSimulation (inner : ExchangerInner) :
    Simulation (Reference.machine inner) (machine inner) (Reference.Representable inner)
      (Sequential inner) where
  relation above state := Follows inner state above ∧ (lockView state).Sound
  matches_step := by
    rintro above state action aboveNext ⟨follows, sound⟩ representable taken
    have shown : trace (Reference.event inner) [(above, action)] =
        (Reference.event inner (above, action)).toList := by
      simp only [trace, List.filterMap_cons, List.filterMap_nil]
      cases Reference.event inner (above, action) <;> rfl
    change CatchesUp inner state (trace (Reference.event inner) [(above, action)]) aboveNext
    rw [shown]
    by_cases own : action.own = true
    · exact follows.catch_up sound taken own representable
    · cases action with
      | read | send | write | finish | empty | returnFlush => exact absurd rfl own
      | call clientId secret =>
          simp only [Reference.machine, Reference.step] at taken
          split at taken
          · next idle =>
              rcases Option.some.inj taken with rfl
              have rests := follows.idle idle
              exact .now (.exchange clientId secret) sound rfl rests.quiet rfl
                (rests.call clientId secret)
          · cases taken
      | flush scope =>
          simp only [Reference.machine, Reference.step] at taken
          split at taken
          · next idle =>
              rcases Option.some.inj taken with rfl
              have rests := follows.idle idle
              exact .now (.flush scope) sound rfl rests.quiet rfl (rests.flush scope)
          · cases taken
      | tick elapsed =>
          rcases Option.some.inj taken with rfl
          exact .now (.tick elapsed) sound rfl trivial rfl (follows.tick elapsed)
      | answer reply =>
          simp only [Reference.machine, Reference.step] at taken
          split at taken
          · next clientId secret waits =>
              rcases Option.some.inj taken with rfl
              rcases follows.waiting waits with ⟨index, lock, post, exchanges⟩
              exact exchanges.answer sound reply waits
          · cases taken

/-- Exchange calls and flushes made one after another are indistinguishable from
the reference machine.  Each shows the same traces of calls, POSTs, answers,
results, counts and passing time as the other.  Between calls the reference
slot of every key is the one entry the two maps have for it, and no key is in
both. -/
theorem sequential_refinement (inner : ExchangerInner) (clock : Instant) :
    (∀ history state, Run (step inner) (State.initial clock) history state →
      (∀ moment ∈ history, Sequential inner moment) →
      ∃ aboveHistory above,
        Run (Reference.step inner) (Reference.State.initial clock) aboveHistory above ∧
        (∀ moment ∈ aboveHistory, Reference.Representable inner moment) ∧
        trace (Reference.event inner) aboveHistory = trace (event inner) history ∧
        (Quiet state →
          above.activity = .idle ∧ above.clock = state.shared.clock ∧
          Agrees state.shared.positive state.shared.negative above.slots (fun _ => False) ∧
          ∀ key, state.shared.positive.lookup key = none ∨
            state.shared.negative.lookup key = none)) ∧
    ∀ aboveHistory above,
      Run (Reference.step inner) (Reference.State.initial clock) aboveHistory above →
      (∀ moment ∈ aboveHistory, Reference.Representable inner moment) →
      ∃ history state, Run (step inner) (State.initial clock) history state ∧
        (∀ moment ∈ history, Sequential inner moment) ∧
        trace (event inner) history = trace (Reference.event inner) aboveHistory := by
  constructor
  · intro history state run sequential
    rcases (sequentialSimulation inner).run (follows_initial inner clock) run sequential with
      ⟨aboveHistory, above, runAbove, representable, sameTrace, follows⟩
    refine ⟨aboveHistory, above, runAbove, representable, sameTrace, fun quiet => ?_⟩
    have rests := Follows.rests follows quiet
    exact ⟨rests.activity, rests.clock, rests.agrees,
      fun key => (rests.agrees key not_false).disjoint⟩
  · intro aboveHistory above run representable
    rcases (referenceSimulation inner).run ⟨follows_initial inner clock, sound_initial clock⟩ run
      representable with ⟨history, state, runBelow, sequential, sameTrace, _⟩
    exact ⟨history, state, runBelow, sequential, sameTrace⟩

/-! ## A sequence of calls -/

/-- `Sequential`, evaluated. -/
def sequentialCheck (inner : ExchangerInner) (moment : Moment State Action) : Bool :=
  match moment.2 with
  | .exchange _ _ | .flush _ =>
      moment.1.calls.all (·.stage.finished) && moment.1.flushes.all (·.stage.finished)
  | .abandon _ => false
  | .advance index =>
      match moment.1.calls[index]? with
      | some ⟨_, _, .storeOutcome _ outcome⟩ =>
          (storedTtl inner outcome).all (fun ttl =>
            (Instant.checkedAdd moment.1.shared.clock ttl).isSome)
      | _ => true
  | .answer _ _ | .advanceFlush _ | .tick _ => true

theorem sequential_of_check {moment : Moment State Action}
    (checked : sequentialCheck inner moment = true) : Sequential inner moment := by
  rcases moment with ⟨state, action⟩
  have quiet : (state.calls.all (·.stage.finished) && state.flushes.all (·.stage.finished)) = true →
      Quiet state := by
    intro both
    rcases Bool.and_eq_true_iff.mp both with ⟨calls, flushes⟩
    exact ⟨fun _ call found => List.all_eq_true.mp calls call (List.mem_of_getElem? found),
      fun _ call found => List.all_eq_true.mp flushes call (List.mem_of_getElem? found)⟩
  cases action with
  | exchange | flush => exact quiet checked
  | abandon => cases checked
  | answer | advanceFlush | tick => exact trivial
  | advance index =>
      intro clientId secret lock outcome ttl found stored missing
      simp only [sequentialCheck, found, stored, Option.all_some, missing] at checked
      cases checked

/-- The token of a result, or the counts of a flush. -/
def Reference.Event.outcome : Reference.Event → Option (Option String × Nat × Nat)
  | .returned result => some (result.toOption, 0, 0)
  | .flushReturned posEvicted negEvicted => some (none, posEvicted, negEvicted)
  | _ => none

/-- A refusal is repeated from the cache, outlived, and followed by a token,
which a flush evicts: the reference machine returns the same four results. -/
theorem sequential_refinement_of_calls :
    ∃ history state aboveHistory above,
      Run (step sampleInner) (State.initial 0) history state ∧
      Run (Reference.step sampleInner) (Reference.State.initial 0) aboveHistory above ∧
      (trace (Reference.event sampleInner) aboveHistory).filterMap Reference.Event.outcome =
        [(none, 0, 0), (none, 0, 0), (some "jwt", 0, 0), (none, 1, 0)] ∧
      (Quiet state → above.activity = .idle) := by
  obtain ⟨history, state, run, observed⟩ := execute_observed (step sampleInner)
    (State.initial 0)
    [.exchange "c" "bad", .advance 0, .advance 0, .advance 0, .advance 0, .advance 0,
      .advance 0, .answer 0 sampleRejection, .advance 0, .advance 0, .advance 0, .advance 0,
      .tick 1000, .exchange "c" "bad", .advance 1, .advance 1, .tick (31 * nanosPerSec),
      .exchange "c" "bad", .advance 2, .advance 2, .advance 2, .advance 2, .advance 2, .advance 2,
      .advance 2, .answer 2 (sampleGrant "jwt" 300), .advance 2, .advance 2, .advance 2, .advance 2,
      .advance 2, .flush (some "c"), .advanceFlush 0, .advanceFlush 0, .advanceFlush 0,
      .advanceFlush 0, .advanceFlush 0, .advanceFlush 0, .advanceFlush 0]
    (fun history _ => (history.all (sequentialCheck sampleInner),
      (trace (event sampleInner) history).filterMap Reference.Event.outcome))
    (true, [(none, 0, 0), (none, 0, 0), (some "jwt", 0, 0), (none, 1, 0)])
    (by decide +kernel)
  rcases Prod.mk.inj observed with ⟨checked, results⟩
  obtain ⟨aboveHistory, above, runAbove, _, sameTrace, rests⟩ :=
    (sequential_refinement sampleInner 0).1 history state run
      (fun moment member => sequential_of_check (List.all_eq_true.mp checked moment member))
  refine ⟨history, state, aboveHistory, above, run, runAbove, ?_, fun quiet => (rests quiet).1⟩
  rw [sameTrace]
  exact results

end Exchange
end OidcRs
