import OidcRs.Exchange.Departure
import OidcRs.Exchange.Refinement
import OidcRs.Exchange.SingleFlight
import OidcRs.Foundation.Completion

namespace OidcRs
namespace Exchange

open Foundation

/-!
# Every call comes to its end

A call waits for the IdP or for the lock of its client, and for nothing else.
Whoever guards that lock is a call of the same client that can go on or waits
for the IdP itself.  So no calls wait for each other in a circle, no client waits
for another one, and when nothing can move every call has finished.  A stage is
never taken twice, which bounds the steps that are left.
-/

variable {inner : ExchangerInner}

/-! ## What is left to do -/

/-- The actions that carry on what has been begun. -/
def Action.Works : Action → Prop
  | .advance _ | .answer _ _ | .advanceFlush _ => True
  | .exchange _ _ | .abandon _ | .flush _ | .tick _ => False

instance : DecidablePred Action.Works
  | .advance _ | .answer _ _ | .advanceFlush _ => isTrue trivial
  | .exchange _ _ | .abandon _ | .flush _ | .tick _ => isFalse id

/-- Likewise, where the IdP answers the POST of each call in the given way. -/
def Action.WorksWith (replies : Nat → TokenReply) : Action → Prop
  | .answer index reply => reply = replies index
  | action => action.Works

/-- The actions by which a call comes in. -/
def Action.Begins : Action → Prop
  | .exchange _ _ | .flush _ => True
  | .advance _ | .answer _ _ | .abandon _ | .advanceFlush _ | .tick _ => False

theorem Action.WorksWith.works {replies : Nat → TokenReply} {action : Action}
    (works : action.WorksWith replies) : action.Works := by
  cases action with
  | answer => trivial
  | exchange | advance | abandon | flush | advanceFlush | tick => exact works

/-- The number of stages in front of a call. -/
def ExchangeCall.left (call : ExchangeCall) : Nat := 17 - call.stage.rank

def FlushCall.left (call : FlushCall) : Nat := 8 - call.stage.rank

/-- The number of stages in front of all calls. -/
def State.left (state : State) : Nat :=
  Roll.total ExchangeCall.left state.calls + Roll.total FlushCall.left state.flushes

theorem CallMove.left_lt {shared next : Shared} {index : Nat} {call : ExchangeCall}
    {action : Action} {stage : CallStage}
    (move : CallMove inner shared index call.clientId call.secret action call.stage next stage) :
    ({ call with stage := stage } : ExchangeCall).left < call.left := by
  have forward := move.rank_lt
  have last := stage.rank_lt
  simp only [ExchangeCall.left]
  omega

theorem FlushStage.rank_le (stage : FlushStage) : stage.rank ≤ 8 := by
  cases stage <;> simp only [rank, Nat.reduceLeDiff]

theorem FlushSpec.left_lt {shared next : Shared} {call : FlushCall} {stage : FlushStage}
    (spec : FlushSpec shared call.clientId call.stage next stage) :
    ({ call with stage := stage } : FlushCall).left < call.left := by
  have forward := spec.rank_lt
  have last := stage.rank_le
  simp only [FlushCall.left]
  omega

theorem left_lt_of_works {state next : State} {action : Action} (works : action.Works)
    (taken : step inner state action = some next) : next.left < state.left := by
  cases step_spec taken with
  | call found move => exact Nat.add_lt_add_right (Roll.total_replaced_lt found move.left_lt) _
  | flushStep found spec => exact Nat.add_lt_add_left (Roll.total_replaced_lt found spec.left_lt) _
  | exchange | flush | tick => cases works

theorem left_le_of_step {state next : State} {action : Action} (begins : ¬ action.Begins)
    (taken : step inner state action = some next) : next.left ≤ state.left := by
  cases step_spec taken with
  | call found move =>
      exact Nat.add_le_add_right (Nat.le_of_lt (Roll.total_replaced_lt found move.left_lt)) _
  | flushStep found spec =>
      exact Nat.add_le_add_left (Nat.le_of_lt (Roll.total_replaced_lt found spec.left_lt)) _
  | tick => exact Nat.le_refl _
  | exchange | flush => exact absurd trivial begins

/-! ## Who waits for whom -/

/-- The call can take its next step, or waits for the answer to its POST. -/
def Unhindered (inner : ExchangerInner) (state : State) (index : Nat) (call : ExchangeCall) :
    Prop :=
  (∃ next, step inner state (.advance index) = some next) ∨ call.PostOutstanding

/-- The call waits for a lock that another call of its client guards. -/
structure WaitsBehind (state : State) (call : ExchangeCall) (other : Nat) (holder : ExchangeCall) :
    Prop where
  found : state.calls[other]? = some holder
  sameClient : holder.clientId = call.clientId
  guarded : ∃ lock, call.stage = .awaitLock lock ∧ holder.stage.phase.guard = some lock

theorem unhindered_or_locked {state : State} {index : Nat} {call : ExchangeCall}
    (found : state.calls[index]? = some call) (pending : call.Pending) :
    Unhindered inner state index call ∨
      ∃ lock, call.stage = .awaitLock lock ∧ state.shared.inflight.heap.isLocked lock = true := by
  cases enabled : callStep inner state.shared call with
  | some moved =>
      have some_ : (callStep inner state.shared call).isSome := by rw [enabled]; rfl
      exact Or.inl (Or.inl (exists_step found some_))
  | none =>
      rcases call with ⟨clientId, secret, stage⟩
      cases stage with
      | awaitAnswer lock post => exact Or.inl (Or.inr ⟨lock, post, rfl⟩)
      | awaitLock lock =>
          refine Or.inr ⟨lock, rfl, ?_⟩
          simpa [callStep] using enabled
      | returned | aborted => cases pending
      | lookupPositive | lookupNegative | recheckPositive =>
          simp only [callStep] at enabled
          split at enabled
          · split at enabled <;> cases enabled
          · cases enabled
      | evictPositive | evictNegative | takeHandle | sendPost | storeOutcome | removeNegative
      | dropGuard | dropLock | cleanupInflight | unwindGuard | unwindLock => cases enabled

/-- A locked lock is guarded by a call of the client it belongs to. -/
theorem waits_behind_of_locked {state : State} (sound : (lockView state).Sound) {index : Nat}
    {call : ExchangeCall} (found : state.calls[index]? = some call) {lock : LockId}
    (waits : call.stage = .awaitLock lock)
    (locked : state.shared.inflight.heap.isLocked lock = true) :
    ∃ other holder, WaitsBehind state call other holder := by
  rcases sound with ⟨home, sound⟩
  have guards : Roster.tally Phase.guard (lockView state).members lock = 1 := by
    rw [sound.lockedExact lock]
    exact if_pos locked
  rcases Roster.exists_of_tally_pos (guards ▸ Nat.one_pos) with ⟨member, listed, guarded⟩
  rcases List.mem_map.mp listed with ⟨holder, known, rfl⟩
  rcases List.mem_iff_getElem?.mp known with ⟨other, there⟩
  have held : (lockMember call).phase.handle = some lock := by
    rw [lockMember, waits]
    rfl
  have mine := sound.memberHome _ (lockView_member (List.mem_of_getElem? found)) lock held
  have theirs := sound.memberHome _ listed lock (Roster.handle_of_guard guarded)
  exact ⟨other, holder, there, theirs.symm.trans mine, lock, waits, guarded⟩

/-- Whoever guards a lock does not wait for one. -/
theorem unhindered_of_guard {state : State} {index : Nat} {call : ExchangeCall} {lock : LockId}
    (found : state.calls[index]? = some call) (guarded : call.stage.phase.guard = some lock) :
    Unhindered inner state index call := by
  have pending : call.Pending := by
    rcases call with ⟨clientId, secret, stage⟩
    cases stage <;> first | rfl | cases guarded
  rcases unhindered_or_locked found pending with free | ⟨other, waits, _⟩
  · exact free
  · rw [waits] at guarded
    cases guarded

/-- A call that has not finished can go on, waits for the IdP, or waits behind a
call of its own client that can go on or waits for the IdP. -/
theorem never_deadlocked {state : State} (sound : (lockView state).Sound) {index : Nat}
    {call : ExchangeCall} (found : state.calls[index]? = some call) (pending : call.Pending) :
    Unhindered inner state index call ∨
      ∃ other holder, WaitsBehind state call other holder ∧ Unhindered inner state other holder := by
  rcases unhindered_or_locked found pending with free | ⟨lock, waits, locked⟩
  · exact Or.inl free
  · rcases waits_behind_of_locked sound found waits locked with ⟨other, holder, behind⟩
    rcases behind.guarded with ⟨_, _, guarded⟩
    exact Or.inr ⟨other, holder, behind, unhindered_of_guard behind.found guarded⟩

/-! ## Nothing left to do -/

theorem answer_enabled {state : State} {index : Nat} {call : ExchangeCall}
    (found : state.calls[index]? = some call) (posted : call.PostOutstanding)
    (reply : TokenReply) : ∃ next, step inner state (.answer index reply) = some next := by
  rcases call with ⟨clientId, secret, stage⟩
  rcases posted with ⟨lock, post, rfl⟩
  exact ⟨_, by simp only [step, found, answerStage]; rfl⟩

theorem flush_enabled {state : State} {index : Nat} {flush : FlushCall}
    (found : state.flushes[index]? = some flush) (unfinished : flush.stage.finished = false) :
    ∃ next, step inner state (.advanceFlush index) = some next := by
  have moves : ∃ moved, flushStep state.shared flush = some moved := by
    rcases flush with ⟨clientId, stage⟩
    cases stage with
    | returned | overflowed => cases unfinished
    | countPositive | countNegative =>
        simp only [flushStep]
        split <;> exact ⟨_, rfl⟩
    | readPositiveLen | readNegativeLen | flushPositive | flushNegative | flushInflight =>
        exact ⟨_, rfl⟩
  rcases moves with ⟨⟨shared, stage⟩, moved⟩
  exact ⟨_, by simp only [step, found, moved]; rfl⟩

theorem quiet_when_idle {state : State} (sound : (lockView state).Sound)
    {replies : Nat → TokenReply} (idle : Idle (step inner) (Action.WorksWith replies) state) :
    Quiet state := by
  have hindered : ∀ index call, state.calls[index]? = some call →
      ¬ Unhindered inner state index call := by
    rintro index call found (⟨next, taken⟩ | posted)
    · rw [idle (.advance index) trivial] at taken
      cases taken
    · rcases answer_enabled found posted (replies index) with ⟨next, taken⟩
      rw [idle (.answer index (replies index)) rfl] at taken
      cases taken
  constructor
  · intro index call found
    by_contra unfinished
    rcases never_deadlocked sound found (Bool.eq_false_iff.mpr unfinished) with
      free | ⟨other, holder, behind, free⟩
    · exact hindered index call found free
    · exact hindered other holder behind.found free
  · intro index flush found
    by_contra unfinished
    rcases flush_enabled found (Bool.eq_false_iff.mpr unfinished) with ⟨next, taken⟩
    rw [idle (.advanceFlush index) trivial] at taken
    cases taken

/-- From every reachable state: a call that has not finished can go on, waits for
the IdP, or waits behind a call of its own client that does; the steps that a run
can take without a new call are bounded, and once none is possible every call
has finished; and however the IdP answers, the calls can be brought to their
end without dropping any. -/
theorem every_call_finishes {clock : Instant} {history : List (Moment State Action)} {state : State}
    (run : Run (step inner) (State.initial clock) history state) :
    (∀ index call, state.calls[index]? = some call → call.Pending →
      Unhindered inner state index call ∨ ∃ other holder, WaitsBehind state call other holder ∧
        Unhindered inner state other holder) ∧
    (∀ after last, Run (step inner) state after last → (∀ moment ∈ after, ¬ moment.2.Begins) →
      workDone Action.Works after ≤ state.left ∧
        (Idle (step inner) Action.Works last → Quiet last)) ∧
    ∀ replies, ∃ after last, Run (step inner) state after last ∧
      (∀ moment ∈ after, moment.2.WorksWith replies) ∧ Quiet last := by
  have sound := sound_of_run run
  refine ⟨fun index call found pending => never_deadlocked sound found pending, ?_, ?_⟩
  · intro after last rest quiet
    have bounded := workDone_le (fun _ _ _ works taken => left_lt_of_works works taken)
      (fun _ _ _ begins taken => left_le_of_step begins taken) rest quiet
    refine ⟨Nat.le_trans (Nat.le_add_right _ _) bounded, fun idle => ?_⟩
    have idleHowever : Idle (step inner) (Action.WorksWith fun _ => .sendFailed "") last :=
      fun action works => idle action works.works
    exact quiet_when_idle (sound_of_run (run.append rest)) idleHowever
  · intro replies
    rcases exists_idle (fun _ _ _ works taken => left_lt_of_works (Action.WorksWith.works works)
      taken) state with ⟨after, last, rest, works, idle⟩
    exact ⟨after, last, rest, works, quiet_when_idle (sound_of_run (run.append rest)) idle⟩

/-- One call waits for the IdP and another for the first one's lock; both are
brought to their end by a failure. -/
theorem every_call_finishes_of_two_calls :
    ∃ history state, Run (step sampleInner) (State.initial 0) history state ∧
      state.calls = [⟨"c", "sec", .awaitAnswer 0 (tokenPost sampleInner "c" "sec")⟩,
        ⟨"c", "bad", .awaitLock 0⟩] ∧
      ∃ after last, Run (step sampleInner) state after last ∧ Quiet last := by
  obtain ⟨history, state, run, calls⟩ := execute_observed (step sampleInner)
    (State.initial 0)
    [.exchange "c" "sec", .advance 0, .advance 0, .advance 0, .advance 0, .advance 0,
      .advance 0, .exchange "c" "bad", .advance 1, .advance 1, .advance 1]
    (fun _ state => state.calls)
    [⟨"c", "sec", .awaitAnswer 0 (tokenPost sampleInner "c" "sec")⟩,
      ⟨"c", "bad", .awaitLock 0⟩] (by decide +kernel)
  rcases (every_call_finishes run).2.2 (fun _ => .sendFailed "timed out") with
    ⟨after, last, rest, _, finished⟩
  exact ⟨history, state, run, calls, after, last, rest, finished⟩

end Exchange
end OidcRs
