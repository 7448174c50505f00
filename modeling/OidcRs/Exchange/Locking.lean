import OidcRs.Exchange.Calls
import OidcRs.Foundation.LockInvariants

namespace OidcRs
namespace Exchange

open Foundation

/-!
# The exchanger as a lock registry

Seen through its lock handles alone, the exchanger is an instance of the lock
registry: a call is a member of its client's key, the stages up to taking the
handle are outside, and every step is either invisible there or one of the
registry's moves.  The registry's invariants therefore hold in every reachable
state.  Added here is the reading of them that survives flushes: a handle taken
after the last removal of the client's entry is the one the map holds.
-/

/-- Where a stage stands with respect to the client's lock. -/
def CallStage.phase : CallStage → Phase
  | lookupPositive | evictPositive | lookupNegative | evictNegative | takeHandle => .outside
  | awaitLock lock => .waiting lock
  | recheckPositive lock | sendPost lock | awaitAnswer lock _ | storeOutcome lock _
  | removeNegative lock _ | dropGuard lock _ | unwindGuard lock => .guarding lock
  | dropLock lock _ | unwindLock lock => .draining lock
  | cleanupInflight _ => .owing
  | returned _ | aborted => .done

/-- The lock a call holds a clone of. -/
def ExchangeCall.handle (call : ExchangeCall) : Option LockId := call.stage.phase.handle

/-- The call has sent its POST and waits for the answer. -/
def ExchangeCall.PostOutstanding (call : ExchangeCall) : Prop :=
  ∃ lock post, call.stage = .awaitAnswer lock post

theorem ExchangeCall.handle_of_finished {call : ExchangeCall}
    (finished : call.stage.finished = true) : call.handle = none := by
  rcases call with ⟨_, _, stage⟩
  cases stage <;> first | rfl | cases finished

def lockMember (call : ExchangeCall) : Member String := ⟨call.clientId, call.stage.phase⟩

/-- The exchanger seen through its lock handles. -/
def lockView (state : State) : Roster String where
  registry := state.shared.inflight
  members := state.calls.map lockMember

variable {inner : ExchangerInner}

theorem lockView_found {state : State} {index : Nat} {call : ExchangeCall}
    (found : state.calls[index]? = some call) :
    (lockView state).members[index]? = some (lockMember call) := by
  simp only [lockView, List.getElem?_map, found, Option.map_some]

theorem lockView_member {state : State} {call : ExchangeCall} (listed : call ∈ state.calls) :
    lockMember call ∈ (lockView state).members :=
  List.mem_map_of_mem listed

/-- The lock part of one move of a call: nothing, or one turn of the registry.
Only the last step of an unwinding call forfeits. -/
theorem CallMove.turn {shared next : Shared} {index : Nat} {clientId secret : String}
    {action : Action} {current stage : CallStage}
    (move : CallMove inner shared index clientId secret action current next stage) :
    (next.inflight = shared.inflight ∧ stage.phase = current.phase) ∨
      ∃ turn, Roster.turnStep shared.inflight ⟨clientId, current.phase⟩ turn =
          some (next.inflight, stage.phase) ∧
        (turn = .forfeit → ∃ lock, current = .unwindLock lock) := by
  cases move with
  | answer => exact Or.inl ⟨rfl, rfl⟩
  | abandonWait => exact Or.inr ⟨.withdraw, rfl, by simp⟩
  | abandonPost => exact Or.inl ⟨rfl, rfl⟩
  | advance spec =>
      cases spec with
      | positiveHit | negativeHit => exact Or.inr ⟨.leave, rfl, by simp⟩
      | takeHandle => exact Or.inr ⟨.checkout, rfl, by simp⟩
      | acquire free =>
          refine Or.inr ⟨.acquire, ?_, by simp⟩
          simp only [Roster.turnStep, CallStage.phase, free, Bool.false_eq_true, if_false]
      | dropGuard | unwindGuard => exact Or.inr ⟨.unlock, rfl, by simp⟩
      | dropLock => exact Or.inr ⟨.release, rfl, by simp⟩
      | cleanup => exact Or.inr ⟨.sweep, rfl, by simp⟩
      | unwindLock => exact Or.inr ⟨.forfeit, rfl, fun _ => ⟨_, rfl⟩⟩
      | positiveExpired | positiveMiss | evictPositive | negativeExpired | negativeMiss
      | evictNegative | recheckHit | recheckMiss | sendPost | storeToken | storeFailure
      | storeNothing | storePanic | removeNegative => exact Or.inl ⟨rfl, rfl⟩

/-- A handle is new only when it was just taken, and then it is the lock that
the map holds for the client. -/
theorem CallMove.handle_before {shared next : Shared} {index : Nat} {clientId secret : String}
    {action : Action} {current stage : CallStage}
    (move : CallMove inner shared index clientId secret action current next stage)
    {lock : LockId} (held : stage.phase.handle = some lock) :
    (current = .takeHandle ∧ next.inflight.entries.lookup clientId = some lock) ∨
      current.phase.handle = some lock := by
  cases move with
  | answer | abandonWait | abandonPost => exact Or.inr held
  | advance spec =>
      cases spec with
      | takeHandle =>
          refine Or.inl ⟨rfl, ?_⟩
          rw [← held]
          exact LockRegistry.lookup_checkout _ _
      | acquire | recheckHit | recheckMiss | sendPost | storeToken | storeFailure | storeNothing
      | storePanic | removeNegative | dropGuard | unwindGuard => exact Or.inr held
      | positiveHit | positiveExpired | positiveMiss | evictPositive | negativeHit
      | negativeExpired | negativeMiss | evictNegative | dropLock | cleanup | unwindLock =>
          cases held

/-- What a step of the exchanger is for the lock registry. -/
inductive LockTransition (state : State) (action : Action) (next : State) : Prop
  | stutter (same : lockView next = lockView state)
  | enter {clientId : String}
      (taken : (lockView state).step (.enter clientId) = some (lockView next))
  | member {index : Nat} {turn : Turn} (names : action.Names index)
      (taken : (lockView state).step (.member index turn) = some (lockView next))
      (forfeits : turn = .forfeit → ∃ call lock, call ∈ state.calls ∧
        call.stage = .unwindLock lock)
  | purge {index : Nat} (keep : String → Bool) (flushes : action = .advanceFlush index)
      (taken : (lockView state).step (.purge keep) = some (lockView next))

theorem lockView_setStage {state : State} {shared : Shared} {index : Nat} {call : ExchangeCall}
    {stage : CallStage} :
    lockView ⟨shared, state.setStage index call stage, state.flushes⟩ =
      ⟨shared.inflight, (lockView state).members.set index
        { lockMember call with phase := stage.phase }⟩ := by
  simp only [lockView, State.setStage, List.map_set, lockMember]

/-- Every step of the exchanger is a stutter or a move of the lock registry. -/
theorem lock_transition {state next : State} {action : Action}
    (taken : step inner state action = some next) : LockTransition state action next := by
  cases step_spec taken with
  | @exchange clientId secret =>
      have entered : (lockView state).step (.enter clientId) = some (lockView
          { state with calls := state.calls ++ [⟨clientId, secret, .lookupPositive⟩] }) := by
        simp only [Roster.step, lockView, List.map_append, List.map_cons, List.map_nil, lockMember,
          CallStage.phase]
      exact .enter entered
  | flush | tick => exact .stutter rfl
  | @call index call action shared stage found move =>
      rcases move.turn with ⟨sameLocks, samePhase⟩ | ⟨turn, turned, forfeits⟩
      · refine .stutter ?_
        rw [lockView_setStage, sameLocks, samePhase]
        rcases List.getElem?_eq_some_iff.mp (lockView_found found) with ⟨bound, here⟩
        have unchanged : (lockView state).members.set index (lockMember call) =
            (lockView state).members := by
          rw [← here]
          exact List.set_getElem_self bound
        exact congrArg (Roster.mk state.shared.inflight) unchanged
      · have moved : (lockView state).step (.member index turn) =
            some (lockView ⟨shared, state.setStage index call stage, state.flushes⟩) := by
          rw [lockView_setStage]
          have looked : Roster.turnStep (lockView state).registry (lockMember call) turn =
              some (shared.inflight, stage.phase) := turned
          simp only [Roster.step, lockView_found found, looked]
        refine .member move.names moved (fun same => ?_)
        rcases forfeits same with ⟨lock, unwinding⟩
        exact ⟨call, lock, List.mem_of_getElem? found, unwinding⟩
  | @flushStep index call shared stage found spec =>
      rcases call with ⟨clientId, current⟩
      cases spec with
      | flushInflight =>
          cases clientId with
          | some cid => exact .purge (fun key => key ≠ cid) rfl rfl
          | none => exact .purge (fun _ => false) rfl rfl
      | readPositiveLen | readNegativeLen | flushPositive | flushNegative | countPositive
      | positiveOverflow | countNegative | negativeOverflow => exact .stutter rfl

/-- The registry's invariant is kept by every step. -/
theorem sound_step {state next : State} {action : Action} (sound : (lockView state).Sound)
    (taken : step inner state action = some next) : (lockView next).Sound := by
  cases lock_transition taken with
  | stutter same => rwa [same]
  | enter moved | member _ moved | purge _ _ moved => exact sound.step moved

theorem sound_initial (clock : Instant) : (lockView (State.initial clock)).Sound :=
  Roster.sound_empty

/-- The registry's invariant holds in every reachable state. -/
theorem sound_of_run {clock : Instant} {history : List (Moment State Action)} {state : State}
    (run : Run (step inner) (State.initial clock) history state) : (lockView state).Sound :=
  run.invariant (fun state => (lockView state).Sound)
    (fun _ _ _ sound taken => sound_step sound taken)
    (sound_initial clock)

/-! ## Mutual exclusion and the life of an entry -/

/-- A flush step removes the client's in-flight entry at this moment. -/
def FlushRemoves (inner : ExchangerInner) (clientId : String) (moment : Moment State Action) :
    Prop :=
  ∃ index next lock, moment.2 = .advanceFlush index ∧ step inner moment.1 moment.2 = some next ∧
    moment.1.shared.inflight.entries.lookup clientId = some lock ∧
    next.shared.inflight.entries.lookup clientId = none

/-- The call took its handle, and no flush has removed the client's entry since. -/
def TookHandleSinceFlush (inner : ExchangerInner) (history : List (Moment State Action))
    (index : Nat) (clientId : String) : Prop :=
  ∃ before state call after, history = before ++ (state, .advance index) :: after ∧
    state.calls[index]? = some call ∧ call.stage = .takeHandle ∧
    ∀ moment ∈ after, ¬ FlushRemoves inner clientId moment

/-- Cutting a longer history at one of its moments. -/
theorem split_snoc {history before after : List (Moment State Action)}
    {moment newest : Moment State Action}
    (whole : history ++ [newest] = before ++ moment :: after) :
    (before = history ∧ moment = newest ∧ after = []) ∨
      ∃ shorter, after = shorter ++ [newest] ∧ history = before ++ moment :: shorter := by
  induction after using List.reverseRecOn with
  | nil =>
      rcases List.append_inj' whole rfl with ⟨same, last⟩
      exact Or.inl ⟨same.symm, (List.singleton_inj.mp last).symm, rfl⟩
  | append_singleton shorter last _ =>
      rw [← List.cons_append, ← List.append_assoc] at whole
      rcases List.append_inj' whole rfl with ⟨same, ends⟩
      exact Or.inr ⟨shorter, by rw [List.singleton_inj.mp ends], same⟩

/-- A step that is no removal by a flush keeps the entry of a held lock. -/
theorem entry_kept {state next : State} {action : Action} (sound : (lockView state).Sound)
    (taken : step inner state action = some next) {clientId : String} {lock : LockId}
    (present : state.shared.inflight.entries.lookup clientId = some lock)
    {holder : ExchangeCall} (listed : holder ∈ state.calls) (held : holder.handle = some lock)
    (spared : ¬ FlushRemoves inner clientId (state, action)) :
    next.shared.inflight.entries.lookup clientId = some lock := by
  cases lock_transition taken with
  | stutter same =>
      have sameRegistry : next.shared.inflight = state.shared.inflight :=
        congrArg Roster.registry same
      rw [sameRegistry]
      exact present
  | enter moved =>
      have sameRegistry : state.shared.inflight = next.shared.inflight :=
        congrArg Roster.registry (Option.some.inj moved)
      rw [← sameRegistry]
      exact present
  | member _ moved => exact sound.entry_kept moved present (lockView_member listed) held
  | @purge index keep flushes moved =>
      have purged : state.shared.inflight.purge keep = next.shared.inflight :=
        congrArg Roster.registry (Option.some.inj moved)
      rw [← purged]
      cases after : (state.shared.inflight.purge keep).entries.lookup clientId with
      | some other => exact (KeyedMap.lookup_retain_some after).symm.trans present
      | none => exact absurd ⟨index, next, lock, flushes, taken, present, purged ▸ after⟩ spared

/-- A holder whose handle is younger than the last removal holds the lock that
is in the map. -/
theorem handle_is_current {clock : Instant} {history : List (Moment State Action)} {state : State}
    (run : Run (step inner) (State.initial clock) history state) {index : Nat}
    {call : ExchangeCall} (found : state.calls[index]? = some call) {lock : LockId}
    (held : call.handle = some lock)
    (took : TookHandleSinceFlush inner history index call.clientId) :
    state.shared.inflight.entries.lookup call.clientId = some lock := by
  refine run.history_invariant (fun history state => ∀ call lock,
    state.calls[index]? = some call → call.handle = some lock →
      TookHandleSinceFlush inner history index call.clientId →
        state.shared.inflight.entries.lookup call.clientId = some lock) ?_ ?_ call lock found held
    took
  · intro call lock found
    cases found
  · intro history state action next earlier holds taken call lock found held took
    cases call_origin taken found with
    | begun _ _ same =>
        subst same
        cases held
    | unchanged before =>
        rcases took with ⟨first, then_, taker, after, whole, here, stage, quiet⟩
        rcases split_snoc whole with ⟨_, latest, _⟩ | ⟨shorter, rfl, older⟩
        · rcases Prod.mk.inj latest with ⟨rfl, rfl⟩
          rcases Option.some.inj (here.symm.trans before) with rfl
          rw [ExchangeCall.handle, stage] at held
          cases held
        · exact entry_kept (sound_of_run earlier) taken
            (holds call lock before held ⟨first, then_, taker, shorter, older, here, stage,
              fun moment member => quiet moment (List.mem_append_left _ member)⟩)
            (List.mem_of_getElem? before) held (quiet _ (by simp))
    | @moved previous stage before same move =>
        subst same
        rcases move.handle_before held with ⟨_, current⟩ | heldBefore
        · exact current
        · rcases took with ⟨first, then_, taker, after, whole, here, taking, quiet⟩
          rcases split_snoc whole with ⟨_, latest, _⟩ | ⟨shorter, rfl, older⟩
          · rcases Prod.mk.inj latest with ⟨rfl, rfl⟩
            rcases Option.some.inj (here.symm.trans before) with rfl
            rw [taking] at heldBefore
            cases heldBefore
          · exact entry_kept (sound_of_run earlier) taken
              (holds previous lock before heldBefore ⟨first, then_, taker, shorter, older, here,
                taking, fun moment member => quiet moment (List.mem_append_left _ member)⟩)
              (List.mem_of_getElem? before) heldBefore (quiet _ (by simp))

end Exchange
end OidcRs
