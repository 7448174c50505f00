import OidcRs.Exchange.Locking

namespace OidcRs
namespace Exchange

open Foundation

/-!
# Single flight per client

Two consequences of the lock registry's invariants.  Calls that share a
client's current entry never have two POSTs outstanding, and no cleanup takes
the entry away from under them.  Calls that run to completion leave no entry
behind.
-/

variable {inner : ExchangerInner}

/-- Single flight for one client in a state reached by a run. -/
structure SingleFlight (inner : ExchangerInner) (history : List (Moment State Action))
    (state : State) (clientId : String) : Prop where
  /-- Handles taken since the last flush of the client's entry are one lock. -/
  sameLock : ∀ first second left right leftLock rightLock,
    state.calls[first]? = some left → state.calls[second]? = some right →
    left.clientId = clientId → right.clientId = clientId →
    TookHandleSinceFlush inner history first clientId →
    TookHandleSinceFlush inner history second clientId →
    left.handle = some leftLock → right.handle = some rightLock → leftLock = rightLock
  /-- At most one call behind such a handle waits for the IdP. -/
  onePost : ∀ first second left right,
    state.calls[first]? = some left → state.calls[second]? = some right →
    left.clientId = clientId → right.clientId = clientId →
    TookHandleSinceFlush inner history first clientId →
    TookHandleSinceFlush inner history second clientId →
    left.PostOutstanding → right.PostOutstanding → first = second
  /-- A cleanup that removes the entry, run by any call, finds nobody holding
  its lock or waiting for it. -/
  cleanupSpares : ∀ index caller result next lock,
    state.calls[index]? = some caller → caller.stage = .cleanupInflight result →
    step inner state (.advance index) = some next →
    state.shared.inflight.entries.lookup clientId = some lock →
    next.shared.inflight.entries.lookup clientId = none →
    ∀ holder ∈ state.calls, holder.handle ≠ some lock

/-- The cleanup part of single flight needs no assumption on the handles. -/
theorem cleanup_spares {state next : State} {index : Nat} {caller : ExchangeCall}
    {result : Except AuthError String} {clientId : String} {lock : LockId}
    (sound : (lockView state).Sound) (found : state.calls[index]? = some caller)
    (cleaning : caller.stage = .cleanupInflight result)
    (taken : step inner state (.advance index) = some next)
    (present : state.shared.inflight.entries.lookup clientId = some lock)
    (removed : next.shared.inflight.entries.lookup clientId = none) :
    ∀ holder ∈ state.calls, holder.handle ≠ some lock := by
  rcases advanced_of_found taken found with ⟨stage, spec, _⟩
  rw [cleaning] at spec
  have cleaned : next.shared = cleanupInflight state.shared caller.clientId := by
    generalize next.shared = after at spec
    cases spec
    rfl
  rw [cleaned] at removed
  have same : clientId = caller.clientId := by
    by_contra different
    rw [cleanupInflight, LockRegistry.lookup_removeIf_ne _ _ different, present] at removed
    cases removed
  subst same
  intro holder listed
  exact sound.sweep_spares present removed _ (lockView_member listed)

/-- Single flight holds for every client in every reachable state. -/
theorem single_flight {clock : Instant} {history : List (Moment State Action)} {state : State}
    (run : Run (step inner) (State.initial clock) history state) (clientId : String) :
    SingleFlight inner history state clientId := by
  have sound := sound_of_run run
  have agree : ∀ first second left right leftLock rightLock,
      state.calls[first]? = some left → state.calls[second]? = some right →
      left.clientId = clientId → right.clientId = clientId →
      TookHandleSinceFlush inner history first clientId →
      TookHandleSinceFlush inner history second clientId →
      left.handle = some leftLock → right.handle = some rightLock → leftLock = rightLock := by
    rintro first second left right leftLock rightLock foundLeft foundRight rfl sameClient tookLeft
      tookRight heldLeft heldRight
    have currentLeft := handle_is_current run foundLeft heldLeft tookLeft
    have currentRight := handle_is_current run foundRight heldRight (by rwa [sameClient])
    rw [sameClient] at currentRight
    exact Option.some.inj (currentLeft.symm.trans currentRight)
  refine ⟨agree, ?_, ?_⟩
  · rintro first second left right foundLeft foundRight leftClient rightClient tookLeft tookRight
      ⟨leftLock, leftPost, leftStage⟩ ⟨rightLock, rightPost, rightStage⟩
    have heldLeft : left.handle = some leftLock := by rw [ExchangeCall.handle, leftStage]; rfl
    have heldRight : right.handle = some rightLock := by rw [ExchangeCall.handle, rightStage]; rfl
    rcases agree first second left right leftLock rightLock foundLeft foundRight leftClient
      rightClient tookLeft tookRight heldLeft heldRight with rfl
    rcases sound with ⟨home, soundAt⟩
    have guardLeft : (lockMember left).phase.guard = some leftLock := by
      rw [lockMember, leftStage]
      rfl
    have guardRight : (lockMember right).phase.guard = some leftLock := by
      rw [lockMember, rightStage]
      rfl
    exact soundAt.guard_unique (lockView_found foundLeft) (lockView_found foundRight) guardLeft
      guardRight
  · intro index caller result next lock found cleaning taken present removed
    exact cleanup_spares sound found cleaning taken present removed

/-- One call waits for the IdP and another of the same client for its lock. -/
theorem single_flight_of_two_calls :
    ∃ history state, Run (step sampleInner) (State.initial 0) history state ∧
      state.calls = [⟨"c", "sec", .awaitAnswer 0 (tokenPost sampleInner "c" "sec")⟩,
        ⟨"c", "bad", .awaitLock 0⟩] ∧
      SingleFlight sampleInner history state "c" := by
  obtain ⟨history, state, run, calls⟩ := execute_observed (step sampleInner)
    (State.initial 0)
    [.exchange "c" "sec", .advance 0, .advance 0, .advance 0, .advance 0, .advance 0,
      .advance 0, .exchange "c" "bad", .advance 1, .advance 1, .advance 1]
    (fun _ state => state.calls)
    [⟨"c", "sec", .awaitAnswer 0 (tokenPost sampleInner "c" "sec")⟩,
      ⟨"c", "bad", .awaitLock 0⟩] (by decide +kernel)
  exact ⟨history, state, run, calls, single_flight run "c"⟩

/-! ## Without flushes -/

/-- Every handle of the client is the lock that the map holds for it. -/
def HandlesCurrent (clientId : String) (state : State) : Prop :=
  ∀ call ∈ state.calls, call.clientId = clientId → ∀ lock, call.handle = some lock →
    state.shared.inflight.entries.lookup clientId = some lock

/-- Handles stay current until a flush removes the entry. -/
theorem HandlesCurrent.step {clientId : String} {state next : State} {action : Action}
    (current : HandlesCurrent clientId state) (sound : (lockView state).Sound)
    (taken : step inner state action = some next)
    (spared : ¬ FlushRemoves inner clientId (state, action)) : HandlesCurrent clientId next := by
  intro call listed sameClient lock held
  rcases List.mem_iff_getElem?.mp listed with ⟨index, found⟩
  cases call_origin taken found with
  | begun _ _ same =>
      subst same
      cases held
  | unchanged before =>
      have known := List.mem_of_getElem? before
      exact entry_kept sound taken (current call known sameClient lock held) known held spared
  | @moved earlier stage before same move =>
      subst same
      have known := List.mem_of_getElem? before
      rcases move.handle_before held with ⟨_, fresh⟩ | heldBefore
      · exact sameClient ▸ fresh
      · exact entry_kept sound taken (current earlier known sameClient lock heldBefore) known
          heldBefore spared

/-- The call holds the guard of its client's lock. -/
def CallStage.guards (stage : CallStage) : Bool := stage.phase.guard.isSome

/-- Where handles are current, one call of the client at most holds the guard. -/
theorem HandlesCurrent.guard_unique {clientId : String} {state : State}
    (current : HandlesCurrent clientId state) (sound : (lockView state).Sound)
    {first second : Nat} {left right : ExchangeCall}
    (foundLeft : state.calls[first]? = some left) (foundRight : state.calls[second]? = some right)
    (leftClient : left.clientId = clientId) (rightClient : right.clientId = clientId)
    (leftGuards : left.stage.guards = true) (rightGuards : right.stage.guards = true) :
    first = second := by
  rcases Option.isSome_iff_exists.mp leftGuards with ⟨leftLock, leftGuard⟩
  rcases Option.isSome_iff_exists.mp rightGuards with ⟨rightLock, rightGuard⟩
  have leftEntry := current left (List.mem_of_getElem? foundLeft) leftClient leftLock
    (Roster.handle_of_guard leftGuard)
  have rightEntry := current right (List.mem_of_getElem? foundRight) rightClient rightLock
    (Roster.handle_of_guard rightGuard)
  rcases Option.some.inj (leftEntry.symm.trans rightEntry) with rfl
  rcases sound with ⟨home, soundAt⟩
  exact soundAt.guard_unique (lockView_found foundLeft) (lockView_found foundRight) leftGuard
    rightGuard

/-! ## No entry is left behind -/

/-- Where nobody unwinds, every entry has a call that will clean it up. -/
theorem attended_of_run {clock : Instant} {history : List (Moment State Action)} {state : State}
    (run : Run (step inner) (State.initial clock) history state)
    (completed : ∀ call ∈ state.calls, call.stage.unwinding = false) :
    (lockView state).Attended := by
  have either : (∃ call ∈ state.calls, call.stage.unwinding = true) ∨
      (lockView state).Attended := by
    have initially : (lockView (State.initial clock)).Attended := Roster.attended_empty
    refine run.history_invariant (fun _ state => (∃ call ∈ state.calls,
      call.stage.unwinding = true) ∨ (lockView state).Attended) (Or.inr initially) ?_
    rintro history state action next earlier (⟨call, listed, unwinding⟩ | attended) taken
    · exact Or.inl (unwinding_of_run (Run.single taken) listed unwinding)
    · have sound := sound_of_run earlier
      cases lock_transition taken with
      | stutter same =>
          rw [same]
          exact Or.inr attended
      | enter moved => exact Or.inr (attended.step sound moved (fun _ same => nomatch same))
      | purge _ _ moved => exact Or.inr (attended.step sound moved (fun _ same => nomatch same))
      | @member index turn _ moved forfeits =>
          by_cases forfeit : turn = .forfeit
          · rcases forfeits forfeit with ⟨call, lock, listed, stage⟩
            refine Or.inl (unwinding_of_run (Run.single taken) listed ?_)
            rw [stage]
            rfl
          · refine Or.inr (attended.step sound moved (fun other same => ?_))
            rcases Move.member.inj same with ⟨_, sameTurn⟩
            exact forfeit sameTurn
  rcases either with ⟨call, listed, unwinding⟩ | attended
  · rw [completed call listed] at unwinding
    cases unwinding
  · exact attended

/-- Once no call of a client is pending, the client has no in-flight entry,
provided every call so far ran to completion. -/
theorem no_inflight_leak {clock : Instant} {history : List (Moment State Action)} {state : State}
    (run : Run (step inner) (State.initial clock) history state)
    (completed : ∀ call ∈ state.calls, call.stage.unwinding = false) {clientId : String}
    (quiescent : ∀ call ∈ state.calls, call.clientId = clientId → ¬ call.Pending) :
    state.shared.inflight.entries.lookup clientId = none := by
  refine (attended_of_run run completed).no_leak (fun member listed sameKey => Or.inr ?_)
  rcases List.mem_map.mp listed with ⟨call, known, rfl⟩
  have done := quiescent call known sameKey
  rcases call with ⟨callClient, secret, stage⟩
  cases stage <;> first | rfl | exact absurd rfl done

/-- Two overlapping calls of one client, the first of which finds the second
waiting when it cleans up. -/
theorem no_inflight_leak_of_two_calls :
    ∃ history state, Run (step sampleInner) (State.initial 0) history state ∧
      state.calls = [⟨"c", "sec", .returned (.ok "jwt")⟩, ⟨"c", "sec", .returned (.ok "jwt")⟩] ∧
      state.shared.inflight.entries.lookup "c" = none := by
  obtain ⟨history, state, run, calls⟩ := execute_observed (step sampleInner)
    (State.initial 0)
    [.exchange "c" "sec", .advance 0, .advance 0, .advance 0, .advance 0, .advance 0,
      .advance 0, .exchange "c" "sec", .advance 1, .advance 1, .advance 1,
      .answer 0 (sampleGrant "jwt" 300), .advance 0, .advance 0, .advance 0, .advance 0,
      .advance 0, .advance 1, .advance 1, .advance 1, .advance 1, .advance 1]
    (fun _ state => state.calls)
    [⟨"c", "sec", .returned (.ok "jwt")⟩, ⟨"c", "sec", .returned (.ok "jwt")⟩]
    (by decide +kernel)
  refine ⟨history, state, run, calls, no_inflight_leak run ?_ ?_⟩
  · rw [calls]
    decide
  · rw [calls]
    intro call listed _ pending
    simp only [List.mem_cons, List.not_mem_nil, or_false, or_self] at listed
    subst listed
    cases pending

end Exchange
end OidcRs
