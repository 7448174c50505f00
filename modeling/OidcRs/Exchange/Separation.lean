import OidcRs.Exchange.FlushCounts
import OidcRs.Foundation.KeyView
import OidcRs.Foundation.Simulation

namespace OidcRs
namespace Exchange

open Foundation

/-!
# Clients are kept apart

All clients share three maps and a clock.  Take any run and one client in it, and
leave out everything the callers of the other clients do: their calls, the
answers the IdP gives them, their abandonments, the flushes that name them.  What
is left is a run again, and the calls of the client go through the same stages at
the same times with the same POSTs and the same results.  The callers of one
client therefore learn nothing from the exchanger about the others.

The two runs do not number their locks alike, because a lock is numbered when it
is made.  The relation between them renumbers the locks of the client.
-/

/-! ## Stages up to the numbering of locks -/

/-- The stage with its lock renumbered. -/
def CallStage.renumbered (rename : LockId → LockId) : CallStage → CallStage
  | awaitLock lock => .awaitLock (rename lock)
  | recheckPositive lock => .recheckPositive (rename lock)
  | sendPost lock => .sendPost (rename lock)
  | awaitAnswer lock post => .awaitAnswer (rename lock) post
  | storeOutcome lock result => .storeOutcome (rename lock) result
  | removeNegative lock jwt => .removeNegative (rename lock) jwt
  | dropGuard lock result => .dropGuard (rename lock) result
  | dropLock lock result => .dropLock (rename lock) result
  | unwindGuard lock => .unwindGuard (rename lock)
  | unwindLock lock => .unwindLock (rename lock)
  | stage => stage

def ExchangeCall.renumbered (rename : LockId → LockId) (call : ExchangeCall) : ExchangeCall :=
  { call with stage := call.stage.renumbered rename }

/-- The call without the number of its lock, which nobody outside can see. -/
def ExchangeCall.unnumbered (call : ExchangeCall) : ExchangeCall := call.renumbered (fun _ => 0)

def ExchangeCall.of (clientId : String) (call : ExchangeCall) : Bool := call.clientId = clientId

@[simp] theorem ExchangeCall.of_iff {clientId : String} {call : ExchangeCall} :
    call.of clientId = true ↔ call.clientId = clientId := decide_eq_true_iff

@[simp] theorem ExchangeCall.of_renumbered (clientId : String) (rename : LockId → LockId)
    (call : ExchangeCall) : (call.renumbered rename).of clientId = call.of clientId := rfl

/-- Only the lock that the stage holds matters. -/
theorem CallStage.renumbered_congr {stage : CallStage} {first second : LockId → LockId}
    (agree : ∀ lock, stage.phase.handle = some lock → first lock = second lock) :
    stage.renumbered first = stage.renumbered second := by
  cases stage with
  | awaitLock lock | recheckPositive lock | sendPost lock | awaitAnswer lock _
  | storeOutcome lock _ | removeNegative lock _ | dropGuard lock _ | dropLock lock _
  | unwindGuard lock | unwindLock lock => simp only [renumbered, agree lock rfl]
  | lookupPositive | evictPositive | lookupNegative | evictNegative | takeHandle
  | cleanupInflight | returned | aborted => rfl

theorem ExchangeCall.renumbered_congr {call : ExchangeCall} {first second : LockId → LockId}
    (agree : ∀ lock, call.handle = some lock → first lock = second lock) :
    call.renumbered first = call.renumbered second := by
  simp only [renumbered, CallStage.renumbered_congr agree]

theorem ExchangeCall.unnumbered_renumbered (rename : LockId → LockId) (call : ExchangeCall) :
    (call.renumbered rename).unnumbered = call.unnumbered := by
  rcases call with ⟨clientId, secret, stage⟩
  cases stage <;> rfl

/-! ## Memory as one client sees it -/

/-- The second memory has the entries of the client and no others. -/
structure SharedAlike (clientId : String) (mine : LockId → Prop) (rename : LockId → LockId)
    (shared own : Shared) : Prop where
  clock : own.clock = shared.clock
  positive : ∀ key, key.clientId = clientId → own.positive.lookup key = shared.positive.lookup key
  negative : ∀ key, key.clientId = clientId → own.negative.lookup key = shared.negative.lookup key
  inflight : Alike clientId mine rename shared.inflight own.inflight

section Lookups

variable {Value : Type} {map other : KeyedMap CacheKey Value} {key changed : CacheKey}

theorem lookup_erase_congr (same : map.lookup key = other.lookup key) :
    (map.erase changed).lookup key = (other.erase changed).lookup key := by
  by_cases here : key = changed
  · rw [here, Finmap.lookup_erase, Finmap.lookup_erase]
  · rw [Finmap.lookup_erase_ne here, Finmap.lookup_erase_ne here, same]

theorem lookup_insert_congr {value : Value} (same : map.lookup key = other.lookup key) :
    (map.insert changed value).lookup key = (other.insert changed value).lookup key := by
  by_cases here : key = changed
  · rw [here, Finmap.lookup_insert, Finmap.lookup_insert]
  · rw [Finmap.lookup_insert_of_ne _ here, Finmap.lookup_insert_of_ne _ here, same]

end Lookups

namespace SharedAlike

variable {inner : ExchangerInner} {clientId secret : String} {mine : LockId → Prop}
  {rename : LockId → LockId} {shared own next : Shared}

theorem of_inflight (alike : SharedAlike clientId mine rename shared own)
    {inflight ownInflight : LockRegistry String} {mineAfter : LockId → Prop}
    {renameAfter : LockId → LockId}
    (after : Alike clientId mineAfter renameAfter inflight ownInflight) :
    SharedAlike clientId mineAfter renameAfter { shared with inflight := inflight }
      { own with inflight := ownInflight } where
  clock := alike.clock
  positive := alike.positive
  negative := alike.negative
  inflight := after

theorem of_positive (alike : SharedAlike clientId mine rename shared own)
    {positive ownPositive : KeyedMap CacheKey CachedToken}
    (same : ∀ key, key.clientId = clientId → ownPositive.lookup key = positive.lookup key) :
    SharedAlike clientId mine rename { shared with positive := positive }
      { own with positive := ownPositive } where
  clock := alike.clock
  positive := same
  negative := alike.negative
  inflight := alike.inflight

theorem of_negative (alike : SharedAlike clientId mine rename shared own)
    {negative ownNegative : KeyedMap CacheKey NegativeEntry}
    (same : ∀ key, key.clientId = clientId → ownNegative.lookup key = negative.lookup key) :
    SharedAlike clientId mine rename { shared with negative := negative }
      { own with negative := ownNegative } where
  clock := alike.clock
  positive := alike.positive
  negative := same
  inflight := alike.inflight

/-- What a caller of the client does, the same caller can do alone. -/
theorem mirrored (alike : SharedAlike clientId mine rename shared own) {current stage : CallStage}
    (spec : CallSpec inner shared clientId secret current next stage)
    (held : ∀ lock, current.phase.handle = some lock → mine lock) :
    ∃ mineAfter renameAfter ownNext, Alike.Grown mine rename shared.inflight mineAfter renameAfter ∧
      SharedAlike clientId mineAfter renameAfter next ownNext ∧
      (∀ lock, stage.phase.handle = some lock → mineAfter lock) ∧
      CallSpec inner own clientId secret (current.renumbered rename) ownNext
        (stage.renumbered renameAfter) := by
  have token : own.positive.lookup (cacheKey inner clientId secret) =
      shared.positive.lookup (cacheKey inner clientId secret) := alike.positive _ rfl
  have failure : own.negative.lookup (cacheKey inner clientId secret) =
      shared.negative.lookup (cacheKey inner clientId secret) := alike.negative _ rfl
  have clock := alike.clock
  cases spec with
  | positiveHit found live =>
      refine ⟨mine, rename, own, .refl, alike, nofun, ?_⟩
      exact .positiveHit (token.trans found) (by rwa [clock])
  | positiveExpired found expired =>
      refine ⟨mine, rename, own, .refl, alike, nofun, ?_⟩
      exact .positiveExpired (token.trans found) (by rwa [clock])
  | positiveMiss absent =>
      refine ⟨mine, rename, own, .refl, alike, nofun, ?_⟩
      exact .positiveMiss (token.trans absent)
  | evictPositive =>
      refine ⟨mine, rename, _, .refl, ?_, nofun, .evictPositive⟩
      exact alike.of_positive fun key of => lookup_erase_congr (alike.positive key of)
  | negativeHit found live =>
      refine ⟨mine, rename, own, .refl, alike, nofun, ?_⟩
      exact .negativeHit (failure.trans found) (by rwa [clock])
  | negativeExpired found expired =>
      refine ⟨mine, rename, own, .refl, alike, nofun, ?_⟩
      exact .negativeExpired (failure.trans found) (by rwa [clock])
  | negativeMiss absent =>
      refine ⟨mine, rename, own, .refl, alike, nofun, ?_⟩
      exact .negativeMiss (failure.trans absent)
  | evictNegative =>
      refine ⟨mine, rename, _, .refl, ?_, nofun, .evictNegative⟩
      exact alike.of_negative fun key of => lookup_erase_congr (alike.negative key of)
  | takeHandle =>
      rcases alike.inflight.checkout with ⟨mineAfter, renameAfter, grown, after, is, same⟩
      refine ⟨mineAfter, renameAfter, _, grown, alike.of_inflight after, ?_, ?_⟩
      · rintro lock holds
        rcases Option.some.inj holds with rfl
        exact is
      · simp only [CallStage.renumbered, ← same]
        exact .takeHandle
  | @acquire lock free =>
      refine ⟨mine, rename, _, .refl, alike.of_inflight (alike.inflight.setLocked (held lock rfl) true),
        held, .acquire ?_⟩
      rwa [alike.inflight.locked lock (held lock rfl)]
  | recheckHit found live =>
      refine ⟨mine, rename, own, .refl, alike, held, ?_⟩
      exact .recheckHit (token.trans found) (by rwa [clock])
  | recheckMiss dead =>
      refine ⟨mine, rename, own, .refl, alike, held, .recheckMiss ?_⟩
      rwa [token, clock]
  | sendPost => exact ⟨mine, rename, own, .refl, alike, held, .sendPost⟩
  | storeToken added =>
      refine ⟨mine, rename, _, .refl, ?_, held, .storeToken (by rwa [clock])⟩
      exact alike.of_positive fun key of => lookup_insert_congr (alike.positive key of)
  | storeFailure cached added =>
      refine ⟨mine, rename, _, .refl, ?_, held, .storeFailure cached (by rwa [clock])⟩
      exact alike.of_negative fun key of => lookup_insert_congr (alike.negative key of)
  | storeNothing uncached =>
      exact ⟨mine, rename, own, .refl, alike, held, .storeNothing uncached⟩
  | storePanic stored overflow =>
      exact ⟨mine, rename, own, .refl, alike, held, .storePanic stored (by rwa [clock])⟩
  | removeNegative =>
      refine ⟨mine, rename, _, .refl, ?_, held, .removeNegative⟩
      exact alike.of_negative fun key of => lookup_erase_congr (alike.negative key of)
  | @dropGuard lock =>
      exact ⟨mine, rename, _, .refl,
        alike.of_inflight (alike.inflight.setLocked (held lock rfl) false), held, .dropGuard⟩
  | @dropLock lock =>
      exact ⟨mine, rename, _, .refl, alike.of_inflight (alike.inflight.release (held lock rfl)),
        nofun, .dropLock⟩
  | cleanup =>
      exact ⟨mine, rename, _, .refl, alike.of_inflight (alike.inflight.removeIf _),
        nofun, .cleanup⟩
  | @unwindGuard lock =>
      exact ⟨mine, rename, _, .refl,
        alike.of_inflight (alike.inflight.setLocked (held lock rfl) false), held, .unwindGuard⟩
  | @unwindLock lock =>
      exact ⟨mine, rename, _, .refl, alike.of_inflight (alike.inflight.release (held lock rfl)),
        nofun, .unwindLock⟩

/-- What a caller of another client does, this client cannot see. -/
theorem of_other (alike : SharedAlike clientId mine rename shared own) {other : String}
    (different : other ≠ clientId) {current stage : CallStage}
    (spec : CallSpec inner shared other secret current next stage)
    (foreign : ∀ lock, current.phase.handle = some lock → ¬ mine lock) :
    SharedAlike clientId mine rename next own ∧
      ∀ lock, stage.phase.handle = some lock → ¬ mine lock := by
  have apart : ∀ key : CacheKey, key.clientId = clientId → key ≠ cacheKey inner other secret := by
    rintro key of rfl
    exact different of
  cases spec with
  | positiveHit | positiveExpired | positiveMiss | negativeHit | negativeExpired | negativeMiss =>
      exact ⟨alike, nofun⟩
  | evictPositive =>
      refine ⟨alike.of_positive fun key of => ?_, nofun⟩
      rw [Finmap.lookup_erase_ne (apart key of), alike.positive key of]
  | evictNegative =>
      refine ⟨alike.of_negative fun key of => ?_, nofun⟩
      rw [Finmap.lookup_erase_ne (apart key of), alike.negative key of]
  | takeHandle =>
      rcases alike.inflight.checkout_other different with ⟨after, none⟩
      refine ⟨alike.of_inflight after, ?_⟩
      rintro lock holds
      rcases Option.some.inj holds with rfl
      exact none
  | @acquire lock =>
      exact ⟨alike.of_inflight (alike.inflight.setLocked_other (foreign lock rfl) true), foreign⟩
  | recheckHit | recheckMiss | sendPost | storeNothing | storePanic => exact ⟨alike, foreign⟩
  | storeToken =>
      refine ⟨alike.of_positive fun key of => ?_, foreign⟩
      rw [Finmap.lookup_insert_of_ne _ (apart key of), alike.positive key of]
  | storeFailure =>
      refine ⟨alike.of_negative fun key of => ?_, foreign⟩
      rw [Finmap.lookup_insert_of_ne _ (apart key of), alike.negative key of]
  | removeNegative =>
      refine ⟨alike.of_negative fun key of => ?_, foreign⟩
      rw [Finmap.lookup_erase_ne (apart key of), alike.negative key of]
  | @dropGuard lock | @unwindGuard lock =>
      exact ⟨alike.of_inflight (alike.inflight.setLocked_other (foreign lock rfl) false), foreign⟩
  | @dropLock lock | @unwindLock lock =>
      exact ⟨alike.of_inflight (alike.inflight.release_other (foreign lock rfl)),
        nofun⟩
  | cleanup =>
      exact ⟨alike.of_inflight (alike.inflight.removeIf_other different _),
        nofun⟩

/-- Every move of a caller, likewise. -/
theorem mirrored_move (alike : SharedAlike clientId mine rename shared own) {index : Nat}
    {action : Action} {current stage : CallStage}
    (move : CallMove inner shared index clientId secret action current next stage)
    (held : ∀ lock, current.phase.handle = some lock → mine lock) (position : Nat) :
    ∃ mineAfter renameAfter ownNext ownAction,
      Alike.Grown mine rename shared.inflight mineAfter renameAfter ∧
      SharedAlike clientId mineAfter renameAfter next ownNext ∧
      (∀ lock, stage.phase.handle = some lock → mineAfter lock) ∧
      CallMove inner own position clientId secret ownAction (current.renumbered rename) ownNext
        (stage.renumbered renameAfter) := by
  cases move with
  | advance spec =>
      rcases alike.mirrored spec held with ⟨mineAfter, renameAfter, ownNext, grown, after, holds, ownSpec⟩
      exact ⟨mineAfter, renameAfter, ownNext, _, grown, after, holds, .advance ownSpec⟩
  | answer reply => exact ⟨mine, rename, own, _, .refl, alike, held, .answer reply⟩
  | abandonWait => exact ⟨mine, rename, own, _, .refl, alike, held, .abandonWait⟩
  | abandonPost => exact ⟨mine, rename, own, _, .refl, alike, held, .abandonPost⟩

theorem of_other_move (alike : SharedAlike clientId mine rename shared own) {other : String}
    (different : other ≠ clientId) {index : Nat} {action : Action} {current stage : CallStage}
    (move : CallMove inner shared index other secret action current next stage)
    (foreign : ∀ lock, current.phase.handle = some lock → ¬ mine lock) :
    SharedAlike clientId mine rename next own ∧
      ∀ lock, stage.phase.handle = some lock → ¬ mine lock := by
  cases move with
  | advance spec => exact alike.of_other different spec foreign
  | answer | abandonWait | abandonPost => exact ⟨alike, foreign⟩

end SharedAlike

/-! ## Flushes -/

/-- A flush of the client, or of everybody. -/
def FlushCall.of (clientId : String) (call : FlushCall) : Bool :=
  call.clientId = none ∨ call.clientId = some clientId

@[simp] theorem FlushCall.of_iff {clientId : String} {call : FlushCall} :
    call.of clientId = true ↔ call.clientId = none ∨ call.clientId = some clientId :=
  decide_eq_true_iff

/-- The stage without its counts, which are taken over all clients.  What comes
after the last map is emptied is only counting. -/
def FlushStage.uncounted : FlushStage → FlushStage
  | readPositiveLen => .readPositiveLen
  | readNegativeLen _ => .readNegativeLen 0
  | flushPositive _ _ => .flushPositive 0 0
  | flushNegative _ _ => .flushNegative 0 0
  | flushInflight _ _ => .flushInflight 0 0
  | countPositive _ _ | countNegative _ _ | returned _ _ | overflowed => .countPositive 0 0

def FlushCall.uncounted (call : FlushCall) : FlushCall :=
  { call with stage := call.stage.uncounted }

namespace SharedAlike

variable {clientId : String} {mine : LockId → Prop} {rename : LockId → LockId}
  {shared own next : Shared} {scope : Option String} {current stage : FlushStage}

theorem emptied_lookup {Value : Type} {map other : KeyedMap CacheKey Value}
    (covers : scope = none ∨ scope = some clientId) (key : CacheKey) (of : key.clientId = clientId) :
    (flushMap scope map).lookup key = (flushMap scope other).lookup key := by
  subst of
  rw [lookup_flushMap_covered covers, lookup_flushMap_covered covers]

/-- A flush of the client does the same to both memories, until it only counts. -/
theorem flushed (alike : SharedAlike clientId mine rename shared own)
    (covers : scope = none ∨ scope = some clientId) (spec : FlushSpec shared scope current next stage)
    {ownCurrent : FlushStage} (same : ownCurrent.uncounted = current.uncounted) :
    (next = shared ∧ stage.uncounted = current.uncounted) ∨
      ∃ ownNext ownStage, FlushSpec own scope ownCurrent ownNext ownStage ∧
        SharedAlike clientId mine rename next ownNext ∧
        ownStage.uncounted = stage.uncounted := by
  cases spec with
  | readPositiveLen =>
      cases ownCurrent <;> cases same
      exact Or.inr ⟨own, _, .readPositiveLen, alike, rfl⟩
  | readNegativeLen =>
      cases ownCurrent <;> cases same
      exact Or.inr ⟨own, _, .readNegativeLen, alike, rfl⟩
  | flushPositive =>
      cases ownCurrent <;> cases same
      exact Or.inr ⟨_, _, .flushPositive, alike.of_positive (emptied_lookup covers), rfl⟩
  | flushNegative =>
      cases ownCurrent <;> cases same
      exact Or.inr ⟨_, _, .flushNegative, alike.of_negative (emptied_lookup covers), rfl⟩
  | flushInflight =>
      cases ownCurrent <;> cases same
      refine Or.inr ⟨_, _, .flushInflight, alike.of_inflight ?_, rfl⟩
      rcases covers with rfl | rfl
      · exact alike.inflight.purge rfl rfl
      · exact alike.inflight.purge (by simp) (by simp)
  | countPositive | positiveOverflow | countNegative | negativeOverflow => exact Or.inl ⟨rfl, rfl⟩

/-- A flush of another client does nothing that this one could see. -/
theorem of_other_flush (alike : SharedAlike clientId mine rename shared own) {other : String}
    (different : clientId ≠ other) (spec : FlushSpec shared (some other) current next stage) :
    SharedAlike clientId mine rename next own := by
  cases spec with
  | flushPositive =>
      refine alike.of_positive fun key of => ?_
      rw [lookup_flushMap_spared (of ▸ different), alike.positive key of]
  | flushNegative =>
      refine alike.of_negative fun key of => ?_
      rw [lookup_flushMap_spared (of ▸ different), alike.negative key of]
  | flushInflight => exact alike.of_inflight (alike.inflight.purge_other (decide_eq_true different))
  | readPositiveLen | readNegativeLen | countPositive | positiveOverflow | countNegative
  | negativeOverflow => exact alike

end SharedAlike

/-! ## What is seen -/

/-- The call that an action is about. -/
def Action.caller (state : State) : Action → Option Nat
  | exchange _ _ => some state.calls.length
  | advance index | answer index _ | abandon index => some index
  | flush _ | advanceFlush _ | tick _ => none

/-- What the callers of one client see of a step. -/
structure Sighting where
  time : Instant
  /-- counted among the calls of the client -/
  caller : Nat
  /-- what has become of the call -/
  call : ExchangeCall
  deriving DecidableEq

def sighting (inner : ExchangerInner) (clientId : String) (moment : Moment State Action) :
    Option Sighting :=
  match step inner moment.1 moment.2, moment.2.caller moment.1 with
  | some next, some index =>
      match next.calls[index]? with
      | some call =>
          if call.of clientId then
            some ⟨moment.1.shared.clock, Roll.place (ExchangeCall.of clientId) next.calls index,
              call.unnumbered⟩
          else none
      | none => none
  | _, _ => none

/-- What a client or somebody acting for it does, and what happens to everybody. -/
def Action.Concerns (clientId : String) : Action → Prop
  | exchange caller _ => caller = clientId
  | flush scope => scope = none ∨ scope = some clientId
  | advance _ | answer _ _ | abandon _ | advanceFlush _ | tick _ => True

variable {inner : ExchangerInner} {clientId : String}

theorem sighting_of_found {state next : State} {action : Action} {index : Nat} {call : ExchangeCall}
    (taken : step inner state action = some next) (caller : action.caller state = some index)
    (found : next.calls[index]? = some call) :
    sighting inner clientId (state, action) = if call.of clientId then
      some ⟨state.shared.clock, Roll.place (ExchangeCall.of clientId) next.calls index,
        call.unnumbered⟩ else none := by
  simp only [sighting, taken, caller, found]

theorem sighting_of_no_caller {state : State} {action : Action}
    (nobody : action.caller state = none) : sighting inner clientId (state, action) = none := by
  cases taken : step inner state action <;> simp only [sighting, taken, nobody]

theorem Action.Names.caller {action : Action} {index : Nat} (names : action.Names index)
    (state : State) : action.caller state = some index := by
  rcases names with rfl | ⟨_, rfl⟩ | rfl <;> rfl

theorem Action.Names.concerns {action : Action} {index : Nat} (names : action.Names index)
    (clientId : String) : action.Concerns clientId := by
  rcases names with rfl | ⟨_, rfl⟩ | rfl <;> exact trivial

/-! ## The run without the others -/

/-- The second state is what the first one comes to when only the client is left. -/
structure Alone (clientId : String) (mine : LockId → Prop) (rename : LockId → LockId)
    (state own : State) : Prop where
  shared : SharedAlike clientId mine rename state.shared own.shared
  calls : own.calls = (state.calls.filter (ExchangeCall.of clientId)).map
    (ExchangeCall.renumbered rename)
  handles : ∀ call ∈ state.calls, ∀ lock, call.handle = some lock →
    (mine lock ↔ call.clientId = clientId)
  flushes : own.flushes.map FlushCall.uncounted =
    (state.flushes.filter (FlushCall.of clientId)).map FlushCall.uncounted
  sound : (lockView state).Sound

namespace Alone

variable {mine : LockId → Prop} {rename : LockId → LockId} {state own next : State}

theorem initial (clientId : String) (clock : Instant) :
    Alone clientId (fun _ => False) id (State.initial clock) (State.initial clock) where
  shared := ⟨rfl, fun _ _ => rfl, fun _ _ => rfl, alike_empty clientId⟩
  calls := rfl
  handles := fun _ listed => by cases listed
  flushes := rfl
  sound := sound_initial clock

theorem all_own (alone : Alone clientId mine rename state own) :
    ∀ call ∈ own.calls, call.of clientId = true := by
  intro call listed
  rw [alone.calls] at listed
  rcases List.mem_map.mp listed with ⟨original, kept, rfl⟩
  exact (List.mem_filter.mp kept).2

theorem length (alone : Alone clientId mine rename state own) :
    own.calls.length = (state.calls.filter (ExchangeCall.of clientId)).length := by
  rw [alone.calls, List.length_map]

theorem handle_allocated (alone : Alone clientId mine rename state own) {call : ExchangeCall}
    (listed : call ∈ state.calls) {lock : LockId} (held : call.handle = some lock) :
    lock < state.shared.inflight.heap.next := by
  rcases alone.sound with ⟨home, sound⟩
  exact sound.memberAllocated (lockMember call) (lockView_member listed) lock held

/-- A call of the client is found among the client's own, in its place. -/
theorem found (alone : Alone clientId mine rename state own) {index : Nat} {call : ExchangeCall}
    (here : state.calls[index]? = some call) (of : call.of clientId = true) :
    own.calls[Roll.place (ExchangeCall.of clientId) state.calls index]? =
      some (call.renumbered rename) := by
  rw [alone.calls, List.getElem?_map, Roll.found_at_place here of, Option.map_some]

/-- The renumbering of the calls stays when it is changed for new locks only. -/
theorem renumber (alone : Alone clientId mine rename state own) {mineAfter : LockId → Prop}
    {renameAfter : LockId → LockId}
    (grown : Alike.Grown mine rename state.shared.inflight mineAfter renameAfter) :
    own.calls = (state.calls.filter (ExchangeCall.of clientId)).map
      (ExchangeCall.renumbered renameAfter) := by
  rw [alone.calls]
  refine List.map_congr_left fun call kept => ExchangeCall.renumbered_congr fun lock held => ?_
  rcases List.mem_filter.mp kept with ⟨listed, of⟩
  have is : mine lock := (alone.handles call listed lock held).mpr (ExchangeCall.of_iff.mp of)
  exact (grown.kept lock is).2.symm

theorem handles_grown (alone : Alone clientId mine rename state own) {mineAfter : LockId → Prop}
    {renameAfter : LockId → LockId}
    (grown : Alike.Grown mine rename state.shared.inflight mineAfter renameAfter) :
    ∀ call ∈ state.calls, ∀ lock, call.handle = some lock →
      (mineAfter lock ↔ call.clientId = clientId) := by
  intro call listed lock held
  have before := alone.handles call listed lock held
  constructor
  · intro after
    rcases grown.fresh lock after with is | rfl
    · exact before.mp is
    · exact absurd (alone.handle_allocated listed held) (Nat.lt_irrefl _)
  · exact fun of => (grown.kept lock (before.mpr of)).1

/-- A caller of the client is followed by the same caller alone. -/
theorem own_call (alone : Alone clientId mine rename state own) {index : Nat} {call : ExchangeCall}
    {action : Action} {shared : Shared} {stage : CallStage}
    (here : state.calls[index]? = some call) (of : call.of clientId = true)
    (move : CallMove inner state.shared index call.clientId call.secret action call.stage shared
      stage)
    (taken : step inner state action =
      some ⟨shared, state.setStage index call stage, state.flushes⟩) :
    ∃ mineAfter renameAfter ownAction ownNext, step inner own ownAction = some ownNext ∧
      ownAction.Concerns clientId ∧
      sighting inner clientId (own, ownAction) = sighting inner clientId (state, action) ∧
      Alone clientId mineAfter renameAfter ⟨shared, state.setStage index call stage, state.flushes⟩
        ownNext := by
  rcases ExchangeCall.of_iff.mp of with rfl
  have listed := List.mem_of_getElem? here
  have held : ∀ lock, call.stage.phase.handle = some lock → mine lock :=
    fun lock holds => (alone.handles call listed lock holds).mpr rfl
  rcases alone.shared.mirrored_move move held (Roll.place (ExchangeCall.of call.clientId)
    state.calls index) with
    ⟨mineAfter, renameAfter, ownShared, ownAction, grown, sharedAfter, holds, ownMove⟩
  have ownHere := alone.found here of
  have ownTaken := CallMove.taken ownHere ownMove
  refine ⟨mineAfter, renameAfter, ownAction, _, ownTaken, ownMove.names.concerns _, ?_, ?_⟩
  · have there := Roll.replaced_self here { call with stage := stage }
    have ownThere := Roll.replaced_self ownHere
      { call.renumbered rename with stage := stage.renumbered renameAfter }
    rw [sighting_of_found taken (move.names.caller state) there,
      sighting_of_found ownTaken (ownMove.names.caller own) ownThere]
    have samePlace : Roll.place (ExchangeCall.of call.clientId) own.calls
        (Roll.place (ExchangeCall.of call.clientId) state.calls index) =
        Roll.place (ExchangeCall.of call.clientId) state.calls index :=
      Roll.place_of_all alone.all_own
        (Nat.le_of_lt (List.getElem?_eq_some_iff.mp ownHere).1)
    simp only [State.setStage, Roll.place_replaced, samePlace, alone.shared.clock]
    have same := ExchangeCall.unnumbered_renumbered renameAfter { call with stage := stage }
    exact congrArg (fun seen => if call.of call.clientId = true then
      some (Sighting.mk state.shared.clock _ seen) else none) same
  · exact
      { shared := sharedAfter
        calls := by
          have others := alone.renumber grown
          simp only [State.setStage]
          have stays : ({ call with stage := stage } : ExchangeCall).of call.clientId = true := of
          rw [Roll.filter_replaced here of stays, List.map_set, ← others]
          rfl
        handles := by
          intro other listed lock held
          rcases List.mem_or_eq_of_mem_set listed with before | rfl
          · exact alone.handles_grown grown other before lock held
          · exact iff_of_true (holds lock held) rfl
        flushes := alone.flushes
        sound := sound_step alone.sound taken }

/-- A caller of another client is passed over. -/
theorem other_call (alone : Alone clientId mine rename state own) {index : Nat}
    {call : ExchangeCall} {action : Action} {shared : Shared} {stage : CallStage}
    (here : state.calls[index]? = some call) (other : call.of clientId = false)
    (move : CallMove inner state.shared index call.clientId call.secret action call.stage shared
      stage)
    (taken : step inner state action =
      some ⟨shared, state.setStage index call stage, state.flushes⟩) :
    sighting inner clientId (state, action) = none ∧
      Alone clientId mine rename ⟨shared, state.setStage index call stage, state.flushes⟩ own := by
  have different : call.clientId ≠ clientId := of_decide_eq_false other
  have foreign : ∀ lock, call.stage.phase.handle = some lock → ¬ mine lock := fun lock holds is =>
    different ((alone.handles call (List.mem_of_getElem? here) lock holds).mp is)
  rcases alone.shared.of_other_move different move foreign with ⟨sharedAfter, holds⟩
  constructor
  · have there := Roll.replaced_self here { call with stage := stage }
    rw [sighting_of_found taken (move.names.caller state) there]
    exact if_neg (by simp only [ExchangeCall.of, different, decide_false, Bool.false_eq_true,
      not_false_eq_true])
  · exact
      { shared := sharedAfter
        calls := by
          have stays : ({ call with stage := stage } : ExchangeCall).of clientId = false := other
          exact alone.calls.trans (congrArg _ (Roll.filter_replaced_other here other stays).symm)
        handles := by
          intro caller listed lock held
          rcases List.mem_or_eq_of_mem_set listed with before | rfl
          · exact alone.handles caller before lock held
          · exact iff_of_false (holds lock held) different
        flushes := alone.flushes
        sound := sound_step alone.sound taken }

/-- A newcomer is outside, so the relation asks nothing of it but its place. -/
theorem joined (alone : Alone clientId mine rename state own) {call : ExchangeCall}
    (outside : call.handle = none) (sound : (lockView ⟨state.shared, state.calls ++ [call],
      state.flushes⟩).Sound) {ownCalls : List ExchangeCall}
    (same : ownCalls = ((state.calls ++ [call]).filter (ExchangeCall.of clientId)).map
      (ExchangeCall.renumbered rename)) :
    Alone clientId mine rename ⟨state.shared, state.calls ++ [call], state.flushes⟩
      ⟨own.shared, ownCalls, own.flushes⟩ where
  shared := alone.shared
  calls := same
  handles := by
    intro caller listed lock held
    rcases List.mem_append.mp listed with before | new
    · exact alone.handles caller before lock held
    · rcases List.mem_singleton.mp new with rfl
      rw [outside] at held
      cases held
  flushes := alone.flushes
  sound := sound

theorem began (alone : Alone clientId mine rename state own) {secret : String}
    (taken : step inner state (.exchange clientId secret) = some next) :
    ∃ ownNext, step inner own (.exchange clientId secret) = some ownNext ∧
      sighting inner clientId (own, .exchange clientId secret) =
        sighting inner clientId (state, .exchange clientId secret) ∧
      Alone clientId mine rename next ownNext := by
  have sound := sound_step alone.sound taken
  rcases Option.some.inj taken with rfl
  refine ⟨_, rfl, ?_, ?_⟩
  · have there := List.getElem?_concat_length (l := state.calls)
      (a := ⟨clientId, secret, .lookupPositive⟩)
    have ownThere := List.getElem?_concat_length (l := own.calls)
      (a := ⟨clientId, secret, .lookupPositive⟩)
    rw [sighting_of_found taken rfl there, sighting_of_found rfl rfl ownThere]
    have unfiltered : own.calls.filter (ExchangeCall.of clientId) = own.calls :=
      List.filter_eq_self.mpr alone.all_own
    simp only [Roll.place_joined, unfiltered]
    rw [alone.length, alone.shared.clock]
  · refine alone.joined rfl sound ?_
    have of : ExchangeCall.of clientId ⟨clientId, secret, .lookupPositive⟩ = true :=
      decide_eq_true rfl
    rw [List.filter_append, List.filter_singleton, of, List.map_append, ← alone.calls]
    rfl

theorem began_other (alone : Alone clientId mine rename state own) {other secret : String}
    (different : other ≠ clientId)
    (taken : step inner state (.exchange other secret) = some next) :
    sighting inner clientId (state, .exchange other secret) = none ∧
      Alone clientId mine rename next own := by
  have sound := sound_step alone.sound taken
  have foreign : ExchangeCall.of clientId ⟨other, secret, .lookupPositive⟩ = false :=
    decide_eq_false different
  rcases Option.some.inj taken with rfl
  constructor
  · have there := List.getElem?_concat_length (l := state.calls)
      (a := ⟨other, secret, .lookupPositive⟩)
    rw [sighting_of_found taken rfl there, foreign]
    rfl
  · refine alone.joined rfl sound ?_
    rw [List.filter_append, List.filter_singleton, foreign, List.map_append, ← alone.calls]
    exact (List.append_nil _).symm

theorem flushBegan (alone : Alone clientId mine rename state own) {scope : Option String}
    (covers : scope = none ∨ scope = some clientId)
    (taken : step inner state (.flush scope) = some next) :
    ∃ ownNext, step inner own (.flush scope) = some ownNext ∧
      Alone clientId mine rename next ownNext := by
  have sound := sound_step alone.sound taken
  rcases Option.some.inj taken with rfl
  have of : FlushCall.of clientId ⟨scope, .readPositiveLen⟩ = true := decide_eq_true covers
  exact ⟨_, rfl,
    { shared := alone.shared
      calls := alone.calls
      handles := alone.handles
      flushes := by
        simp only [List.filter_append, List.filter_singleton, of, List.map_append, alone.flushes]
        rfl
      sound := sound }⟩

theorem other_flushBegan (alone : Alone clientId mine rename state own) {scope : Option String}
    (other : ¬ (scope = none ∨ scope = some clientId))
    (taken : step inner state (.flush scope) = some next) :
    Alone clientId mine rename next own := by
  have sound := sound_step alone.sound taken
  rcases Option.some.inj taken with rfl
  have foreign : FlushCall.of clientId ⟨scope, .readPositiveLen⟩ = false := decide_eq_false other
  exact
    { shared := alone.shared
      calls := alone.calls
      handles := alone.handles
      flushes := by
        rw [alone.flushes, List.filter_append, List.filter_singleton, foreign]
        exact congrArg _ (List.append_nil _).symm
      sound := sound }

/-- A flush of the client is followed by the same flush alone, for as long as it
empties maps. -/
theorem flush_step (alone : Alone clientId mine rename state own) {index : Nat} {call : FlushCall}
    {shared : Shared} {stage : FlushStage} (here : state.flushes[index]? = some call)
    (of : call.of clientId = true)
    (spec : FlushSpec state.shared call.clientId call.stage shared stage)
    (sound : (lockView ⟨shared, state.calls, state.flushes⟩).Sound) :
    Alone clientId mine rename
        ⟨shared, state.calls, state.flushes.set index { call with stage := stage }⟩ own ∨
      ∃ position ownNext, step inner own (.advanceFlush position) = some ownNext ∧
        Alone clientId mine rename
          ⟨shared, state.calls, state.flushes.set index { call with stage := stage }⟩ ownNext := by
  have place := Roll.found_at_place here of
  have stays : ({ call with stage := stage } : FlushCall).of clientId = true := of
  have outline : ((state.flushes.filter (FlushCall.of clientId)).map FlushCall.uncounted)[
      Roll.place (FlushCall.of clientId) state.flushes index]? = some call.uncounted := by
    rw [List.getElem?_map, place, Option.map_some]
  have counterpart := outline
  rw [← alone.flushes, List.getElem?_map, Option.map_eq_some_iff] at counterpart
  rcases counterpart with ⟨⟨ownScope, ownCurrent⟩, ownHere, same⟩
  rcases FlushCall.mk.inj same with ⟨rfl, sameStage⟩
  have listed : (state.flushes.set index { call with stage := stage }).filter
      (FlushCall.of clientId) = (state.flushes.filter (FlushCall.of clientId)).set
        (Roll.place (FlushCall.of clientId) state.flushes index) { call with stage := stage } :=
    Roll.filter_replaced here of stays
  rcases alone.shared.flushed (FlushCall.of_iff.mp of) spec sameStage with
    ⟨rfl, still⟩ | ⟨ownShared, ownStage, ownSpec, after, sameAfter⟩
  · refine Or.inl
      { shared := alone.shared
        calls := alone.calls
        handles := alone.handles
        flushes := ?_
        sound := sound }
    have unmoved : FlushCall.uncounted { call with stage := stage } = call.uncounted :=
      congrArg (FlushCall.mk call.clientId) still
    rw [listed, List.map_set, unmoved, Roll.replaced_same outline, alone.flushes]
  · refine Or.inr ⟨_, _, FlushSpec.taken ownHere ownSpec,
      { shared := after
        calls := alone.calls
        handles := alone.handles
        flushes := ?_
        sound := sound }⟩
    have moved : FlushCall.uncounted ⟨call.clientId, ownStage⟩ =
        FlushCall.uncounted { call with stage := stage } :=
      congrArg (FlushCall.mk call.clientId) sameAfter
    rw [listed, List.map_set, List.map_set, alone.flushes]
    exact congrArg _ moved

theorem other_flush_step (alone : Alone clientId mine rename state own) {index : Nat}
    {call : FlushCall} {shared : Shared} {stage : FlushStage}
    (here : state.flushes[index]? = some call) (other : call.of clientId = false)
    (spec : FlushSpec state.shared call.clientId call.stage shared stage)
    (sound : (lockView ⟨shared, state.calls, state.flushes⟩).Sound) :
    Alone clientId mine rename
      ⟨shared, state.calls, state.flushes.set index { call with stage := stage }⟩ own where
  shared := by
    rcases call with ⟨scope, current⟩
    have different : ¬ (scope = none ∨ scope = some clientId) := of_decide_eq_false other
    cases scope with
    | none => exact absurd (Or.inl rfl) different
    | some cid =>
        have apart : clientId ≠ cid := fun same => different (Or.inr (congrArg some same.symm))
        exact alone.shared.of_other_flush apart spec
  calls := alone.calls
  handles := alone.handles
  flushes := by
    have stays : ({ call with stage := stage } : FlushCall).of clientId = false := other
    rw [alone.flushes, Roll.filter_replaced_other here other stays]
  sound := sound

theorem ticked (alone : Alone clientId mine rename state own) (elapsed : Nat) :
    Alone clientId mine rename
      { state with shared := { state.shared with clock := state.shared.clock + elapsed } }
      { own with shared := { own.shared with clock := own.shared.clock + elapsed } } where
  shared := ⟨congrArg (· + elapsed) alone.shared.clock, alone.shared.positive,
    alone.shared.negative, alone.shared.inflight⟩
  calls := alone.calls
  handles := alone.handles
  flushes := alone.flushes
  sound := alone.sound

end Alone

/-- The exchanger as the callers of one client see it. -/
def seenBy (inner : ExchangerInner) (clientId : String) : Machine State Action Sighting where
  step := step inner
  event := sighting inner clientId

/-- The step is matched by what the client does alone, in which it sees the same. -/
def Followed (inner : ExchangerInner) (clientId : String) (state own : State) (action : Action)
    (next : State) : Prop :=
  ∃ history ownNext, Run (step inner) own history ownNext ∧
    (∀ moment ∈ history, moment.2.Concerns clientId) ∧
    trace (sighting inner clientId) history = trace (sighting inner clientId) [(state, action)] ∧
    ∃ mine rename, Alone clientId mine rename next ownNext

section Followed

variable {state own ownNext next : State} {action ownAction : Action} {mine : LockId → Prop}
  {rename : LockId → LockId}

theorem followed_by_step (taken : step inner own ownAction = some ownNext)
    (concerns : ownAction.Concerns clientId)
    (seen : sighting inner clientId (own, ownAction) = sighting inner clientId (state, action))
    (after : Alone clientId mine rename next ownNext) :
    Followed inner clientId state own action next := by
  refine ⟨[(own, ownAction)], ownNext, Run.single taken, ?_, ?_, mine, rename, after⟩
  · intro moment listed
    rcases List.mem_singleton.mp listed with rfl
    exact concerns
  · simp only [trace, List.filterMap_cons, seen]

theorem passed_over (unseen : sighting inner clientId (state, action) = none)
    (after : Alone clientId mine rename next own) :
    Followed inner clientId state own action next := by
  refine ⟨[], own, Run.nil, fun _ listed => (List.not_mem_nil listed).elim, ?_, mine, rename,
    after⟩
  simp only [trace, List.filterMap_cons, unseen, List.filterMap_nil]

/-- Step by step, the client is followed and everybody else is passed over. -/
theorem followed (alone : Alone clientId mine rename state own)
    (taken : step inner state action = some next) :
    Followed inner clientId state own action next := by
  have sound := sound_step alone.sound taken
  cases step_spec taken with
  | @exchange caller secret =>
      by_cases same : caller = clientId
      · subst same
        rcases alone.began taken with ⟨ownNext, ownTaken, seen, after⟩
        exact followed_by_step ownTaken rfl seen after
      · rcases alone.began_other same taken with ⟨unseen, after⟩
        exact passed_over unseen after
  | @call index call action shared stage here move =>
      cases of : call.of clientId with
      | true =>
          rcases alone.own_call here of move taken with
            ⟨_, _, ownAction, ownNext, ownTaken, concerns, seen, after⟩
          exact followed_by_step ownTaken concerns seen after
      | false =>
          rcases alone.other_call here of move taken with ⟨unseen, after⟩
          exact passed_over unseen after
  | @flush scope =>
      by_cases covers : scope = none ∨ scope = some clientId
      · rcases alone.flushBegan covers taken with ⟨ownNext, ownTaken, after⟩
        exact followed_by_step ownTaken covers
          ((sighting_of_no_caller rfl).trans (sighting_of_no_caller rfl).symm) after
      · exact passed_over (sighting_of_no_caller rfl) (alone.other_flushBegan covers taken)
  | @flushStep index call shared stage here spec =>
      cases of : call.of clientId with
      | true =>
          rcases alone.flush_step here of spec sound with
            after | ⟨position, ownNext, ownTaken, after⟩
          · exact passed_over (sighting_of_no_caller rfl) after
          · exact followed_by_step ownTaken trivial
              ((sighting_of_no_caller rfl).trans (sighting_of_no_caller rfl).symm) after
      | false =>
          exact passed_over (sighting_of_no_caller rfl) (alone.other_flush_step here of spec sound)
  | @tick elapsed =>
      have ownTaken : step inner own (.tick elapsed) = some
          { own with shared := { own.shared with clock := own.shared.clock + elapsed } } := rfl
      exact followed_by_step ownTaken trivial
        ((sighting_of_no_caller rfl).trans (sighting_of_no_caller rfl).symm) (alone.ticked elapsed)

end Followed

/-- Leaving out the other clients is a simulation of the exchanger by itself. -/
def withoutOthers (inner : ExchangerInner) (clientId : String) :
    Simulation (seenBy inner clientId) (seenBy inner clientId) (fun _ => True)
      (fun moment => moment.2.Concerns clientId) where
  relation := fun state own => ∃ mine rename, Alone clientId mine rename state own
  matches_step := by
    rintro state own action next ⟨_, _, alone⟩ _ taken
    exact followed alone taken

/-- Whatever the callers of one client see among others, they could have seen with
the others left out. -/
theorem clients_are_kept_apart {clock : Instant} {history : List (Moment State Action)}
    {state : State} (run : Run (step inner) (State.initial clock) history state)
    (clientId : String) :
    ∃ ownHistory own, Run (step inner) (State.initial clock) ownHistory own ∧
      (∀ moment ∈ ownHistory, moment.2.Concerns clientId) ∧
      trace (sighting inner clientId) ownHistory = trace (sighting inner clientId) history ∧
      own.calls.map ExchangeCall.unnumbered =
        (state.calls.filter (ExchangeCall.of clientId)).map ExchangeCall.unnumbered ∧
      own.shared.clock = state.shared.clock ∧
      ∀ key, key.clientId = clientId →
        own.shared.positive.lookup key = state.shared.positive.lookup key ∧
        own.shared.negative.lookup key = state.shared.negative.lookup key := by
  rcases (withoutOthers inner clientId).run ⟨_, _, Alone.initial clientId clock⟩ run
    (fun _ _ => trivial) with ⟨ownHistory, own, ownRun, concerns, seen, mine, rename, alone⟩
  refine ⟨ownHistory, own, ownRun, concerns, seen, ?_, alone.shared.clock, fun key of =>
    ⟨alone.shared.positive key of, alone.shared.negative key of⟩⟩
  rw [alone.calls, List.map_map]
  exact List.map_congr_left fun call _ => ExchangeCall.unnumbered_renumbered rename call

/-- Two clients wait for the IdP at once.  The second one, which has the second
lock, could have come as far alone. -/
theorem clients_are_kept_apart_of_two_clients :
    ∃ history state, Run (step sampleInner) (State.initial 0) history state ∧
      state.calls = [⟨"c", "sec", .awaitAnswer 0 (tokenPost sampleInner "c" "sec")⟩,
        ⟨"d", "bad", .awaitAnswer 1 (tokenPost sampleInner "d" "bad")⟩] ∧
      ∃ ownHistory own, Run (step sampleInner) (State.initial 0) ownHistory own ∧
        (∀ moment ∈ ownHistory, moment.2.Concerns "d") ∧
        own.calls.map ExchangeCall.unnumbered =
          [⟨"d", "bad", .awaitAnswer 0 (tokenPost sampleInner "d" "bad")⟩] := by
  obtain ⟨history, state, run, calls⟩ := execute_observed (step sampleInner)
    (State.initial 0)
    [.exchange "c" "sec", .exchange "d" "bad", .advance 0, .advance 0, .advance 0, .advance 1,
      .advance 1, .advance 1, .advance 1, .advance 0, .advance 0, .advance 0, .advance 1,
      .advance 1]
    (fun _ state => state.calls)
    [⟨"c", "sec", .awaitAnswer 0 (tokenPost sampleInner "c" "sec")⟩,
      ⟨"d", "bad", .awaitAnswer 1 (tokenPost sampleInner "d" "bad")⟩] (by decide +kernel)
  rcases clients_are_kept_apart run "d" with ⟨ownHistory, own, ownRun, concerns, _, same, _⟩
  rw [calls] at same
  exact ⟨history, state, run, calls, ownHistory, own, ownRun, concerns, same⟩

end Exchange
end OidcRs
