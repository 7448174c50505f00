import OidcRs.Exchange.Caches
import OidcRs.Exchange.Locking
import OidcRs.Foundation.Ledger

namespace OidcRs
namespace Exchange

open Foundation

/-!
# What a flush reports

A flush reports the difference of two lengths of each map, and other calls may
add and remove entries between the two readings.  The books below are kept
along a run: what the flush has removed itself, and what others have added and
removed while one length was read and the other was not.  They show that the
report is right exactly when the others' changes cancel out.
-/

variable {inner : ExchangerInner}

/-! ## The two maps that are counted -/

inductive Side
  | positive
  | negative

/-- How far a flush has got with counting one map. -/
inductive Reading
  | unread
  | opened (length : Nat)
  | closed (evicted : Nat)
  | failed

namespace Side

def keys : Side → Shared → Finset CacheKey
  | positive, shared => shared.positive.keys
  | negative, shared => shared.negative.keys

/-- The entries of the map, as a set read off the state. -/
def content (side : Side) (state : State) : Finset CacheKey := side.keys state.shared

def reading : Side → FlushStage → Reading
  | _, .readPositiveLen => .unread
  | positive, .readNegativeLen posBefore => .opened posBefore
  | negative, .readNegativeLen _ => .unread
  | positive, .flushPositive posBefore _ | positive, .flushNegative posBefore _
  | positive, .flushInflight posBefore _ | positive, .countPositive posBefore _ =>
      .opened posBefore
  | negative, .flushPositive _ negBefore | negative, .flushNegative _ negBefore
  | negative, .flushInflight _ negBefore | negative, .countPositive _ negBefore
  | negative, .countNegative _ negBefore => .opened negBefore
  | positive, .countNegative posEvicted _ | positive, .returned posEvicted _ => .closed posEvicted
  | negative, .returned _ negEvicted => .closed negEvicted
  | _, .overflowed => .failed

/-- A flush that has not been called has read nothing. -/
def readingAt (side : Side) (state : State) (index : Nat) : Reading :=
  match state.flushes[index]? with
  | some call => side.reading call.stage
  | none => .unread

end Side

def Reading.isOpen : Reading → Bool
  | opened _ => true
  | _ => false

/-- The step of this moment is one of the flush. -/
def ownStep (index : Nat) (moment : Moment State Action) : Bool :=
  moment.2.flushAdvanced = some index

/-- The step is one of another call, while the flush stands between its two
readings of the map. -/
def meanwhile (side : Side) (index : Nat) (moment : Moment State Action) : Bool :=
  !ownStep index moment && (side.readingAt moment.1 index).isOpen

/-- How many entries of the map the flush has removed. -/
def removedByFlush (inner : ExchangerInner) (history : List (Moment State Action)) (index : Nat)
    (side : Side) : Nat :=
  tally (ownStep index) (removed (step inner) side.content) history

/-- How many entries others have added between the two readings. -/
def addedMeanwhile (inner : ExchangerInner) (history : List (Moment State Action)) (index : Nat)
    (side : Side) : Nat :=
  tally (meanwhile side index) (added (step inner) side.content) history

/-- How many entries others have removed between the two readings. -/
def removedMeanwhile (inner : ExchangerInner) (history : List (Moment State Action)) (index : Nat)
    (side : Side) : Nat :=
  tally (meanwhile side index) (removed (step inner) side.content) history

/-- No step of the flush touches an entry of another client than the one it names. -/
def SparesOthers (inner : ExchangerInner) (history : List (Moment State Action)) (index : Nat)
    (clientId : Option String) : Prop :=
  ∀ cid other, clientId = some cid → other ≠ cid →
    ∀ before state next, Passed history before (state, .advanceFlush index) →
      step inner state (.advanceFlush index) = some next →
      (∀ key, key.clientId = other →
        next.shared.positive.lookup key = state.shared.positive.lookup key ∧
        next.shared.negative.lookup key = state.shared.negative.lookup key) ∧
      next.shared.inflight.entries.lookup other = state.shared.inflight.entries.lookup other

/-- The flush has returned what it removed, and has spared the other clients. -/
structure Reports (inner : ExchangerInner) (history : List (Moment State Action)) (state : State)
    (index : Nat) (clientId : Option String) : Prop where
  counts : state.flushes[index]? = some ⟨clientId,
    .returned (removedByFlush inner history index .positive)
      (removedByFlush inner history index .negative)⟩
  spares : SparesOthers inner history index clientId

def FlushStage.ended : FlushStage → Bool
  | returned _ _ | overflowed => true
  | _ => false

/-! ## The books -/

/-- What the tallies say about a map of this size, given how far the flush is. -/
def Agree (inner : ExchangerInner) (history : List (Moment State Action)) (index : Nat)
    (side : Side) (now : Nat) : Reading → Prop
  | .unread => removedByFlush inner history index side = 0 ∧
      addedMeanwhile inner history index side = 0 ∧ removedMeanwhile inner history index side = 0
  | .opened length => now + removedByFlush inner history index side +
      removedMeanwhile inner history index side = length + addedMeanwhile inner history index side
  | .closed evicted => evicted + addedMeanwhile inner history index side =
      removedByFlush inner history index side + removedMeanwhile inner history index side
  | .failed => True

/-- Others have added more than the flush and they have removed together. -/
def Short (inner : ExchangerInner) (history : List (Moment State Action)) (index : Nat)
    (side : Side) : Prop :=
  removedByFlush inner history index side + removedMeanwhile inner history index side <
    addedMeanwhile inner history index side

/-- The books are in order, and an overflow has its reason in one of them. -/
structure Kept (inner : ExchangerInner) (history : List (Moment State Action)) (state : State)
    (index : Nat) : Prop where
  agree : ∀ side, Agree inner history index side (side.content state).card
    (side.readingAt state index)
  overflow : ∀ clientId, state.flushes[index]? = some ⟨clientId, .overflowed⟩ →
    ∃ side, Short inner history index side

section Books

variable {history : List (Moment State Action)} {state next : State} {action : Action}
  {index : Nat} {side : Side}

theorem Side.readingAt_of_found {call : FlushCall} (found : state.flushes[index]? = some call) :
    side.readingAt state index = side.reading call.stage := by
  rw [readingAt, found]

/-- A flush adds nothing to a map. -/
theorem keys_flushMap_subset {Value : Type} (clientId : Option String)
    (map : KeyedMap CacheKey Value) : (flushMap clientId map).keys ⊆ map.keys := by
  intro key member
  rw [KeyedMap.mem_keys_iff] at member ⊢
  rcases member with ⟨value, found⟩
  exact ⟨value, lookup_flushMap_some found⟩

/-- The tallies after a step of another call. -/
theorem books_of_other (inner : ExchangerInner) (history : List (Moment State Action))
    (side : Side) (other : ownStep index (state, action) = false) :
    removedByFlush inner (history ++ [(state, action)]) index side =
        removedByFlush inner history index side ∧
      ((side.readingAt state index).isOpen = true →
        addedMeanwhile inner (history ++ [(state, action)]) index side =
            addedMeanwhile inner history index side +
              added (step inner) side.content (state, action) ∧
          removedMeanwhile inner (history ++ [(state, action)]) index side =
            removedMeanwhile inner history index side +
              removed (step inner) side.content (state, action)) ∧
      ((side.readingAt state index).isOpen = false →
        addedMeanwhile inner (history ++ [(state, action)]) index side =
            addedMeanwhile inner history index side ∧
          removedMeanwhile inner (history ++ [(state, action)]) index side =
            removedMeanwhile inner history index side) := by
  refine ⟨tally_snoc_other other, fun isOpen => ?_, fun isShut => ?_⟩
  · have counts : meanwhile side index (state, action) = true := by
      rw [meanwhile, other, isOpen]
      rfl
    exact ⟨tally_snoc_chosen counts, tally_snoc_chosen counts⟩
  · have skipped : meanwhile side index (state, action) = false := by
      rw [meanwhile, isShut, Bool.and_false]
    exact ⟨tally_snoc_other skipped, tally_snoc_other skipped⟩

/-- The tallies after a step of the flush. -/
theorem books_of_own (inner : ExchangerInner) (history : List (Moment State Action))
    (state : State) (index : Nat) (side : Side) :
    removedByFlush inner (history ++ [(state, .advanceFlush index)]) index side =
        removedByFlush inner history index side +
          removed (step inner) side.content (state, .advanceFlush index) ∧
      addedMeanwhile inner (history ++ [(state, .advanceFlush index)]) index side =
        addedMeanwhile inner history index side ∧
      removedMeanwhile inner (history ++ [(state, .advanceFlush index)]) index side =
        removedMeanwhile inner history index side := by
  have own : ownStep index (state, .advanceFlush index) = true := decide_eq_true rfl
  have skipped : meanwhile side index (state, .advanceFlush index) = false := by
    rw [meanwhile, own]
    rfl
  exact ⟨tally_snoc_chosen own, tally_snoc_other skipped, tally_snoc_other skipped⟩

/-- A step of another call keeps the books, whatever it does to the map. -/
theorem Agree.other (taken : step inner state action = some next)
    (other : ownStep index (state, action) = false)
    (agree : Agree inner history index side (side.content state).card (side.readingAt state index)) :
    Agree inner (history ++ [(state, action)]) index side (side.content next).card
      (side.readingAt state index) := by
  rcases books_of_other inner history side other with
    ⟨own, whileOpen, whileShut⟩
  have balance := step_balance side.content taken
  cases here : side.readingAt state index with
  | unread =>
      rw [here] at agree whileShut
      rcases whileShut rfl with ⟨sameAdded, sameRemoved⟩
      simp only [Agree] at agree ⊢
      omega
  | opened length =>
      rw [here] at agree whileOpen
      rcases whileOpen rfl with ⟨moreAdded, moreRemoved⟩
      simp only [Agree] at agree ⊢
      omega
  | closed evicted =>
      rw [here] at agree whileShut
      rcases whileShut rfl with ⟨sameAdded, sameRemoved⟩
      simp only [Agree] at agree ⊢
      omega
  | failed => trivial

/-- How a step of the flush changes its reading of a map of size `now`, where
`quiet` says that the step leaves the map alone. -/
inductive Turn (now : Nat) (quiet : Prop) : Reading → Reading → Prop
  | clears {length : Nat} : Turn now quiet (.opened length) (.opened length)
  | waits {reading : Reading} (same : quiet) : Turn now quiet reading reading
  | opens (same : quiet) : Turn now quiet .unread (.opened now)
  | closes {length evicted : Nat} (same : quiet) (counted : checkedSub length now = some evicted) :
      Turn now quiet (.opened length) (.closed evicted)
  | fails {reading : Reading} : Turn now quiet reading .failed

theorem FlushSpec.turn {shared after : Shared} {clientId : Option String}
    {current stage : FlushStage} (spec : FlushSpec shared clientId current after stage)
    (side : Side) :
    Turn (side.keys shared).card (side.keys after = side.keys shared) (side.reading current)
      (side.reading stage) := by
  cases spec with
  | readPositiveLen =>
      cases side with
      | positive => exact .opens rfl
      | negative => exact .waits rfl
  | readNegativeLen =>
      cases side with
      | positive => exact .waits rfl
      | negative => exact .opens rfl
  | flushPositive | flushNegative | flushInflight => cases side <;> exact .clears
  | countPositive counted =>
      cases side with
      | positive => exact .closes rfl counted
      | negative => exact .waits rfl
  | countNegative counted =>
      cases side with
      | positive => exact .waits rfl
      | negative => exact .closes rfl counted
  | positiveOverflow | negativeOverflow => cases side <;> exact .fails

theorem FlushSpec.keys_subset {shared after : Shared} {clientId : Option String}
    {current stage : FlushStage} (spec : FlushSpec shared clientId current after stage)
    (side : Side) : side.keys after ⊆ side.keys shared := by
  cases spec with
  | flushPositive =>
      cases side with
      | positive => exact keys_flushMap_subset _ _
      | negative => exact Finset.Subset.refl _
  | flushNegative =>
      cases side with
      | positive => exact Finset.Subset.refl _
      | negative => exact keys_flushMap_subset _ _
  | readPositiveLen | readNegativeLen | flushInflight | countPositive | positiveOverflow
  | countNegative | negativeOverflow => cases side <;> exact Finset.Subset.refl _

theorem checkedSub_eq_some {before after difference : Nat}
    (counted : checkedSub before after = some difference) : before = difference + after := by
  unfold checkedSub at counted
  split at counted
  · next bounded =>
      rcases Option.some.inj counted with rfl
      exact (Nat.sub_add_cancel bounded).symm
  · cases counted

theorem checkedSub_eq_none {before after : Nat} (wrapped : checkedSub before after = none) :
    before < after := by
  unfold checkedSub at wrapped
  split at wrapped
  · cases wrapped
  · next larger => exact Nat.lt_of_not_le larger

/-- A step of the flush keeps the books. -/
theorem Agree.own {clientId : Option String} {current stage : FlushStage}
    (taken : step inner state (.advanceFlush index) = some next)
    (spec : FlushSpec state.shared clientId current next.shared stage)
    (agree : Agree inner history index side (side.content state).card (side.reading current)) :
    Agree inner (history ++ [(state, .advanceFlush index)]) index side (side.content next).card
      (side.reading stage) := by
  rcases books_of_own inner history state index side with ⟨own, sameAdded, sameRemoved⟩
  have balance := step_balance side.content taken
  have adds : added (step inner) side.content (state, .advanceFlush index) = 0 :=
    added_of_subset side.content taken (spec.keys_subset side)
  have quiet : side.keys next.shared = side.keys state.shared →
      removed (step inner) side.content (state, .advanceFlush index) = 0 :=
    fun same => (unchanged_of_same side.content taken same).2
  have turn := spec.turn side
  generalize side.reading current = before at agree turn
  generalize side.reading stage = after at turn ⊢
  change Turn (side.content state).card _ before after at turn
  cases turn with
  | clears =>
      simp only [Agree] at agree ⊢
      omega
  | waits same =>
      have none_removed := quiet same
      cases before <;> simp only [Agree] at agree ⊢ <;> omega
  | opens same =>
      have none_removed := quiet same
      simp only [Agree] at agree ⊢
      omega
  | closes same counted =>
      have none_removed := quiet same
      have difference := checkedSub_eq_some counted
      simp only [Agree] at agree ⊢
      omega
  | fails => trivial

/-- A difference that cannot be formed is owed to the others. -/
theorem Short.of_wrapped {length : Nat} (taken : step inner state (.advanceFlush index) = some next)
    (agree : Agree inner history index side (side.content state).card (.opened length))
    (wrapped : checkedSub length (side.content state).card = none)
    (same : side.keys next.shared = side.keys state.shared) :
    Short inner (history ++ [(state, .advanceFlush index)]) index side := by
  rcases books_of_own inner history state index side with ⟨own, sameAdded, sameRemoved⟩
  have none_removed := (unchanged_of_same side.content taken same).2
  have larger := checkedSub_eq_none wrapped
  simp only [Agree] at agree
  rw [Short]
  omega

/-- A flush that has overflowed has found one of the maps short. -/
theorem Short.of_own {clientId : Option String} {current : FlushStage}
    (taken : step inner state (.advanceFlush index) = some next)
    (spec : FlushSpec state.shared clientId current next.shared .overflowed)
    (agree : ∀ side, Agree inner history index side (side.content state).card
      (side.reading current)) :
    ∃ side, Short inner (history ++ [(state, .advanceFlush index)]) index side := by
  have wraps : ∀ (side : Side) (length : Nat), side.reading current = .opened length →
      checkedSub length (side.content state).card = none →
      side.keys next.shared = side.keys state.shared →
      ∃ side, Short inner (history ++ [(state, .advanceFlush index)]) index side := by
    intro side length opened wrapped same
    have open_agrees := agree side
    rw [opened] at open_agrees
    exact ⟨side, Short.of_wrapped taken open_agrees wrapped same⟩
  generalize next.shared = after at spec wraps
  generalize ended : FlushStage.overflowed = stage at spec
  cases spec with
  | positiveOverflow wrapped => exact wraps .positive _ rfl wrapped rfl
  | negativeOverflow wrapped => exact wraps .negative _ rfl wrapped rfl
  | readPositiveLen | readNegativeLen | flushPositive | flushNegative | flushInflight
  | countPositive | countNegative => cases ended

/-- A shortfall stays once the flush has stopped reading. -/
theorem Short.other (other : ownStep index (state, action) = false)
    (shut : (side.readingAt state index).isOpen = false)
    (short : Short inner history index side) :
    Short inner (history ++ [(state, action)]) index side := by
  rcases books_of_other inner history side other with
    ⟨own, _, whileShut⟩
  rcases whileShut shut with ⟨sameAdded, sameRemoved⟩
  rw [Short] at short ⊢
  omega

end Books

/-- What a step does to one flush. -/
inductive FlushOrigin (inner : ExchangerInner) (state : State) (action : Action) (next : State)
    (index : Nat) : Prop
  | own {call : FlushCall} {stage : FlushStage} (acts : action = .advanceFlush index)
      (found : state.flushes[index]? = some call)
      (spec : FlushSpec state.shared call.clientId call.stage next.shared stage)
      (moved : next.flushes[index]? = some { call with stage := stage })
  | other (notOwn : ownStep index (state, action) = false)
      (same : next.flushes[index]? = state.flushes[index]?)
  | begun {clientId : Option String} (notOwn : ownStep index (state, action) = false)
      (fresh : state.flushes[index]? = none)
      (called : next.flushes[index]? = some ⟨clientId, .readPositiveLen⟩)

theorem flush_origin {state next : State} {action : Action}
    (taken : step inner state action = some next) (index : Nat) :
    FlushOrigin inner state action next index := by
  cases step_spec taken with
  | exchange | tick => exact .other rfl rfl
  | call found move => rcases move.names with rfl | ⟨_, rfl⟩ | rfl <;> exact .other rfl rfl
  | @flush clientId =>
      cases found : state.flushes[index]? with
      | some call =>
          have kept := Roll.joined found ⟨clientId, .readPositiveLen⟩
          exact .other rfl (kept.trans found.symm)
      | none =>
          by_cases last : index = state.flushes.length
          · subst last
            exact .begun rfl found (List.getElem?_concat_length)
          · have beyond : state.flushes.length < index :=
              Nat.lt_of_le_of_ne (List.getElem?_eq_none_iff.mp found) (Ne.symm last)
            refine .other rfl ?_
            rw [found, List.getElem?_eq_none_iff, List.length_append, List.length_singleton]
            exact beyond
  | @flushStep moved call shared stage found spec =>
      by_cases same : moved = index
      · subst same
        exact .own rfl found spec (Roll.replaced_self found _)
      · refine .other (decide_eq_false ?_) (List.getElem?_set_ne same)
        exact fun advances => same (Option.some.inj advances)

/-- Every step keeps the books. -/
theorem Kept.step {history : List (Moment State Action)} {state next : State} {action : Action}
    {index : Nat} (kept : Kept inner history state index)
    (taken : step inner state action = some next) :
    Kept inner (history ++ [(state, action)]) next index := by
  cases flush_origin taken index with
  | @own call stage acts found spec moved =>
      subst acts
      have agree : ∀ side, Agree inner history index side (side.content state).card
          (side.reading call.stage) := by
        intro side
        have before := kept.agree side
        rwa [Side.readingAt_of_found found] at before
      refine ⟨fun side => ?_, fun clientId overflowed => ?_⟩
      · rw [Side.readingAt_of_found moved]
        exact (agree side).own taken spec
      · rw [moved] at overflowed
        have ended := congrArg FlushCall.stage (Option.some.inj overflowed)
        simp only at ended
        subst ended
        exact Short.of_own taken spec agree
  | other notOwn same =>
      have sameReading : ∀ side : Side, side.readingAt next index = side.readingAt state index := by
        intro side
        rw [Side.readingAt, same, Side.readingAt]
      refine ⟨fun side => ?_, fun clientId overflowed => ?_⟩
      · rw [sameReading]
        exact (kept.agree side).other taken notOwn
      · rw [same] at overflowed
        rcases kept.overflow clientId overflowed with ⟨side, short⟩
        refine ⟨side, short.other notOwn ?_⟩
        rw [Side.readingAt_of_found overflowed]
        cases side <;> rfl
  | begun notOwn fresh called =>
      refine ⟨fun side => ?_, fun clientId overflowed => ?_⟩
      · have unread : side.readingAt state index = .unread := by rw [Side.readingAt, fresh]
        have blank := (kept.agree side).other taken notOwn
        rw [unread] at blank
        rw [Side.readingAt_of_found called]
        cases side <;> exact blank
      · rw [called] at overflowed
        cases overflowed

theorem kept_of_run {clock : Instant} {history : List (Moment State Action)} {state : State}
    (run : Run (step inner) (State.initial clock) history state) (index : Nat) :
    Kept inner history state index := by
  refine run.history_invariant (fun history state => Kept inner history state index) ?_ ?_
  · refine ⟨fun side => ?_, fun clientId overflowed => ?_⟩
    · exact ⟨rfl, rfl, rfl⟩
    · cases overflowed
  · intro history state action next _ kept taken
    exact kept.step taken

/-! ## When the report is right -/

/-- A filter on one client keeps the entries of the others. -/
theorem lookup_flushMap_spared {Value : Type} {map : KeyedMap CacheKey Value} {cid : String}
    {key : CacheKey} (different : key.clientId ≠ cid) :
    (flushMap (some cid) map).lookup key = map.lookup key :=
  KeyedMap.lookup_retain_of_kept (fun _ => decide_eq_true different)

theorem FlushSpec.spares {shared after : Shared} {cid other : String}
    {current stage : FlushStage} (spec : FlushSpec shared (some cid) current after stage)
    (different : other ≠ cid) :
    (∀ key, key.clientId = other → after.positive.lookup key = shared.positive.lookup key ∧
        after.negative.lookup key = shared.negative.lookup key) ∧
      after.inflight.entries.lookup other = shared.inflight.entries.lookup other := by
  cases spec with
  | flushPositive =>
      refine ⟨?_, rfl⟩
      rintro key rfl
      exact ⟨lookup_flushMap_spared different, rfl⟩
  | flushNegative =>
      refine ⟨?_, rfl⟩
      rintro key rfl
      exact ⟨rfl, lookup_flushMap_spared different⟩
  | flushInflight =>
      refine ⟨fun _ _ => ⟨rfl, rfl⟩, ?_⟩
      exact KeyedMap.lookup_retain_of_kept (fun _ => decide_eq_true different)
  | readPositiveLen | readNegativeLen | countPositive | positiveOverflow | countNegative
  | negativeOverflow => exact ⟨fun _ _ => ⟨rfl, rfl⟩, rfl⟩

/-- No step of a flush touches an entry of another client. -/
theorem spares_others {start last : State} {history : List (Moment State Action)}
    (run : Run (step inner) start history last) {index : Nat} {clientId : Option String}
    {stage : FlushStage} (listed : last.flushes[index]? = some ⟨clientId, stage⟩) :
    SparesOthers inner history index clientId := by
  rintro cid other rfl different before state next passed taken
  rcases passed.cut run with ⟨after, _, _, _, stepped, rest⟩
  rcases Option.some.inj (stepped.symm.trans taken) with rfl
  cases flush_origin taken index with
  | @own call turned _ found spec moved =>
      rcases flush_of_run rest moved with ⟨later, there, _⟩
      have sameClient : call.clientId = some cid :=
        congrArg FlushCall.clientId (Option.some.inj (there.symm.trans listed))
      rw [sameClient] at spec
      exact spec.spares different
  | other notOwn | begun notOwn =>
      rw [ownStep, decide_eq_false_iff_not] at notOwn
      exact absurd rfl notOwn

/-- A flush never waits: until it has ended, its next step is enabled. -/
theorem flush_proceeds {state : State} {index : Nat} {call : FlushCall}
    (found : state.flushes[index]? = some call) (running : call.stage.ended = false) :
    ∃ next, step inner state (.advanceFlush index) = some next := by
  have moves : ∃ after, flushStep state.shared call = some after := by
    rcases call with ⟨clientId, stage⟩
    cases stage with
    | countPositive posBefore _ =>
        simp only [flushStep]
        split <;> exact ⟨_, rfl⟩
    | countNegative _ negBefore =>
        simp only [flushStep]
        split <;> exact ⟨_, rfl⟩
    | returned | overflowed => cases running
    | readPositiveLen | readNegativeLen | flushPositive | flushNegative | flushInflight =>
        exact ⟨_, rfl⟩
  rcases moves with ⟨⟨shared, stage⟩, moved⟩
  simp only [step, found, moved, Option.some.injEq, exists_eq']

/-- A flush can always take its next step until it has ended.  Once it has, it
has reported what it removed exactly if the changes that others made to each
map between its two readings of the length cancel out. -/
theorem flush_reports_iff_balanced {clock : Instant} {history : List (Moment State Action)}
    {state : State} (run : Run (step inner) (State.initial clock) history state) {index : Nat}
    {clientId : Option String} {stage : FlushStage}
    (found : state.flushes[index]? = some ⟨clientId, stage⟩) :
    (stage.ended = false → ∃ next, step inner state (.advanceFlush index) = some next) ∧
    (stage.ended = true → (Reports inner history state index clientId ↔
      ∀ side, addedMeanwhile inner history index side =
        removedMeanwhile inner history index side)) := by
  have kept := kept_of_run run index
  have agree : ∀ side : Side, Agree inner history index side (side.content state).card
      (side.reading stage) := by
    intro side
    have now := kept.agree side
    rwa [Side.readingAt_of_found found] at now
  refine ⟨fun running => flush_proceeds found running, fun ended => ?_⟩
  constructor
  · rintro ⟨counts, _⟩ side
    rcases FlushCall.mk.inj (Option.some.inj (found.symm.trans counts)) with ⟨_, rfl⟩
    have closed := agree side
    cases side <;> simp only [Side.reading, Agree] at closed <;> omega
  · intro balanced
    refine ⟨?_, spares_others run found⟩
    cases stage with
    | returned posEvicted negEvicted =>
        have positive := agree .positive
        have negative := agree .negative
        simp only [Side.reading, Agree] at positive negative
        have evenPositive := balanced .positive
        have evenNegative := balanced .negative
        have tokens : posEvicted = removedByFlush inner history index .positive := by omega
        have failures : negEvicted = removedByFlush inner history index .negative := by omega
        rw [found, tokens, failures]
    | overflowed =>
        rcases kept.overflow clientId found with ⟨side, short⟩
        have even := balanced side
        rw [Short] at short
        omega
    | readPositiveLen | readNegativeLen | flushPositive | flushNegative | flushInflight
    | countPositive | countNegative => cases ended

/-- A token is stored after the flush has emptied the map and before it counts
again: one entry is left of none, and the difference cannot be formed. -/
theorem not_reports_of_late_store :
    ∃ history state, Run (step sampleInner) (State.initial 0) history state ∧
      state.flushes = [⟨none, .overflowed⟩] ∧ ¬ Reports sampleInner history state 0 none := by
  obtain ⟨history, state, run, ended⟩ := execute_observed (step sampleInner)
    (State.initial 0)
    [.exchange "c" "sec", .advance 0, .advance 0, .advance 0, .advance 0, .advance 0,
      .advance 0, .flush none, .advanceFlush 0, .advanceFlush 0, .advanceFlush 0,
      .advanceFlush 0, .advanceFlush 0, .answer 0 (sampleGrant "jwt" 300), .advance 0,
      .advanceFlush 0]
    (fun _ state => state.flushes) [⟨none, .overflowed⟩] (by decide +kernel)
  refine ⟨history, state, run, ended, fun reports => ?_⟩
  have counts := reports.counts
  rw [ended] at counts
  cases counts

/-- Between the two readings a call evicts the expired token and stores its
successor: the flush removes one entry and reports one. -/
theorem flush_reports_iff_balanced_of_renewal :
    ∃ history state, Run (step sampleInner) (State.initial 0) history state ∧
      state.flushes = [⟨some "c", .returned 1 0⟩] ∧
      addedMeanwhile sampleInner history 0 .positive = 1 ∧
      Reports sampleInner history state 0 (some "c") := by
  obtain ⟨history, state, run, observed⟩ := execute_observed (step sampleInner)
    (State.initial 0)
    [.exchange "c" "sec", .advance 0, .advance 0, .advance 0, .advance 0, .advance 0,
      .advance 0, .answer 0 (sampleGrant "old" 120), .advance 0, .advance 0, .advance 0, .advance 0,
      .advance 0, .tick 60000000000, .flush (some "c"), .advanceFlush 0, .advanceFlush 0,
      .exchange "c" "sec", .advance 1, .advance 1, .advance 1, .advance 1, .advance 1,
      .advance 1, .advance 1, .answer 1 (sampleGrant "new" 300), .advance 1, .advanceFlush 0,
      .advanceFlush 0, .advanceFlush 0, .advanceFlush 0, .advanceFlush 0]
    (fun history state => (state.flushes, addedMeanwhile sampleInner history 0 .positive,
      removedMeanwhile sampleInner history 0 .positive,
      addedMeanwhile sampleInner history 0 .negative,
      removedMeanwhile sampleInner history 0 .negative))
    ([⟨some "c", .returned 1 0⟩], 1, 1, 0, 0) (by decide +kernel)
  rcases Prod.mk.inj observed with ⟨flushes, rest⟩
  rcases Prod.mk.inj rest with ⟨addedTokens, rest⟩
  rcases Prod.mk.inj rest with ⟨removedTokens, rest⟩
  rcases Prod.mk.inj rest with ⟨addedFailures, removedFailures⟩
  have found : state.flushes[0]? = some ⟨some "c", .returned 1 0⟩ := by rw [flushes]; rfl
  refine ⟨history, state, run, flushes, addedTokens,
    ((flush_reports_iff_balanced run found).2 rfl).mpr ?_⟩
  intro side
  cases side with
  | positive => rw [addedTokens, removedTokens]
  | negative => rw [addedFailures, removedFailures]

end Exchange
end OidcRs
