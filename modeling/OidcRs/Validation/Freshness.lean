import OidcRs.Validation.RefreshSchedule

namespace OidcRs
namespace Validation

open Foundation

/-!
# How old the key set in force is

The loop waits for each of its fetches, so only a `refresh_jwks` can be overtaken
or overtake.  As long as nobody calls it, the cell holds the key set of the
successful fetch that was begun last.  And while the loop waits for a tick that
is not due, the last fetch of the loop, if it succeeded, was begun less than one
interval ago.
-/

variable {library : TickerLibrary} {Keys : Type} {period : Duration}

/-- Nobody has called `refresh_jwks`. -/
def Unforced (history : List (Moment (LoopState library Keys) (LoopAction Keys))) : Prop :=
  ∀ moment ∈ history, moment.2 ≠ .fetch .refresh

/-- Of the fetches that have written this one was begun last. -/
structure NewestStored (keys : KeyState Keys) (index : Nat) (fresh : Keys) : Prop where
  stored : ∃ origin, keys.fetches[index]? = some ⟨origin, .stored fresh⟩
  newest : ∀ (later : Nat) origin others, keys.fetches[later]? = some ⟨origin, .stored others⟩ →
    later ≤ index

/-! ## One fetch at a time -/

/-- A fetch that is under way moves on, and the cell with it if it writes. -/
structure MovesOn (keys next : KeyState Keys) (index : Nat) (fetch : Fetch Keys)
    (stage : FetchStage Keys) : Prop where
  found : keys.fetches[index]? = some fetch
  outstanding : fetch.stage.outstanding = true
  replaced : next.fetches = keys.fetches.set index ⟨fetch.origin, stage⟩
  cell : next.jwks = keys.jwks ∧ (∀ fresh, stage ≠ .stored fresh) ∨
    ∃ fresh, stage = .stored fresh ∧ next.jwks = some fresh

theorem moves_on {keys next : KeyState Keys} {action : KeyAction Keys} (unforced : action ≠ .refresh)
    (others : action ≠ .tick) (taken : keyStep keys action = some next) :
    ∃ index fetch stage, MovesOn keys next index fetch stage := by
  cases keyStep_spec taken with
  | refresh => exact absurd rfl unforced
  | tick => exact absurd rfl others
  | @answer index origin reply found =>
      exact ⟨index, _, _, found, rfl, rfl, Or.inl ⟨rfl, answeredStage_ne_stored reply⟩⟩
  | @store index origin fresh found =>
      exact ⟨index, _, _, found, rfl, rfl, Or.inr ⟨fresh, rfl, rfl⟩⟩
  | @abandon index stage found outstanding =>
      exact ⟨index, _, _, found, outstanding, rfl, Or.inl ⟨rfl, by simp⟩⟩

/-- Only the fetch begun last can be under way, and the cell holds what the newest
of the others has written. -/
structure InTurn (keys : KeyState Keys) : Prop where
  own : ∀ (index : Nat) fetch, keys.fetches[index]? = some fetch →
    index = 0 ∨ fetch.origin = .background
  ended : ∀ (index : Nat) fetch, keys.fetches[index]? = some fetch →
    index + 1 < keys.fetches.length → fetch.stage.outstanding = false
  stored : ∀ (index : Nat) origin fresh, keys.fetches[index]? = some ⟨origin, .stored fresh⟩ →
    keys.jwks ≠ none
  cell : ∀ fresh, keys.jwks = some fresh → ∃ index, NewestStored keys index fresh

namespace InTurn

variable {keys next : KeyState Keys}

theorem initial : InTurn (KeyState.initial : KeyState Keys) where
  own := by
    intro index fetch found
    cases index <;> cases found
    exact Or.inl rfl
  ended := by
    intro index fetch found earlier
    cases index <;> cases found
    exact absurd earlier (Nat.lt_irrefl 1)
  stored := by
    intro index origin fresh found
    cases index <;> cases found
  cell := fun _ held => by cases held

/-- Everything that has written has done so before the fetch begun last. -/
theorem movesOn (inTurn : InTurn keys) {index : Nat} {fetch : Fetch Keys}
    {stage : FetchStage Keys} (moves : MovesOn keys next index fetch stage) : InTurn next := by
  have last : keys.fetches.length ≤ index + 1 := by
    by_contra earlier
    have finished := inTurn.ended index fetch moves.found (Nat.lt_of_not_le earlier)
    rw [moves.outstanding] at finished
    cases finished
  have origin {other : Nat} {there : Fetch Keys} (found : next.fetches[other]? = some there) :
      other = index ∧ there = ⟨fetch.origin, stage⟩ ∨
        keys.fetches[other]? = some there := by
    rw [moves.replaced] at found
    rcases Roll.of_replaced moves.found found with ⟨rfl, rfl⟩ | ⟨_, before⟩
    · exact Or.inl ⟨rfl, rfl⟩
    · exact Or.inr before
  have length : next.fetches.length = keys.fetches.length := by
    rw [moves.replaced, List.length_set]
  constructor
  · intro other there found
    rcases origin found with ⟨rfl, rfl⟩ | before
    · exact inTurn.own other fetch moves.found
    · exact inTurn.own other there before
  · intro other there found earlier
    rw [length] at earlier
    rcases origin found with ⟨rfl, _⟩ | before
    · exact absurd earlier (Nat.not_lt_of_le last)
    · exact inTurn.ended other there before earlier
  · intro other otherOrigin fresh found
    rcases moves.cell with ⟨same, unstored⟩ | ⟨written, _, now⟩
    · rcases origin found with ⟨_, changed⟩ | before
      · exact absurd (Fetch.mk.inj changed).2.symm (unstored fresh)
      · rw [same]
        exact inTurn.stored other otherOrigin fresh before
    · rw [now]
      exact Option.some_ne_none written
  · intro fresh held
    rcases moves.cell with ⟨same, unstored⟩ | ⟨written, wrote, now⟩
    · rw [same] at held
      rcases inTurn.cell fresh held with ⟨newest, ⟨newestOrigin, there⟩, others⟩
      refine ⟨newest, ⟨newestOrigin, ?_⟩, ?_⟩
      · by_cases moved : index = newest
        · subst moved
          rcases Option.some.inj (moves.found.symm.trans there) with rfl
          cases moves.outstanding
        · rw [moves.replaced]
          exact (List.getElem?_set_ne moved).trans there
      · intro later laterOrigin other found
        rcases origin found with ⟨_, changed⟩ | before
        · exact absurd (Fetch.mk.inj changed).2.symm (unstored other)
        · exact others later laterOrigin other before
    · obtain rfl : written = fresh := Option.some.inj (now.symm.trans held)
      subst wrote
      refine ⟨index, ⟨fetch.origin, ?_⟩, ?_⟩
      · rw [moves.replaced]
        exact Roll.replaced_self moves.found _
      · intro later laterOrigin other found
        have listed := (List.getElem?_eq_some_iff.mp found).1
        rw [length] at listed
        exact Nat.le_of_lt_succ (Nat.lt_of_lt_of_le listed last)

/-- Once all are over the loop may begin another. -/
theorem begin (inTurn : InTurn keys)
    (idle : ∀ (index : Nat) fetch, keys.fetches[index]? = some fetch →
      fetch.stage.outstanding = false) :
    InTurn { keys with fetches := keys.fetches ++ [⟨.background, .fetching⟩] } where
  own := by
    intro index fetch found
    rcases Roll.of_joined found with before | ⟨_, rfl⟩
    · exact inTurn.own index fetch before
    · exact Or.inr rfl
  ended := by
    intro index fetch found earlier
    rcases Roll.of_joined found with before | ⟨rfl, _⟩
    · exact idle index fetch before
    · simp at earlier
  stored := by
    intro index origin fresh found
    rcases Roll.of_joined found with before | ⟨_, changed⟩
    · exact inTurn.stored index origin fresh before
    · cases changed
  cell := by
    intro fresh held
    rcases inTurn.cell fresh held with ⟨newest, ⟨origin, there⟩, others⟩
    refine ⟨newest, ⟨origin, Roll.joined there _⟩, ?_⟩
    intro later laterOrigin other found
    rcases Roll.of_joined found with before | ⟨_, changed⟩
    · exact others later laterOrigin other before
    · cases changed

theorem step {state next : LoopState library Keys} {action : LoopAction Keys}
    (inTurn : InTurn state.keys) (orderly : Orderly state) (unforced : action ≠ .fetch .refresh)
    (taken : loopStep period state action = some next) : InTurn next.keys := by
  cases loopStep_spec taken with
  | @fetch action keys others moved =>
      rcases moves_on (fun same => unforced (congrArg LoopAction.fetch same)) others moved with
        ⟨index, fetch, stage, moves⟩
      exact inTurn.movesOn moves
  | @begin ticker after here ticked =>
      refine inTurn.begin fun index fetch found => ?_
      rcases inTurn.own index fetch found with rfl | background
      · rcases orderly.built (by simp [here]) with ⟨first, there, finished⟩
        rcases Option.some.inj (there.symm.trans found) with rfl
        exact finished
      · exact orderly.idle (by simp [here]) index fetch found background
  | start | panic | skip | settled | pass => exact inTurn

/-- If the fetch begun last has written, what it wrote is in force. -/
theorem held_of_last (inTurn : InTurn keys) {origin : FetchOrigin} {fresh : Keys}
    (last : keys.fetches.getLast? = some ⟨origin, .stored fresh⟩) : keys.jwks = some fresh := by
  rw [List.getLast?_eq_getElem?] at last
  rcases Option.ne_none_iff_exists'.mp (inTurn.stored _ origin fresh last) with ⟨held, now⟩
  rcases inTurn.cell held now with ⟨index, ⟨other, there⟩, newest⟩
  have notLater := newest _ origin fresh last
  have within := (List.getElem?_eq_some_iff.mp there).1
  obtain rfl : index = keys.fetches.length - 1 := by omega
  rw [now]
  rcases Option.some.inj (there.symm.trans last) with ⟨⟩
  rfl

end InTurn

theorem inTurn_of_run {clock : Instant}
    {history : List (Moment (LoopState library Keys) (LoopAction Keys))}
    {state : LoopState library Keys}
    (run : Run (loopStep period) (LoopState.initial clock) history state)
    (unforced : Unforced history) : InTurn state.keys := by
  refine run.history_invariant (fun history state => Unforced history → InTurn state.keys)
    (fun _ => InTurn.initial) ?_ unforced
  intro history state action next sofar before taken unforced
  have unforcedBefore : Unforced history := fun moment member =>
    unforced moment (List.mem_append_left _ member)
  have ownAction : action ≠ .fetch .refresh :=
    unforced (state, action) (List.mem_append_right _ (List.mem_singleton_self _))
  exact (before unforcedBefore).step (orderly_of_run sofar) ownAction taken

/-! ## Its age -/

/-- The ticker that the loop has in its hands between its ticks. -/
def LoopStage.ticker {Ticker : Type} : LoopStage Ticker → Option Ticker
  | waiting ticker | fetching ticker _ => some ticker
  | spawned | skipping _ | panicked => none

/-- The last fetch was begun in this moment, and the next is due within an interval
from then. -/
structure LastBegun (period : Duration) (beginner state : LoopState library Keys) : Prop where
  last : beginner.keys.fetches.length + 1 = state.keys.fetches.length
  due : ∀ ticker, state.stage.ticker = some ticker →
    library.deadline ticker ≤ beginner.clock + period.nanos

/-- The loop has begun no fetch, or began the last one in a moment of its past. -/
def RecentlyBegun (period : Duration)
    (history : List (Moment (LoopState library Keys) (LoopAction Keys)))
    (state : LoopState library Keys) : Prop :=
  state.keys.backgrounds = 0 ∨ ∃ before beginner,
    Passed history before (beginner, .advance) ∧ LastBegun period beginner state

section Age

variable {state next : LoopState library Keys} {action : LoopAction Keys} {clock : Instant}
  {history : List (Moment (LoopState library Keys) (LoopAction Keys))}

/-- What leaves the fetches and the ticker as they are leaves the last fetch the
last. -/
theorem RecentlyBegun.still (recently : RecentlyBegun period history state)
    (same : next.keys.fetches.length = state.keys.fetches.length)
    (count : next.keys.backgrounds = state.keys.backgrounds)
    (kept : next.stage.ticker = state.stage.ticker) :
    RecentlyBegun period (history ++ [(state, action)]) next := by
  rcases recently with none | ⟨before, beginner, passed, last, due⟩
  · exact Or.inl (count.trans none)
  · refine Or.inr ⟨before, beginner, passed.snoc, last.trans same.symm, fun ticker here => ?_⟩
    rw [kept] at here
    exact due ticker here

theorem RecentlyBegun.step (documented : library.Documented)
    (recently : RecentlyBegun period history state) (onSchedule : OnSchedule period history state)
    (unforced : action ≠ .fetch .refresh) (taken : loopStep period state action = some next)
    (small : state.clock + period.nanos < instantLimit) :
    RecentlyBegun period (history ++ [(state, action)]) next := by
  cases loopStep_spec taken with
  | @fetch action keys others moved =>
      rcases moves_on (fun same => unforced (congrArg LoopAction.fetch same)) others moved with
        ⟨index, fetch, stage, moves⟩
      have same : keys.fetches.length = state.keys.fetches.length := by
        rw [moves.replaced, List.length_set]
      exact recently.still same (fetch_change others moved).backgrounds rfl
  | start here | panic here => exact recently.still rfl rfl (by rw [here]; rfl)
  | skip here =>
      rcases onSchedule with ⟨spawned, _⟩ | ⟨_, _, _, _, timely⟩
      · rw [spawned] at here
        cases here
      · exact Or.inl (timely.skipping _ here).2
  | @begin ticker after here ticked =>
      rcases onSchedule with ⟨spawned, _⟩ | ⟨_, starter, _, _, timely⟩
      · rw [spawned] at here
        cases here
      · have scheduled := timely.waiting ticker here
        have due := documented.not_early scheduled ticked
        refine Or.inr ⟨history, state, Passed.last, by simp, ?_⟩
        rintro _ same
        rcases Option.some.inj same with rfl
        rw [(documented.ticked scheduled ticked small).deadline, Nat.add_mul, Nat.one_mul,
          ← Nat.add_assoc]
        exact Nat.add_le_add_right due _
  | settled here => exact recently.still rfl rfl (by rw [here]; rfl)
  | pass => exact recently.still rfl rfl rfl

theorem recentlyBegun_of_run (documented : library.Documented) (positive : period.nanos ≠ 0)
    (run : Run (loopStep period) (LoopState.initial clock) history state)
    (unforced : Unforced history) (small : state.clock + period.nanos < instantLimit) :
    RecentlyBegun period history state := by
  refine run.history_invariant (fun history state => Unforced history →
    state.clock + period.nanos < instantLimit → RecentlyBegun period history state)
    (fun _ _ => Or.inl rfl) ?_ unforced small
  intro history state action next sofar before taken unforced small
  have unforcedBefore : Unforced history := fun moment member =>
    unforced moment (List.mem_append_left _ member)
  have ownAction : action ≠ .fetch .refresh :=
    unforced (state, action) (List.mem_append_right _ (List.mem_singleton_self _))
  have earlier : state.clock + period.nanos < instantLimit :=
    Nat.lt_of_le_of_lt (Nat.add_le_add_right (loop_clock_le taken) _) small
  exact (before unforcedBefore earlier).step documented
    (onSchedule_of_run documented positive sofar earlier) ownAction taken earlier

end Age

/-- As long as nobody calls `refresh_jwks`, the cell holds the key set of the
successful fetch that was begun last, and is empty only if there is none.  And
while the loop waits for a tick that is not due, a last fetch of the loop that has
succeeded was begun less than one interval ago. -/
theorem newest_in_force {builder : AuthConfigBuilder} {config : EnabledConfig}
    (accepted : builder.build = .ok (.enabled config)) (documented : library.Documented)
    {clock : Instant} {history : List (Moment (LoopState library Keys) (LoopAction Keys))}
    {state : LoopState library Keys}
    (run : Run (loopStep config.jwksRefresh) (LoopState.initial clock) history state)
    (unforced : Unforced history)
    (small : state.clock + config.jwksRefresh.nanos < instantLimit) :
    (∀ (index : Nat) origin fresh, state.keys.fetches[index]? = some ⟨origin, .stored fresh⟩ →
      state.keys.jwks ≠ none) ∧
    (∀ fresh, state.keys.jwks = some fresh → ∃ index, NewestStored state.keys index fresh) ∧
    ∀ ticker fresh, state.stage = .waiting ticker → library.tick ticker state.clock = none →
      state.keys.fetches.getLast? = some ⟨.background, .stored fresh⟩ →
      state.keys.jwks = some fresh ∧ ∃ before beginner,
        Passed history before (beginner, .advance) ∧
        beginner.keys.fetches.length + 1 = state.keys.fetches.length ∧
        state.clock < beginner.clock + config.jwksRefresh.nanos := by
  have positive := (AuthConfigBuilder.build_eq_ok_iff.mp accepted).refreshes
  have inTurn := inTurn_of_run run unforced
  refine ⟨inTurn.stored, inTurn.cell, fun ticker fresh waits notDue succeeded =>
    ⟨inTurn.held_of_last succeeded, ?_⟩⟩
  rcases recentlyBegun_of_run documented positive run unforced small with
    none | ⟨before, beginner, passed, last, due⟩
  · exact absurd (decide_eq_true rfl)
      (List.countP_eq_zero.mp none _ (List.mem_of_getLast? succeeded))
  · have ahead : state.clock < library.deadline ticker := by
      refine Nat.lt_of_not_le fun past => ?_
      rw [← documented.due, notDue] at past
      cases past
    exact ⟨before, beginner, passed, last, Nat.lt_of_lt_of_le ahead (due ticker (by rw [waits]; rfl))⟩

/-! ## After a rotation -/

/-- The first background fetch finds a new key set. -/
def rotation : List (LoopAction (List PublishedKey)) :=
  [.fetch (.answer 0 (.ok rotatedOut)), .fetch (.store 0), .advance, .advance,
    .pass 300000000000, .advance, .fetch (.answer 1 (.ok [sampleKey])), .fetch (.store 1), .advance,
    .pass 100000000000]

theorem newest_in_force_of_rotation :
    ∃ state : LoopState sampleTicker (List PublishedKey),
      state.keys.jwks = some [sampleKey] ∧ ∃ index, NewestStored state.keys index [sampleKey] := by
  have accepted : sampleBuilder.build = .ok (.enabled sampleConfig) := by decide +kernel
  obtain ⟨history, state, run, observed⟩ := execute_observed (loopStep sampleConfig.jwksRefresh)
    (LoopState.initial 0 : LoopState sampleTicker (List PublishedKey)) rotation
    (fun history state => (state.keys.jwks, state.clock,
      history.all (fun moment => match moment.2 with
        | .fetch .refresh => false
        | _ => true)))
    (some [sampleKey], 400000000000, true) (by decide +kernel)
  rcases Prod.mk.inj observed with ⟨held, rest⟩
  rcases Prod.mk.inj rest with ⟨clock, spared⟩
  have unforced : Unforced history := by
    intro moment member forced
    have allowed := List.all_eq_true.mp spared moment member
    rw [forced] at allowed
    cases allowed
  have small : state.clock + sampleConfig.jwksRefresh.nanos < instantLimit := by
    rw [clock]
    decide +kernel
  exact ⟨state, held,
    (newest_in_force accepted sampleTicker_documented run unforced small).2.1 _ held⟩
end Validation
end OidcRs
