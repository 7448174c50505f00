import OidcRs.Configuration
import OidcRs.Validation.RefreshLoop

namespace OidcRs
namespace Validation

open Foundation

/-!
# The schedule of the background loop

The schedule of the ticker becomes one of the fetches.  Counted from where the
loop began to run, a fetch is never begun before its time.  A loop that was held
up, by a slow answer or by the scheduler, makes up for what it missed.  And no
answer stops it.
-/

variable {library : TickerLibrary} {Keys : Type} {period : Duration}

/-! ## Never ahead of time -/

/-- The fetches that the loop has begun. -/
def KeyState.backgrounds (keys : KeyState Keys) : Nat :=
  keys.fetches.countP (fun fetch => fetch.origin = .background)

theorem FetchChange.backgrounds {keys next : KeyState Keys}
    (change : FetchChange keys.fetches next.fetches) : next.backgrounds = keys.backgrounds :=
  change.background_count

theorem backgrounds_begun (keys : KeyState Keys) :
    KeyState.backgrounds { keys with fetches := keys.fetches ++ [⟨.background, .fetching⟩] } =
      keys.backgrounds + 1 := by
  simp [KeyState.backgrounds, List.countP_append]

/-- The loop has begun at `start`, and as many fetches as were due then have been
begun since. -/
structure Timely (period : Duration) (start : Instant) (state : LoopState library Keys) : Prop where
  running : state.stage ≠ .spawned ∧ state.stage ≠ .panicked
  skipping : ∀ ticker, state.stage = .skipping ticker →
    library.Scheduled start period 0 ticker ∧ state.keys.backgrounds = 0
  waiting : ∀ ticker, state.stage = .waiting ticker →
    library.Scheduled start period (state.keys.backgrounds + 1) ticker
  fetching : ∀ ticker index, state.stage = .fetching ticker index →
    library.Scheduled start period (state.keys.backgrounds + 1) ticker
  sofar : start + state.keys.backgrounds * period.nanos ≤ state.clock

/-- Nothing has been begun yet, or the loop keeps to its schedule from where it
began to run. -/
def OnSchedule (period : Duration)
    (history : List (Moment (LoopState library Keys) (LoopAction Keys)))
    (state : LoopState library Keys) : Prop :=
  state.stage = .spawned ∧ state.keys.backgrounds = 0 ∨
    ∃ before starter, Passed history before (starter, .advance) ∧ starter.stage = .spawned ∧
      Timely period starter.clock state

section Schedule

variable {state next : LoopState library Keys} {action : LoopAction Keys}
  (documented : library.Documented)

theorem loop_clock_le (taken : loopStep period state action = some next) :
    state.clock ≤ next.clock := by
  cases loopStep_spec taken with
  | pass => exact Nat.le_add_right _ _
  | fetch | start | panic | skip | begin | settled => exact Nat.le_refl _

include documented

theorem Timely.step {start : Instant} (timely : Timely period start state)
    (taken : loopStep period state action = some next)
    (small : state.clock + period.nanos < instantLimit) : Timely period start next := by
  cases loopStep_spec taken with
  | @fetch action keys others moved =>
      have same := (fetch_change others moved).backgrounds
      rcases timely with ⟨running, skipping, waiting, fetching, sofar⟩
      rw [← same] at skipping waiting fetching sofar
      exact ⟨running, skipping, waiting, fetching, sofar⟩
  | start here | panic here => exact absurd here timely.running.1
  | @skip ticker after here ticked =>
      rcases timely.skipping ticker here with ⟨scheduled, none⟩
      refine ⟨⟨by simp, by simp⟩, by simp, ?_, by simp, timely.sofar⟩
      rintro _ same
      rcases LoopStage.waiting.inj same with rfl
      simp only [none]
      exact documented.ticked scheduled ticked small
  | @begin ticker after here ticked =>
      have scheduled := timely.waiting ticker here
      have one := backgrounds_begun state.keys
      refine ⟨⟨by simp, by simp⟩, by simp, by simp, ?_, ?_⟩
      · rintro _ _ same
        rcases LoopStage.fetching.inj same with ⟨rfl, _⟩
        simp only [one]
        exact documented.ticked scheduled ticked small
      · simp only [one]
        exact documented.not_early scheduled ticked
  | @settled ticker index fetch here found finished =>
      refine ⟨⟨by simp, by simp⟩, by simp, ?_, by simp, timely.sofar⟩
      rintro _ same
      rcases LoopStage.waiting.inj same with rfl
      exact timely.fetching ticker index here
  | pass =>
      exact ⟨timely.running, timely.skipping, timely.waiting, timely.fetching,
        Nat.le_trans timely.sofar (Nat.le_add_right _ _)⟩

theorem OnSchedule.step {history : List (Moment (LoopState library Keys) (LoopAction Keys))}
    (positive : period.nanos ≠ 0) (onSchedule : OnSchedule period history state)
    (taken : loopStep period state action = some next)
    (small : state.clock + period.nanos < instantLimit) :
    OnSchedule period (history ++ [(state, action)]) next := by
  rcases onSchedule with ⟨spawned, none⟩ | ⟨before, starter, passed, began, timely⟩
  · cases loopStep_spec taken with
    | @fetch action keys others moved =>
        exact Or.inl ⟨spawned, (fetch_change others moved).backgrounds.trans none⟩
    | @start ticker here constructed made =>
        refine Or.inr ⟨history, state, Passed.last, spawned, ⟨by simp, by simp⟩, ?_, by simp,
          by simp, ?_⟩
        · rintro _ same
          rcases LoopStage.skipping.inj same with rfl
          exact ⟨documented.made made, none⟩
        · simp only [none, Nat.zero_mul, Nat.add_zero, Nat.le_refl]
    | panic here constructed made => exact absurd ((documented.panics _ _).mp made) positive
    | skip here | begin here | settled here =>
        rw [spawned] at here
        cases here
    | pass => exact Or.inl ⟨spawned, none⟩
  · exact Or.inr ⟨before, starter, passed.snoc, began, timely.step documented taken small⟩

theorem onSchedule_of_run {clock : Instant}
    {history : List (Moment (LoopState library Keys) (LoopAction Keys))}
    (positive : period.nanos ≠ 0)
    (run : Run (loopStep period) (LoopState.initial clock) history state)
    (small : state.clock + period.nanos < instantLimit) : OnSchedule period history state := by
  refine run.history_invariant
    (fun history state => state.clock + period.nanos < instantLimit → OnSchedule period history state)
    (fun _ => Or.inl ⟨rfl, rfl⟩) ?_ small
  intro history state action next _ before taken small
  have earlier : state.clock + period.nanos < instantLimit :=
    Nat.lt_of_le_of_lt (Nat.add_le_add_right (loop_clock_le taken) _) small
  exact (before earlier).step documented positive taken earlier

end Schedule

/-! ## The loop goes on -/

/-- Done by the loop, by the clock, or by the IdP, which gives this reply to the
fetch that the loop waits for. -/
def OfLoop (reply : Except String Keys)
    (moment : Moment (LoopState library Keys) (LoopAction Keys)) : Prop :=
  match moment.2 with
  | .advance | .pass _ => True
  | .fetch action => ∃ ticker index, moment.1.stage = .fetching ticker index ∧
      (action = .answer index reply ∨ action = .store index)

/-- The loop by itself comes to a state of this kind. -/
def Reaches (period : Duration) (reply : Except String Keys) (state : LoopState library Keys)
    (goal : LoopState library Keys → Prop) : Prop :=
  ∃ after last, Run (loopStep period) state after last ∧ (∀ moment ∈ after, OfLoop reply moment) ∧
    goal last

section Progress

variable {reply : Except String Keys} {state next : LoopState library Keys}
  {action : LoopAction Keys} {goal : LoopState library Keys → Prop}

theorem Reaches.here (holds : goal state) : Reaches period reply state goal :=
  ⟨[], state, Run.nil, fun _ listed => (List.not_mem_nil listed).elim, holds⟩

theorem Reaches.step (taken : loopStep period state action = some next)
    (own : OfLoop reply (state, action)) (rest : Reaches period reply next goal) :
    Reaches period reply state goal := by
  rcases rest with ⟨after, last, run, all, holds⟩
  refine ⟨(state, action) :: after, last, Run.cons taken run, ?_, holds⟩
  intro moment listed
  rcases List.mem_cons.mp listed with rfl | later
  · exact own
  · exact all moment later

theorem Reaches.trans {middle : LoopState library Keys → Prop}
    (first : Reaches period reply state middle)
    (second : ∀ state, middle state → Reaches period reply state goal) :
    Reaches period reply state goal := by
  rcases first with ⟨after, last, run, all, holds⟩
  rcases second last holds with ⟨more, end_, rest, allMore, reached⟩
  refine ⟨after ++ more, end_, run.append rest, ?_, reached⟩
  intro moment listed
  rcases List.mem_append.mp listed with earlier | later
  · exact all moment earlier
  · exact allMore moment later

/-- The loop waits again, at the same time and with no further fetch begun. -/
def WaitsAgain (state : LoopState library Keys) (ticker : library.Ticker)
    (last : LoopState library Keys) : Prop :=
  last.stage = .waiting ticker ∧ last.clock = state.clock ∧
    last.keys.backgrounds = state.keys.backgrounds

variable {ticker : library.Ticker} {index : Nat} {origin : FetchOrigin}

/-- The same with the fetch of the loop at another stage. -/
def LoopState.withFetch (state : LoopState library Keys) (index : Nat) (origin : FetchOrigin)
    (jwks : Option Keys) (stage : FetchStage Keys) : LoopState library Keys :=
  { state with keys := ⟨jwks, state.keys.fetches.set index ⟨origin, stage⟩⟩ }

theorem withFetch_found {earlier stage : FetchStage Keys} (jwks : Option Keys)
    (found : state.keys.fetches[index]? = some ⟨origin, earlier⟩) :
    (state.withFetch index origin jwks stage).keys.fetches[index]? = some ⟨origin, stage⟩ :=
  Roll.replaced_self found _

theorem waitsAgain_withFetch {earlier stage : FetchStage Keys} {jwks : Option Keys}
    {last : LoopState library Keys}
    (found : state.keys.fetches[index]? = some ⟨origin, earlier⟩)
    (again : WaitsAgain (state.withFetch index origin jwks stage) ticker last) :
    WaitsAgain state ticker last := by
  rcases again with ⟨waits, sameClock, sameCount⟩
  have kept : (state.withFetch index origin jwks stage).keys.backgrounds = state.keys.backgrounds :=
    Roll.countP_replaced found rfl
  exact ⟨waits, sameClock, sameCount.trans kept⟩

theorem reaches_of_over {stage : FetchStage Keys} (here : state.stage = .fetching ticker index)
    (found : state.keys.fetches[index]? = some ⟨origin, stage⟩)
    (finished : stage.outstanding = false) :
    Reaches period reply state (WaitsAgain state ticker) := by
  have taken : loopStep period state .advance = some { state with stage := .waiting ticker } := by
    simp only [loopStep, advanceLoop, here, found, finished, Bool.false_eq_true, if_false]
  exact .step taken trivial (.here ⟨rfl, rfl, rfl⟩)

theorem reaches_of_writing {fresh : Keys} (here : state.stage = .fetching ticker index)
    (found : state.keys.fetches[index]? = some ⟨origin, .writing fresh⟩) :
    Reaches period reply state (WaitsAgain state ticker) := by
  have taken : loopStep period state (.fetch (.store index)) =
      some (state.withFetch index origin (some fresh) (.stored fresh)) := by
    simp only [loopStep, keyStep, found]
    rfl
  refine .step taken ⟨ticker, index, here, Or.inr rfl⟩ ?_
  have stored : Reaches period reply (state.withFetch index origin (some fresh) (.stored fresh))
      (WaitsAgain (state.withFetch index origin (some fresh) (.stored fresh)) ticker) :=
    reaches_of_over here (withFetch_found _ found) rfl
  exact stored.trans fun last again => .here (waitsAgain_withFetch found again)

/-- However the fetch of the loop ends, the loop waits for a tick again. -/
theorem reaches_waiting (here : state.stage = .fetching ticker index)
    {stage : FetchStage Keys} (found : state.keys.fetches[index]? = some ⟨origin, stage⟩) :
    Reaches period reply state (WaitsAgain state ticker) := by
  cases stage with
  | stored | failed | abandoned => exact reaches_of_over here found rfl
  | writing fresh => exact reaches_of_writing here found
  | fetching =>
      have taken : loopStep period state (.fetch (.answer index reply)) =
          some (state.withFetch index origin state.keys.jwks (answeredStage reply)) := by
        simp only [loopStep, keyStep, found]
        rfl
      refine .step taken ⟨ticker, index, here, Or.inl rfl⟩ ?_
      have answered : (state.withFetch index origin state.keys.jwks
          (answeredStage reply)).keys.fetches[index]? = some ⟨origin, answeredStage reply⟩ :=
        withFetch_found state.keys.jwks found
      have waits : Reaches period reply
          (state.withFetch index origin state.keys.jwks (answeredStage reply))
          (WaitsAgain (state.withFetch index origin state.keys.jwks (answeredStage reply)) ticker) := by
        cases reply with
        | ok fresh => exact reaches_of_writing here answered
        | error detail => exact reaches_of_over here answered rfl
      exact waits.trans fun last again => .here (waitsAgain_withFetch found again)

/-- Another fetch of the loop has been begun. -/
def BeginsAnother (count : Nat) (last : LoopState library Keys) : Prop :=
  last.keys.backgrounds = count + 1

variable (documented : library.Documented) {start : Instant} {count : Nat}

include documented

/-- A loop that waits begins a fetch when the time has come. -/
theorem reaches_fetch (waits : state.stage = .waiting ticker)
    (scheduled : library.Scheduled start period count ticker) :
    Reaches period reply state (BeginsAnother state.keys.backgrounds) := by
  obtain ⟨elapsed, due⟩ : ∃ elapsed, start + count * period.nanos ≤ state.clock + elapsed :=
    ⟨_, Nat.le_add_left _ _⟩
  rcases documented.exists_tick scheduled due with ⟨after, ticked⟩
  have pass : loopStep period state (.pass elapsed) =
      some { state with clock := state.clock + elapsed } := rfl
  have begins : loopStep period { state with clock := state.clock + elapsed } .advance = some
      { keys := { state.keys with fetches := state.keys.fetches ++ [⟨.background, .fetching⟩] }
        stage := .fetching after state.keys.fetches.length
        clock := state.clock + elapsed } := by
    simp only [loopStep, advanceLoop, waits, ticked]
  exact .step pass trivial (.step begins trivial (.here (backgrounds_begun state.keys)))

theorem reaches_of_skipping (skips : state.stage = .skipping ticker)
    (scheduled : library.Scheduled start period 0 ticker) (sofar : start ≤ state.clock)
    (small : state.clock + period.nanos < instantLimit) :
    Reaches period reply state (BeginsAnother state.keys.backgrounds) := by
  have due : start + 0 * period.nanos ≤ state.clock := by
    rwa [Nat.zero_mul, Nat.add_zero]
  rcases documented.exists_tick scheduled due with ⟨after, ticked⟩
  have taken : loopStep period state .advance = some { state with stage := .waiting after } := by
    simp only [loopStep, advanceLoop, skips, ticked]
  exact .step taken trivial
    (reaches_fetch documented rfl (documented.ticked scheduled ticked small))

/-- From everywhere after `Validator::new` the loop comes to its next fetch. -/
theorem reaches_next_fetch {history : List (Moment (LoopState library Keys) (LoopAction Keys))}
    (positive : period.nanos ≠ 0) (orderly : Orderly state)
    (onSchedule : OnSchedule period history state)
    (constructed : state.keys.constructed = true)
    (small : state.clock + period.nanos < instantLimit) :
    Reaches period reply state (BeginsAnother state.keys.backgrounds) := by
  rcases onSchedule with ⟨spawned, _⟩ | ⟨_, starter, _, _, timely⟩
  · rcases documented.exists_made positive state.clock with ⟨ticker, made⟩
    have taken : loopStep period state .advance = some { state with stage := .skipping ticker } := by
      simp only [loopStep, advanceLoop, spawned, constructed, made, if_true]
    exact .step taken trivial
      (reaches_of_skipping documented rfl (documented.made made) (Nat.le_refl _) small)
  · rcases state with ⟨keys, stage, clock⟩
    cases stage with
    | spawned => exact absurd rfl timely.running.1
    | panicked => exact absurd rfl timely.running.2
    | skipping ticker =>
        rcases timely.skipping ticker rfl with ⟨scheduled, none⟩
        have begun : starter.clock ≤ clock := Nat.le_trans (Nat.le_add_right _ _) timely.sofar
        exact reaches_of_skipping documented rfl scheduled begun small
    | waiting ticker => exact reaches_fetch documented rfl (timely.waiting ticker rfl)
    | fetching ticker index =>
        rcases orderly.own ticker index rfl with ⟨fetch, found, _⟩
        refine (reaches_waiting rfl found).trans ?_
        rintro last ⟨waits, _, same⟩
        have another : Reaches period reply last (BeginsAnother last.keys.backgrounds) :=
          reaches_fetch documented waits (timely.fetching ticker index rfl)
        rwa [same] at another

end Progress

/-- With a configuration that the builder accepts the loop never panics.  From
where it began to run, it has begun no more fetches than full intervals have
passed, and when it waits for a tick that is not due, no fewer.  And it goes on
for ever, also when every fetch fails. -/
theorem background_fetches_keep_time {builder : AuthConfigBuilder} {config : EnabledConfig}
    (accepted : builder.build = .ok (.enabled config)) (documented : library.Documented)
    {clock : Instant} {history : List (Moment (LoopState library Keys) (LoopAction Keys))}
    {state : LoopState library Keys}
    (run : Run (loopStep config.jwksRefresh) (LoopState.initial clock) history state)
    (small : state.clock + config.jwksRefresh.nanos < instantLimit) :
    state.stage ≠ .panicked ∧
    (state.stage = .spawned ∧ state.keys.backgrounds = 0 ∨
      ∃ before starter, Passed history before (starter, .advance) ∧ starter.stage = .spawned ∧
        starter.clock + state.keys.backgrounds * config.jwksRefresh.nanos ≤ state.clock ∧
        ∀ ticker, state.stage = .waiting ticker → library.tick ticker state.clock = none →
          state.clock <
            starter.clock + (state.keys.backgrounds + 1) * config.jwksRefresh.nanos) ∧
    (state.keys.constructed = true → ∀ reply, Reaches config.jwksRefresh reply state
      fun last => last.keys.backgrounds = state.keys.backgrounds + 1) := by
  have positive := (AuthConfigBuilder.build_eq_ok_iff.mp accepted).refreshes
  have onSchedule := onSchedule_of_run documented positive run small
  refine ⟨?_, ?_, fun constructed reply =>
    reaches_next_fetch documented positive (orderly_of_run run) onSchedule constructed small⟩
  · rcases onSchedule with ⟨spawned, _⟩ | ⟨_, _, _, _, timely⟩
    · simp [spawned]
    · exact timely.running.2
  · rcases onSchedule with nothing | ⟨before, starter, passed, began, timely⟩
    · exact Or.inl nothing
    · exact Or.inr ⟨before, starter, passed, began, timely.sofar, fun ticker waits notDue =>
        documented.not_late (timely.waiting ticker waits) notDue⟩

/-! ## After an outage -/

def sampleBuilder : AuthConfigBuilder :=
  (AuthConfig.builder.withIssuer "https://idp").withAudiences ["api"]

def sampleConfig : EnabledConfig :=
  ⟨"https://idp", ["api"], none, none, Duration.fromSecs 3600, Duration.fromSecs 300⟩

theorem background_fetches_keep_time_of_outage :
    ∃ state : LoopState sampleTicker (List PublishedKey), state.clock = 1000000000000 ∧
      state.keys.backgrounds = 3 ∧ state.stage ≠ .panicked ∧
      Reaches sampleConfig.jwksRefresh (.error "timed out") state
        fun last => last.keys.backgrounds = 4 := by
  rcases outage_run with ⟨history, state, run, observed⟩
  rcases Prod.mk.inj observed with ⟨keys, sinceStart⟩
  have begun : state.keys.backgrounds = 3 := by rw [keys]; rfl
  have constructed : state.keys.constructed = true := by rw [keys]; rfl
  have accepted : sampleBuilder.build = .ok (.enabled sampleConfig) := by decide
  have small : state.clock + sampleConfig.jwksRefresh.nanos < instantLimit := by
    rw [sinceStart]
    decide +kernel
  rcases background_fetches_keep_time accepted sampleTicker_documented run small with
    ⟨unharmed, _, goesOn⟩
  have next := goesOn constructed (.error "timed out")
  rw [begun] at next
  exact ⟨state, sinceStart, begun, unharmed, next⟩

end Validation
end OidcRs
