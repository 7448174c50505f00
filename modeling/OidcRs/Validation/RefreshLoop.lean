import OidcRs.Foundation.Simulation
import OidcRs.Foundation.Ticker
import OidcRs.Validation.Refresh

namespace OidcRs
namespace Validation

open Foundation

/-!
# The background loop

`refresh_loop` step by step.  It makes its ticker, skips the tick that is due at
once, and from then on waits for a tick, fetches, writes what was fetched and
waits again.  It begins a fetch whenever its code gets there, so that nothing
here says that fetches of the loop do not overlap or that there is none before
`Validator::new` has returned.  Both are proved: every run of the loop is one of
the fetches.
-/

/-- Where the background task is. -/
inductive LoopStage (Ticker : Type)
  /-- spawned by `Validator::new` when it returns -/
  | spawned
  /-- waits for the tick that it skips -/
  | skipping (ticker : Ticker)
  | waiting (ticker : Ticker)
  /-- has begun this fetch -/
  | fetching (ticker : Ticker) (index : Nat)
  | panicked

structure LoopState (library : TickerLibrary) (Keys : Type) where
  keys : KeyState Keys
  stage : LoopStage library.Ticker
  clock : Instant

variable {library : TickerLibrary} {Keys : Type}

/-- `Validator::new` has begun its fetch. -/
def LoopState.initial (clock : Instant) : LoopState library Keys := ⟨.initial, .spawned, clock⟩

inductive LoopAction (Keys : Type)
  /-- a fetch that is under way goes on, or `refresh_jwks` is called -/
  | fetch (action : KeyAction Keys)
  /-- the loop takes its next step -/
  | advance
  | pass (elapsed : Nat)

/-- The loop's own next step.  `none` while it waits. -/
def advanceLoop (period : Duration) (state : LoopState library Keys) :
    Option (LoopState library Keys) :=
  match state.stage with
  | .spawned =>
      if state.keys.constructed then
        match library.interval state.clock period with
        | some ticker => some { state with stage := .skipping ticker }
        | none => some { state with stage := .panicked }
      else none
  | .skipping ticker =>
      match library.tick ticker state.clock with
      | some after => some { state with stage := .waiting after }
      | none => none
  | .waiting ticker =>
      match library.tick ticker state.clock with
      | some after => some
          { keys := { state.keys with fetches := state.keys.fetches ++ [⟨.background, .fetching⟩] }
            stage := .fetching after state.keys.fetches.length
            clock := state.clock }
      | none => none
  | .fetching ticker index =>
      match state.keys.fetches[index]? with
      | some fetch =>
          if fetch.stage.outstanding then none else some { state with stage := .waiting ticker }
      | none => none
  | .panicked => none

def loopStep (period : Duration) (state : LoopState library Keys) :
    LoopAction Keys → Option (LoopState library Keys)
  -- a background fetch is begun by the loop only
  | .fetch .tick => none
  | .fetch action =>
      match keyStep state.keys action with
      | some keys => some { state with keys := keys }
      | none => none
  | .advance => advanceLoop period state
  | .pass elapsed => some { state with clock := state.clock + elapsed }

/-! ## One step -/

variable {period : Duration}

inductive LoopSpec (period : Duration) (state : LoopState library Keys) :
    LoopAction Keys → LoopState library Keys → Prop
  | fetch {action : KeyAction Keys} {keys : KeyState Keys} (others : action ≠ .tick)
      (taken : keyStep state.keys action = some keys) :
      LoopSpec period state (.fetch action) { state with keys := keys }
  | start {ticker : library.Ticker} (here : state.stage = .spawned)
      (constructed : state.keys.constructed = true)
      (made : library.interval state.clock period = some ticker) :
      LoopSpec period state .advance { state with stage := .skipping ticker }
  | panic (here : state.stage = .spawned) (constructed : state.keys.constructed = true)
      (made : library.interval state.clock period = none) :
      LoopSpec period state .advance { state with stage := .panicked }
  | skip {ticker after : library.Ticker} (here : state.stage = .skipping ticker)
      (ticked : library.tick ticker state.clock = some after) :
      LoopSpec period state .advance { state with stage := .waiting after }
  | begin {ticker after : library.Ticker} (here : state.stage = .waiting ticker)
      (ticked : library.tick ticker state.clock = some after) :
      LoopSpec period state .advance
        { keys := { state.keys with fetches := state.keys.fetches ++ [⟨.background, .fetching⟩] }
          stage := .fetching after state.keys.fetches.length
          clock := state.clock }
  | settled {ticker : library.Ticker} {index : Nat} {fetch : Fetch Keys}
      (here : state.stage = .fetching ticker index)
      (found : state.keys.fetches[index]? = some fetch)
      (finished : fetch.stage.outstanding = false) :
      LoopSpec period state .advance { state with stage := .waiting ticker }
  | pass {elapsed : Nat} :
      LoopSpec period state (.pass elapsed) { state with clock := state.clock + elapsed }

theorem advanceLoop_spec {state next : LoopState library Keys}
    (taken : advanceLoop period state = some next) : LoopSpec period state .advance next := by
  rcases state with ⟨keys, stage, clock⟩
  cases stage <;> simp only [advanceLoop, reduceCtorEq] at taken
  case spawned =>
    split at taken
    · next constructed =>
        split at taken <;> obtain rfl := Option.some.inj taken
        · next ticker made => exact .start rfl constructed made
        · next made => exact .panic rfl constructed made
    · cases taken
  case skipping ticker =>
    split at taken
    · next after ticked =>
        rcases Option.some.inj taken with rfl
        exact .skip rfl ticked
    · cases taken
  case waiting ticker =>
    split at taken
    · next after ticked =>
        rcases Option.some.inj taken with rfl
        exact .begin rfl ticked
    · cases taken
  case fetching ticker index =>
    split at taken
    · next fetch found =>
        split at taken
        · cases taken
        · next finished =>
            rcases Option.some.inj taken with rfl
            exact .settled rfl found (Bool.eq_false_iff.mpr finished)
    · cases taken

theorem loopStep_spec {state next : LoopState library Keys} {action : LoopAction Keys}
    (taken : loopStep period state action = some next) : LoopSpec period state action next := by
  cases action with
  | advance => exact advanceLoop_spec taken
  | pass elapsed =>
      cases taken
      exact .pass
  | fetch action =>
      by_cases others : action = .tick
      · subst others
        cases taken
      · have moved : ∃ keys, keyStep state.keys action = some keys ∧
            some { state with keys := keys } = some next := by
          cases action with
          | tick => exact absurd rfl others
          | refresh | answer | store | abandon =>
              simp only [loopStep] at taken
              split at taken
              · next keys moved => exact ⟨keys, moved, taken⟩
              · cases taken
        rcases moved with ⟨keys, moved, same⟩
        rcases Option.some.inj same with rfl
        exact .fetch others moved

/-! ## The loop takes turns -/

/-- Apart from the loop, a refresh is begun or a fetch that is under way goes on. -/
inductive FetchChange (before after : List (Fetch Keys)) : Prop
  | refresh (joined : after = before ++ [⟨.refresh, .fetching⟩])
  | goesOn {index : Nat} {fetch : Fetch Keys} {stage : FetchStage Keys}
      (found : before[index]? = some fetch) (outstanding : fetch.stage.outstanding = true)
      (replaced : after = before.set index ⟨fetch.origin, stage⟩)

theorem fetch_change {keys next : KeyState Keys} {action : KeyAction Keys}
    (others : action ≠ .tick) (taken : keyStep keys action = some next) :
    FetchChange keys.fetches next.fetches := by
  cases keyStep_spec taken with
  | tick => exact absurd rfl others
  | refresh => exact .refresh rfl
  | answer found | store found => exact .goesOn found rfl rfl
  | abandon found outstanding => exact .goesOn found outstanding rfl

namespace FetchChange

variable {before after : List (Fetch Keys)} {index : Nat} {fetch : Fetch Keys}

/-- A background fetch that is under way was so before. -/
theorem background_before (change : FetchChange before after) (found : after[index]? = some fetch)
    (background : fetch.origin = .background) (outstanding : fetch.stage.outstanding = true) :
    ∃ earlier, before[index]? = some earlier ∧ earlier.origin = .background ∧
      earlier.stage.outstanding = true := by
  cases change with
  | refresh joined =>
      subst joined
      rcases Roll.of_joined found with earlier | ⟨_, rfl⟩
      · exact ⟨fetch, earlier, background, outstanding⟩
      · cases background
  | @goesOn moved old stage here was replaced =>
      subst replaced
      rcases Roll.of_replaced here found with ⟨rfl, rfl⟩ | ⟨_, earlier⟩
      · exact ⟨old, here, background, was⟩
      · exact ⟨fetch, earlier, background, outstanding⟩

/-- A fetch keeps its place and its origin. -/
theorem origin_kept (change : FetchChange before after) (found : before[index]? = some fetch) :
    ∃ later, after[index]? = some later ∧ later.origin = fetch.origin := by
  cases change with
  | refresh joined =>
      subst joined
      exact ⟨fetch, Roll.joined found _, rfl⟩
  | @goesOn moved old stage here was replaced =>
      subst replaced
      by_cases same : moved = index
      · subst same
        rcases Option.some.inj (here.symm.trans found) with rfl
        exact ⟨_, Roll.replaced_self here _, rfl⟩
      · exact ⟨fetch, (List.getElem?_set_ne same).trans found, rfl⟩

/-- No background fetch is begun or lost. -/
theorem background_count (change : FetchChange before after) :
    after.countP (fun fetch => fetch.origin = .background) =
      before.countP (fun fetch => fetch.origin = .background) := by
  cases change with
  | refresh joined =>
      subst joined
      simp [List.countP_append]
  | goesOn here _ replaced =>
      subst replaced
      exact Roll.countP_replaced here rfl

/-- A fetch that is over stays over. -/
theorem over_kept (change : FetchChange before after) (found : before[index]? = some fetch)
    (finished : fetch.stage.outstanding = false) : after[index]? = some fetch := by
  cases change with
  | refresh joined =>
      subst joined
      exact Roll.joined found _
  | @goesOn moved old stage here was replaced =>
      subst replaced
      by_cases same : moved = index
      · subst same
        rcases Option.some.inj (here.symm.trans found) with rfl
        rw [finished] at was
        cases was
      · exact (List.getElem?_set_ne same).trans found

end FetchChange

/-- The loop waits for the fetch it has begun, and begins none before
`Validator::new` has returned. -/
structure Orderly (state : LoopState library Keys) : Prop where
  first : ∃ fetch, state.keys.fetches[0]? = some fetch ∧
    (state.stage = .spawned ∨ fetch.stage.outstanding = false)
  awaited : ∀ (index : Nat) fetch, state.keys.fetches[index]? = some fetch →
    fetch.origin = .background → fetch.stage.outstanding = true →
    ∃ ticker, state.stage = .fetching ticker index
  own : ∀ ticker index, state.stage = .fetching ticker index →
    ∃ fetch, state.keys.fetches[index]? = some fetch ∧ fetch.origin = .background

namespace Orderly

variable {state next : LoopState library Keys} {action : LoopAction Keys}

theorem initial (clock : Instant) : Orderly (LoopState.initial clock : LoopState library Keys) where
  first := ⟨_, rfl, Or.inl rfl⟩
  awaited := by
    intro index fetch found background
    cases index with
    | zero =>
        cases found
        cases background
    | succ index => cases found
  own := fun _ _ fetching => by cases fetching

/-- Past the first step of the loop `Validator::new` has returned. -/
theorem constructed (orderly : Orderly state) (past : state.stage ≠ .spawned) :
    state.keys.constructed = true := by
  rcases orderly.first with ⟨fetch, found, unspawned | finished⟩
  · exact absurd unspawned past
  · rw [KeyState.constructed, List.head?_eq_getElem?, found, Option.all_some, finished]
    rfl

/-- While the loop waits for a tick, none of its fetches is under way. -/
theorem loopWaits (orderly : Orderly state) {ticker : library.Ticker}
    (waiting : state.stage = .waiting ticker) : state.keys.loopWaits = true := by
  rw [KeyState.loopWaits, List.all_eq_true]
  intro fetch listed
  rcases List.mem_iff_getElem?.mp listed with ⟨index, found⟩
  by_contra outstanding
  simp only [ne_eq, Bool.or_eq_true, decide_eq_true_eq, Bool.not_eq_true', not_or, not_not,
    Bool.not_eq_false] at outstanding
  rcases orderly.awaited index fetch found outstanding.1 outstanding.2 with ⟨other, fetching⟩
  rw [waiting] at fetching
  cases fetching

/-- At a stage other than fetching it is enough that no fetch is under way. -/
theorem of_idle {stage : LoopStage library.Ticker}
    (built : ∃ fetch, state.keys.fetches[0]? = some fetch ∧ fetch.stage.outstanding = false)
    (idle : ∀ (index : Nat) fetch, state.keys.fetches[index]? = some fetch →
      fetch.origin = .background → fetch.stage.outstanding = false)
    (elsewhere : ∀ ticker index, stage ≠ .fetching ticker index) :
    Orderly { state with stage := stage } where
  first := by
    rcases built with ⟨fetch, found, finished⟩
    exact ⟨fetch, found, Or.inr finished⟩
  awaited := by
    intro index fetch found background outstanding
    rw [idle index fetch found background] at outstanding
    cases outstanding
  own := fun ticker index fetching => absurd fetching (elsewhere ticker index)

theorem built (orderly : Orderly state) (past : state.stage ≠ .spawned) :
    ∃ fetch, state.keys.fetches[0]? = some fetch ∧ fetch.stage.outstanding = false := by
  rcases orderly.first with ⟨fetch, found, unspawned | finished⟩
  · exact absurd unspawned past
  · exact ⟨fetch, found, finished⟩

theorem over_of_constructed (orderly : Orderly state) (constructed : state.keys.constructed = true) :
    ∃ fetch, state.keys.fetches[0]? = some fetch ∧ fetch.stage.outstanding = false := by
  rcases orderly.first with ⟨fetch, found, _⟩
  rw [KeyState.constructed, List.head?_eq_getElem?, found, Option.all_some] at constructed
  exact ⟨fetch, found, by simpa using constructed⟩

/-- No fetch of the loop is under way but the one it waits for. -/
theorem idle (orderly : Orderly state) (elsewhere : ∀ ticker index, state.stage ≠ .fetching ticker index)
    (index : Nat) (fetch : Fetch Keys) (found : state.keys.fetches[index]? = some fetch)
    (background : fetch.origin = .background) : fetch.stage.outstanding = false := by
  by_contra outstanding
  rcases orderly.awaited index fetch found background (by simpa using outstanding) with
    ⟨ticker, fetching⟩
  exact elsewhere ticker index fetching

theorem step (orderly : Orderly state) (taken : loopStep period state action = some next) :
    Orderly next := by
  cases loopStep_spec taken with
  | @fetch action keys others moved =>
      have change := fetch_change others moved
      constructor
      · rcases orderly.first with ⟨fetch, found, unspawned | finished⟩
        · rcases change.origin_kept found with ⟨later, here, _⟩
          exact ⟨later, here, Or.inl unspawned⟩
        · exact ⟨fetch, change.over_kept found finished, Or.inr finished⟩
      · intro index fetch found background outstanding
        rcases change.background_before found background outstanding with
          ⟨earlier, here, was, under⟩
        exact orderly.awaited index earlier here was under
      · intro ticker index fetching
        rcases orderly.own ticker index fetching with ⟨fetch, found, background⟩
        rcases change.origin_kept found with ⟨later, here, same⟩
        exact ⟨later, here, same.trans background⟩
  | start here constructed | panic here constructed =>
      exact of_idle (orderly.over_of_constructed constructed) (orderly.idle (by simp [here]))
        (by simp)
  | skip here =>
      exact of_idle (orderly.built (by simp [here])) (orderly.idle (by simp [here])) (by simp)
  | @begin ticker after here ticked =>
      have idle := orderly.idle (by simp [here])
      rcases orderly.built (by simp [here]) with ⟨first, there, finished⟩
      constructor
      · exact ⟨first, Roll.joined there _, Or.inr finished⟩
      · intro index fetch found background outstanding
        rcases Roll.of_joined found with earlier | ⟨rfl, rfl⟩
        · rw [idle index fetch earlier background] at outstanding
          cases outstanding
        · exact ⟨after, rfl⟩
      · rintro _ _ same
        rcases LoopStage.fetching.inj same with ⟨_, rfl⟩
        exact ⟨_, List.getElem?_concat_length, rfl⟩
  | @settled ticker index fetch here found finished =>
      refine of_idle (orderly.built (by simp [here])) ?_ (by simp)
      intro other fetching there background
      by_contra outstanding
      rcases orderly.awaited other fetching there background (by simpa using outstanding) with
        ⟨_, awaited⟩
      rw [here] at awaited
      rcases LoopStage.fetching.inj awaited with ⟨_, rfl⟩
      rcases Option.some.inj (found.symm.trans there) with rfl
      exact outstanding finished
  | pass => exact ⟨orderly.first, orderly.awaited, orderly.own⟩

end Orderly

/-! ## Every run of the loop is one of the fetches -/

/-- What a step of the loop is for the fetches. -/
def keyAction (moment : Moment (LoopState library Keys) (LoopAction Keys)) :
    Option (KeyAction Keys) :=
  match moment.2, moment.1.stage with
  | .fetch action, _ => some action
  | .advance, .waiting _ => some .tick
  | .advance, _ | .pass _, _ => none

theorem keyAction_advance {state : LoopState library Keys}
    (elsewhere : ∀ ticker, state.stage ≠ .waiting ticker) : keyAction (state, .advance) = none := by
  rcases state with ⟨keys, stage, clock⟩
  cases stage with
  | waiting ticker => exact absurd rfl (elsewhere ticker)
  | spawned | skipping | fetching | panicked => rfl

/-- The step is one of the fetches, or none. -/
def MatchedByFetches (state : LoopState library Keys) (action : LoopAction Keys)
    (next : LoopState library Keys) : Prop :=
  ∃ history keys, Run keyStep state.keys history keys ∧ (∀ moment ∈ history, True) ∧
    trace (fun moment => some moment.2) history = trace keyAction [(state, action)] ∧
    Orderly next ∧ next.keys = keys

theorem matched_of_still {state next : LoopState library Keys} {action : LoopAction Keys}
    (orderly : Orderly next) (same : next.keys = state.keys)
    (unseen : keyAction (state, action) = none) : MatchedByFetches state action next := by
  refine ⟨[], state.keys, Run.nil, fun _ _ => trivial, ?_, orderly, same⟩
  simp only [trace, List.filterMap_cons, unseen, List.filterMap_nil]

theorem matched_of_move {state next : LoopState library Keys} {action : LoopAction Keys}
    {move : KeyAction Keys} (orderly : Orderly next)
    (taken : keyStep state.keys move = some next.keys)
    (seen : keyAction (state, action) = some move) : MatchedByFetches state action next := by
  refine ⟨_, next.keys, Run.single taken, fun _ _ => trivial, ?_, orderly, rfl⟩
  simp only [trace, List.filterMap_cons, seen, List.filterMap_nil]

/-- The tick that the loop begins a fetch at is one that the fetches allow. -/
def asFetches (period : Duration) :
    Simulation (Machine.mk (loopStep period) keyAction :
        Machine (LoopState library Keys) (LoopAction Keys) (KeyAction Keys))
      (Machine.mk keyStep fun moment => some moment.2) (fun _ => True) (fun _ => True) where
  relation := fun state keys => Orderly state ∧ state.keys = keys
  matches_step := by
    rintro state keys action next ⟨orderly, rfl⟩ _ taken
    have orderlyNext := orderly.step taken
    cases loopStep_spec taken with
    | fetch others moved => exact matched_of_move orderlyNext moved rfl
    | start here | panic here | skip here | settled here =>
        exact matched_of_still orderlyNext rfl (keyAction_advance (by simp [here]))
    | begin here =>
        have allowed : keyStep state.keys .tick = some { state.keys with
            fetches := state.keys.fetches ++ [⟨.background, .fetching⟩] } := by
          simp only [keyStep, orderly.constructed (by simp [here]), orderly.loopWaits here,
            Bool.and_true, if_true]
        exact matched_of_move orderlyNext allowed (by simp only [keyAction, here])
    | pass => exact matched_of_still orderlyNext rfl rfl

theorem orderly_of_run {clock : Instant}
    {history : List (Moment (LoopState library Keys) (LoopAction Keys))}
    {state : LoopState library Keys}
    (run : Run (loopStep period) (LoopState.initial clock) history state) : Orderly state :=
  run.invariant Orderly (fun _ _ _ orderly taken => orderly.step taken) (Orderly.initial clock)

/-- Whatever its timer does, the loop with everything around it is a run of the
fetches with the same actions in the same order, and no two fetches of the loop
are under way at once. -/
theorem loop_runs_are_fetch_runs {clock : Instant}
    {history : List (Moment (LoopState library Keys) (LoopAction Keys))}
    {state : LoopState library Keys}
    (run : Run (loopStep period) (LoopState.initial clock) history state) :
    (∃ keyHistory, Run keyStep KeyState.initial keyHistory state.keys ∧
      keyHistory.map Prod.snd = history.filterMap keyAction) ∧
    ∀ (first second : Nat) fetch other, state.keys.fetches[first]? = some fetch →
      state.keys.fetches[second]? = some other → fetch.origin = .background →
      other.origin = .background → fetch.stage.outstanding = true →
      other.stage.outstanding = true → first = second := by
  constructor
  · rcases (asFetches period).run ⟨Orderly.initial clock, rfl⟩ run (fun _ _ => trivial) with
      ⟨keyHistory, keys, keyRun, _, same, _, rfl⟩
    refine ⟨keyHistory, keyRun, ?_⟩
    rw [← List.filterMap_eq_map]
    exact same
  · intro first second fetch other found there background otherBackground under otherUnder
    have orderly := orderly_of_run run
    rcases orderly.awaited first fetch found background under with ⟨_, fetching⟩
    rcases orderly.awaited second other there otherBackground otherUnder with ⟨_, otherFetching⟩
    exact (LoopStage.fetching.inj (fetching.symm.trans otherFetching)).2

/-! ## A loop that catches up -/

/-- Three fetches fail.  The IdP was away for so long that the second and the
third are begun at the same time. -/
def outage : List (LoopAction (List PublishedKey)) :=
  [.fetch (.answer 0 (.ok [sampleKey])), .fetch (.store 0), .advance, .advance,
    .pass 300000000000, .advance, .pass 700000000000, .fetch (.answer 1 (.error "timed out")),
    .advance, .advance, .fetch (.answer 2 (.error "timed out")), .advance, .advance,
    .fetch (.answer 3 (.error "timed out")), .advance]

def afterOutage : KeyState (List PublishedKey) :=
  ⟨some [sampleKey], [⟨.initial, .stored [sampleKey]⟩, ⟨.background, .failed "timed out"⟩,
    ⟨.background, .failed "timed out"⟩, ⟨.background, .failed "timed out"⟩]⟩

theorem outage_run : ∃ history state, Run (loopStep (Duration.fromSecs 300))
    (LoopState.initial 0 : LoopState sampleTicker (List PublishedKey)) history state ∧
    (state.keys, state.clock) = (afterOutage, 1000000000000) :=
  execute_observed (loopStep (Duration.fromSecs 300))
    (LoopState.initial 0 : LoopState sampleTicker (List PublishedKey)) outage
    (fun _ state => (state.keys, state.clock)) _ (by decide +kernel)

theorem loop_runs_are_fetch_runs_of_outage :
    ∃ keyHistory, Run keyStep KeyState.initial keyHistory afterOutage := by
  rcases outage_run with ⟨history, state, run, observed⟩
  rcases Prod.mk.inj observed with ⟨keys, _⟩
  rcases (loop_runs_are_fetch_runs run).1 with ⟨keyHistory, keyRun, _⟩
  rw [keys] at keyRun
  exact ⟨keyHistory, keyRun⟩

end Validation
end OidcRs
