import OidcRs.Foundation.Roll
import OidcRs.Foundation.Runs
import OidcRs.Identity
import OidcRs.Validation.ReferenceLibrary

namespace OidcRs
namespace Validation

open Foundation

/-!
# Fetching key sets

The initial fetch of `Validator::new`, the background loop and any number of
`refresh_jwks` calls each fetch a key set and then overwrite the shared cell
with it.  The fetch and the write are separate steps, an answer may arrive at
any time, and nothing orders the writes of fetches that overlap.  So the cell
holds what was written last.  A fetch begun later can only be overwritten by an
earlier one that was still outstanding when it wrote.
-/

inductive FetchOrigin
  /-- the initial fetch of `Validator::new` -/
  | initial
  /-- a tick of `refresh_loop` -/
  | background
  /-- a call of `refresh_jwks` -/
  | refresh
  deriving DecidableEq

/-- How far a fetch has got. -/
inductive FetchStage (Keys : Type)
  /-- `fetch_async` has been sent and not been answered -/
  | fetching
  /-- answered; waits for the write lock -/
  | writing (fresh : Keys)
  | stored (fresh : Keys)
  | failed (detail : String)
  /-- its future was dropped -/
  | abandoned
  deriving DecidableEq

structure Fetch (Keys : Type) where
  origin : FetchOrigin
  stage : FetchStage Keys
  deriving DecidableEq

def FetchStage.outstanding {Keys : Type} : FetchStage Keys → Bool
  | fetching | writing _ => true
  | stored _ | failed _ | abandoned => false

/-- What `refresh_jwks` returns; the other two callers only log the failure. -/
def FetchStage.result {Keys : Type} : FetchStage Keys → Option (Except AuthError Unit)
  | stored _ => some (.ok ())
  | failed detail => some (.error (.idpUnreachable ("jwks refresh: " ++ detail)))
  | fetching | writing _ | abandoned => none

/-- Success is returned after the write only. -/
theorem FetchStage.result_ok {Keys : Type} {stage : FetchStage Keys}
    (returned : stage.result = some (.ok ())) : ∃ fresh, stage = .stored fresh := by
  cases stage with
  | stored fresh => exact ⟨fresh, rfl⟩
  | fetching | writing | failed | abandoned => cases returned

/-- The cell and every fetch ever begun, in the order in which they began. -/
structure KeyState (Keys : Type) where
  jwks : Option Keys
  fetches : List (Fetch Keys)
  deriving DecidableEq

variable {Keys : Type}

/-- `Validator::new` has begun its fetch. -/
def KeyState.initial : KeyState Keys := ⟨none, [⟨.initial, .fetching⟩]⟩

/-- `Validator::new` has returned: its fetch is over, with or without a key
set. -/
def KeyState.constructed (state : KeyState Keys) : Bool :=
  state.fetches.head?.all (fun fetch => !fetch.stage.outstanding)

/-- The background loop waits for its next tick. -/
def KeyState.loopWaits (state : KeyState Keys) : Bool :=
  state.fetches.all (fun fetch => fetch.origin ≠ .background || !fetch.stage.outstanding)

inductive KeyAction (Keys : Type)
  | refresh
  | tick
  | answer (index : Nat) (reply : Except String Keys)
  | store (index : Nat)
  | abandon (index : Nat)

/-- The stage an answer leads to. -/
def answeredStage : Except String Keys → FetchStage Keys
  | .ok fresh => .writing fresh
  | .error detail => .failed detail

def keyStep (state : KeyState Keys) : KeyAction Keys → Option (KeyState Keys)
  | .refresh =>
      if state.constructed then
        some { state with fetches := state.fetches ++ [⟨.refresh, .fetching⟩] }
      else none
  | .tick =>
      if state.constructed && state.loopWaits then
        some { state with fetches := state.fetches ++ [⟨.background, .fetching⟩] }
      else none
  | .answer index reply =>
      match state.fetches[index]? with
      | some ⟨origin, .fetching⟩ =>
          some { state with fetches := state.fetches.set index ⟨origin, answeredStage reply⟩ }
      | _ => none
  | .store index =>
      match state.fetches[index]? with
      | some ⟨origin, .writing fresh⟩ =>
          some ⟨some fresh, state.fetches.set index ⟨origin, .stored fresh⟩⟩
      | _ => none
  | .abandon index =>
      match state.fetches[index]? with
      | some ⟨.refresh, stage⟩ =>
          if stage.outstanding then
            some { state with fetches := state.fetches.set index ⟨.refresh, .abandoned⟩ }
          else none
      | _ => none

/-! ## One step -/

/-- What each action asks of the fetches, and what it does to them and to the cell. -/
inductive KeySpec (state : KeyState Keys) : KeyAction Keys → KeyState Keys → Prop
  | refresh (constructed : state.constructed = true) :
      KeySpec state .refresh { state with fetches := state.fetches ++ [⟨.refresh, .fetching⟩] }
  | tick (constructed : state.constructed = true) (waits : state.loopWaits = true) :
      KeySpec state .tick { state with fetches := state.fetches ++ [⟨.background, .fetching⟩] }
  | answer {index : Nat} {origin : FetchOrigin} {reply : Except String Keys}
      (found : state.fetches[index]? = some ⟨origin, .fetching⟩) :
      KeySpec state (.answer index reply)
        { state with fetches := state.fetches.set index ⟨origin, answeredStage reply⟩ }
  | store {index : Nat} {origin : FetchOrigin} {fresh : Keys}
      (found : state.fetches[index]? = some ⟨origin, .writing fresh⟩) :
      KeySpec state (.store index)
        ⟨some fresh, state.fetches.set index ⟨origin, .stored fresh⟩⟩
  | abandon {index : Nat} {stage : FetchStage Keys}
      (found : state.fetches[index]? = some ⟨.refresh, stage⟩)
      (outstanding : stage.outstanding = true) :
      KeySpec state (.abandon index)
        { state with fetches := state.fetches.set index ⟨.refresh, .abandoned⟩ }

theorem keyStep_spec {state next : KeyState Keys} {action : KeyAction Keys}
    (taken : keyStep state action = some next) : KeySpec state action next := by
  cases action with
  | refresh =>
      simp only [keyStep] at taken
      split at taken
      · next constructed =>
          rcases Option.some.inj taken with rfl
          exact .refresh constructed
      · cases taken
  | tick =>
      simp only [keyStep] at taken
      split at taken
      · next ready =>
          rcases Option.some.inj taken with rfl
          rcases Bool.and_eq_true_iff.mp ready with ⟨constructed, waits⟩
          exact .tick constructed waits
      · cases taken
  | answer index reply =>
      simp only [keyStep] at taken
      split at taken
      · next origin found =>
          rcases Option.some.inj taken with rfl
          exact .answer found
      · cases taken
  | store index =>
      simp only [keyStep] at taken
      split at taken
      · next origin fresh found =>
          rcases Option.some.inj taken with rfl
          exact .store found
      · cases taken
  | abandon index =>
      simp only [keyStep] at taken
      split at taken
      · next stage found =>
          split at taken
          · next outstanding =>
              rcases Option.some.inj taken with rfl
              exact .abandon found outstanding
          · cases taken
      · cases taken

/-- An answer alone stores nothing. -/
theorem answeredStage_ne_stored (reply : Except String Keys) (fresh : Keys) :
    answeredStage reply ≠ .stored fresh := by
  intro same
  cases reply <;> cases same

/-- A fetch that is over stays as it is. -/
theorem settled_stays {state next : KeyState Keys} {action : KeyAction Keys}
    (taken : keyStep state action = some next) {index : Nat} {fetch : Fetch Keys}
    (found : state.fetches[index]? = some fetch) (finished : fetch.stage.outstanding = false) :
    next.fetches[index]? = some fetch := by
  have unmoved : ∀ (other : Nat) (moved changed : Fetch Keys), state.fetches[other]? = some moved →
      moved.stage.outstanding = true → (state.fetches.set other changed)[index]? = some fetch := by
    intro other moved changed there outstanding
    by_cases same : other = index
    · subst same
      rcases Option.some.inj (there.symm.trans found) with rfl
      rw [finished] at outstanding
      cases outstanding
    · rwa [List.getElem?_set_ne same]
  cases keyStep_spec taken with
  | refresh | tick => exact Roll.joined found _
  | answer there | store there => exact unmoved _ _ _ there rfl
  | abandon there outstanding => exact unmoved _ _ _ there outstanding

/-- A fetch that is over stays as it is along a run. -/
theorem settled_of_run {state last : KeyState Keys} {history : List (Moment (KeyState Keys) _)}
    (run : Run keyStep state history last) {index : Nat} {fetch : Fetch Keys}
    (found : state.fetches[index]? = some fetch) (finished : fetch.stage.outstanding = false) :
    last.fetches[index]? = some fetch :=
  run.invariant (fun state => state.fetches[index]? = some fetch)
    (fun _ _ _ here taken => settled_stays taken here finished) found

/-! ## The write that is in force -/

/-- This fetch was the last to write to the cell. -/
def StoredLast (history : List (Moment (KeyState Keys) (KeyAction Keys))) (index : Nat)
    (keys : Keys) : Prop :=
  ∃ before state after origin, history = before ++ (state, .store index) :: after ∧
    state.fetches[index]? = some ⟨origin, .writing keys⟩ ∧
    ∀ moment ∈ after, ∀ other, moment.2 ≠ .store other

/-- The cell and the completed fetches are accounted for by the writes. -/
structure WritesKept (history : List (Moment (KeyState Keys) (KeyAction Keys)))
    (state : KeyState Keys) : Prop where
  stored : ∀ (index : Nat) origin keys, state.fetches[index]? = some ⟨origin, .stored keys⟩ →
    state.jwks ≠ none ∧ ∃ before moment, Passed history before moment ∧ moment.2 = .store index
  cell : ∀ keys, state.jwks = some keys → ∃ index, StoredLast history index keys ∧
    ∃ origin, state.fetches[index]? = some ⟨origin, .stored keys⟩

theorem StoredLast.snoc {history : List (Moment (KeyState Keys) (KeyAction Keys))} {index : Nat}
    {keys : Keys} {moment : Moment (KeyState Keys) (KeyAction Keys)}
    (last : StoredLast history index keys) (quiet : ∀ other, moment.2 ≠ .store other) :
    StoredLast (history ++ [moment]) index keys := by
  rcases last with ⟨before, state, after, origin, rfl, here, none⟩
  refine ⟨before, state, after ++ [moment], origin, by simp, here, fun later member => ?_⟩
  rcases List.mem_append.mp member with earlier | newest
  · exact none later earlier
  · rw [List.mem_singleton.mp newest]
    exact quiet

/-- A step that does not write keeps the account. -/
theorem WritesKept.quiet {history : List (Moment (KeyState Keys) (KeyAction Keys))}
    {state next : KeyState Keys} {action : KeyAction Keys} (kept : WritesKept history state)
    (taken : keyStep state action = some next) (quiet : ∀ index, action ≠ .store index)
    (sameCell : next.jwks = state.jwks)
    (noneStored : ∀ (index : Nat) origin keys, next.fetches[index]? = some ⟨origin, .stored keys⟩ →
      state.fetches[index]? = some ⟨origin, .stored keys⟩) :
    WritesKept (history ++ [(state, action)]) next where
  stored index origin keys found := by
    rcases kept.stored index origin keys (noneStored index origin keys found) with
      ⟨loaded, before, moment, passed, wrote⟩
    exact ⟨by rwa [sameCell], before, moment, passed.snoc, wrote⟩
  cell keys found := by
    rw [sameCell] at found
    rcases kept.cell keys found with ⟨index, last, origin, here⟩
    exact ⟨index, last.snoc quiet, origin, settled_stays taken here rfl⟩

theorem WritesKept.step {history : List (Moment (KeyState Keys) (KeyAction Keys))}
    {state next : KeyState Keys} {action : KeyAction Keys} (kept : WritesKept history state)
    (taken : keyStep state action = some next) :
    WritesKept (history ++ [(state, action)]) next := by
  cases keyStep_spec taken with
  | refresh | tick =>
      refine kept.quiet taken (by simp) rfl (fun index origin keys found => ?_)
      rcases Roll.of_joined found with earlier | ⟨_, same⟩
      · exact earlier
      · cases same
  | @answer index origin reply there =>
      refine kept.quiet taken (by simp) rfl (fun other otherOrigin keys found => ?_)
      rcases Roll.of_replaced there found with ⟨_, same⟩ | ⟨_, before⟩
      · exact absurd (Fetch.mk.inj same).2.symm (answeredStage_ne_stored reply keys)
      · exact before
  | abandon there =>
      refine kept.quiet taken (by simp) rfl (fun other origin keys found => ?_)
      rcases Roll.of_replaced there found with ⟨_, same⟩ | ⟨_, before⟩
      · cases same
      · exact before
  | @store index origin fresh there =>
      constructor
      · intro other otherOrigin keys found
        refine ⟨Option.some_ne_none _, ?_⟩
        rcases Roll.of_replaced there found with ⟨rfl, _⟩ | ⟨_, earlier⟩
        · exact ⟨history, _, Passed.last, rfl⟩
        · rcases kept.stored other otherOrigin keys earlier with ⟨_, before, moment, passed, wrote⟩
          exact ⟨before, moment, passed.snoc, wrote⟩
      · intro keys found
        rcases Option.some.inj found with rfl
        exact ⟨index, ⟨history, state, [], origin, rfl, there, by simp⟩,
          origin, Roll.replaced_self there _⟩

theorem writesKept_of_run {history : List (Moment (KeyState Keys) (KeyAction Keys))}
    {state : KeyState Keys} (run : Run keyStep KeyState.initial history state) :
    WritesKept history state := by
  refine run.history_invariant WritesKept ⟨?_, ?_⟩ (fun _ _ _ _ _ kept taken => kept.step taken)
  · intro index origin keys found
    cases index <;> cases found
  · intro keys found
    cases found

/-- A fetch that writes before the one in force did, although it began later,
wrote while that one was outstanding. -/
theorem outstanding_when_overtaken {history : List (Moment (KeyState Keys) (KeyAction Keys))}
    {state : KeyState Keys} (run : Run keyStep KeyState.initial history state) {index later : Nat}
    {keys : Keys} (last : StoredLast history index keys) (younger : index < later)
    {before : List (Moment (KeyState Keys) (KeyAction Keys))}
    {moment : Moment (KeyState Keys) (KeyAction Keys)} (passed : Passed history before moment)
    (wrote : moment.2 = .store later) :
    ∃ fetch, moment.1.fetches[index]? = some fetch ∧ fetch.stage.outstanding = true := by
  rcases last with ⟨front, writer, after, origin, rfl, writing, quiet⟩
  -- the younger fetch wrote before the one in force: nothing was written after that one
  have earlier : Passed front before moment := by
    have inForce : Passed (front ++ (writer, .store index) :: after) front (writer, .store index) :=
      Passed.of_append
    rcases passed.compare inForce with ordered | ⟨_, rfl⟩ | reversed
    · exact ordered
    · cases wrote
      exact absurd younger (Nat.lt_irrefl _)
    · rcases passed.exists_after with ⟨rest, whole⟩
      rcases reversed.exists_after with ⟨middle, cut⟩
      rw [cut, List.append_assoc, List.cons_append] at whole
      have tail := List.cons.inj (List.append_cancel_left whole)
      exact absurd wrote (quiet moment (by rw [tail.2]; simp) later)
  rcases run.split with ⟨_, first, _, _⟩
  rcases earlier.cut first with ⟨next, between, whole, _, taken, second⟩
  have known : later < moment.1.fetches.length := by
    rw [wrote] at taken
    cases keyStep_spec taken with
    | store found => exact (List.getElem?_eq_some_iff.mp found).1
  obtain ⟨fetch, here⟩ : ∃ fetch, moment.1.fetches[index]? = some fetch :=
    ⟨_, List.getElem?_eq_getElem (Nat.lt_trans younger known)⟩
  refine ⟨fetch, here, ?_⟩
  by_contra finished
  have same := settled_of_run (Run.cons taken second) here (by simpa using finished)
  rw [writing] at same
  rw [← Option.some.inj same] at finished
  exact finished rfl

/-- The cell is empty exactly while no fetch has written to it, and holds the
key set of the fetch that wrote last.  A fetch that has completed with a key set
and began after that one wrote while that one was outstanding.  So what is used
after a `refresh_jwks` has returned was fetched by it, by a fetch begun later,
or by one that was still outstanding when it wrote. -/
theorem last_write_in_force {history : List (Moment (KeyState Keys) (KeyAction Keys))}
    {state : KeyState Keys} (run : Run keyStep KeyState.initial history state) :
    (state.jwks = none ↔
      ∀ (index : Nat) origin keys, state.fetches[index]? ≠ some ⟨origin, .stored keys⟩) ∧
    ∀ keys, state.jwks = some keys → ∃ index, StoredLast history index keys ∧
      ∀ (completed : Nat) fetch, state.fetches[completed]? = some fetch →
        fetch.stage.result = some (.ok ()) →
        ∃ before moment, Passed history before moment ∧ moment.2 = .store completed ∧
          (index < completed → ∃ fetch, moment.1.fetches[index]? = some fetch ∧
            fetch.stage.outstanding = true) := by
  have kept := writesKept_of_run run
  refine ⟨⟨fun empty index origin keys found => (kept.stored index origin keys found).1 empty,
    fun unstored => ?_⟩, fun keys found => ?_⟩
  · cases held : state.jwks with
    | none => rfl
    | some keys =>
        rcases kept.cell keys held with ⟨index, _, origin, here⟩
        exact absurd here (unstored index origin keys)
  · rcases kept.cell keys found with ⟨index, last, _⟩
    refine ⟨index, last, fun completed fetch here returned => ?_⟩
    rcases fetch with ⟨origin, stage⟩
    rcases FetchStage.result_ok returned with ⟨others, rfl⟩
    rcases kept.stored completed origin others here with ⟨_, before, moment, passed, wrote⟩
    exact ⟨before, moment, passed, wrote,
      fun younger => outstanding_when_overtaken run last younger passed wrote⟩

/-! ## An overtaken refresh -/

def rotatedOut : List PublishedKey := [⟨some "k0", some .signature, some "RS256", "n0", "e0"⟩]

/-- A background fetch is answered with the old key set but writes only after a
`refresh_jwks` has written the new one. -/
def overtaken : List (KeyAction (List PublishedKey)) :=
  [.answer 0 (.ok rotatedOut), .store 0, .tick, .answer 1 (.ok rotatedOut), .refresh,
    .answer 2 (.ok [sampleKey]), .store 2, .store 1]

theorem overtaken_run : ∃ history, Run keyStep KeyState.initial history
    ⟨some rotatedOut, [⟨.initial, .stored rotatedOut⟩, ⟨.background, .stored rotatedOut⟩,
      ⟨.refresh, .stored [sampleKey]⟩]⟩ := by
  obtain ⟨history, state, run, rfl⟩ := execute_observed (keyStep)
    (KeyState.initial) (overtaken) (fun _ state => state)
    ⟨some rotatedOut, [⟨.initial, .stored rotatedOut⟩, ⟨.background, .stored rotatedOut⟩,
      ⟨.refresh, .stored [sampleKey]⟩]⟩ (by decide +kernel)
  exact ⟨history, run⟩

theorem last_write_in_force_of_overtaken :
    ∃ history state, Run keyStep KeyState.initial history state ∧
      state.jwks = some rotatedOut ∧ ∃ index, StoredLast history index rotatedOut := by
  rcases overtaken_run with ⟨history, run⟩
  rcases (last_write_in_force run).2 rotatedOut rfl with ⟨index, last, _⟩
  exact ⟨history, _, run, rfl, index, last⟩

/-- The cell need not hold the key set of the completed fetch that began last. -/
theorem not_last_begun_in_force :
    ¬ ∀ (history : List (Moment (KeyState (List PublishedKey)) (KeyAction (List PublishedKey))))
      (state : KeyState (List PublishedKey)), Run keyStep KeyState.initial history state →
      ∀ keys, state.jwks = some keys → ∃ (index : Nat) (origin : FetchOrigin),
        state.fetches[index]? = some ⟨origin, .stored keys⟩ ∧
        ∀ (completed : Nat) (otherOrigin : FetchOrigin) others,
          state.fetches[completed]? = some ⟨otherOrigin, .stored others⟩ → completed ≤ index := by
  intro claimed
  rcases overtaken_run with ⟨history, run⟩
  rcases claimed history _ run rotatedOut rfl with ⟨index, origin, here, youngest⟩
  have late := youngest 2 .refresh [sampleKey] rfl
  match index, late with
  | 2, _ =>
      have same := (Fetch.mk.inj (Option.some.inj here)).2
      exact absurd (FetchStage.stored.inj same) (by decide)
  | index + 3, _ => cases here

end Validation
end OidcRs
