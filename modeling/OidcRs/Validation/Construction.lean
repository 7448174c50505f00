import OidcRs.Configuration
import OidcRs.Validation.Refresh
import OidcRs.Validation.Validator

namespace OidcRs
namespace Validation

open Foundation

/-!
# Making a validator

`Validator::new` lets the library discover the issuer, which gets the metadata and
the key set that goes with it, and fails if either cannot be had.  It then fetches a
key set of its own from the endpoint the metadata name.  Only this fetch may fail:
the later ones go on from where it has left them.  A key set that is ever in force
has come in answer to one of these, never from the discovery.
-/

variable {Keys : Type}

/-- What the HTTP client and the OIDC library do while a validator is made: the
build of the client, the check of the issuer's URL, its discovery, which fetches the
metadata and their key set and yields the endpoint of key sets, and the separate
fetch of a key set from there. -/
structure ProviderClient (Keys : Type) where
  builds : Except String Unit
  issuerUrl : String → Except String Unit
  discover : String → Except String String
  fetchKeys : String → Except String Keys

/-- A validator as it is handed out: what it compares tokens with, what its fetches
go by, and the first content of its cell. -/
structure Validator (Keys : Type) where
  inner : ValidatorInner
  jwksUrl : String
  jwksRefresh : Duration
  jwks : Option Keys

/-- `Validator::new`, up to the spawned task -/
def Validator.new (http : ProviderClient Keys) (issuer : String) (audiences : List String)
    (jwksRefresh : Duration) : Except AuthError (Validator Keys) := do
  http.builds.mapError (fun error => .idpUnreachable ("http client: " ++ error))
  (http.issuerUrl issuer).mapError (fun error => .idpMalformedResponse ("issuer url: " ++ error))
  let jwksUrl ← (http.discover issuer).mapError
    (fun error => .idpUnreachable ("discovery: " ++ error))
  pure ⟨⟨issuer, audiences⟩, jwksUrl, jwksRefresh, (http.fetchKeys jwksUrl).toOption⟩

/-- A validator is made exactly when the client can be built, the issuer's URL holds
and the discovery succeeds, whatever becomes of the separate fetch of a key set. -/
theorem new_eq_ok_iff {http : ProviderClient Keys} {issuer : String} {audiences : List String}
    {jwksRefresh : Duration} {validator : Validator Keys} :
    Validator.new http issuer audiences jwksRefresh = .ok validator ↔
      http.builds = .ok () ∧ http.issuerUrl issuer = .ok () ∧
        ∃ jwksUrl, http.discover issuer = .ok jwksUrl ∧ validator =
          ⟨⟨issuer, audiences⟩, jwksUrl, jwksRefresh, (http.fetchKeys jwksUrl).toOption⟩ := by
  constructor
  · intro made
    rcases bind_eq_ok made with ⟨_, built, made⟩
    rcases bind_eq_ok made with ⟨_, checked, made⟩
    rcases bind_eq_ok made with ⟨jwksUrl, discovered, made⟩
    exact ⟨mapError_eq_ok built, mapError_eq_ok checked, jwksUrl, mapError_eq_ok discovered,
      (Except.ok.inj made).symm⟩
  · rintro ⟨built, checked, jwksUrl, discovered, rfl⟩
    simp only [Validator.new, built, checked, discovered]
    rfl

/-! ## The fetch that construction waits for -/

/-- The steps of the first fetch, when this is what it comes back with. -/
def firstFetch : Except String Keys → List (KeyAction Keys)
  | .ok fresh => [.answer 0 (.ok fresh), .store 0]
  | .error detail => [.answer 0 (.error detail)]

/-- A validator is handed out after the first fetch and before every other. -/
theorem run_of_new {http : ProviderClient Keys} {issuer : String} {audiences : List String}
    {jwksRefresh : Duration} {validator : Validator Keys}
    (made : Validator.new http issuer audiences jwksRefresh = .ok validator) :
    ∃ history state, Run keyStep KeyState.initial history state ∧
      history.map Prod.snd = firstFetch (http.fetchKeys validator.jwksUrl) ∧
      state.jwks = validator.jwks ∧ state.constructed = true := by
  rcases new_eq_ok_iff.mp made with ⟨_, _, jwksUrl, _, rfl⟩
  cases http.fetchKeys jwksUrl with
  | error detail =>
      have answered : keyStep KeyState.initial (.answer 0 (.error detail)) =
          some (⟨none, [⟨.initial, .failed detail⟩]⟩ : KeyState Keys) := rfl
      exact ⟨_, _, Run.single answered, rfl, rfl, rfl⟩
  | ok fresh =>
      have answered : keyStep KeyState.initial (.answer 0 (.ok fresh)) =
          some ⟨none, [⟨.initial, .writing fresh⟩]⟩ := rfl
      have stored : keyStep ⟨none, [⟨.initial, .writing fresh⟩]⟩ (.store 0) =
          some ⟨some fresh, [⟨.initial, .stored fresh⟩]⟩ := rfl
      exact ⟨_, _, Run.cons answered (Run.single stored), rfl, rfl, rfl⟩

/-! ## Where key sets come from -/

/-- The key set came in answer to a fetch. -/
def FetchedIn (history : List (Moment (KeyState Keys) (KeyAction Keys))) (keys : Keys) : Prop :=
  ∃ before state index, Passed history before (state, .answer index (.ok keys))

theorem FetchedIn.extend {history longer : List (Moment (KeyState Keys) (KeyAction Keys))}
    {keys : Keys} (fetched : FetchedIn history keys) (longerHistory : history <+: longer) :
    FetchedIn longer keys := by
  rcases fetched with ⟨before, state, index, passed⟩
  exact ⟨before, state, index, passed.extend longerHistory⟩

theorem FetchedIn.snoc {history : List (Moment (KeyState Keys) (KeyAction Keys))} {keys : Keys}
    {newest : Moment (KeyState Keys) (KeyAction Keys)} (fetched : FetchedIn history keys) :
    FetchedIn (history ++ [newest]) keys :=
  fetched.extend (List.prefix_append _ _)

/-- What waits to be written and what has been written was fetched. -/
structure AllFetched (history : List (Moment (KeyState Keys) (KeyAction Keys)))
    (state : KeyState Keys) : Prop where
  writing : ∀ (index : Nat) origin fresh, state.fetches[index]? = some ⟨origin, .writing fresh⟩ →
    FetchedIn history fresh
  cell : ∀ fresh, state.jwks = some fresh → FetchedIn history fresh

/-- A key set that waits to be written waited before, or has just arrived. -/
theorem writing_of_step {state next : KeyState Keys} {action : KeyAction Keys}
    (taken : keyStep state action = some next) {index : Nat} {origin : FetchOrigin} {fresh : Keys}
    (found : next.fetches[index]? = some ⟨origin, .writing fresh⟩) :
    state.fetches[index]? = some ⟨origin, .writing fresh⟩ ∨ action = .answer index (.ok fresh) := by
  have begun {start : FetchOrigin}
      (there : (state.fetches ++ [⟨start, .fetching⟩])[index]? = some ⟨origin, .writing fresh⟩) :
      state.fetches[index]? = some ⟨origin, .writing fresh⟩ := by
    rcases Roll.of_joined there with before | ⟨_, same⟩
    · exact before
    · cases same
  cases keyStep_spec taken with
  | refresh | tick => exact Or.inl (begun found)
  | @answer other start reply here =>
      rcases Roll.of_replaced here found with ⟨rfl, same⟩ | ⟨_, before⟩
      · cases reply with
        | error detail => cases same
        | ok arrived =>
            cases same
            exact Or.inr rfl
      · exact Or.inl before
  | store here | abandon here =>
      rcases Roll.of_replaced here found with ⟨_, same⟩ | ⟨_, before⟩
      · cases same
      · exact Or.inl before

theorem AllFetched.step {history : List (Moment (KeyState Keys) (KeyAction Keys))}
    {state next : KeyState Keys} {action : KeyAction Keys} (fetched : AllFetched history state)
    (taken : keyStep state action = some next) :
    AllFetched (history ++ [(state, action)]) next where
  writing index origin fresh found := by
    rcases writing_of_step taken found with before | rfl
    · exact (fetched.writing index origin fresh before).snoc
    · exact ⟨history, state, index, Passed.last⟩
  cell fresh held := by
    cases keyStep_spec taken with
    | refresh | tick | answer | abandon => exact (fetched.cell fresh held).snoc
    | store found =>
        rcases Option.some.inj held with rfl
        exact (fetched.writing _ _ _ found).snoc

theorem allFetched_of_run {history : List (Moment (KeyState Keys) (KeyAction Keys))}
    {state : KeyState Keys} (run : Run keyStep KeyState.initial history state) :
    AllFetched history state := by
  refine run.history_invariant AllFetched ⟨?_, ?_⟩ (fun _ _ _ _ _ fetched taken => fetched.step taken)
  · intro index origin fresh found
    cases index <;> cases found
  · intro fresh held
    cases held

end Validation
end OidcRs
