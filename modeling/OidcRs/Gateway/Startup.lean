import OidcRs.Exchange.Deployment
import OidcRs.Gateway.Machine
import OidcRs.Validation.Construction

namespace OidcRs
namespace Gateway

open Foundation
open Validation (Validator ProviderClient)
open Exchange (ExchangerInner DiscoveryClient)

/-!
# How a server starts

The example server reads two variables of its environment.  Without an issuer, or
without a name among the audiences, it starts with authentication switched off.
Otherwise it starts with authentication switched on, or it does not start: what
the IdP does cannot open it.
-/

/-- The variables that are read; one that is not set, or not Unicode, is `none`. -/
structure Environment where
  oidcIssuer : Option String
  oidcAudiences : Option String

/-- The audiences of a text: its entries between commas. -/
def parseAudiences (text : String) : List String :=
  (Text.entries ',' text.toList).map String.ofList

def Environment.audiences (environment : Environment) : List String :=
  (environment.oidcAudiences.map parseAudiences).getD []

/-- What the libraries do while a server starts. -/
structure StartupLibraries (Keys : Type) where
  provider : ProviderClient Keys
  discovery : DiscoveryClient
  sha256 : ByteArray → Exchange.Digest

/-- `AuthState`, and the parts of its validator that its `AuthMode` leaves out. -/
inductive AuthState (Keys : Type)
  | disabled
  | enabled (validator : Validator Keys) (exchanger : ExchangerInner)

def AuthState.mode {Keys : Type} : AuthState Keys → AuthMode
  | disabled => .disabled
  | enabled validator exchanger => .enabled validator.inner exchanger

/-- The places at which a starting server panics. -/
inductive StartupPanic
  | authConfig (error : BuildError)
  | unreachable
  | validator (error : AuthError)
  | exchanger (error : AuthError)

/-- `build_auth_state` of the example server -/
def buildAuthState {Keys : Type} (libraries : StartupLibraries Keys) (environment : Environment) :
    Except StartupPanic (AuthState Keys) :=
  match environment.oidcIssuer, environment.audiences.isEmpty with
  | some issuer, false => do
      let config ← ((AuthConfig.builder.withIssuer issuer).withAudiences
        environment.audiences).build.mapError .authConfig
      match config with
      | .disabled => .error .unreachable
      | .enabled config => do
          let validator ← (Validator.new libraries.provider config.issuer config.audiences
            config.jwksRefresh).mapError .validator
          let exchanger ← (Exchange.BasicExchanger.new libraries.sha256 libraries.discovery config.issuer
            config.basicAudience config.basicScope config.basicCacheTtl).mapError .exchanger
          pure (.enabled validator exchanger)
  | _, _ => .ok .disabled

/-! ## From an accepted configuration -/

/-- The validator and the exchanger that an application makes from what the builder
has accepted. -/
structure Deployed {Keys : Type} (libraries : StartupLibraries Keys) (config : EnabledConfig)
    (validator : Validator Keys) (exchanger : ExchangerInner) : Prop where
  accepted : ∃ builder : AuthConfigBuilder, builder.build = .ok (.enabled config)
  validatorMade : Validator.new libraries.provider config.issuer config.audiences
    config.jwksRefresh = .ok validator
  exchangerMade : Exchange.BasicExchanger.new libraries.sha256 libraries.discovery config.issuer
    config.basicAudience config.basicScope config.basicCacheTtl = .ok exchanger

/-- The configuration of the example server: whatever can be left out is. -/
def serverConfig (issuer : String) (audiences : List String) : EnabledConfig :=
  ⟨issuer, audiences, none, none, Duration.fromSecs 3600, Duration.fromSecs 300⟩

section Started

variable {Keys : Type} {libraries : StartupLibraries Keys} {environment : Environment}
  {issuer : String}

/-- The builder accepts what the server hands it. -/
theorem server_build (issuer : String) {audiences : List String} (addressed : audiences ≠ []) :
    ((AuthConfig.builder.withIssuer issuer).withAudiences audiences).build =
      .ok (.enabled (serverConfig issuer audiences)) := by
  have hour : (Duration.fromSecs 3600).nanos ≠ 0 := by decide
  have fiveMinutes : (Duration.fromSecs 300).nanos ≠ 0 := by decide
  exact AuthConfigBuilder.build_eq_ok_iff.mpr
    ⟨rfl, rfl, rfl, rfl, rfl, rfl, addressed, hour, fiveMinutes⟩

/-- With an issuer and an audience it is up to the validator and the exchanger. -/
theorem buildAuthState_of_configured (named : environment.oidcIssuer = some issuer)
    (addressed : environment.audiences ≠ []) :
    buildAuthState libraries environment =
      (Validator.new libraries.provider issuer environment.audiences
        (Duration.fromSecs 300)).mapError .validator >>= fun validator =>
      (Exchange.BasicExchanger.new libraries.sha256 libraries.discovery issuer none none
        (Duration.fromSecs 3600)).mapError .exchanger >>= fun exchanger =>
      pure (.enabled validator exchanger) := by
  have listed : environment.audiences.isEmpty = false := List.isEmpty_eq_false_iff.mpr addressed
  simp only [buildAuthState, named, listed, server_build issuer addressed]
  rfl

/-- Without an issuer or an audience authentication is switched off. -/
theorem buildAuthState_of_unconfigured
    (missing : environment.oidcIssuer = none ∨ environment.audiences = []) :
    buildAuthState libraries environment = .ok .disabled := by
  unfold buildAuthState
  rcases missing with unnamed | unaddressed
  · rw [unnamed]
  · rw [unaddressed, List.isEmpty_nil]
    cases environment.oidcIssuer <;> rfl

theorem deployed_of_started {validator : Validator Keys} {exchanger : ExchangerInner}
    (started : buildAuthState libraries environment = .ok (.enabled validator exchanger)) :
    ∃ issuer, environment.oidcIssuer = some issuer ∧ environment.audiences ≠ [] ∧
      Deployed libraries (serverConfig issuer environment.audiences) validator exchanger := by
  by_cases missing : environment.oidcIssuer = none ∨ environment.audiences = []
  · rw [buildAuthState_of_unconfigured missing] at started
    cases started
  · rw [not_or] at missing
    rcases Option.ne_none_iff_exists'.mp missing.1 with ⟨issuer, named⟩
    rw [buildAuthState_of_configured named missing.2] at started
    rcases bind_eq_ok started with ⟨there, validatorMade, started⟩
    rcases bind_eq_ok started with ⟨other, exchangerMade, same⟩
    rcases AuthState.enabled.inj (Except.ok.inj same) with ⟨rfl, rfl⟩
    exact ⟨issuer, named, missing.2, ⟨_, server_build issuer missing.2⟩,
      mapError_eq_ok validatorMade, mapError_eq_ok exchangerMade⟩

/-- Where a server panics that does not start. -/
theorem panic_of_not_started {panic : StartupPanic}
    (panicked : buildAuthState libraries environment = .error panic) :
    ∃ error, panic = .validator error ∨ panic = .exchanger error := by
  by_cases missing : environment.oidcIssuer = none ∨ environment.audiences = []
  · rw [buildAuthState_of_unconfigured missing] at panicked
    cases panicked
  · rw [not_or] at missing
    rcases Option.ne_none_iff_exists'.mp missing.1 with ⟨issuer, named⟩
    rw [buildAuthState_of_configured named missing.2] at panicked
    generalize Validator.new libraries.provider issuer environment.audiences
      (Duration.fromSecs 300) = made at panicked
    cases made with
    | error error => exact ⟨error, Or.inl (Except.error.inj panicked).symm⟩
    | ok validator =>
        generalize Exchange.BasicExchanger.new libraries.sha256 libraries.discovery issuer none none
          (Duration.fromSecs 3600) = madeToo at panicked
        cases madeToo with
        | error error => exact ⟨error, Or.inr (Except.error.inj panicked).symm⟩
        | ok exchanger => cases panicked

end Started

/-! ## The audiences -/

theorem comma_dark : Text.isWhitespace ',' = false := by decide

theorem parseAudiences_eq_iff {text : String} {names : List (List Char)} :
    parseAudiences text = names.map String.ofList ↔ Text.Lists ',' text.toList names := by
  unfold parseAudiences
  rw [List.map_inj_right fun _ _ same => String.ofList_inj.mp same, Text.entries_eq_iff comma_dark]

/-- No audience is named if none are set, or the text that is set lists no names. -/
theorem Environment.audiences_eq_nil_iff {environment : Environment} :
    environment.audiences = [] ↔
      ∀ text, environment.oidcAudiences = some text → Text.Lists ',' text.toList [] := by
  rcases environment with ⟨issuer, unset | text⟩
  · exact ⟨fun _ _ present => (Option.some_ne_none _ present.symm).elim, fun _ => rfl⟩
  · have listed : parseAudiences text = List.map String.ofList [] ↔
        Text.Lists ',' text.toList [] := parseAudiences_eq_iff
    constructor
    · rintro unnamed _ ⟨⟩
      exact listed.mp unnamed
    · intro none
      exact listed.mpr (none text rfl)

/-- Whatever the environment is, the server starts with authentication switched off
exactly when no issuer is set or no audience is named, however the IdP behaves, and
it panics only where the IdP is to blame.  If it starts with authentication switched
on, then with the issuer that is set and the audiences that the text lists, in
order, with any white space around them and any empty entries between them. -/
theorem starts_as_configured {Keys : Type} (libraries : StartupLibraries Keys)
    (environment : Environment) :
    (buildAuthState libraries environment = .ok .disabled ↔ environment.oidcIssuer = none ∨
      ∀ text, environment.oidcAudiences = some text → Text.Lists ',' text.toList []) ∧
    (∀ panic, buildAuthState libraries environment = .error panic →
      ∃ error, panic = .validator error ∨ panic = .exchanger error) ∧
    ∀ validator exchanger, buildAuthState libraries environment = .ok (.enabled validator exchanger) →
      ∃ issuer text names, environment.oidcIssuer = some issuer ∧
        environment.oidcAudiences = some text ∧ Text.Lists ',' text.toList names ∧ names ≠ [] ∧
        (AuthState.enabled validator exchanger).mode =
          .enabled ⟨issuer, names.map String.ofList⟩ exchanger ∧
        Deployed libraries (serverConfig issuer (names.map String.ofList)) validator exchanger := by
  rw [← Environment.audiences_eq_nil_iff]
  refine ⟨⟨fun off => ?_, buildAuthState_of_unconfigured⟩, fun _ => panic_of_not_started, ?_⟩
  · by_contra configured
    rw [not_or] at configured
    rcases Option.ne_none_iff_exists'.mp configured.1 with ⟨issuer, named⟩
    rw [buildAuthState_of_configured named configured.2] at off
    rcases bind_eq_ok off with ⟨_, _, off⟩
    rcases bind_eq_ok off with ⟨_, _, off⟩
    cases off
  · intro validator exchanger started
    rcases deployed_of_started started with ⟨issuer, named, addressed, deployed⟩
    rcases environment with ⟨_, _ | text⟩
    · exact absurd rfl addressed
    · rcases Text.exists_lists ',' text.toList with ⟨names, lists⟩
      have listed : parseAudiences text = names.map String.ofList := parseAudiences_eq_iff.mpr lists
      change parseAudiences text ≠ [] at addressed
      change Deployed libraries (serverConfig issuer (parseAudiences text)) _ _ at deployed
      rw [listed] at addressed deployed
      refine ⟨issuer, text, names, named, rfl, lists, ?_, ?_, deployed⟩
      · rintro rfl
        exact addressed rfl
      · rcases Validation.new_eq_ok_iff.mp deployed.validatorMade with ⟨_, _, _, _, rfl⟩
        rfl

/-! ## A server that starts -/

def sampleEnvironment : Environment := ⟨some "https://idp", some " api, ,"⟩

/-- An IdP whose key set holds the sample key. -/
def sampleLibraries : StartupLibraries (List Validation.PublishedKey) where
  provider :=
    { builds := .ok ()
      issuerUrl := fun _ => .ok ()
      discover := fun issuer => .ok (issuer ++ "/jwks.json")
      fetchKeys := fun _ => .ok [Validation.sampleKey] }
  discovery := Exchange.sampleDiscovery
  sha256 := Exchange.sampleSha256

theorem sample_started : buildAuthState sampleLibraries sampleEnvironment =
    .ok (.enabled ⟨Validation.sampleValidator, "https://idp/jwks.json", Duration.fromSecs 300,
      some [Validation.sampleKey]⟩ Exchange.sampleInner) := by
  have addressed : sampleEnvironment.audiences = ["api"] := by decide +kernel
  have named : sampleEnvironment.oidcIssuer = some "https://idp" := rfl
  rw [buildAuthState_of_configured named (by rw [addressed]; simp), addressed]
  rfl

end Gateway
end OidcRs
