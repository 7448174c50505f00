import OidcRs.Foundation.Time

namespace OidcRs

open Foundation

/-!
# The configuration and its builder

An enabled configuration is made by a builder, which asks for an issuer and an
audience and refuses durations of zero.  It sets no other bound on a duration.
-/

/-- Strongly-typed configuration for an enabled auth pipeline. -/
structure EnabledConfig where
  issuer : String
  /-- `aud` values accepted on inbound JWTs -/
  audiences : List String
  /-- `audience` value to request during a Basic exchange -/
  basicAudience : Option String
  /-- `scope` to request during a Basic exchange -/
  basicScope : Option String
  /-- hard cap on the lifetime of a cached token -/
  basicCacheTtl : Duration
  /-- interval at which the key set is fetched again -/
  jwksRefresh : Duration
  deriving DecidableEq

inductive AuthConfig
  | disabled
  | enabled (config : EnabledConfig)
  deriving DecidableEq

/-- Errors returned by `build`. -/
inductive BuildError
  | missingIssuer
  | emptyAudiences
  | nonPositiveBasicCacheTtl
  | nonPositiveJwksRefresh
  deriving DecidableEq

structure AuthConfigBuilder where
  issuer : Option String
  audiences : List String
  basicAudience : Option String
  basicScope : Option String
  basicCacheTtl : Option Duration
  jwksRefresh : Option Duration
  deriving DecidableEq

/-- `AuthConfig::builder` -/
def AuthConfig.builder : AuthConfigBuilder := ⟨none, [], none, none, none, none⟩

namespace AuthConfigBuilder

def withIssuer (self : AuthConfigBuilder) (issuer : String) : AuthConfigBuilder :=
  { self with issuer := some issuer }

def withAudiences (self : AuthConfigBuilder) (audiences : List String) : AuthConfigBuilder :=
  { self with audiences := audiences }

def withBasicAudience (self : AuthConfigBuilder) (audience : String) : AuthConfigBuilder :=
  { self with basicAudience := some audience }

def withBasicScope (self : AuthConfigBuilder) (scope : String) : AuthConfigBuilder :=
  { self with basicScope := some scope }

def withBasicCacheTtl (self : AuthConfigBuilder) (ttl : Duration) : AuthConfigBuilder :=
  { self with basicCacheTtl := some ttl }

def withJwksRefresh (self : AuthConfigBuilder) (interval : Duration) : AuthConfigBuilder :=
  { self with jwksRefresh := some interval }

/-- The cap that is configured: the one that is set, or an hour. -/
def cacheTtl (self : AuthConfigBuilder) : Duration :=
  self.basicCacheTtl.getD (Duration.fromSecs 3600)

/-- The refresh interval that is configured: the one that is set, or five minutes. -/
def refreshInterval (self : AuthConfigBuilder) : Duration :=
  self.jwksRefresh.getD (Duration.fromSecs 300)

/-- Finish and validate the builder. -/
def build (self : AuthConfigBuilder) : Except BuildError AuthConfig :=
  match self.issuer with
  | none => .error .missingIssuer
  | some issuer =>
      if self.audiences.isEmpty then .error .emptyAudiences
      -- only a duration that was set can be zero, the defaults are not
      else if self.basicCacheTtl.any Duration.isZero then .error .nonPositiveBasicCacheTtl
      else if self.jwksRefresh.any Duration.isZero then .error .nonPositiveJwksRefresh
      else .ok (.enabled
        { issuer := issuer
          audiences := self.audiences
          basicAudience := self.basicAudience
          basicScope := self.basicScope
          basicCacheTtl := self.cacheTtl
          jwksRefresh := self.refreshInterval })

/-- The fault that an error names, and that what is checked before has none. -/
inductive Refused (builder : AuthConfigBuilder) : BuildError → Prop
  | missingIssuer (unnamed : builder.issuer = none) : Refused builder .missingIssuer
  | emptyAudiences (named : builder.issuer ≠ none) (unaddressed : builder.audiences = []) :
      Refused builder .emptyAudiences
  | nonPositiveBasicCacheTtl {ttl : Duration} (named : builder.issuer ≠ none)
      (addressed : builder.audiences ≠ []) (set : builder.basicCacheTtl = some ttl)
      (zero : ttl.nanos = 0) : Refused builder .nonPositiveBasicCacheTtl
  | nonPositiveJwksRefresh {interval : Duration} (named : builder.issuer ≠ none)
      (addressed : builder.audiences ≠ []) (caches : builder.cacheTtl.nanos ≠ 0)
      (set : builder.jwksRefresh = some interval) (zero : interval.nanos = 0) :
      Refused builder .nonPositiveJwksRefresh

/-- What `build` turns into a configuration, and which one. -/
structure Accepted (builder : AuthConfigBuilder) (config : EnabledConfig) : Prop where
  issuer : builder.issuer = some config.issuer
  audiences : builder.audiences = config.audiences
  basicAudience : builder.basicAudience = config.basicAudience
  basicScope : builder.basicScope = config.basicScope
  cacheTtl : builder.cacheTtl = config.basicCacheTtl
  refreshInterval : builder.refreshInterval = config.jwksRefresh
  addressed : config.audiences ≠ []
  caches : config.basicCacheTtl.nanos ≠ 0
  refreshes : config.jwksRefresh.nanos ≠ 0

/-- A duration passes its check when the one that is configured in the end, be
it the default, is not zero. -/
theorem any_isZero_eq_false_iff {set : Option Duration} {default : Duration}
    (positive : default.nanos ≠ 0) :
    set.any Duration.isZero = false ↔ (set.getD default).nanos ≠ 0 := by
  cases set with
  | none => simpa using positive
  | some duration =>
      rw [Option.any_some, Option.getD_some, ← Bool.not_eq_true, Duration.isZero_iff]

theorem build_eq_ok_iff {self : AuthConfigBuilder} {config : EnabledConfig} :
    self.build = .ok (.enabled config) ↔ self.Accepted config := by
  have defaultTtl : (Duration.fromSecs 3600).nanos ≠ 0 := by decide
  have defaultRefresh : (Duration.fromSecs 300).nanos ≠ 0 := by decide
  constructor
  · intro built
    unfold build at built
    split at built
    · cases built
    · next issuer named =>
        split at built
        · cases built
        · next addressed =>
            split at built
            · cases built
            · next caches =>
                split at built
                · cases built
                · next refreshes =>
                    rcases AuthConfig.enabled.inj (Except.ok.inj built) with rfl
                    rw [Bool.not_eq_true, any_isZero_eq_false_iff defaultTtl] at caches
                    rw [Bool.not_eq_true, any_isZero_eq_false_iff defaultRefresh] at refreshes
                    rw [List.isEmpty_iff] at addressed
                    exact ⟨named, rfl, rfl, rfl, rfl, rfl, addressed, caches, refreshes⟩
  · rintro ⟨named, audiences, audience, scope, ttl, refresh, addressed, caches, refreshes⟩
    rw [← audiences] at addressed
    rw [← ttl, cacheTtl, ← any_isZero_eq_false_iff defaultTtl] at caches
    rw [← refresh, refreshInterval, ← any_isZero_eq_false_iff defaultRefresh] at refreshes
    have listed : self.audiences.isEmpty = false := List.isEmpty_eq_false_iff.mpr addressed
    simp only [build, named, listed, caches, refreshes, Bool.false_eq_true, if_false]
    rw [audiences, audience, scope, ttl, refresh]

theorem exists_of_any_isZero {set : Option Duration} (found : set.any Duration.isZero = true) :
    ∃ duration, set = some duration ∧ duration.nanos = 0 := by
  rcases (Option.any_eq_true _ _).mp found with ⟨duration, there, zero⟩
  exact ⟨duration, there, Duration.isZero_iff.mp zero⟩

/-- Every error names the first fault. -/
theorem refused_of_build {self : AuthConfigBuilder} {error : BuildError}
    (refused : self.build = .error error) : self.Refused error := by
  have defaultTtl : (Duration.fromSecs 3600).nanos ≠ 0 := by decide
  unfold build at refused
  split at refused
  · next unnamed =>
      cases refused
      exact .missingIssuer unnamed
  · next issuer there =>
      have named : self.issuer ≠ none := by
        rw [there]
        exact Option.some_ne_none issuer
      split at refused
      · next unaddressed =>
          cases refused
          exact .emptyAudiences named (List.isEmpty_iff.mp unaddressed)
      · next listed =>
          have addressed : self.audiences ≠ [] := fun empty => listed (List.isEmpty_iff.mpr empty)
          split at refused
          · next found =>
              cases refused
              rcases exists_of_any_isZero found with ⟨ttl, set, zero⟩
              exact .nonPositiveBasicCacheTtl named addressed set zero
          · next absent =>
              rw [Bool.not_eq_true, any_isZero_eq_false_iff defaultTtl] at absent
              split at refused
              · next found =>
                  cases refused
                  rcases exists_of_any_isZero found with ⟨interval, set, zero⟩
                  exact .nonPositiveJwksRefresh named addressed absent set zero
              · cases refused

/-- Every value that is set is found in the configuration. -/
theorem build_of_setters {issuer audience scope : String} {audiences : List String}
    {ttl interval : Duration} (addressed : audiences ≠ []) (caches : ttl.nanos ≠ 0)
    (refreshes : interval.nanos ≠ 0) :
    ((((((AuthConfig.builder.withIssuer issuer).withAudiences audiences).withBasicAudience
      audience).withBasicScope scope).withBasicCacheTtl ttl).withJwksRefresh interval).build =
      .ok (.enabled ⟨issuer, audiences, some audience, some scope, ttl, interval⟩) :=
  build_eq_ok_iff.mpr ⟨rfl, rfl, rfl, rfl, rfl, rfl, addressed, caches, refreshes⟩

end AuthConfigBuilder
end OidcRs
