import OidcRs.Validation.Completeness

namespace OidcRs
namespace Validation

open Foundation

/-!
# When a token is accepted

Whether `validate` accepts a token is decided by two things that have nothing to
do with each other: whether the token fits the validator, which no time changes,
and whether it is in force.  So the times at which it is accepted are one window,
with the same claims throughout.  Keys added behind those of the set, and
audiences added to the configuration, take nothing away.
-/

variable {library : JwtLibrary} {inner : ValidatorInner} {keys : List library.CoreJsonWebKey}
  {rawJwt : String} {now : Nat} {claims : Claims} {payload : Json}

/-! ## Fitting and in force -/

/-- What no time changes: the token is signed with the key that its `kid` selects,
its payload has the expected shape, and it names the issuer and, if it names any,
an audience. -/
structure Fits (library : JwtLibrary) (inner : ValidatorInner) (keys : List library.CoreJsonWebKey)
    (rawJwt : String) (payload : Json) (claims : Claims) : Prop where
  signed : ∃ selection, CorrectlySigned library keys rawJwt selection ∧
    UnderOwnAlgorithm library rawJwt selection.algorithm
  shape : ∃ raw, Readable library rawJwt payload raw ∧ toClaims raw = claims
  issuer : claims.iss = inner.issuer
  addressed : ∀ audiences, (claim payload "aud").bind principals = some audiences →
    ∃ audience ∈ audiences, audience ∈ inner.audiences

theorem InForce.between {early late : Nat} (before : InForce library payload early)
    (after : InForce library payload late) (first : early ≤ now) (last : now ≤ late) :
    InForce library payload now where
  begun value there := by
    rcases before.begun value there with ⟨nbf, read, reached⟩
    exact ⟨nbf, read, Nat.le_trans reached (Nat.add_le_add_right first 60)⟩
  unexpired := by
    rcases after.unexpired with ⟨exp, there, fresh⟩
    exact ⟨exp, there, Nat.le_trans last fresh⟩

/-! ## Exactly these tokens -/

/-- An accepted token is signed with what its `kid` selects, under the algorithm of
its own header. -/
theorem correctlySigned_of_accepted (documented : library.Documented)
    (accepted : validate library inner (some keys) rawJwt now = .ok claims) :
    ∃ selection, CorrectlySigned library keys rawJwt selection ∧
      UnderOwnAlgorithm library rawJwt selection.algorithm := by
  cases named : tokenKid library rawJwt with
  | none =>
      rw [validate_of_no_kid named] at accepted
      cases accepted
  | some kid =>
      rw [validate_of_kid named] at accepted
      rcases bind_eq_ok accepted with ⟨selection, chosen, verified⟩
      rcases bind_eq_ok verified with ⟨raw, decoded, _⟩
      have decoded := mapError_eq_ok decoded
      rcases documented.checks_algorithm _ _ _ _ _ decoded with ⟨header, parsed, listed⟩
      rw [validation_eq documented.new_validation, List.mem_singleton] at listed
      have signature := documented.checks_signature _ _ _ _ _ header decoded parsed
      rw [listed] at signature
      exact ⟨selection, ⟨⟨kid, named, select_eq_ok_iff.mp chosen⟩, signature⟩,
        ⟨header, parsed, listed⟩⟩

theorem fits_of_accepted (documented : library.Documented) (ordered : library.ReportsInOrder)
    (past : 60 ≤ now) (accepted : validate library inner (some keys) rawJwt now = .ok claims) :
    ∃ payload, Fits library inner keys rawJwt payload claims ∧ InForce library payload now := by
  rcases correctlySigned_of_accepted documented accepted with ⟨selection, signed, own⟩
  by_cases readable : ∃ payload raw, Readable library rawJwt payload raw
  · rcases readable with ⟨payload, raw, readable⟩
    rw [validate_of_readable ordered past signed own readable] at accepted
    split at accepted
    · cases accepted
    · next passed =>
        rcases Except.ok.inj accepted with rfl
        rcases (claims_pass_iff ordered readable _).mp passed with ⟨inForce, issued, addressed⟩
        exact ⟨payload, ⟨⟨selection, signed, own⟩, ⟨raw, readable, rfl⟩, issued, addressed⟩,
          inForce⟩
  · rw [validate_of_unfit ordered signed fun fit => readable fit.2] at accepted
    cases accepted

theorem Fits.accepted (ordered : library.ReportsInOrder) (past : 60 ≤ now)
    (fits : Fits library inner keys rawJwt payload claims) (inForce : InForce library payload now) :
    validate library inner (some keys) rawJwt now = .ok claims := by
  rcases fits.signed with ⟨selection, signed, own⟩
  rcases fits.shape with ⟨raw, readable, rfl⟩
  have passed := (claims_pass_iff ordered readable selection.algorithm).mpr
    ⟨inForce, fits.issuer, fits.addressed⟩
  rw [validate_of_readable ordered past signed own readable, passed]

/-- A token is accepted exactly when it fits and is in force. -/
theorem accepted_exactly_when (documented : library.Documented) (ordered : library.ReportsInOrder)
    (past : 60 ≤ now) :
    validate library inner (some keys) rawJwt now = .ok claims ↔
      ∃ payload, Fits library inner keys rawJwt payload claims ∧ InForce library payload now := by
  constructor
  · exact fits_of_accepted documented ordered past
  · rintro ⟨payload, fits, inForce⟩
    exact fits.accepted ordered past inForce

/-- A token of five minutes is accepted in its last second, and not in the next. -/
theorem accepted_exactly_when_of_last_second :
    validate (jwkLibrary goodTokens) sampleValidator (some [sampleJwk]) "rs256" 1360 =
        .ok ⟨"https://idp", "u1", none, none, []⟩ ∧
      (∃ payload, Fits (jwkLibrary goodTokens) sampleValidator [sampleJwk] "rs256" payload
          ⟨"https://idp", "u1", none, none, []⟩ ∧ InForce (jwkLibrary goodTokens) payload 1360) ∧
      ¬ ∃ payload, Fits (jwkLibrary goodTokens) sampleValidator [sampleJwk] "rs256" payload
          ⟨"https://idp", "u1", none, none, []⟩ ∧ InForce (jwkLibrary goodTokens) payload 1361 := by
  have accepted : validate (jwkLibrary goodTokens) sampleValidator (some [sampleJwk]) "rs256" 1360 =
      .ok ⟨"https://idp", "u1", none, none, []⟩ := by decide +kernel
  have refused : validate (jwkLibrary goodTokens) sampleValidator (some [sampleJwk]) "rs256" 1361 ≠
      .ok ⟨"https://idp", "u1", none, none, []⟩ := by decide +kernel
  exact ⟨accepted,
    (accepted_exactly_when jwkLibrary_documented jwkLibrary_reportsInOrder (by decide)).mp accepted,
    fun fits => refused ((accepted_exactly_when jwkLibrary_documented jwkLibrary_reportsInOrder
      (by decide)).mpr fits)⟩

/-! ## One window -/

theorem findKey_append {kid : String} {key : library.CoreJsonWebKey}
    (found : findKey library keys kid = some key) (added : List library.CoreJsonWebKey) :
    findKey library (keys ++ added) kid = some key := by
  unfold findKey at found ⊢
  rw [List.find?_append, found]
  rfl

/-- A token that fits still does when keys are added behind and audiences are
added to the configuration. -/
theorem Fits.widen {wider : ValidatorInner} (fits : Fits library inner keys rawJwt payload claims)
    (added : List library.CoreJsonWebKey) (sameIssuer : wider.issuer = inner.issuer)
    (kept : ∀ audience ∈ inner.audiences, audience ∈ wider.audiences) :
    Fits library wider (keys ++ added) rawJwt payload claims where
  signed := by
    rcases fits.signed with ⟨selection, ⟨⟨kid, named, selected⟩, verified⟩, own⟩
    have stillSelected : Selected library (keys ++ added) kid selection :=
      { selected with found := findKey_append selected.found added }
    exact ⟨selection, ⟨⟨kid, named, stillSelected⟩, verified⟩, own⟩
  shape := fits.shape
  issuer := fits.issuer.trans sameIssuer.symm
  addressed audiences named := by
    rcases fits.addressed audiences named with ⟨audience, listed, configured⟩
    exact ⟨audience, listed, kept audience configured⟩

/-- A token says the same whenever it fits. -/
theorem Fits.unique {other : Json} {others : Claims}
    (fits : Fits library inner keys rawJwt payload claims)
    (again : Fits library inner keys rawJwt other others) : other = payload ∧ others = claims := by
  rcases fits.shape with ⟨raw, readable, rfl⟩
  rcases again.shape with ⟨otherRaw, otherReadable, rfl⟩
  rcases Option.some.inj (readable.stated.symm.trans otherReadable.stated) with rfl
  rcases Option.some.inj (readable.deserialized.symm.trans otherReadable.deserialized) with rfl
  exact ⟨rfl, rfl⟩

/-- A token that is accepted at two times is accepted at every time between them,
with the same claims, also after keys have been added behind those of the set and
audiences to the configuration. -/
theorem acceptance_is_a_window (documented : library.Documented)
    (ordered : library.ReportsInOrder) {early late : Nat} (past : 60 ≤ early) {others : Claims}
    (before : validate library inner (some keys) rawJwt early = .ok claims)
    (after : validate library inner (some keys) rawJwt late = .ok others)
    (first : early ≤ now) (last : now ≤ late) {wider : ValidatorInner}
    (sameIssuer : wider.issuer = inner.issuer)
    (kept : ∀ audience ∈ inner.audiences, audience ∈ wider.audiences)
    (added : List library.CoreJsonWebKey) :
    validate library wider (some (keys ++ added)) rawJwt now = .ok claims ∧ others = claims := by
  have pastNow := Nat.le_trans past first
  have pastLate := Nat.le_trans pastNow last
  rcases fits_of_accepted documented ordered past before with ⟨payload, fits, began⟩
  rcases fits_of_accepted documented ordered pastLate after with ⟨other, again, unexpired⟩
  rcases fits.unique again with ⟨rfl, rfl⟩
  have widened := fits.widen added sameIssuer kept
  exact ⟨widened.accepted ordered pastNow (began.between unexpired first last), rfl⟩

def widerValidator : ValidatorInner := ⟨"https://idp", ["other", "api"]⟩

/-- A token that is good at its issue and at its expiry is good in between, for a
validator with one more audience and one more key. -/
theorem acceptance_is_a_window_of_good_token :
    validate (jwkLibrary goodTokens) widerValidator (some ([sampleJwk] ++ [ed25519Jwk])) "rs256"
      1200 = .ok ⟨"https://idp", "u1", none, none, []⟩ := by
  have before : validate (jwkLibrary goodTokens) sampleValidator (some [sampleJwk]) "rs256" 1000 =
      .ok ⟨"https://idp", "u1", none, none, []⟩ := by decide +kernel
  have after : validate (jwkLibrary goodTokens) sampleValidator (some [sampleJwk]) "rs256" 1300 =
      .ok ⟨"https://idp", "u1", none, none, []⟩ := by decide +kernel
  have sameIssuer : widerValidator.issuer = sampleValidator.issuer := rfl
  have kept : ∀ audience ∈ sampleValidator.audiences, audience ∈ widerValidator.audiences := by
    decide
  have first : 1000 ≤ 1200 := by decide
  have last : 1200 ≤ 1300 := by decide
  exact (acceptance_is_a_window jwkLibrary_documented jwkLibrary_reportsInOrder (by decide) before
    after first last sameIssuer kept _).1

end Validation
end OidcRs
