import OidcRs.Validation.ReferenceLibrary
import OidcRs.Validation.Validator

namespace OidcRs
namespace Validation

open Foundation

/-!
# What an accepted token has been checked for

Every check the validator relies on is one it selects or one the JWT library
makes by default.  The library compares an audience that the token carries but
does not ask for one, and the validator does not add `aud` to the claims it
requires: a token that names no audience passes.
-/

variable {library : JwtLibrary} {inner : ValidatorInner} {keys : List library.CoreJsonWebKey}
  {rawJwt : String} {now : Nat} {claims : Claims}

/-! ## Reading the payload -/

theorem required_string {fields : List (String × Json)} {name text : String}
    (read : Json.required Json.asString fields name = some text) :
    claim (.obj fields) name = some (.str text) := by
  unfold Json.required at read
  split at read
  · next value found =>
      simp only [claim, found]
      cases value <;> cases read
      rfl
  · cases read
  · cases read

theorem optional_string {fields : List (String × Json)} {name : String} {text : Option String}
    (read : Json.optional Json.asString fields name = some text) :
    (claim (.obj fields) name).bind Json.asString = text := by
  unfold Json.optional at read
  split at read
  · next absent =>
      simp only [claim, absent]
      exact Option.some.inj read
  · next value found =>
      simp only [claim, found, Option.bind_some]
      cases value <;> cases read <;> rfl
  · cases read

/-- The decoded claims are those of the payload, if it is a record. -/
theorem deserialize_reads {fields : List (String × Json)} {raw : RawClaims}
    (deserialized : RawClaims.deserialize (.obj fields) = some raw) :
    claim (.obj fields) "iss" = some (.str raw.iss) ∧
      claim (.obj fields) "sub" = some (.str raw.sub) ∧
      (claim (.obj fields) "email").bind Json.asString = raw.email ∧
      (claim (.obj fields) "name").bind Json.asString = raw.name := by
  simp only [RawClaims.deserialize, Option.bind_eq_bind, Option.bind_eq_some_iff] at deserialized
  rcases deserialized with
    ⟨iss, readIss, sub, readSub, email, readEmail, name, readName, _, _, _, _, same⟩
  rcases Option.some.inj same with rfl
  exact ⟨required_string readIss, required_string readSub, optional_string readEmail,
    optional_string readName⟩

/-! ## The checks -/

/-- The token is signed by a key of the set that its `kid` names, under the
algorithm derived for the key. -/
def Signed (library : JwtLibrary) (keys : List library.CoreJsonWebKey) (rawJwt : String) : Prop :=
  ∃ key ∈ keys, ∃ header kid json jwk algorithm decodingKey,
    library.decodeHeader rawJwt = some header ∧ header.kid = some kid ∧
    library.keyId key = some kid ∧ library.keyUse key ≠ some .encryption ∧
    library.toValue key = some json ∧ library.fromValue json = some jwk ∧
    deriveAlgorithm library jwk = .ok algorithm ∧ library.fromJwk jwk = some decodingKey ∧
    library.verifies rawJwt algorithm decodingKey = true ∧ header.alg = algorithm

/-- An audience the payload names is configured. -/
def Addressed (inner : ValidatorInner) (payload : Json) : Prop :=
  ∃ audiences, (claim payload "aud").bind principals = some audiences ∧
    ∃ audience ∈ audiences, audience ∈ inner.audiences

/-- The claims hold at this time, apart from the audience. -/
structure Current (library : JwtLibrary) (inner : ValidatorInner) (payload : Json) (now : Nat)
    (claims : Claims) : Prop where
  issuer : claim payload "iss" = some (.str inner.issuer)
  expiry : ∃ exp, date library.numericDate payload "exp" = some exp ∧ now ≤ exp + 60
  notBefore : Begun library.numericDate payload (now + 60)
  iss : claim payload "iss" = some (.str claims.iss)
  sub : claim payload "sub" = some (.str claims.sub)
  email : (claim payload "email").bind Json.asString = claims.email
  name : (claim payload "name").bind Json.asString = claims.name

/-- Everything an accepted token should have been checked for. -/
def SoundlyAccepted (library : JwtLibrary) (inner : ValidatorInner)
    (keys : List library.CoreJsonWebKey) (rawJwt : String) (now : Nat) (claims : Claims) : Prop :=
  Signed library keys rawJwt ∧ ∃ payload, library.payload rawJwt = some payload ∧
    Current library inner payload now claims ∧ Addressed inner payload

/-- The token names its audiences: `aud` is a string or a list of strings. -/
def NamesAudience (library : JwtLibrary) (rawJwt : String) : Prop :=
  ∃ payload audiences, library.payload rawJwt = some payload ∧
    (claim payload "aud").bind principals = some audiences

variable {key : library.CoreJsonWebKey} {jwk : Jwk} {algorithm : Algorithm}
  {decodingKey : library.DecodingKey} {raw : RawClaims}

/-- The signature, the key and the algorithm of an accepted token. -/
theorem Validated.signed (documented : library.Documented)
    (validated : Validated library inner (some keys) rawJwt now claims key jwk algorithm
      decodingKey raw) : Signed library keys rawJwt := by
  rcases validated.loaded with ⟨loadedKeys, loaded, member⟩
  rcases Option.some.inj loaded with rfl
  rcases validated.selected with ⟨header, kid, parsed, named, keyed⟩
  rcases validated.recoded with ⟨json, serialized, deserialized⟩
  rcases documented.checks_algorithm _ _ _ _ _ validated.decoded with
    ⟨checked, parsedChecked, accepted⟩
  rcases Option.some.inj (parsed.symm.trans parsedChecked) with rfl
  rw [validation_eq documented.new_validation, List.mem_singleton] at accepted
  have verified := documented.checks_signature _ _ _ _ _ header validated.decoded parsed
  rw [accepted] at verified
  exact ⟨key, member, header, kid, json, jwk, algorithm, decodingKey, parsed, named, keyed,
    validated.usable, serialized, deserialized, validated.derived, validated.imported, verified,
    accepted⟩

/-- The payload of an accepted token is a record: its `exp` has been found by
name. -/
theorem Validated.payload (documented : library.Documented)
    (validated : Validated library inner (some keys) rawJwt now claims key jwk algorithm
      decodingKey raw) :
    ∃ fields exp, library.payload rawJwt = some (.obj fields) ∧
      RawClaims.deserialize (.obj fields) = some raw ∧
      date library.numericDate (.obj fields) "exp" = some exp := by
  rcases documented.decodes _ _ _ _ _ validated.decoded with ⟨payload, stated, deserialized⟩
  have present := documented.requires _ _ _ _ _ payload "exp" validated.decoded stated
    (by rw [validation_eq documented.new_validation]; exact List.mem_singleton_self _)
  rcases Option.isSome_iff_exists.mp present with ⟨exp, read⟩
  cases payload with
  | obj fields => exact ⟨fields, exp, stated, deserialized, read⟩
  | null | bool | unsigned | negative | float | str | arr => cases read

/-- The claims of an accepted token hold, apart from the audience. -/
theorem Validated.current (documented : library.Documented)
    (validated : Validated library inner (some keys) rawJwt now claims key jwk algorithm
      decodingKey raw) :
    ∃ payload, library.payload rawJwt = some payload ∧
      Current library inner payload now claims := by
  rcases validated.payload documented with ⟨fields, exp, stated, deserialized, read⟩
  rcases deserialize_reads deserialized with ⟨iss, sub, email, name⟩
  have options := validation_eq documented.new_validation inner algorithm
  refine ⟨.obj fields, stated, ?_⟩
  rcases validated.claims with rfl
  have decoded := validated.decoded
  rw [options] at decoded
  rcases documented.compares_iss _ _ _ _ _ _ [raw.iss] _ decoded stated rfl (by rw [iss]; rfl) with
    ⟨issuer, named, accepted⟩
  rcases List.mem_singleton.mp named with rfl
  exact
    { issuer := by rw [← List.mem_singleton.mp accepted]; exact iss
      expiry := ⟨exp, read, documented.compares_exp _ _ _ _ _ _ exp decoded stated rfl read⟩
      notBefore := documented.compares_nbf _ _ _ _ _ _ decoded stated rfl
      iss := iss
      sub := sub
      email := email
      name := name }

/-- An audience that is named has been compared. -/
theorem Validated.addressed (documented : library.Documented)
    (validated : Validated library inner (some keys) rawJwt now claims key jwk algorithm
      decodingKey raw) {payload : Json} {audiences : List String}
    (stated : library.payload rawJwt = some payload)
    (named : (claim payload "aud").bind principals = some audiences) : Addressed inner payload := by
  have decoded := validated.decoded
  rw [validation_eq documented.new_validation] at decoded
  exact ⟨audiences, named,
    documented.compares_aud _ _ _ _ _ _ audiences _ decoded stated rfl rfl named⟩

/-- A token that `validate` accepts has been checked for everything it should
have been checked for exactly when it names an audience. -/
theorem soundly_accepted_iff_names_audience (documented : library.Documented)
    (accepted : validate library inner (some keys) rawJwt now = .ok claims) :
    SoundlyAccepted library inner keys rawJwt now claims ↔ NamesAudience library rawJwt := by
  rcases validate_ok accepted with ⟨key, jwk, algorithm, decodingKey, raw, validated⟩
  constructor
  · rintro ⟨_, payload, stated, _, audiences, named, _⟩
    exact ⟨payload, audiences, stated, named⟩
  · rintro ⟨payload, audiences, stated, named⟩
    rcases validated.current documented with ⟨there, statedThere, current⟩
    rcases Option.some.inj (stated.symm.trans statedThere) with rfl
    exact ⟨validated.signed documented, payload, stated, current,
      validated.addressed documented stated named⟩

theorem soundly_accepted_iff_names_audience_of_sample :
    validate (referenceLibrary sampleTokens) sampleValidator (some [sampleKey]) "jwt" 1200 =
        .ok ⟨"https://idp", "u1", none, none, ["read", "write"]⟩ ∧
      (SoundlyAccepted (referenceLibrary sampleTokens) sampleValidator [sampleKey] "jwt" 1200
          ⟨"https://idp", "u1", none, none, ["read", "write"]⟩ ↔
        NamesAudience (referenceLibrary sampleTokens) "jwt") := by
  have accepted : validate (referenceLibrary sampleTokens) sampleValidator (some [sampleKey]) "jwt"
      1200 = .ok ⟨"https://idp", "u1", none, none, ["read", "write"]⟩ := by decide +kernel
  exact ⟨accepted, soundly_accepted_iff_names_audience referenceLibrary_documented accepted⟩

/-- A token without an audience is accepted by a validator that has one
configured. -/
theorem not_soundly_accepted_without_audience :
    (referenceLibrary sampleTokens).Documented ∧
      validate (referenceLibrary sampleTokens) sampleValidator (some [sampleKey]) "unaddressed"
        1200 = .ok ⟨"https://idp", "u1", none, none, []⟩ ∧
      ¬ SoundlyAccepted (referenceLibrary sampleTokens) sampleValidator [sampleKey] "unaddressed"
        1200 ⟨"https://idp", "u1", none, none, []⟩ := by
  refine ⟨referenceLibrary_documented, by decide +kernel, ?_⟩
  rintro ⟨_, payload, stated, _, audiences, named, _⟩
  have same : (sampleToken []).payload = payload := Option.some.inj stated
  subst same
  have nothing : (claim (sampleToken []).payload "aud").isNone = true := by decide +kernel
  rw [Option.isNone_iff_eq_none.mp nothing] at named
  cases named

end Validation
end OidcRs
