import OidcRs.Validation.ReferenceLibrary
import OidcRs.Validation.Validator

namespace OidcRs
namespace Validation

open Foundation

/-!
# Which key verifies a token, and under which algorithm

Between parsing the header and decoding the token, `validate` looks at the
`kid` and at nothing else of the token.  The steps in between are taken out
here as `select`: what they choose depends on the key set and the `kid` alone.
-/

variable {library : JwtLibrary}

theorem okOr_some {Value : Type} (error : AuthError) (value : Value) :
    okOr error (some value) = .ok value := rfl

theorem ok_bind {Error Value Result : Type} (value : Value)
    (rest : Value → Except Error Result) : (Except.ok value >>= rest) = rest value := rfl

/-- What a token is verified with: a key of the set and what is derived from
it. -/
structure Selection (library : JwtLibrary) where
  key : library.CoreJsonWebKey
  jwk : Jwk
  algorithm : Algorithm
  decodingKey : library.DecodingKey

/-- The `kid` of a token's header. -/
def tokenKid (library : JwtLibrary) (rawJwt : String) : Option String :=
  (library.decodeHeader rawJwt).bind Header.kid

/-- From the `kid` to the key and the algorithm. -/
def select (library : JwtLibrary) (keys : List library.CoreJsonWebKey) (kid : String) :
    Except AuthError (Selection library) := do
  let key ← okOr .badSignature (findKey library keys kid)
  let jwkJson ← okOr (.idpMalformedResponse "jwk serialize") (library.toValue key)
  let jwk ← okOr (.idpMalformedResponse "jwk deserialize") (library.fromValue jwkJson)
  refuseEncryption (library.keyUse key)
  let algorithm ← deriveAlgorithm library jwk
  let decodingKey ← okOr .badSignature (library.fromJwk jwk)
  pure ⟨key, jwk, algorithm, decodingKey⟩

/-- Decoding a token with what has been selected. -/
def Selection.verify (selection : Selection library) (inner : ValidatorInner) (rawJwt : String)
    (now : Nat) : Except AuthError Claims := do
  let raw ← (library.decode rawJwt selection.decodingKey
    (validation library inner selection.algorithm) now).mapError (decodeError inner)
  pure (toClaims raw)

section Loaded

variable {inner : ValidatorInner} {keys : List library.CoreJsonWebKey} {rawJwt kid : String}
  {now : Nat}

/-- A token whose header cannot be parsed, or has no `kid`, is malformed. -/
theorem validate_of_no_kid (unnamed : tokenKid library rawJwt = none) :
    validate library inner (some keys) rawJwt now = .error .malformedHeader := by
  unfold tokenKid at unnamed
  unfold validate
  cases parsed : library.decodeHeader rawJwt with
  | none => rfl
  | some header =>
      rw [parsed, Option.bind_some] at unnamed
      change (okOr .malformedHeader header.kid >>= _) = _
      rw [unnamed]
      rfl

/-- With the key set loaded, `validate` selects by the `kid` and then decodes. -/
theorem validate_of_kid (named : tokenKid library rawJwt = some kid) :
    validate library inner (some keys) rawJwt now =
      select library keys kid >>= fun selection => selection.verify inner rawJwt now := by
  rcases Option.bind_eq_some_iff.mp named with ⟨header, parsed, there⟩
  unfold validate select
  simp only [parsed, okOr_some, ok_bind, there, bind_assoc, pure_bind]
  rfl

end Loaded

/-- The steps behind a selection. -/
structure Selected (library : JwtLibrary) (keys : List library.CoreJsonWebKey) (kid : String)
    (selection : Selection library) : Prop where
  found : findKey library keys kid = some selection.key
  recoded : (library.toValue selection.key).bind library.fromValue = some selection.jwk
  usable : library.keyUse selection.key ≠ some .encryption
  derived : deriveAlgorithm library selection.jwk = .ok selection.algorithm
  imported : library.fromJwk selection.jwk = some selection.decodingKey

theorem select_eq_ok_iff {keys : List library.CoreJsonWebKey} {kid : String}
    {selection : Selection library} :
    select library keys kid = .ok selection ↔ Selected library keys kid selection := by
  constructor
  · intro chosen
    rcases bind_eq_ok chosen with ⟨key, found, chosen⟩
    rcases bind_eq_ok chosen with ⟨json, serialized, chosen⟩
    rcases bind_eq_ok chosen with ⟨jwk, deserialized, chosen⟩
    rcases bind_eq_ok chosen with ⟨_, allowed, chosen⟩
    rcases bind_eq_ok chosen with ⟨algorithm, derived, chosen⟩
    rcases bind_eq_ok chosen with ⟨decodingKey, imported, chosen⟩
    rcases Except.ok.inj chosen with rfl
    refine ⟨okOr_eq_ok found, ?_, ?_, derived, okOr_eq_ok imported⟩
    · rw [okOr_eq_ok serialized, Option.bind_some, okOr_eq_ok deserialized]
    · intro encryption
      rw [refuseEncryption, if_pos encryption] at allowed
      cases allowed
  · rintro ⟨found, recoded, usable, derived, imported⟩
    rcases Option.bind_eq_some_iff.mp recoded with ⟨json, serialized, deserialized⟩
    unfold select
    simp only [found, serialized, deserialized, imported, derived, refuseEncryption, usable,
      okOr_some, ok_bind, if_false]
    rfl

/-! ## Whom an error blames -/

/-- The error says that something is wrong with the `Authorization` header. -/
def blamesHeader : AuthError → Bool
  | .missingHeader | .malformedHeader => true
  | .expired | .badSignature | .badIssuer _ | .badAudience | .idpUnreachable _ | .idpRejected
  | .idpMalformedResponse _ => false

/-- The error says that something is wrong with the IdP. -/
def blamesIdp : AuthError → Bool
  | .idpUnreachable _ | .idpMalformedResponse _ => true
  | .missingHeader | .malformedHeader | .expired | .badSignature | .badIssuer _ | .badAudience
  | .idpRejected => false

/-- No error of this outcome puts this blame. -/
def Spares (blames : AuthError → Bool) {Value : Type} (outcome : Except AuthError Value) : Prop :=
  ∀ error, outcome = .error error → blames error = false

section Blame

variable {blames : AuthError → Bool} {inner : ValidatorInner} {keys : List library.CoreJsonWebKey}
  {rawJwt kid : String} {now : Nat} {failure : AuthError}

namespace Spares

variable {Value Result : Type}

theorem ok (value : Value) : Spares blames (.ok value) := by
  intro error failed
  cases failed

theorem error {error : AuthError} (spares : blames error = false) :
    Spares blames (Except.error error : Except AuthError Value) := by
  intro raised failed
  rwa [← Except.error.inj failed]

theorem bind {first : Except AuthError Value} {rest : Value → Except AuthError Result}
    (spares : Spares blames first) (later : ∀ value, Spares blames (rest value)) :
    Spares blames (first >>= rest) := by
  cases first with
  | error raised => exact error (spares raised rfl)
  | ok value => exact later value

theorem okOr {raised : AuthError} (spares : blames raised = false) (found : Option Value) :
    Spares blames (okOr raised found) := by
  cases found with
  | none => exact error spares
  | some value => exact ok value

end Spares

theorem refuseEncryption_spares (signature : blames .badSignature = false)
    (keyUse : Option KeyUse) : Spares blames (refuseEncryption keyUse) := by
  unfold refuseEncryption
  split
  · exact .error signature
  · exact .ok _

theorem deriveAlgorithm_spares (signature : blames .badSignature = false) (jwk : Jwk) :
    Spares blames (deriveAlgorithm library jwk) := by
  unfold deriveAlgorithm
  split
  · exact .okOr signature _
  · split
    · exact .ok _
    · exact .ok _
    · exact .error signature
    · exact .error signature

/-- Choosing a key fails for the key's sake. -/
theorem select_spares (signature : blames .badSignature = false)
    (unreadable : ∀ detail, blames (.idpMalformedResponse detail) = false) :
    Spares blames (select library keys kid) := by
  unfold select
  exact .bind (.okOr signature _) fun key => .bind (.okOr (unreadable _) _) fun json =>
    .bind (.okOr (unreadable _) _) fun jwk => .bind (refuseEncryption_spares signature _) fun _ =>
    .bind (deriveAlgorithm_spares signature jwk) fun algorithm => .bind (.okOr signature _)
    fun decodingKey => .ok _

theorem verify_spares (decoding : ∀ kind, blames (decodeError inner kind) = false)
    (selection : Selection library) : Spares blames (selection.verify inner rawJwt now) := by
  refine .bind ?_ fun raw => .ok _
  intro error failed
  cases decoded : library.decode rawJwt selection.decodingKey
      (validation library inner selection.algorithm) now with
  | ok raw =>
      rw [decoded] at failed
      cases failed
  | error kind =>
      rw [decoded] at failed
      rw [← Except.error.inj failed]
      exact decoding kind

/-- A loaded validator speaks of the header only if the token has no `kid`. -/
theorem validate_error (refused : validate library inner (some keys) rawJwt now = .error failure) :
    failure = .malformedHeader ∧ tokenKid library rawJwt = none ∨ blamesHeader failure = false := by
  cases named : tokenKid library rawJwt with
  | none =>
      rw [validate_of_no_kid named] at refused
      exact Or.inl ⟨(Except.error.inj refused).symm, rfl⟩
  | some kid =>
      rw [validate_of_kid named] at refused
      have spares : Spares blamesHeader (select library keys kid >>= fun selection =>
          selection.verify inner rawJwt now) :=
        .bind (select_spares rfl fun _ => rfl) (verify_spares fun kind => by cases kind <;> rfl)
      exact Or.inr (spares failure refused)

/-- The key that the token's `kid` selects is lost on its way through JSON. -/
def KeyLost (library : JwtLibrary) (keys : List library.CoreJsonWebKey) (rawJwt : String) : Prop :=
  ∃ kid key, tokenKid library rawJwt = some kid ∧ findKey library keys kid = some key ∧
    (library.toValue key).bind library.fromValue = none

theorem validate_of_keyLost (lost : KeyLost library keys rawJwt) (inner : ValidatorInner)
    (now : Nat) :
    ∃ detail, validate library inner (some keys) rawJwt now =
      .error (.idpMalformedResponse detail) := by
  rcases lost with ⟨kid, key, named, found, lost⟩
  rw [validate_of_kid named]
  unfold select
  simp only [found, okOr_some, ok_bind]
  cases serialized : library.toValue key with
  | none => exact ⟨_, rfl⟩
  | some json =>
      rw [serialized, Option.bind_some] at lost
      simp only [okOr_some, ok_bind, lost]
      exact ⟨_, rfl⟩

/-- A loaded validator speaks of the IdP only if the selected key is lost. -/
theorem keyLost_of_blamesIdp
    (refused : validate library inner (some keys) rawJwt now = .error failure)
    (blamed : blamesIdp failure = true) : KeyLost library keys rawJwt := by
  cases named : tokenKid library rawJwt with
  | none =>
      rw [validate_of_no_kid named] at refused
      rw [← Except.error.inj refused] at blamed
      cases blamed
  | some kid =>
      by_contra kept
      have spares : Spares blamesIdp (validate library inner (some keys) rawJwt now) := by
        rw [validate_of_kid named]
        refine .bind ?_ (verify_spares fun kind => by cases kind <;> rfl)
        unfold select
        cases found : findKey library keys kid with
        | none => exact .error rfl
        | some key =>
            cases recoded : (library.toValue key).bind library.fromValue with
            | none => exact absurd ⟨kid, key, named, found, recoded⟩ kept
            | some jwk =>
                rcases Option.bind_eq_some_iff.mp recoded with ⟨json, serialized, deserialized⟩
                simp only [okOr_some, ok_bind, serialized, deserialized]
                exact .bind (refuseEncryption_spares rfl _) fun _ =>
                  .bind (deriveAlgorithm_spares rfl jwk) fun algorithm => .bind (.okOr rfl _)
                  fun decodingKey => .ok _
      rw [spares failure refused] at blamed
      cases blamed

end Blame

/-! ## No algorithm confusion -/

/-- The family of key that the parameters of a JWK describe. -/
def AlgorithmParameters.family : AlgorithmParameters → KeyFamily
  | rsa _ _ => .rsa
  | ellipticCurve _ _ _ => .ec
  | octetKey _ => .hmac
  | octetKeyPair _ _ => .ed

/-- What is documented about the algorithm a token is decoded under: a fresh
validation accepts the one it is made for, and a decoding that succeeds has
compared it with the header and with the family of the key. -/
structure JwtLibrary.GuardsAlgorithm (library : JwtLibrary) : Prop where
  accepts_one : ∀ algorithm, (library.newValidation algorithm).algorithms = [algorithm]
  checks_algorithm : ∀ token key options now raw,
    library.decode token key options now = .ok raw →
    ∃ header, library.decodeHeader token = some header ∧ header.alg ∈ options.algorithms
  checks_family : ∀ token key options now raw header,
    library.decode token key options now = .ok raw → library.decodeHeader token = some header →
    library.keyFamily key = header.alg.family
  imports_family : ∀ jwk key, library.fromJwk jwk = some key →
    library.keyFamily key = jwk.algorithm.family

theorem referenceLibrary_guardsAlgorithm {tokens : String → Option SignedToken} :
    (referenceLibrary tokens).GuardsAlgorithm where
  accepts_one _ := rfl
  checks_algorithm := referenceLibrary_documented.checks_algorithm
  checks_family := referenceLibrary_documented.checks_family
  imports_family jwk key imported := by
    have material : rsaFromJwk jwk = some key := imported
    unfold rsaFromJwk at material
    split at material
    · next n e parameters =>
        rw [parameters]
        rfl
    · cases material

/-- Both tokens are verified with the same key under the same algorithm, or
refused alike before anything is verified. -/
def VerifiedAlike (library : JwtLibrary) (inner : ValidatorInner)
    (keys : List library.CoreJsonWebKey) (kid first second : String) (now later : Nat) : Prop :=
  (∃ error, select library keys kid = .error error ∧
    validate library inner (some keys) first now = .error error ∧
    validate library inner (some keys) second later = .error error) ∨
  ∃ selection, select library keys kid = .ok selection ∧
    validate library inner (some keys) first now = selection.verify inner first now ∧
    validate library inner (some keys) second later = selection.verify inner second later

/-- The token was verified under the algorithm its header names, which is the
one derived from the selected key and one of the key's own family. -/
def VerifiedUnderOwnAlgorithm (library : JwtLibrary) (keys : List library.CoreJsonWebKey)
    (rawJwt : String) : Prop :=
  ∃ header kid selection, library.decodeHeader rawJwt = some header ∧ header.kid = some kid ∧
    select library keys kid = .ok selection ∧ header.alg = selection.algorithm ∧
    header.alg.family = selection.jwk.algorithm.family

/-- A token's contents beyond its `kid` never influence how it is verified, and
an accepted token was verified under the algorithm of the selected key. -/
theorem no_algorithm_confusion (guards : library.GuardsAlgorithm) (inner : ValidatorInner)
    (keys : List library.CoreJsonWebKey) :
    (∀ kid first second now later, tokenKid library first = some kid →
      tokenKid library second = some kid →
      VerifiedAlike library inner keys kid first second now later) ∧
    ∀ rawJwt now claims, validate library inner (some keys) rawJwt now = .ok claims →
      VerifiedUnderOwnAlgorithm library keys rawJwt := by
  constructor
  · intro kid first second now later namesFirst namesSecond
    have firstWay : validate library inner (some keys) first now =
        select library keys kid >>= fun selection => selection.verify inner first now :=
      validate_of_kid namesFirst
    have secondWay : validate library inner (some keys) second later =
        select library keys kid >>= fun selection => selection.verify inner second later :=
      validate_of_kid namesSecond
    cases chosen : select library keys kid with
    | error error =>
        rw [chosen] at firstWay secondWay
        exact Or.inl ⟨error, chosen, firstWay, secondWay⟩
    | ok selection =>
        rw [chosen] at firstWay secondWay
        exact Or.inr ⟨selection, chosen, firstWay, secondWay⟩
  · intro rawJwt now claims accepted
    cases named : tokenKid library rawJwt with
    | none =>
        rw [validate_of_no_kid named] at accepted
        cases accepted
    | some kid =>
        rw [validate_of_kid named] at accepted
        rcases bind_eq_ok accepted with ⟨selection, chosen, verified⟩
        rcases bind_eq_ok verified with ⟨raw, decoded, _⟩
        have decoded := mapError_eq_ok decoded
        rcases Option.bind_eq_some_iff.mp named with ⟨header, parsed, there⟩
        rcases guards.checks_algorithm _ _ _ _ _ decoded with ⟨checked, parsedChecked, accepts⟩
        rcases Option.some.inj (parsed.symm.trans parsedChecked) with rfl
        have own : header.alg = selection.algorithm := by
          have listed : header.alg ∈ (library.newValidation selection.algorithm).algorithms :=
            accepts
          rw [guards.accepts_one] at listed
          exact List.mem_singleton.mp listed
        have family := guards.checks_family _ _ _ _ _ header decoded parsed
        have imported := guards.imports_family _ _ (select_eq_ok_iff.mp chosen).imported
        exact ⟨header, kid, selection, parsed, there, chosen, own, family.symm.trans imported⟩

/-- A good token, and one with the same `kid` that claims an HMAC signature. -/
def forgedTokens : String → Option SignedToken
  | "jwt" => some (sampleToken [("aud", .str "api")])
  | "forged" => some { sampleToken [("aud", .str "api")] with header := ⟨.hs256, some "k1"⟩ }
  | _ => none

theorem no_algorithm_confusion_of_forged :
    VerifiedAlike (referenceLibrary forgedTokens) sampleValidator [sampleKey] "k1" "jwt" "forged"
        1200 1200 ∧
      VerifiedUnderOwnAlgorithm (referenceLibrary forgedTokens) [sampleKey] "jwt" := by
  have guards : (referenceLibrary forgedTokens).GuardsAlgorithm := referenceLibrary_guardsAlgorithm
  have holds := no_algorithm_confusion guards sampleValidator [sampleKey]
  have accepted : validate (referenceLibrary forgedTokens) sampleValidator (some [sampleKey]) "jwt"
      1200 = .ok ⟨"https://idp", "u1", none, none, []⟩ := by decide +kernel
  exact ⟨holds.1 "k1" "jwt" "forged" 1200 1200 rfl rfl, holds.2 "jwt" 1200 _ accepted⟩

end Validation
end OidcRs
