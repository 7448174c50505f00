import OidcRs.Validation.Acceptance
import OidcRs.Validation.Verdicts

namespace OidcRs
namespace Validation

open Foundation

/-!
# Which correctly signed tokens are accepted

A token is looked up by its `kid` in the order of the key set, and the first
key found is the only one tried.  A key that declares no algorithm has one by
its type, and only two types have one.  So a good token is accepted if the
first key with its `kid` signed it under that algorithm, and may be refused if
a later one did or the key's type has another algorithm.
-/

variable {library : JwtLibrary} {inner : ValidatorInner} {keys : List library.CoreJsonWebKey}
  {rawJwt : String} {now : Nat} {view : library.CoreJsonWebKey → Jwk}
  {produced : Jwk → Algorithm → String → Prop}

/-! ## Good tokens -/

/-- What is documented about keys and signatures: a key goes through JSON without
loss, and a signature verifies under the key and the algorithm that produced
it. -/
structure JwtLibrary.VerifiesProduced (library : JwtLibrary)
    (view : library.CoreJsonWebKey → Jwk) (produced : Jwk → Algorithm → String → Prop) : Prop where
  lossless : ∀ key, (library.toValue key).bind library.fromValue = some (view key)
  verifies : ∀ jwk algorithm token, produced jwk algorithm token →
    ∃ decodingKey, library.fromJwk jwk = some decodingKey ∧
      library.verifies token algorithm decodingKey = true

/-- The algorithm of a key: the one it declares, else one by its type. -/
def ownAlgorithm (library : JwtLibrary) (byType : AlgorithmParameters → Option Algorithm)
    (jwk : Jwk) : Option Algorithm :=
  match jwk.keyAlgorithm with
  | some declared => library.algorithmFromStr declared
  | none => byType jwk.algorithm

/-- The algorithm that the type of a key stands for. -/
def standardAlgorithm : AlgorithmParameters → Option Algorithm
  | .rsa _ _ => some .rs256
  | .ellipticCurve .p256 _ _ => some .es256
  | .ellipticCurve .p384 _ _ => some .es384
  | .octetKeyPair .ed25519 _ => some .edDsa
  | .ellipticCurve .p521 _ _ | .ellipticCurve .ed25519 _ _ | .octetKeyPair .p256 _
  | .octetKeyPair .p384 _ | .octetKeyPair .p521 _ | .octetKey _ => none

/-- The algorithm that `derive_algorithm` falls back on. -/
def fallbackAlgorithm : AlgorithmParameters → Option Algorithm
  | .rsa _ _ => some .rs256
  | .ellipticCurve _ _ _ => some .es256
  | .octetKey _ | .octetKeyPair _ _ => none

/-- The key has the token's `kid`, is not for encryption, and produced the
signature under the header's algorithm, which is the key's own. -/
structure SignedWith (library : JwtLibrary) (view : library.CoreJsonWebKey → Jwk)
    (produced : Jwk → Algorithm → String → Prop)
    (byType : AlgorithmParameters → Option Algorithm) (key : library.CoreJsonWebKey)
    (rawJwt kid : String) : Prop where
  named : library.keyId key = some kid
  usable : library.keyUse key ≠ some .encryption
  signature : ∃ header, library.decodeHeader rawJwt = some header ∧ header.kid = some kid ∧
    ownAlgorithm library byType (view key) = some header.alg ∧
    produced (view key) header.alg rawJwt

/-- The claims have the expected shape and hold at this time. -/
structure ClaimsHold (library : JwtLibrary) (inner : ValidatorInner) (rawJwt : String) (now : Nat)
    (payload : Json) (raw : RawClaims) : Prop where
  readable : Readable library rawJwt payload raw
  issuer : claim payload "iss" = some (.str inner.issuer)
  expiry : ∃ exp, date library.numericDate payload "exp" = some exp ∧ now ≤ exp + 60
  notBefore : Begun library.numericDate payload (now + 60)
  addressed : Addressed inner payload

/-- Every good token is accepted, whichever key of the set signed it. -/
def AcceptsGoodTokens (library : JwtLibrary) (view : library.CoreJsonWebKey → Jwk)
    (produced : Jwk → Algorithm → String → Prop) : Prop :=
  ∀ (inner : ValidatorInner) (keys : List library.CoreJsonWebKey) (rawJwt kid : String)
    (now : Nat) (payload : Json) (raw : RawClaims), ∀ key ∈ keys,
    SignedWith library view produced standardAlgorithm key rawJwt kid →
    ClaimsHold library inner rawJwt now payload raw →
    ∃ claims, validate library inner (some keys) rawJwt now = .ok claims

/-! ## The checks of the claims -/

/-- The token has begun to be valid and has not expired, give or take a minute. -/
structure InForce (library : JwtLibrary) (payload : Json) (now : Nat) : Prop where
  begun : Begun library.numericDate payload (now + 60)
  unexpired : ∃ exp, date library.numericDate payload "exp" = some exp ∧ now ≤ exp + 60

theorem names_iff {accepted : List String} {named : Option (List String)} :
    names (some accepted) named = true ↔
      ∀ listed, named = some listed → ∃ name ∈ listed, name ∈ accepted := by
  cases named with
  | none => simp [names]
  | some listed => simp [names]

/-- A payload of the expected shape names one issuer. -/
theorem Readable.issuer {payload : Json} {raw : RawClaims}
    (readable : Readable library rawJwt payload raw) :
    (claim payload "iss").bind principals = some [raw.iss] := by
  cases payload with
  | obj fields =>
      rw [(deserialize_reads readable.deserialized).1]
      rfl
  | null | bool | unsigned | negative | float | str | arr => cases readable.once

/-- The claims pass every check exactly when the token is in force, of the issuer
and, if it names an audience, for the validator. -/
theorem claims_pass_iff (ordered : library.ReportsInOrder) {payload : Json} {raw : RawClaims}
    (readable : Readable library rawJwt payload raw) (algorithm : Algorithm) :
    firstFailure (claimChecks library.readsDatesFirst library.numericDate payload
        (validation library inner algorithm) now) = none ↔
      InForce library payload now ∧ raw.iss = inner.issuer ∧
        ∀ audiences, (claim payload "aud").bind principals = some audiences →
          ∃ audience ∈ audiences, audience ∈ inner.audiences := by
  rw [validation_eq ordered.new_validation, firstFailure_eq_none_iff, claimChecks]
  simp only [List.forall_mem_append, dateChecks_pass_iff, readable.issuer, List.map_cons,
    List.map_nil, List.forall_mem_cons, List.mem_singleton, forall_eq, Bool.not_true,
    Bool.false_or, forall_const, carries_exp_iff, unexpired_iff, names_iff, Option.some.injEq,
    forall_eq', exists_eq_left]
  constructor
  · rintro ⟨⟨exp, there⟩, ⟨⟨_, fresh⟩, begun⟩, issued, addressed⟩
    exact ⟨⟨begun, exp, there, fresh exp there⟩, issued, addressed⟩
  · rintro ⟨⟨begun, exp, there, fresh⟩, issued, addressed⟩
    have carried := dateReadable_exp_of_carries (carries_exp_iff.mpr ⟨exp, there⟩)
    refine ⟨⟨exp, there⟩, ⟨⟨carried, fun other same => ?_⟩, begun⟩, issued, addressed⟩
    rcases Option.some.inj (there.symm.trans same) with rfl
    exact fresh

/-! ## From the first key to the verdict -/

theorem findKey_of_first {before after : List library.CoreJsonWebKey}
    {key : library.CoreJsonWebKey} {kid : String} (named : library.keyId key = some kid)
    (first : ∀ earlier ∈ before, library.keyId earlier ≠ some kid) :
    findKey library (before ++ key :: after) kid = some key := by
  apply List.find?_eq_some_iff_append.mpr
  refine ⟨by simp [named], before, after, rfl, fun earlier member => ?_⟩
  cases there : library.keyId earlier with
  | none => rfl
  | some other =>
      have differs : other ≠ kid := fun same => first earlier member (by rw [there, same])
      simp [differs]

theorem deriveAlgorithm_of_ownAlgorithm {jwk : Jwk} {algorithm : Algorithm}
    (own : ownAlgorithm library fallbackAlgorithm jwk = some algorithm) :
    deriveAlgorithm library jwk = .ok algorithm := by
  cases declares : jwk.keyAlgorithm with
  | some declared =>
      have known : library.algorithmFromStr declared = some algorithm := by
        simpa only [ownAlgorithm, declares] using own
      simp only [deriveAlgorithm, declares, known]
      rfl
  | none =>
      have byType : fallbackAlgorithm jwk.algorithm = some algorithm := by
        simpa only [ownAlgorithm, declares] using own
      simp only [deriveAlgorithm, declares]
      cases parameters : jwk.algorithm with
      | rsa | ellipticCurve =>
          rw [parameters] at byType
          exact congrArg Except.ok (Option.some.inj byType)
      | octetKey | octetKeyPair =>
          rw [parameters] at byType
          cases byType

/-- The first key with the `kid`, if it signed the token, is selected. -/
theorem SignedWith.correctlySigned (documented : library.VerifiesProduced view produced)
    {before : List library.CoreJsonWebKey} {key : library.CoreJsonWebKey} {kid : String}
    (first : ∀ earlier ∈ before, library.keyId earlier ≠ some kid)
    (signed : SignedWith library view produced fallbackAlgorithm key rawJwt kid)
    (after : List library.CoreJsonWebKey) :
    ∃ selection, CorrectlySigned library (before ++ key :: after) rawJwt selection ∧
      UnderOwnAlgorithm library rawJwt selection.algorithm := by
  rcases signed.signature with ⟨header, parsed, there, own, signature⟩
  rcases documented.verifies _ _ _ signature with ⟨decodingKey, imported, verified⟩
  refine ⟨⟨key, view key, header.alg, decodingKey⟩, ⟨⟨kid, ?_, ?_⟩, verified⟩, header, parsed, rfl⟩
  · rw [tokenKid, parsed, Option.bind_some, there]
  · exact
      { found := findKey_of_first signed.named first
        recoded := documented.lossless key
        usable := signed.usable
        derived := deriveAlgorithm_of_ownAlgorithm own
        imported := imported }

/-- Claims that hold pass every check. -/
theorem ClaimsHold.passes (ordered : library.ReportsInOrder) {payload : Json} {raw : RawClaims}
    (holds : ClaimsHold library inner rawJwt now payload raw) (algorithm : Algorithm) :
    firstFailure (claimChecks library.readsDatesFirst library.numericDate payload
      (validation library inner algorithm) now) = none := by
  have issued : some [raw.iss] = some [inner.issuer] := by
    rw [← holds.readable.issuer, holds.issuer]
    rfl
  rcases holds.addressed with ⟨audiences, named, addressed⟩
  refine (claims_pass_iff ordered holds.readable algorithm).mpr
    ⟨⟨holds.notBefore, holds.expiry⟩, (List.cons.inj (Option.some.inj issued)).1, ?_⟩
  intro others namedToo
  rcases Option.some.inj (named.symm.trans namedToo) with rfl
  exact addressed

/-- A token is accepted if the first key with its `kid` signed it, under the
algorithm that the key declares or that its type falls back on, and its claims
hold. -/
theorem accepted_of_first_key (ordered : library.ReportsInOrder)
    (documented : library.VerifiesProduced view produced) (past : 60 ≤ now)
    {before after : List library.CoreJsonWebKey} {key : library.CoreJsonWebKey} {kid : String}
    {payload : Json} {raw : RawClaims}
    (first : ∀ earlier ∈ before, library.keyId earlier ≠ some kid)
    (signed : SignedWith library view produced fallbackAlgorithm key rawJwt kid)
    (holds : ClaimsHold library inner rawJwt now payload raw) :
    validate library inner (some (before ++ key :: after)) rawJwt now = .ok (toClaims raw) := by
  rcases signed.correctlySigned documented first after with ⟨selection, correct, own⟩
  rw [validate_of_readable ordered past correct own holds.readable, holds.passes ordered _]

/-! ## Good tokens in circulation -/

/-- A token is produced by the key whose parameters signed it. -/
def issuedWith (tokens : String → Option IssuedToken) (jwk : Jwk) (algorithm : Algorithm)
    (token : String) : Prop :=
  issuedUnder tokens token algorithm jwk.algorithm = true

theorem jwkLibrary_verifiesProduced {tokens : String → Option IssuedToken} :
    (jwkLibrary tokens).VerifiesProduced PublishedJwk.jwk (issuedWith tokens) where
  lossless := jwkLibrary_lossless
  verifies jwk _ _ signature := ⟨jwk.algorithm, rfl, signature⟩

def p384Jwk : PublishedJwk := ⟨some "k2", some .signature, ⟨none, .ellipticCurve .p384 "x2" "y2"⟩⟩

def ed25519Jwk : PublishedJwk := ⟨some "k3", some .signature, ⟨none, .octetKeyPair .ed25519 "x3"⟩⟩

/-- An encryption key under the `kid` of the sample key. -/
def shadowingJwk : PublishedJwk := ⟨some "k1", some .encryption, ⟨none, .rsa "n0" "e0"⟩⟩

def goodPayload : Json := (sampleToken [("aud", .str "api")]).payload

/-- One token for each of the keys, signed under the algorithm of its type. -/
def goodTokens : String → Option IssuedToken
  | "rs256" => some ⟨⟨.rs256, some "k1"⟩, goodPayload, sampleJwk.jwk.algorithm⟩
  | "es384" => some ⟨⟨.es384, some "k2"⟩, goodPayload, p384Jwk.jwk.algorithm⟩
  | "eddsa" => some ⟨⟨.edDsa, some "k3"⟩, goodPayload, ed25519Jwk.jwk.algorithm⟩
  | _ => none

theorem goodPayload_holds {rawJwt : String}
    (stated : (jwkLibrary goodTokens).payload rawJwt = some goodPayload) :
    ClaimsHold (jwkLibrary goodTokens) sampleValidator rawJwt 1200 goodPayload
      ⟨"https://idp", "u1", none, none, none, none⟩ where
  readable := ⟨stated, by decide +kernel, by decide +kernel⟩
  issuer := rfl
  expiry := ⟨1300, by decide +kernel, by decide⟩
  notBefore value there := by
    have absent : (claim goodPayload "nbf").isNone = true := by decide +kernel
    rw [Option.isNone_iff_eq_none.mp absent] at there
    cases there
  addressed := ⟨["api"], by decide +kernel, "api", List.mem_cons_self, List.mem_cons_self⟩

/-- The sample key is found behind keys of other types with other `kid`s. -/
theorem accepted_of_first_key_of_mixed_set :
    validate (jwkLibrary goodTokens) sampleValidator (some [ed25519Jwk, p384Jwk, sampleJwk])
      "rs256" 1200 = .ok ⟨"https://idp", "u1", none, none, []⟩ := by
  have first : ∀ earlier ∈ [ed25519Jwk, p384Jwk], earlier.id ≠ some "k1" := by decide
  have signed : SignedWith (jwkLibrary goodTokens) PublishedJwk.jwk (issuedWith goodTokens)
      fallbackAlgorithm sampleJwk "rs256" "k1" :=
    ⟨rfl, by decide, ⟨.rs256, some "k1"⟩, rfl, rfl, rfl, by unfold issuedWith; decide +kernel⟩
  change validate (jwkLibrary goodTokens) sampleValidator
    (some ([ed25519Jwk, p384Jwk] ++ sampleJwk :: [])) "rs256" 1200 = _
  exact accepted_of_first_key jwkLibrary_reportsInOrder jwkLibrary_verifiesProduced (by decide) first
    signed (goodPayload_holds rfl)

/-- A good token that is refused for its signature. -/
structure RefusedThoughGood (keys : List PublishedJwk) (key : PublishedJwk)
    (rawJwt kid : String) : Prop where
  member : key ∈ keys
  signed : SignedWith (jwkLibrary goodTokens) PublishedJwk.jwk (issuedWith goodTokens)
    standardAlgorithm key rawJwt kid
  refused : validate (jwkLibrary goodTokens) sampleValidator (some keys) rawJwt 1200 =
    .error .badSignature

/-- Good tokens are refused when an encryption key comes first, and when the key
declares no algorithm and is on another curve than the fallback is for. -/
theorem not_acceptsGoodTokens :
    (jwkLibrary goodTokens).ReportsInOrder ∧
      (jwkLibrary goodTokens).VerifiesProduced PublishedJwk.jwk (issuedWith goodTokens) ∧
      RefusedThoughGood [shadowingJwk, sampleJwk] sampleJwk "rs256" "k1" ∧
      RefusedThoughGood [p384Jwk] p384Jwk "es384" "k2" ∧
      RefusedThoughGood [ed25519Jwk] ed25519Jwk "eddsa" "k3" ∧
      ¬ AcceptsGoodTokens (jwkLibrary goodTokens) PublishedJwk.jwk (issuedWith goodTokens) := by
  have shadowed : RefusedThoughGood [shadowingJwk, sampleJwk] sampleJwk "rs256" "k1" :=
    { member := by decide
      signed := ⟨rfl, by decide, ⟨.rs256, some "k1"⟩, rfl, rfl, rfl,
        by unfold issuedWith; decide +kernel⟩
      refused := by decide +kernel }
  refine ⟨jwkLibrary_reportsInOrder, jwkLibrary_verifiesProduced, shadowed,
    { member := by decide
      signed := ⟨rfl, by decide, ⟨.es384, some "k2"⟩, rfl, rfl, rfl,
        by unfold issuedWith; decide +kernel⟩
      refused := by decide +kernel },
    { member := by decide
      signed := ⟨rfl, by decide, ⟨.edDsa, some "k3"⟩, rfl, rfl, rfl,
        by unfold issuedWith; decide +kernel⟩
      refused := by decide +kernel }, ?_⟩
  intro accepts
  rcases accepts sampleValidator _ _ _ 1200 _ _ _ shadowed.member shadowed.signed
    (goodPayload_holds rfl) with ⟨claims, accepted⟩
  rw [shadowed.refused] at accepted
  cases accepted

end Validation
end OidcRs
