import OidcRs.Validation.JwtLibrary

namespace OidcRs
namespace Validation

open Foundation

/-!
# A library that behaves as documented

The tokens in circulation are given: what each says and which key signed it.
The library below makes the documented checks in the documented order, so the
hypotheses on the parameter hold of it whatever the tokens are.
-/

/-- A published RSA key. -/
structure PublishedKey where
  id : Option String
  keyUse : Option KeyUse
  alg : Option String
  modulus : String
  exponent : String
  deriving DecidableEq

/-- A key that verifies signatures: modulus and exponent. -/
structure VerifyingKey where
  modulus : String
  exponent : String
  deriving DecidableEq

/-- What a token says and which key signed it. -/
structure SignedToken where
  header : Header
  payload : Json
  signer : VerifyingKey

def PublishedKey.toValue (key : PublishedKey) : Json :=
  .obj ([("kty", .str "RSA"), ("n", .str key.modulus), ("e", .str key.exponent)] ++
    (key.alg.map (fun alg => ("alg", Json.str alg))).toList)

def rsaFromValue : Json → Option Jwk
  | .obj fields =>
      match Json.required Json.asString fields "n", Json.required Json.asString fields "e",
          Json.optional Json.asString fields "alg" with
      | some n, some e, some alg => some ⟨alg, .rsa n e⟩
      | _, _, _ => none
  | _ => none

def rsaAlgorithmFromStr : String → Option Algorithm
  | "RS256" => some .rs256
  | "RS384" => some .rs384
  | "RS512" => some .rs512
  | "PS256" => some .ps256
  | "PS384" => some .ps384
  | "PS512" => some .ps512
  | _ => none

def rsaFromJwk (jwk : Jwk) : Option VerifyingKey :=
  match jwk.algorithm with
  | .rsa n e => some ⟨n, e⟩
  | _ => none

def secondsOf : Json → Option Nat
  | .unsigned seconds => some seconds.toNat
  | _ => none

variable (tokens : String → Option SignedToken)

def signedBy (token : String) (algorithm : Algorithm) (key : VerifyingKey) : Bool :=
  match tokens token with
  | some signed => signed.header.alg = algorithm ∧ signed.signer = key
  | none => false

/-- Whether a claim names somebody the options accept, if both say anything. -/
def names (accepted : Option (List String)) (named : Option (List String)) : Bool :=
  match accepted, named with
  | some accepted, some named => named.any (fun name => decide (name ∈ accepted))
  | _, _ => true

/-- The claim checks, in order. -/
def checkClaims (payload : Json) (options : ValidationOptions) (now : Nat) : Option ErrorKind :=
  match options.requiredSpecClaims.find? (fun name => !carries secondsOf payload name) with
  | some missing => some (.missingRequiredClaim missing)
  | none =>
      if options.validateExp ∧
          (date secondsOf payload "exp").any (fun exp => decide (exp + options.leeway < now)) then
        some .expiredSignature
      else if options.validateNbf ∧
          (claim payload "nbf").any (fun value => (secondsOf value).isNone) then
        some (.invalidClaimFormat "nbf")
      else if options.validateNbf ∧
          (date secondsOf payload "nbf").any (fun nbf => decide (now + options.leeway < nbf)) then
        some .immatureSignature
      else if names options.iss ((claim payload "iss").bind principals) = false then
        some .invalidIssuer
      else if options.validateAud ∧
          names options.aud ((claim payload "aud").bind principals) = false then
        some .invalidAudience
      else none

def referenceDecode (token : String) (key : VerifyingKey) (options : ValidationOptions)
    (now : Nat) : Except ErrorKind RawClaims :=
  match tokens token with
  | none => .error .invalidToken
  | some signed =>
      if signed.header.alg ∉ options.algorithms ∨ signed.header.alg.family ≠ .rsa then
        .error .invalidAlgorithm
      else if signedBy tokens token signed.header.alg key = false then .error .invalidSignature
      else
        match RawClaims.deserialize signed.payload with
        | none => .error .json
        | some raw =>
            match checkClaims signed.payload options now with
            | some kind => .error kind
            | none => .ok raw

def referenceLibrary : JwtLibrary where
  CoreJsonWebKey := PublishedKey
  keyId := PublishedKey.id
  keyUse := PublishedKey.keyUse
  toValue key := some key.toValue
  fromValue := rsaFromValue
  algorithmFromStr := rsaAlgorithmFromStr
  DecodingKey := VerifyingKey
  fromJwk := rsaFromJwk
  keyFamily _ := .rsa
  newValidation := JwtLibrary.defaultOptions
  decodeHeader token := (tokens token).map SignedToken.header
  payload token := (tokens token).map SignedToken.payload
  signature token := (tokens token).map (fun signed => signed.signer.modulus.toUTF8)
  verifies := signedBy tokens
  numericDate := secondsOf
  readsDatesFirst := false
  decode := referenceDecode tokens

variable {tokens}

/-- A successful decoding passed every check. -/
theorem referenceDecode_ok {token : String} {key : VerifyingKey} {options : ValidationOptions}
    {now : Nat} {raw : RawClaims} (decoded : referenceDecode tokens token key options now = .ok raw) :
    ∃ signed, tokens token = some signed ∧ signed.header.alg ∈ options.algorithms ∧
      signed.header.alg.family = .rsa ∧ signedBy tokens token signed.header.alg key = true ∧
      RawClaims.deserialize signed.payload = some raw ∧
      checkClaims signed.payload options now = none := by
  unfold referenceDecode at decoded
  split at decoded
  · cases decoded
  · next signed here =>
      split at decoded
      · cases decoded
      · next fitting =>
          rw [not_or, Decidable.not_not, Decidable.not_not] at fitting
          split at decoded
          · cases decoded
          · next verified =>
              split at decoded
              · cases decoded
              · next there deserialized =>
                  split at decoded
                  · cases decoded
                  · next checked =>
                      rcases Except.ok.inj decoded with rfl
                      exact ⟨signed, here, fitting.1, fitting.2, by simpa using verified,
                        deserialized, checked⟩

/-- Claims that pass the checks satisfy each of them. -/
theorem checkClaims_none {payload : Json} {options : ValidationOptions} {now : Nat}
    (checked : checkClaims payload options now = none) :
    (∀ name ∈ options.requiredSpecClaims, carries secondsOf payload name = true) ∧
      (options.validateExp = true → ∀ exp, date secondsOf payload "exp" = some exp →
        now ≤ exp + options.leeway) ∧
      (options.validateNbf = true → Begun secondsOf payload (now + options.leeway)) ∧
      names options.iss ((claim payload "iss").bind principals) = true ∧
      (options.validateAud = true →
        names options.aud ((claim payload "aud").bind principals) = true) := by
  unfold checkClaims at checked
  split at checked
  · cases checked
  · next present =>
      split at checked
      · cases checked
      · next unexpired =>
          split at checked
          · cases checked
          · next readable =>
              split at checked
              · cases checked
              · next mature =>
                  split at checked
                  · cases checked
                  · next issued =>
                      split at checked
                      · cases checked
                      · next addressed =>
                          refine ⟨fun name member => ?_, fun compared exp there => ?_,
                            fun compared value there => ?_, by simpa using issued,
                            fun compared => ?_⟩
                          · simpa using List.find?_eq_none.mp present name member
                          · simpa [compared, there] using unexpired
                          · cases read : secondsOf value with
                            | none => simp [compared, there, read] at readable
                            | some nbf =>
                                refine ⟨nbf, rfl, ?_⟩
                                simpa [compared, date, there, read] using mature
                          · simpa [compared] using addressed

theorem names_some {accepted named : List String}
    (passes : names (some accepted) (some named) = true) :
    ∃ name ∈ named, name ∈ accepted := by
  simpa [names] using passes

section Decoded

variable {token : String} {key : VerifyingKey} {options : ValidationOptions} {now : Nat}
  {raw : RawClaims}

theorem referenceDecode_header {header : Header}
    (decoded : referenceDecode tokens token key options now = .ok raw)
    (parsed : (tokens token).map SignedToken.header = some header) :
    header.alg ∈ options.algorithms ∧ header.alg.family = .rsa ∧
      signedBy tokens token header.alg key = true := by
  rcases referenceDecode_ok decoded with ⟨signed, here, accepted, family, verified, _⟩
  rw [here] at parsed
  rcases Option.some.inj parsed with rfl
  exact ⟨accepted, family, verified⟩

theorem referenceDecode_payload {payload : Json}
    (decoded : referenceDecode tokens token key options now = .ok raw)
    (stated : (tokens token).map SignedToken.payload = some payload) :
    checkClaims payload options now = none := by
  rcases referenceDecode_ok decoded with ⟨signed, here, _, _, _, _, checked⟩
  rw [here] at stated
  rcases Option.some.inj stated with rfl
  exact checked

end Decoded

/-- The documented behaviour is consistent, for any tokens. -/
theorem referenceLibrary_documented : (referenceLibrary tokens).Documented where
  new_validation _ := rfl
  decodes token key options now raw decoded := by
    rcases referenceDecode_ok decoded with ⟨signed, here, _, _, _, deserialized, _⟩
    exact ⟨signed.payload, congrArg (Option.map SignedToken.payload) here, deserialized⟩
  checks_algorithm token key options now raw decoded := by
    rcases referenceDecode_ok decoded with ⟨signed, here, accepted, _⟩
    exact ⟨signed.header, congrArg (Option.map SignedToken.header) here, accepted⟩
  checks_family _ _ _ _ _ _ decoded parsed := (referenceDecode_header decoded parsed).2.1.symm
  checks_signature _ _ _ _ _ _ decoded parsed := (referenceDecode_header decoded parsed).2.2
  requires _ _ _ _ _ _ name decoded stated required :=
    (checkClaims_none (referenceDecode_payload decoded stated)).1 name required
  compares_exp _ _ _ _ _ _ exp decoded stated compared there :=
    (checkClaims_none (referenceDecode_payload decoded stated)).2.1 compared exp there
  compares_nbf _ _ _ _ _ _ decoded stated compared :=
    (checkClaims_none (referenceDecode_payload decoded stated)).2.2.1 compared
  compares_iss token key options now raw payload issuers accepted decoded stated given there := by
    have passes := (checkClaims_none (referenceDecode_payload decoded stated)).2.2.2.1
    rw [given, there] at passes
    exact names_some passes
  compares_aud token key options now raw payload audiences accepted decoded stated compared given
      there := by
    have passes := (checkClaims_none (referenceDecode_payload decoded stated)).2.2.2.2 compared
    rw [given, there] at passes
    exact names_some passes

/-! ## Two tokens in circulation -/

def sampleKey : PublishedKey := ⟨some "k1", some .signature, some "RS256", "n1", "e1"⟩

/-- Signed by the sample key at second 1000, for five minutes. -/
def sampleToken (claims : List (String × Json)) : SignedToken where
  header := ⟨.rs256, some "k1"⟩
  payload := .obj ([("iss", .str "https://idp"), ("sub", .str "u1"), ("iat", .unsigned 1000),
    ("exp", .unsigned 1300)] ++ claims)
  signer := ⟨"n1", "e1"⟩

/-- One token names its audience, the other does not. -/
def sampleTokens : String → Option SignedToken
  | "jwt" => some (sampleToken [("aud", .str "api"), ("scope", .str "read  write")])
  | "unaddressed" => some (sampleToken [])
  | _ => none

end Validation
end OidcRs
