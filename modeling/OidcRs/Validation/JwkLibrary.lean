import OidcRs.Validation.Decoding

namespace OidcRs
namespace Validation

open Foundation

/-!
# A library with keys of every type

Here a key set may hold keys of any type and with any declared algorithm, and
the tokens in circulation are given: what each says and the parameters of the
key that signed it.  A key goes through JSON without loss, and a token is
decoded with the documented checks in the documented order.
-/

/-! ## Keys through JSON -/

/-- A key of a published set. -/
structure PublishedJwk where
  id : Option String
  keyUse : Option KeyUse
  jwk : Jwk
  deriving DecidableEq

def EllipticCurve.name : EllipticCurve → String
  | p256 => "P-256"
  | p384 => "P-384"
  | p521 => "P-521"
  | ed25519 => "Ed25519"

def curveFromName (name : String) : Option EllipticCurve :=
  [EllipticCurve.p256, .p384, .p521, .ed25519].find? (fun curve => curve.name = name)

/-- The members of a key's record that depend on its type. -/
def AlgorithmParameters.fields : AlgorithmParameters → List (String × Json)
  | rsa n e => [("kty", .str "RSA"), ("n", .str n), ("e", .str e)]
  | ellipticCurve curve x y =>
      [("kty", .str "EC"), ("crv", .str curve.name), ("x", .str x), ("y", .str y)]
  | octetKey value => [("kty", .str "oct"), ("k", .str value)]
  | octetKeyPair curve x => [("kty", .str "OKP"), ("crv", .str curve.name), ("x", .str x)]

def jwkToValue (jwk : Jwk) : Json :=
  .obj (jwk.algorithm.fields ++ (jwk.keyAlgorithm.map (fun alg => ("alg", Json.str alg))).toList)

def readCurve (fields : List (String × Json)) : Option EllipticCurve :=
  (Json.required Json.asString fields "crv").bind curveFromName

def readParameters (fields : List (String × Json)) : Option AlgorithmParameters :=
  let text := Json.required Json.asString fields
  if text "kty" = some "RSA" then do
    pure (.rsa (← text "n") (← text "e"))
  else if text "kty" = some "EC" then do
    pure (.ellipticCurve (← readCurve fields) (← text "x") (← text "y"))
  else if text "kty" = some "oct" then do
    pure (.octetKey (← text "k"))
  else if text "kty" = some "OKP" then do
    pure (.octetKeyPair (← readCurve fields) (← text "x"))
  else none

def jwkFromValue : Json → Option Jwk
  | .obj fields => do
      let keyAlgorithm ← Json.optional Json.asString fields "alg"
      let algorithm ← readParameters fields
      pure ⟨keyAlgorithm, algorithm⟩
  | _ => none

/-- The way through JSON is lossless. -/
theorem jwkFromValue_jwkToValue (jwk : Jwk) : jwkFromValue (jwkToValue jwk) = some jwk := by
  rcases jwk with ⟨keyAlgorithm, algorithm⟩
  cases algorithm with
  | rsa n e => cases keyAlgorithm <;> rfl
  | ellipticCurve curve x y => cases curve <;> cases keyAlgorithm <;> rfl
  | octetKey value => cases keyAlgorithm <;> rfl
  | octetKeyPair curve x => cases curve <;> cases keyAlgorithm <;> rfl

/-! ## Tokens -/

/-- What a token says and the parameters of the key that signed it. -/
structure IssuedToken where
  header : Header
  payload : Json
  signer : AlgorithmParameters

/-- What stands for the bytes of a signature: the material of the key that made it. -/
def AlgorithmParameters.material : AlgorithmParameters → String
  | rsa n _ => n
  | ellipticCurve _ x _ => x
  | octetKey value => value
  | octetKeyPair _ x => x

def algorithmFromName : String → Option Algorithm
  | "HS256" => some .hs256
  | "HS384" => some .hs384
  | "HS512" => some .hs512
  | "ES256" => some .es256
  | "ES384" => some .es384
  | "EdDSA" => some .edDsa
  | declared => rsaAlgorithmFromStr declared

variable (tokens : String → Option IssuedToken)

def issuedUnder (token : String) (algorithm : Algorithm) (key : AlgorithmParameters) : Bool :=
  match tokens token with
  | some issued =>
      issued.header.alg = algorithm ∧ issued.signer = key ∧ key.family = algorithm.family
  | none => false

def jwkDecode (token : String) (key : AlgorithmParameters) (options : ValidationOptions)
    (now : Nat) : Except ErrorKind RawClaims :=
  match tokens token with
  | none => .error .invalidToken
  | some issued =>
      if issued.header.alg ∉ options.algorithms ∨ key.family ≠ issued.header.alg.family then
        .error .invalidAlgorithm
      else if issuedUnder tokens token issued.header.alg key = false then .error .invalidSignature
      else
        match RawClaims.deserialize issued.payload with
        | none => .error .json
        | some raw =>
            if registeredOnce issued.payload = false then .error .json
            else
              match firstFailure (claimChecks true secondsOf issued.payload options now) with
              | some kind => .error kind
              | none => .ok raw

def jwkLibrary : JwtLibrary where
  CoreJsonWebKey := PublishedJwk
  keyId := PublishedJwk.id
  keyUse := PublishedJwk.keyUse
  toValue key := some (jwkToValue key.jwk)
  fromValue := jwkFromValue
  algorithmFromStr := algorithmFromName
  DecodingKey := AlgorithmParameters
  fromJwk jwk := some jwk.algorithm
  keyFamily := AlgorithmParameters.family
  newValidation := JwtLibrary.defaultOptions
  decodeHeader token := (tokens token).map IssuedToken.header
  payload token := (tokens token).map IssuedToken.payload
  signature token := (tokens token).map (fun issued => issued.signer.material.toUTF8)
  verifies := issuedUnder tokens
  numericDate := secondsOf
  readsDatesFirst := true
  decode := jwkDecode tokens

variable {tokens}

theorem issuedUnder_family {token : String} {algorithm : Algorithm} {key : AlgorithmParameters}
    (verified : issuedUnder tokens token algorithm key = true) :
    key.family = algorithm.family := by
  unfold issuedUnder at verified
  split at verified
  · exact (of_decide_eq_true verified).2.2
  · cases verified

theorem jwkLibrary_lossless (key : PublishedJwk) :
    ((jwkLibrary tokens).toValue key).bind (jwkLibrary tokens).fromValue = some key.jwk :=
  jwkFromValue_jwkToValue key.jwk

/-- The documented order is consistent, for any tokens. -/
theorem jwkLibrary_reportsInOrder : (jwkLibrary tokens).ReportsInOrder where
  new_validation _ := rfl
  verifies_family _ _ _ verified := issuedUnder_family verified
  refuses_algorithm token header key options now parsed refused := by
    rcases Option.map_eq_some_iff.mp parsed with ⟨issued, here, rfl⟩
    refine ⟨.invalidAlgorithm, ?_, rfl⟩
    change jwkDecode tokens token key options now = _
    simp only [jwkDecode, here]
    rw [if_pos (Or.inl refused)]
  refuses_shape token key options now unreadable := by
    change ∃ kind, jwkDecode tokens token key options now = .error kind ∧ _
    unfold jwkDecode
    split
    · exact ⟨_, rfl, rfl⟩
    · next issued here =>
        split
        · exact ⟨_, rfl, rfl⟩
        · split
          · exact ⟨_, rfl, rfl⟩
          · split
            · exact ⟨_, rfl, rfl⟩
            · next raw deserialized =>
                split
                · exact ⟨_, rfl, rfl⟩
                · next once =>
                    refine absurd ?_ (unreadable issued.payload raw)
                    exact ⟨congrArg (Option.map IssuedToken.payload) here, deserialized,
                      by simpa using once⟩
  checks_claims token header key options now payload raw _ parsed accepted families verified
      readable := by
    rcases Option.map_eq_some_iff.mp parsed with ⟨issued, here, rfl⟩
    have stated : (tokens token).map IssuedToken.payload = some payload := readable.stated
    rw [here] at stated
    rcases Option.some.inj stated with rfl
    have signed : issuedUnder tokens token issued.header.alg key = true := verified
    have family : key.family = issued.header.alg.family := families _ accepted
    have decoded : jwkDecode tokens token key options now =
        match firstFailure (claimChecks true secondsOf issued.payload options now) with
        | some kind => .error kind
        | none => .ok raw := by
      simp only [jwkDecode, here]
      rw [if_neg (by simp [accepted, family]), if_neg (by simp [signed])]
      simp only [readable.deserialized, readable.once]
      rfl
    change match firstFailure (claimChecks true secondsOf issued.payload options now) with
      | some kind => ∃ reported, jwkDecode tokens token key options now = .error reported ∧
          kind.ReportedAs reported
      | none => jwkDecode tokens token key options now = .ok raw
    rw [decoded]
    split
    · exact ⟨_, rfl, Or.inl rfl⟩
    · rfl

/-! ## What a decoding that succeeds has checked -/

theorem jwkDecode_ok {token : String} {key : AlgorithmParameters} {options : ValidationOptions}
    {now : Nat} {raw : RawClaims} (decoded : jwkDecode tokens token key options now = .ok raw) :
    ∃ issued, tokens token = some issued ∧ issued.header.alg ∈ options.algorithms ∧
      issuedUnder tokens token issued.header.alg key = true ∧
      RawClaims.deserialize issued.payload = some raw ∧
      ∀ check ∈ claimChecks true secondsOf issued.payload options now, check.1 = true := by
  unfold jwkDecode at decoded
  split at decoded
  · cases decoded
  · next issued here =>
      split at decoded
      · cases decoded
      · next fitting =>
          rw [not_or, Decidable.not_not] at fitting
          split at decoded
          · cases decoded
          · next verified =>
              split at decoded
              · cases decoded
              · next there deserialized =>
                  split at decoded
                  · cases decoded
                  · split at decoded
                    · cases decoded
                    · next passed =>
                        rcases Except.ok.inj decoded with rfl
                        exact ⟨issued, here, fitting.1, by simpa using verified, deserialized,
                          firstFailure_eq_none_iff.mp passed⟩

section Decoded

variable {token : String} {key : AlgorithmParameters} {options : ValidationOptions} {now : Nat}
  {raw : RawClaims}

theorem jwkDecode_header {header : Header}
    (decoded : jwkDecode tokens token key options now = .ok raw)
    (parsed : (tokens token).map IssuedToken.header = some header) :
    header.alg ∈ options.algorithms ∧ issuedUnder tokens token header.alg key = true := by
  rcases jwkDecode_ok decoded with ⟨issued, here, accepted, verified, _⟩
  rw [here] at parsed
  rcases Option.some.inj parsed with rfl
  exact ⟨accepted, verified⟩

theorem jwkDecode_payload {payload : Json}
    (decoded : jwkDecode tokens token key options now = .ok raw)
    (stated : (tokens token).map IssuedToken.payload = some payload) :
    ∀ check ∈ claimChecks true secondsOf payload options now, check.1 = true := by
  rcases jwkDecode_ok decoded with ⟨issued, here, _, _, _, passed⟩
  rw [here] at stated
  rcases Option.some.inj stated with rfl
  exact passed

/-- The dates of a decoded payload can be read and hold. -/
theorem jwkDecode_dates {payload : Json}
    (decoded : jwkDecode tokens token key options now = .ok raw)
    (stated : (tokens token).map IssuedToken.payload = some payload) :
    (options.validateExp = true → dateReadable secondsOf payload "exp" = true ∧
      unexpired secondsOf payload options.leeway now = true) ∧
    (options.validateNbf = true → Begun secondsOf payload (now + options.leeway)) :=
  dateChecks_pass_iff.mp fun check member => jwkDecode_payload decoded stated check
    (List.mem_append_right _ (List.mem_append_left _ member))

end Decoded

/-- What is documented about a decoding that succeeds holds as well. -/
theorem jwkLibrary_documented : (jwkLibrary tokens).Documented where
  new_validation _ := rfl
  decodes token key options now raw decoded := by
    rcases jwkDecode_ok decoded with ⟨issued, here, _, _, deserialized, _⟩
    exact ⟨issued.payload, congrArg (Option.map IssuedToken.payload) here, deserialized⟩
  checks_algorithm token key options now raw decoded := by
    rcases jwkDecode_ok decoded with ⟨issued, here, accepted, _⟩
    exact ⟨issued.header, congrArg (Option.map IssuedToken.header) here, accepted⟩
  checks_family _ _ _ _ _ _ decoded parsed :=
    issuedUnder_family (jwkDecode_header decoded parsed).2
  checks_signature _ _ _ _ _ _ decoded parsed := (jwkDecode_header decoded parsed).2
  requires token key options now raw payload name decoded stated required := by
    have passes := jwkDecode_payload decoded stated (carries secondsOf payload name,
      .missingRequiredClaim name)
    exact passes (List.mem_append_left _ (List.mem_map_of_mem required))
  compares_exp token key options now raw payload exp decoded stated compared there :=
    unexpired_iff.mp ((jwkDecode_dates decoded stated).1 compared).2 exp there
  compares_nbf token key options now raw payload decoded stated compared :=
    (jwkDecode_dates decoded stated).2 compared
  compares_iss token key options now raw payload issuers accepted decoded stated given there := by
    have passes := jwkDecode_payload decoded stated
      (names options.iss ((claim payload "iss").bind principals), .invalidIssuer)
      (List.mem_append_right _ (List.mem_append_right _ (by simp)))
    rw [given, there] at passes
    exact names_some passes
  compares_aud token key options now raw payload audiences accepted decoded stated compared given
      there := by
    have passes := jwkDecode_payload decoded stated
      (!options.validateAud || names options.aud ((claim payload "aud").bind principals),
        .invalidAudience)
      (List.mem_append_right _ (List.mem_append_right _ (by simp)))
    rw [compared, given, there, Bool.not_true, Bool.false_or] at passes
    exact names_some passes

end Validation
end OidcRs
