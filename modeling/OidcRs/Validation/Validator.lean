import Mathlib.Order.Basic
import OidcRs.Foundation.Checks
import OidcRs.Foundation.Text
import OidcRs.Identity
import OidcRs.Validation.JwtLibrary

namespace OidcRs
namespace Validation

open Foundation

/-!
# Validating a token against a key set

`validate` as the source has it, on the key set it has read from the shared
cell and at the system time at which it decodes.  Which steps a successful
validation went through is stated once, in `validate_ok`.
-/

/-- The fixed part of a validator. -/
structure ValidatorInner where
  issuer : String
  audiences : List String
  deriving DecidableEq

/-- `Option::ok_or` -/
def okOr {Value : Type} (error : AuthError) : Option Value → Except AuthError Value
  | some value => .ok value
  | none => .error error

theorem okOr_eq_ok {Value : Type} {error : AuthError} {found : Option Value} {value : Value}
    (isOk : okOr error found = .ok value) : found = some value := by
  cases found with
  | none => cases isOk
  | some there => exact congrArg some (Except.ok.inj isOk)

def parseScopes (scope : Option String) (scp : Option (List String)) : List String :=
  match scope with
  | some text => (Text.splitWhitespace text.toList).map String.ofList
  | none =>
      match scp with
      | some items => items
      | none => []

/-- Pick an algorithm for a key: the one it declares, else one per key type. -/
def deriveAlgorithm (library : JwtLibrary) (jwk : Jwk) : Except AuthError Algorithm :=
  match jwk.keyAlgorithm with
  | some declared => okOr .badSignature (library.algorithmFromStr declared)
  | none =>
      match jwk.algorithm with
      | .rsa _ _ => .ok .rs256
      | .ellipticCurve _ _ _ => .ok .es256
      | .octetKey _ | .octetKeyPair _ _ => .error .badSignature

/-- The options a token is decoded with. -/
def validation (library : JwtLibrary) (inner : ValidatorInner) (algorithm : Algorithm) :
    ValidationOptions :=
  { library.newValidation algorithm with
    iss := some [inner.issuer]
    aud := some inner.audiences
    validateNbf := true
    leeway := 60 }

/-- `required_spec_claims` stays as it is in a fresh validation. -/
theorem validation_eq {library : JwtLibrary}
    (fresh : ∀ algorithm, library.newValidation algorithm = JwtLibrary.defaultOptions algorithm)
    (inner : ValidatorInner) (algorithm : Algorithm) : validation library inner algorithm =
      ⟨[algorithm], ["exp"], 60, true, true, true, some inner.audiences, some [inner.issuer]⟩ := by
  rw [validation, fresh]
  rfl

/-- What a failed decoding is reported as. -/
def decodeError (inner : ValidatorInner) : ErrorKind → AuthError
  | .expiredSignature => .expired
  | .invalidAudience => .badAudience
  | .invalidIssuer => .badIssuer inner.issuer
  | _ => .badSignature

def toClaims (raw : RawClaims) : Claims where
  iss := raw.iss
  sub := raw.sub
  email := raw.email
  name := raw.name
  scopes := parseScopes raw.scope raw.scp

/-- The key a `kid` selects: the first that has it. -/
def findKey (library : JwtLibrary) (keys : List library.CoreJsonWebKey) (kid : String) :
    Option library.CoreJsonWebKey :=
  keys.find? (fun key => ((library.keyId key).map (fun id => decide (id = kid))).getD false)

/-- Defence in depth: refuse a key published as encryption-only. -/
def refuseEncryption (keyUse : Option KeyUse) : Except AuthError Unit :=
  if keyUse = some .encryption then .error .badSignature else .ok ()

def validate (library : JwtLibrary) (inner : ValidatorInner)
    (jwks : Option (List library.CoreJsonWebKey)) (rawJwt : String) (now : Nat) :
    Except AuthError Claims := do
  let keys ← okOr (.idpUnreachable "jwks not loaded yet") jwks
  let header ← okOr .malformedHeader (library.decodeHeader rawJwt)
  let kid ← okOr .malformedHeader header.kid
  let jwk ← okOr .badSignature (findKey library keys kid)
  let jwkJson ← okOr (.idpMalformedResponse "jwk serialize") (library.toValue jwk)
  let jwtJwk ← okOr (.idpMalformedResponse "jwk deserialize") (library.fromValue jwkJson)
  refuseEncryption (library.keyUse jwk)
  let algorithm ← deriveAlgorithm library jwtJwk
  let decodingKey ← okOr .badSignature (library.fromJwk jwtJwk)
  let raw ← (library.decode rawJwt decodingKey (validation library inner algorithm) now).mapError
    (decodeError inner)
  pure (toClaims raw)

/-- The key and the decoding behind a successful validation. -/
structure Validated (library : JwtLibrary) (inner : ValidatorInner)
    (jwks : Option (List library.CoreJsonWebKey)) (rawJwt : String) (now : Nat) (claims : Claims)
    (key : library.CoreJsonWebKey) (jwk : Jwk) (algorithm : Algorithm)
    (decodingKey : library.DecodingKey) (raw : RawClaims) : Prop where
  loaded : ∃ keys, jwks = some keys ∧ key ∈ keys
  selected : ∃ header kid, library.decodeHeader rawJwt = some header ∧ header.kid = some kid ∧
    library.keyId key = some kid
  recoded : ∃ json, library.toValue key = some json ∧ library.fromValue json = some jwk
  usable : library.keyUse key ≠ some .encryption
  derived : deriveAlgorithm library jwk = .ok algorithm
  imported : library.fromJwk jwk = some decodingKey
  decoded : library.decode rawJwt decodingKey (validation library inner algorithm) now = .ok raw
  claims : toClaims raw = claims

theorem findKey_some {library : JwtLibrary} {keys : List library.CoreJsonWebKey} {kid : String}
    {key : library.CoreJsonWebKey} (found : findKey library keys kid = some key) :
    key ∈ keys ∧ library.keyId key = some kid := by
  refine ⟨List.mem_of_find?_eq_some found, ?_⟩
  have matched := List.find?_some found
  cases named : library.keyId key with
  | none =>
      rw [named] at matched
      cases matched
  | some id =>
      rw [named, Option.map_some, Option.getD_some, decide_eq_true_eq] at matched
      rw [matched]

theorem validate_ok {library : JwtLibrary} {inner : ValidatorInner}
    {jwks : Option (List library.CoreJsonWebKey)} {rawJwt : String} {now : Nat} {claims : Claims}
    (accepted : validate library inner jwks rawJwt now = .ok claims) :
    ∃ key jwk algorithm decodingKey raw,
      Validated library inner jwks rawJwt now claims key jwk algorithm decodingKey raw := by
  rcases bind_eq_ok accepted with ⟨keys, loaded, accepted⟩
  rcases bind_eq_ok accepted with ⟨header, parsed, accepted⟩
  rcases bind_eq_ok accepted with ⟨kid, named, accepted⟩
  rcases bind_eq_ok accepted with ⟨key, found, accepted⟩
  rcases bind_eq_ok accepted with ⟨json, serialized, accepted⟩
  rcases bind_eq_ok accepted with ⟨jwk, deserialized, accepted⟩
  rcases bind_eq_ok accepted with ⟨_, allowed, accepted⟩
  rcases bind_eq_ok accepted with ⟨algorithm, derived, accepted⟩
  rcases bind_eq_ok accepted with ⟨decodingKey, imported, accepted⟩
  rcases bind_eq_ok accepted with ⟨raw, decoded, accepted⟩
  rcases findKey_some (okOr_eq_ok found) with ⟨member, keyed⟩
  refine ⟨key, jwk, algorithm, decodingKey, raw, ⟨keys, okOr_eq_ok loaded, member⟩,
    ⟨header, kid, okOr_eq_ok parsed, okOr_eq_ok named, keyed⟩,
    ⟨json, okOr_eq_ok serialized, okOr_eq_ok deserialized⟩, ?_, derived, okOr_eq_ok imported,
    mapError_eq_ok decoded, Except.ok.inj accepted⟩
  intro encryption
  rw [refuseEncryption, if_pos encryption] at allowed
  cases allowed

def sampleValidator : ValidatorInner := ⟨"https://idp", ["api"]⟩

end Validation
end OidcRs
