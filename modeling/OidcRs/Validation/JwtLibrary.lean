import OidcRs.Foundation.Json

namespace OidcRs
namespace Validation

open Foundation

/-!
# The libraries behind the validator

Parsing a token, verifying its signature and comparing its registered claims
are the work of the JWT library; the key set comes from the OIDC library.
Neither is in the repository, so both are a parameter of everything below, and
what is documented about them is a list of named hypotheses.
-/

/-- The JWA algorithms a token can be signed with. -/
inductive Algorithm
  | hs256 | hs384 | hs512
  | es256 | es384
  | rs256 | rs384 | rs512
  | ps256 | ps384 | ps512
  | edDsa
  deriving DecidableEq

inductive KeyFamily
  | hmac | rsa | ec | ed
  deriving DecidableEq

def Algorithm.family : Algorithm → KeyFamily
  | hs256 | hs384 | hs512 => .hmac
  | es256 | es384 => .ec
  | rs256 | rs384 | rs512 | ps256 | ps384 | ps512 => .rsa
  | edDsa => .ed

/-- A key's published purpose. -/
inductive KeyUse
  | signature
  | encryption
  | other (purpose : String)
  deriving DecidableEq

inductive EllipticCurve
  | p256 | p384 | p521 | ed25519
  deriving DecidableEq

inductive AlgorithmParameters
  | ellipticCurve (curve : EllipticCurve) (x y : String)
  | rsa (n e : String)
  | octetKey (value : String)
  | octetKeyPair (curve : EllipticCurve) (x : String)
  deriving DecidableEq

/-- A key as the JWT library represents it.  The declared algorithm is kept as
it is displayed. -/
structure Jwk where
  keyAlgorithm : Option String
  algorithm : AlgorithmParameters
  deriving DecidableEq

structure Header where
  alg : Algorithm
  kid : Option String
  deriving DecidableEq

/-- The options of a validation that this crate sets or relies on. -/
structure ValidationOptions where
  algorithms : List Algorithm
  requiredSpecClaims : List String
  leeway : Nat
  validateExp : Bool
  validateNbf : Bool
  validateAud : Bool
  aud : Option (List String)
  iss : Option (List String)
  deriving DecidableEq

inductive ErrorKind
  | invalidToken
  | invalidSignature
  | invalidAlgorithm
  | json
  | missingRequiredClaim (claim : String)
  | invalidClaimFormat (claim : String)
  | expiredSignature
  | immatureSignature
  | invalidIssuer
  | invalidAudience
  | other (name : String)
  deriving DecidableEq

/-! ## Claims in the payload -/

/-- The claims this crate decodes. -/
structure RawClaims where
  iss : String
  sub : String
  email : Option String
  name : Option String
  scope : Option String
  scp : Option (List String)
  deriving DecidableEq

/-- An optional element of a record written as an array. -/
def optionalAt {Value : Type} (decode : Json → Option Value) (items : List Json) (index : Nat) :
    Option (Option Value) :=
  match items[index]? with
  | some value => Json.nullable decode value
  | none => some none

/-- The derived decoder: a record with named fields, or the same fields in
order in an array. -/
def RawClaims.deserialize : Json → Option RawClaims
  | .obj fields => do
      let iss ← Json.required Json.asString fields "iss"
      let sub ← Json.required Json.asString fields "sub"
      let email ← Json.optional Json.asString fields "email"
      let name ← Json.optional Json.asString fields "name"
      let scope ← Json.optional Json.asString fields "scope"
      let scp ← Json.optional Json.asStrings fields "scp"
      pure ⟨iss, sub, email, name, scope, scp⟩
  | .arr (.str iss :: .str sub :: rest) => do
      guard (rest.length ≤ 4)
      let email ← optionalAt Json.asString rest 0
      let name ← optionalAt Json.asString rest 1
      let scope ← optionalAt Json.asString rest 2
      let scp ← optionalAt Json.asStrings rest 3
      pure ⟨iss, sub, email, name, scope, scp⟩
  | _ => none

/-- The claim of a name, if the payload is a record that has it once. -/
def claim (payload : Json) (name : String) : Option Json :=
  match payload with
  | .obj fields =>
      match Json.readField fields name with
      | .found value => some value
      | .absent | .repeated => none
  | _ => none

/-- The principals named by an `iss` or `aud` claim: one, or a list. -/
def principals : Json → Option (List String)
  | .str name => some [name]
  | .arr items => items.mapM Json.asString
  | _ => none

/-- A date claim, if the payload has it and it can be read as a number of
seconds. -/
def date (numericDate : Json → Option Nat) (payload : Json) (name : String) : Option Nat :=
  (claim payload name).bind numericDate

/-- `nbf`, if the payload has it, can be read and is at most this second. -/
def Begun (numericDate : Json → Option Nat) (payload : Json) (second : Nat) : Prop :=
  ∀ value, claim payload "nbf" = some value → ∃ nbf, numericDate value = some nbf ∧ nbf ≤ second

/-- A registered claim is carried when it is present in a form that can be
read. -/
def carries (numericDate : Json → Option Nat) (payload : Json) (name : String) : Bool :=
  match name with
  | "exp" | "nbf" => (date numericDate payload name).isSome
  | "iss" | "aud" => ((claim payload name).bind principals).isSome
  | "sub" => ((claim payload name).bind Json.asString).isSome
  | _ => true

/-! ## The parameter -/

/-- What the repository calls of the two libraries.  The fields from `payload` to
`readsDatesFirst` are the parts of `decode` that its documentation speaks of. -/
structure JwtLibrary where
  CoreJsonWebKey : Type
  keyId : CoreJsonWebKey → Option String
  keyUse : CoreJsonWebKey → Option KeyUse
  toValue : CoreJsonWebKey → Option Json
  fromValue : Json → Option Jwk
  algorithmFromStr : String → Option Algorithm
  DecodingKey : Type
  fromJwk : Jwk → Option DecodingKey
  keyFamily : DecodingKey → KeyFamily
  newValidation : Algorithm → ValidationOptions
  decodeHeader : String → Option Header
  payload : String → Option Json
  /-- the third part of a token, decoded -/
  signature : String → Option ByteArray
  verifies : String → Algorithm → DecodingKey → Bool
  numericDate : Json → Option Nat
  /-- whether both dates are read before either is compared -/
  readsDatesFirst : Bool
  /-- `decode::<RawClaims>` at a system time in seconds -/
  decode : String → DecodingKey → ValidationOptions → Nat → Except ErrorKind RawClaims

namespace JwtLibrary

/-- The options of a fresh validation, as documented: `exp` is required, `exp`
and `aud` are compared, and one algorithm is accepted. -/
def defaultOptions (algorithm : Algorithm) : ValidationOptions where
  algorithms := [algorithm]
  requiredSpecClaims := ["exp"]
  leeway := 60
  validateExp := true
  validateNbf := false
  validateAud := true
  aud := none
  iss := none

/-- What is documented about a `decode` that succeeds, and about the options it
is given. -/
structure Documented (library : JwtLibrary) : Prop where
  new_validation : ∀ algorithm, library.newValidation algorithm = defaultOptions algorithm
  decodes : ∀ token key options now raw, library.decode token key options now = .ok raw →
    ∃ payload, library.payload token = some payload ∧ RawClaims.deserialize payload = some raw
  checks_algorithm : ∀ token key options now raw,
    library.decode token key options now = .ok raw →
    ∃ header, library.decodeHeader token = some header ∧ header.alg ∈ options.algorithms
  checks_family : ∀ token key options now raw header,
    library.decode token key options now = .ok raw → library.decodeHeader token = some header →
    library.keyFamily key = header.alg.family
  checks_signature : ∀ token key options now raw header,
    library.decode token key options now = .ok raw → library.decodeHeader token = some header →
    library.verifies token header.alg key = true
  requires : ∀ token key options now raw payload name,
    library.decode token key options now = .ok raw → library.payload token = some payload →
    name ∈ options.requiredSpecClaims → carries library.numericDate payload name = true
  compares_exp : ∀ token key options now raw payload exp,
    library.decode token key options now = .ok raw → library.payload token = some payload →
    options.validateExp = true → date library.numericDate payload "exp" = some exp →
    now ≤ exp + options.leeway
  compares_nbf : ∀ token key options now raw payload,
    library.decode token key options now = .ok raw → library.payload token = some payload →
    options.validateNbf = true → Begun library.numericDate payload (now + options.leeway)
  compares_iss : ∀ token key options now raw payload issuers accepted,
    library.decode token key options now = .ok raw → library.payload token = some payload →
    options.iss = some accepted → (claim payload "iss").bind principals = some issuers →
    ∃ issuer ∈ issuers, issuer ∈ accepted
  compares_aud : ∀ token key options now raw payload audiences accepted,
    library.decode token key options now = .ok raw → library.payload token = some payload →
    options.validateAud = true → options.aud = some accepted →
    (claim payload "aud").bind principals = some audiences →
    ∃ audience ∈ audiences, audience ∈ accepted

end JwtLibrary
end Validation
end OidcRs
