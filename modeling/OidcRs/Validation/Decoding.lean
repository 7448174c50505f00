import OidcRs.Foundation.Checks
import OidcRs.Validation.Selection

namespace OidcRs
namespace Validation

open Foundation

/-!
# The order in which a decoding checks

A decoding reports the first check that fails: the algorithm, the shape of the
payload, then the registered claims one after another.  The order is documented
behaviour of the JWT library and a list of hypotheses on the parameter.  Whether
an unreadable `nbf` is found before an expiry that has passed is not documented,
so that is left to the parameter as well.
-/

/-! ## The checks of a decoding -/

/-- The payload is a record in which no registered claim is written twice. -/
def registeredOnce : Json → Bool
  | .obj fields =>
      ["exp", "nbf", "sub", "iss", "aud"].all (fun name =>
        match Json.readField fields name with
        | .repeated => false
        | .absent | .found _ => true)
  | _ => false

/-- A date, if the payload has it, can be read. -/
def dateReadable (numericDate : Json → Option Nat) (payload : Json) (name : String) : Bool :=
  (claim payload name).all (fun value => (numericDate value).isSome)

/-- The token has not expired, as far as it says. -/
def unexpired (numericDate : Json → Option Nat) (payload : Json) (leeway now : Nat) : Bool :=
  (date numericDate payload "exp").all (fun exp => decide (now ≤ exp + leeway))

/-- The token is already valid, as far as it says. -/
def mature (numericDate : Json → Option Nat) (payload : Json) (leeway now : Nat) : Bool :=
  (date numericDate payload "nbf").all (fun nbf => decide (nbf ≤ now + leeway))

section Times

variable {numericDate : Json → Option Nat} {payload : Json} {leeway now : Nat}

theorem carries_exp_iff : carries numericDate payload "exp" = true ↔
    ∃ exp, date numericDate payload "exp" = some exp :=
  Option.isSome_iff_exists

theorem unexpired_iff : unexpired numericDate payload leeway now = true ↔
    ∀ exp, date numericDate payload "exp" = some exp → now ≤ exp + leeway := by
  unfold unexpired
  simp only [Option.all_eq_true, decide_eq_true_eq]

theorem unexpired_eq_false_iff : unexpired numericDate payload leeway now = false ↔
    ∃ exp, date numericDate payload "exp" = some exp ∧ exp + leeway < now := by
  rw [← Bool.not_eq_true, unexpired_iff]
  simp only [not_forall, exists_prop, Nat.not_le]

theorem mature_iff : mature numericDate payload leeway now = true ↔
    ∀ nbf, date numericDate payload "nbf" = some nbf → nbf ≤ now + leeway := by
  unfold mature
  simp only [Option.all_eq_true, decide_eq_true_eq]

theorem begun_iff : Begun numericDate payload (now + leeway) ↔
    dateReadable numericDate payload "nbf" = true ∧ mature numericDate payload leeway now = true := by
  rw [mature_iff]
  unfold Begun dateReadable date
  simp only [Option.all_eq_true, Option.isSome_iff_exists, Option.bind_eq_some_iff]
  constructor
  · intro begun
    constructor
    · intro value there
      rcases begun value there with ⟨nbf, read, _⟩
      exact ⟨nbf, read⟩
    · rintro nbf ⟨value, there, read⟩
      rcases begun value there with ⟨other, readOther, reached⟩
      rwa [Option.some.inj (read.symm.trans readOther)]
  · rintro ⟨readable, reached⟩ value there
    rcases readable value there with ⟨nbf, read⟩
    exact ⟨nbf, read, reached nbf ⟨value, there, read⟩⟩

/-- A required date that is carried can be read. -/
theorem dateReadable_exp_of_carries (carried : carries numericDate payload "exp" = true) :
    dateReadable numericDate payload "exp" = true := by
  rcases carries_exp_iff.mp carried with ⟨exp, there⟩
  rcases Option.bind_eq_some_iff.mp there with ⟨value, here, read⟩
  rw [dateReadable, here, Option.all_some, read]
  rfl

end Times

/-- Whether each date can be read and holds, and what is reported if not. -/
def dateChecks (readsFirst : Bool) (numericDate : Json → Option Nat) (payload : Json)
    (options : ValidationOptions) (now : Nat) : List (Bool × ErrorKind) :=
  let expRead := (!options.validateExp || dateReadable numericDate payload "exp",
    ErrorKind.invalidClaimFormat "exp")
  let nbfRead := (!options.validateNbf || dateReadable numericDate payload "nbf",
    ErrorKind.invalidClaimFormat "nbf")
  let expCompared := (!options.validateExp || unexpired numericDate payload options.leeway now,
    ErrorKind.expiredSignature)
  let nbfCompared := (!options.validateNbf || mature numericDate payload options.leeway now,
    ErrorKind.immatureSignature)
  if readsFirst then [expRead, nbfRead, expCompared, nbfCompared]
  else [expRead, expCompared, nbfRead, nbfCompared]

/-- Whether each registered claim passes, and what is reported if not. -/
def claimChecks (readsFirst : Bool) (numericDate : Json → Option Nat) (payload : Json)
    (options : ValidationOptions) (now : Nat) : List (Bool × ErrorKind) :=
  options.requiredSpecClaims.map (fun name =>
      (carries numericDate payload name, .missingRequiredClaim name)) ++
    (dateChecks readsFirst numericDate payload options now ++
    [(names options.iss ((claim payload "iss").bind principals), .invalidIssuer),
      (!options.validateAud || names options.aud ((claim payload "aud").bind principals),
        .invalidAudience)])

/-- The checks of the dates pass in one order if they pass in the other. -/
theorem dateChecks_pass_iff {readsFirst : Bool} {numericDate : Json → Option Nat} {payload : Json}
    {options : ValidationOptions} {now : Nat} :
    (∀ check ∈ dateChecks readsFirst numericDate payload options now, check.1 = true) ↔
      (options.validateExp = true → dateReadable numericDate payload "exp" = true ∧
        unexpired numericDate payload options.leeway now = true) ∧
      (options.validateNbf = true → Begun numericDate payload (now + options.leeway)) := by
  rw [begun_iff]
  unfold dateChecks
  cases readsFirst <;> cases options.validateExp <;> cases options.validateNbf <;>
    simp [and_assoc, and_left_comm]

/-- The kinds that name the claim at fault among those this crate reports. -/
def ErrorKind.namesClaim : ErrorKind → Bool
  | expiredSignature | invalidIssuer | invalidAudience => true
  | invalidToken | invalidSignature | invalidAlgorithm | json | missingRequiredClaim _
  | invalidClaimFormat _ | immatureSignature | other _ => false

/-- A fault may be reported as another kind if neither names a claim. -/
def ErrorKind.ReportedAs (kind reported : ErrorKind) : Prop :=
  reported = kind ∨ kind.namesClaim = false ∧ reported.namesClaim = false

/-- The payload has the shape that a decoding expects. -/
structure Readable (library : JwtLibrary) (rawJwt : String) (payload : Json) (raw : RawClaims) :
    Prop where
  stated : library.payload rawJwt = some payload
  deserialized : RawClaims.deserialize payload = some raw
  once : registeredOnce payload = true

/-- What is documented about the order of the checks.  The library takes the leeway
from the system time, which must be as large. -/
structure JwtLibrary.ReportsInOrder (library : JwtLibrary) : Prop where
  new_validation : ∀ algorithm, library.newValidation algorithm = defaultOptions algorithm
  verifies_family : ∀ token algorithm key, library.verifies token algorithm key = true →
    library.keyFamily key = algorithm.family
  refuses_algorithm : ∀ token header key options now, library.decodeHeader token = some header →
    header.alg ∉ options.algorithms →
    ∃ kind, library.decode token key options now = .error kind ∧ kind.namesClaim = false
  refuses_shape : ∀ token key options now,
    (∀ payload raw, ¬ Readable library token payload raw) →
    ∃ kind, library.decode token key options now = .error kind ∧ kind.namesClaim = false
  checks_claims : ∀ token header key options now payload raw, options.leeway ≤ now →
    library.decodeHeader token = some header → header.alg ∈ options.algorithms →
    (∀ algorithm ∈ options.algorithms, library.keyFamily key = algorithm.family) →
    library.verifies token header.alg key = true → Readable library token payload raw →
    match firstFailure (claimChecks library.readsDatesFirst library.numericDate payload options
      now) with
    | some kind => ∃ reported, library.decode token key options now = .error reported ∧
        kind.ReportedAs reported
    | none => library.decode token key options now = .ok raw

end Validation
end OidcRs
