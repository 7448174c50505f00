import OidcRs.Validation.JwkLibrary

namespace OidcRs
namespace Validation

open Foundation

/-!
# What the refusal of a correctly signed token says

Of the kinds of failure that a decoding reports, `validate` tells three apart
and calls every other one a bad signature.  So a token that is correctly signed
but not yet valid, or whose payload has another shape, is refused for its
signature.  The three kinds that are told apart are reported truly.
-/

variable {library : JwtLibrary} {inner : ValidatorInner} {keys : List library.CoreJsonWebKey}
  {rawJwt : String} {now : Nat} {selection : Selection library}

/-- The first key with the token's `kid` can be used, and the signature verifies
under it with the algorithm derived for it. -/
structure CorrectlySigned (library : JwtLibrary) (keys : List library.CoreJsonWebKey)
    (rawJwt : String) (selection : Selection library) : Prop where
  selected : ∃ kid, tokenKid library rawJwt = some kid ∧ Selected library keys kid selection
  verified : library.verifies rawJwt selection.algorithm selection.decodingKey = true

/-- The expiry has passed, leeway included. -/
def PastExpiry (library : JwtLibrary) (rawJwt : String) (now : Nat) : Prop :=
  ∃ payload exp, library.payload rawJwt = some payload ∧
    date library.numericDate payload "exp" = some exp ∧ exp + 60 < now

/-- The issuers named are others than the one configured. -/
def OtherIssuer (library : JwtLibrary) (inner : ValidatorInner) (rawJwt : String) : Prop :=
  ∃ payload issuers, library.payload rawJwt = some payload ∧
    (claim payload "iss").bind principals = some issuers ∧ inner.issuer ∉ issuers

/-- The audiences named are others than those configured. -/
def OtherAudience (library : JwtLibrary) (inner : ValidatorInner) (rawJwt : String) : Prop :=
  ∃ payload audiences, library.payload rawJwt = some payload ∧
    (claim payload "aud").bind principals = some audiences ∧
    ∀ audience ∈ audiences, audience ∉ inner.audiences

/-- The refusal of a correctly signed token never blames the signature, and
names a claim only if that claim is at fault. -/
structure MeansWhatItSays (library : JwtLibrary) (inner : ValidatorInner)
    (keys : List library.CoreJsonWebKey) (rawJwt : String) (now : Nat) : Prop where
  notBadSignature : validate library inner (some keys) rawJwt now ≠ .error .badSignature
  expired : validate library inner (some keys) rawJwt now = .error .expired →
    PastExpiry library rawJwt now
  badIssuer : ∀ issuer, validate library inner (some keys) rawJwt now = .error (.badIssuer issuer) →
    OtherIssuer library inner rawJwt
  badAudience : validate library inner (some keys) rawJwt now = .error .badAudience →
    OtherAudience library inner rawJwt

/-- The header names the derived algorithm. -/
def UnderOwnAlgorithm (library : JwtLibrary) (rawJwt : String) (algorithm : Algorithm) : Prop :=
  ∃ header, library.decodeHeader rawJwt = some header ∧ header.alg = algorithm

/-- The expiry can be read, and the token has begun to be valid or has expired.
An expiry that has passed is not reported where an `nbf` that cannot be read is
found first. -/
def DatesTold (library : JwtLibrary) (payload : Json) (now : Nat) : Prop :=
  ∃ exp, date library.numericDate payload "exp" = some exp ∧
    (Begun library.numericDate payload (now + 60) ∨
      exp + 60 < now ∧ (library.readsDatesFirst = true →
        dateReadable library.numericDate payload "nbf" = true))

/-- Whatever is at fault with the token is told apart: the header names the
derived algorithm, the payload has the expected shape, and the dates can be
told. -/
structure ToldApart (library : JwtLibrary) (rawJwt : String) (now : Nat) (algorithm : Algorithm) :
    Prop where
  ownAlgorithm : UnderOwnAlgorithm library rawJwt algorithm
  shape : ∃ payload raw, Readable library rawJwt payload raw ∧ DatesTold library payload now

/-! ## From the library's report to the verdict -/

/-- The kinds that are not told apart. -/
theorem decodeError_of_unnamed {kind : ErrorKind} (unnamed : kind.namesClaim = false) :
    decodeError inner kind = .badSignature := by
  cases kind with
  | expiredSignature | invalidIssuer | invalidAudience => cases unnamed
  | invalidToken | invalidSignature | invalidAlgorithm | json | missingRequiredClaim
  | invalidClaimFormat | immatureSignature | other => rfl

theorem decodeError_of_reportedAs {kind reported : ErrorKind} (same : kind.ReportedAs reported) :
    decodeError inner reported = decodeError inner kind := by
  rcases same with rfl | ⟨unnamed, unnamedToo⟩
  · rfl
  · rw [decodeError_of_unnamed unnamed, decodeError_of_unnamed unnamedToo]

/-- What `validate` answers when its decoding has this outcome. -/
def verdict (inner : ValidatorInner) (outcome : Except ErrorKind RawClaims) :
    Except AuthError Claims :=
  (outcome.mapError (decodeError inner)).map toClaims

theorem CorrectlySigned.validate_eq (signed : CorrectlySigned library keys rawJwt selection) :
    validate library inner (some keys) rawJwt now =
      verdict inner (library.decode rawJwt selection.decodingKey
        (validation library inner selection.algorithm) now) := by
  rcases signed.selected with ⟨kid, named, selected⟩
  rw [validate_of_kid named, select_eq_ok_iff.mpr selected, ok_bind]
  unfold Selection.verify verdict
  cases library.decode rawJwt selection.decodingKey
    (validation library inner selection.algorithm) now <;> rfl

/-- The checks of the claims, with the options `validate` sets. -/
theorem claimChecks_validation (ordered : library.ReportsInOrder) (payload : Json)
    (algorithm : Algorithm) :
    claimChecks library.readsDatesFirst library.numericDate payload
        (validation library inner algorithm) now =
      (carries library.numericDate payload "exp", .missingRequiredClaim "exp") ::
        ((if library.readsDatesFirst then
            [(dateReadable library.numericDate payload "exp", .invalidClaimFormat "exp"),
              (dateReadable library.numericDate payload "nbf", .invalidClaimFormat "nbf"),
              (unexpired library.numericDate payload 60 now, .expiredSignature),
              (mature library.numericDate payload 60 now, .immatureSignature)]
          else
            [(dateReadable library.numericDate payload "exp", .invalidClaimFormat "exp"),
              (unexpired library.numericDate payload 60 now, .expiredSignature),
              (dateReadable library.numericDate payload "nbf", .invalidClaimFormat "nbf"),
              (mature library.numericDate payload 60 now, .immatureSignature)]) ++
          [(names (some [inner.issuer]) ((claim payload "iss").bind principals), .invalidIssuer),
            (names (some inner.audiences) ((claim payload "aud").bind principals),
              .invalidAudience)]) := by
  rw [validation_eq ordered.new_validation]
  rfl

/-- The check of a claim that is named fails for that claim. -/
theorem failed_check (ordered : library.ReportsInOrder) {payload : Json} {algorithm : Algorithm}
    {kind : ErrorKind}
    (failed : (false, kind) ∈ claimChecks library.readsDatesFirst library.numericDate payload
      (validation library inner algorithm) now) :
    (kind = .expiredSignature → unexpired library.numericDate payload 60 now = false) ∧
    (kind = .invalidIssuer →
      names (some [inner.issuer]) ((claim payload "iss").bind principals) = false) ∧
    (kind = .invalidAudience →
      names (some inner.audiences) ((claim payload "aud").bind principals) = false) := by
  rw [claimChecks_validation ordered] at failed
  refine ⟨?_, ?_, ?_⟩
  all_goals
    rintro rfl
    cases readsFirst : library.readsDatesFirst <;> simpa [readsFirst] using failed

/-- With the right algorithm and the expected shape, the first claim that fails
decides the verdict. -/
theorem validate_of_readable (ordered : library.ReportsInOrder) (past : 60 ≤ now)
    (signed : CorrectlySigned library keys rawJwt selection)
    (own : UnderOwnAlgorithm library rawJwt selection.algorithm) {payload : Json} {raw : RawClaims}
    (readable : Readable library rawJwt payload raw) :
    validate library inner (some keys) rawJwt now =
      match firstFailure (claimChecks library.readsDatesFirst library.numericDate payload
        (validation library inner selection.algorithm) now) with
      | some kind => .error (decodeError inner kind)
      | none => .ok (toClaims raw) := by
  rcases own with ⟨header, parsed, same⟩
  have algorithms : (validation library inner selection.algorithm).algorithms =
      [selection.algorithm] := by
    rw [validation_eq ordered.new_validation]
  have listed : header.alg ∈ (validation library inner selection.algorithm).algorithms := by
    rw [algorithms, same]
    exact List.mem_singleton_self _
  have families : ∀ algorithm ∈ (validation library inner selection.algorithm).algorithms,
      library.keyFamily selection.decodingKey = algorithm.family := by
    intro algorithm member
    rw [algorithms] at member
    rw [List.mem_singleton.mp member]
    exact ordered.verifies_family _ _ _ signed.verified
  have verified : library.verifies rawJwt header.alg selection.decodingKey = true := by
    rw [same]
    exact signed.verified
  have reports := ordered.checks_claims _ header _ _ _ _ _ past parsed listed families verified
    readable
  rw [signed.validate_eq]
  cases found : firstFailure (claimChecks library.readsDatesFirst library.numericDate payload
    (validation library inner selection.algorithm) now) with
  | some kind =>
      rw [found] at reports
      rcases reports with ⟨reported, decoded, sameKind⟩
      rw [decoded]
      exact congrArg Except.error (decodeError_of_reportedAs sameKind)
  | none =>
      rw [found] at reports
      rw [reports]
      rfl

/-- Otherwise the signature is blamed. -/
theorem validate_of_unfit (ordered : library.ReportsInOrder)
    (signed : CorrectlySigned library keys rawJwt selection)
    (unfit : ¬ (UnderOwnAlgorithm library rawJwt selection.algorithm ∧
      ∃ payload raw, Readable library rawJwt payload raw)) :
    validate library inner (some keys) rawJwt now = .error .badSignature := by
  have refused : ∃ kind, library.decode rawJwt selection.decodingKey
      (validation library inner selection.algorithm) now = .error kind ∧
        kind.namesClaim = false := by
    by_cases own : UnderOwnAlgorithm library rawJwt selection.algorithm
    · apply ordered.refuses_shape
      intro payload raw readable
      exact unfit ⟨own, payload, raw, readable⟩
    · rcases signed.selected with ⟨kid, named, _⟩
      rcases Option.bind_eq_some_iff.mp named with ⟨header, parsed, _⟩
      apply ordered.refuses_algorithm _ header _ _ _ parsed
      rw [validation_eq ordered.new_validation]
      intro listed
      exact own ⟨header, parsed, List.mem_singleton.mp listed⟩
  rcases refused with ⟨kind, failed, unnamed⟩
  rw [signed.validate_eq, failed]
  exact congrArg Except.error (decodeError_of_unnamed unnamed)

/-- A verdict that only one kind leads to, one that names a claim, comes from the
check of that claim. -/
theorem fault_of_verdict (ordered : library.ReportsInOrder) (past : 60 ≤ now)
    (signed : CorrectlySigned library keys rawJwt selection) {kind : ErrorKind} {error : AuthError}
    (named : kind.namesClaim = true)
    (only : ∀ reported, decodeError inner reported = error → reported = kind)
    (refused : validate library inner (some keys) rawJwt now = .error error) :
    ∃ payload, library.payload rawJwt = some payload ∧
      (false, kind) ∈ claimChecks library.readsDatesFirst library.numericDate payload
        (validation library inner selection.algorithm) now := by
  by_cases fit : UnderOwnAlgorithm library rawJwt selection.algorithm ∧
      ∃ payload raw, Readable library rawJwt payload raw
  · rcases fit with ⟨own, payload, raw, readable⟩
    rw [validate_of_readable ordered past signed own readable] at refused
    split at refused
    · next reported failed =>
        rw [only reported (Except.error.inj refused)] at failed
        rcases firstFailure_eq_some_iff.mp failed with ⟨before, after, whole, _⟩
        refine ⟨payload, readable.stated, ?_⟩
        rw [whole]
        exact List.mem_append_right _ List.mem_cons_self
    · cases refused
  · rw [validate_of_unfit ordered signed fit] at refused
    -- a verdict that blames the signature has more than one kind behind it
    rw [← only .json (Except.error.inj refused)] at named
    cases named

theorem pastExpiry_of_expired (ordered : library.ReportsInOrder) (past : 60 ≤ now)
    (signed : CorrectlySigned library keys rawJwt selection)
    (refused : validate library inner (some keys) rawJwt now = .error .expired) :
    PastExpiry library rawJwt now := by
  have only : ∀ reported, decodeError inner reported = .expired → reported = .expiredSignature := by
    intro reported same
    cases reported <;> cases same
    rfl
  rcases fault_of_verdict ordered past signed rfl only refused with ⟨payload, stated, failed⟩
  rcases unexpired_eq_false_iff.mp ((failed_check ordered failed).1 rfl) with ⟨exp, there, past⟩
  exact ⟨payload, exp, stated, there, past⟩

theorem otherIssuer_of_badIssuer (ordered : library.ReportsInOrder) (past : 60 ≤ now)
    (signed : CorrectlySigned library keys rawJwt selection) {issuer : String}
    (refused : validate library inner (some keys) rawJwt now = .error (.badIssuer issuer)) :
    OtherIssuer library inner rawJwt := by
  have only : ∀ reported, decodeError inner reported = .badIssuer issuer →
      reported = .invalidIssuer := by
    intro reported same
    cases reported <;> cases same
    rfl
  rcases fault_of_verdict ordered past signed rfl only refused with ⟨payload, stated, failed⟩
  have others := (failed_check ordered failed).2.1 rfl
  cases there : (claim payload "iss").bind principals with
  | none => simp [names, there] at others
  | some issuers =>
      have each : ∀ issuer ∈ issuers, issuer ≠ inner.issuer := by
        simpa [names, there] using others
      exact ⟨payload, issuers, stated, there, fun member => each _ member rfl⟩

theorem otherAudience_of_badAudience (ordered : library.ReportsInOrder) (past : 60 ≤ now)
    (signed : CorrectlySigned library keys rawJwt selection)
    (refused : validate library inner (some keys) rawJwt now = .error .badAudience) :
    OtherAudience library inner rawJwt := by
  have only : ∀ reported, decodeError inner reported = .badAudience →
      reported = .invalidAudience := by
    intro reported same
    cases reported <;> cases same
    rfl
  rcases fault_of_verdict ordered past signed rfl only refused with ⟨payload, stated, failed⟩
  have others := (failed_check ordered failed).2.2 rfl
  cases there : (claim payload "aud").bind principals with
  | none => simp [names, there] at others
  | some audiences =>
      exact ⟨payload, audiences, stated, there, by simpa [names, there] using others⟩

/-! ## When the signature is blamed -/

/-- What the dates have to say, check by check. -/
theorem datesTold_iff {payload : Json} : DatesTold library payload now ↔
    carries library.numericDate payload "exp" = true ∧
      (dateReadable library.numericDate payload "nbf" = true ∧
          mature library.numericDate payload 60 now = true ∨
        unexpired library.numericDate payload 60 now = false ∧ (library.readsDatesFirst = true →
          dateReadable library.numericDate payload "nbf" = true)) := by
  rw [carries_exp_iff, unexpired_eq_false_iff, ← begun_iff]
  constructor
  · rintro ⟨exp, there, begun | ⟨past, readable⟩⟩
    · exact ⟨⟨exp, there⟩, Or.inl begun⟩
    · exact ⟨⟨exp, there⟩, Or.inr ⟨⟨exp, there, past⟩, readable⟩⟩
  · rintro ⟨⟨exp, there⟩, begun | ⟨⟨other, same, past⟩, readable⟩⟩
    · exact ⟨exp, there, Or.inl begun⟩
    · exact ⟨other, same, Or.inr ⟨past, readable⟩⟩

/-- The first fault among the claims of a token is one that is told apart exactly
when the dates can be told. -/
theorem namesClaim_of_firstFailure_iff (ordered : library.ReportsInOrder) {payload : Json}
    (inner : ValidatorInner) (algorithm : Algorithm) :
    (∀ kind, firstFailure (claimChecks library.readsDatesFirst library.numericDate payload
      (validation library inner algorithm) now) = some kind → kind.namesClaim = true) ↔
      DatesTold library payload now := by
  rw [claimChecks_validation ordered, datesTold_iff]
  cases carried : carries library.numericDate payload "exp" with
  | false => simp [firstFailure, ErrorKind.namesClaim]
  | true =>
      rw [dateReadable_exp_of_carries carried]
      -- behind the dates, whichever fault comes first is told apart
      have behind : ∀ kind, firstFailure
          [(names (some [inner.issuer]) ((claim payload "iss").bind principals),
              ErrorKind.invalidIssuer),
            (names (some inner.audiences) ((claim payload "aud").bind principals),
              .invalidAudience)] = some kind → kind.namesClaim = true := by
        intro kind failed
        rcases firstFailure_eq_some_iff.mp failed with ⟨before, after, whole, _⟩
        have member : (false, kind) ∈ before ++ (false, kind) :: after :=
          List.mem_append_right _ List.mem_cons_self
        rw [← whole] at member
        rcases List.mem_cons.mp member with same | member
        · rw [(Prod.mk.inj same).2]
          rfl
        · rw [(Prod.mk.inj (List.mem_singleton.mp member)).2]
          rfl
      cases library.readsDatesFirst <;> cases unexpired library.numericDate payload 60 now <;>
        cases dateReadable library.numericDate payload "nbf" <;>
        cases mature library.numericDate payload 60 now <;>
        simp_all [firstFailure, ErrorKind.namesClaim]

/-- A fault that is told apart is not called a bad signature. -/
theorem ToldApart.notBadSignature (ordered : library.ReportsInOrder) (past : 60 ≤ now)
    (signed : CorrectlySigned library keys rawJwt selection)
    (apart : ToldApart library rawJwt now selection.algorithm) :
    validate library inner (some keys) rawJwt now ≠ .error .badSignature := by
  intro blamed
  rcases apart.shape with ⟨payload, raw, readable, told⟩
  rw [validate_of_readable ordered past signed apart.ownAlgorithm readable] at blamed
  split at blamed
  · next reported failed =>
      have named := (namesClaim_of_firstFailure_iff ordered _ _).mpr told reported failed
      cases reported <;> cases named <;> cases blamed
  · cases blamed

/-- A fault that is not told apart is called a bad signature. -/
theorem badSignature_of_not_toldApart (ordered : library.ReportsInOrder) (past : 60 ≤ now)
    (signed : CorrectlySigned library keys rawJwt selection)
    (blurred : ¬ ToldApart library rawJwt now selection.algorithm) :
    validate library inner (some keys) rawJwt now = .error .badSignature := by
  by_cases fit : UnderOwnAlgorithm library rawJwt selection.algorithm ∧
      ∃ payload raw, Readable library rawJwt payload raw
  · rcases fit with ⟨own, payload, raw, readable⟩
    have untold : ¬ DatesTold library payload now := fun told =>
      blurred ⟨own, payload, raw, readable, told⟩
    rw [← namesClaim_of_firstFailure_iff ordered inner selection.algorithm] at untold
    simp only [not_forall, exists_prop, Bool.not_eq_true] at untold
    rcases untold with ⟨kind, failed, unnamed⟩
    rw [validate_of_readable ordered past signed own readable, failed]
    exact congrArg Except.error (decodeError_of_unnamed unnamed)
  · exact validate_of_unfit ordered signed fit

/-- The refusal of a correctly signed token means what it says exactly when
whatever is at fault with the token is told apart. -/
theorem means_what_it_says_iff_told_apart (ordered : library.ReportsInOrder) (past : 60 ≤ now)
    (signed : CorrectlySigned library keys rawJwt selection) :
    MeansWhatItSays library inner keys rawJwt now ↔
      ToldApart library rawJwt now selection.algorithm := by
  constructor
  · intro means
    by_contra blurred
    exact means.notBadSignature (badSignature_of_not_toldApart ordered past signed blurred)
  · intro apart
    exact
      { notBadSignature := apart.notBadSignature ordered past signed
        expired := pastExpiry_of_expired ordered past signed
        badIssuer := fun _ => otherIssuer_of_badIssuer ordered past signed
        badAudience := otherAudience_of_badAudience ordered past signed }

def sampleJwk : PublishedJwk := ⟨some "k1", some .signature, ⟨some "RS256", .rsa "n1" "e1"⟩⟩

/-- One token is for somebody else, the other is not valid before second 5000. -/
def refusedTokens : String → Option IssuedToken
  | "elsewhere" => some (issued [("aud", .str "other"), ("nbf", .unsigned 1000)])
  | "early" => some (issued [("aud", .str "api"), ("nbf", .unsigned 5000)])
  | _ => none
where
  issued (claims : List (String × Json)) : IssuedToken :=
    ⟨⟨.rs256, some "k1"⟩, (sampleToken claims).payload, .rsa "n1" "e1"⟩

def sampleSelection : Selection (jwkLibrary refusedTokens) :=
  ⟨sampleJwk, sampleJwk.jwk, .rs256, .rsa "n1" "e1"⟩

theorem means_what_it_says_iff_told_apart_of_elsewhere :
    validate (jwkLibrary refusedTokens) sampleValidator (some [sampleJwk]) "elsewhere" 1200 =
        .error .badAudience ∧
      (MeansWhatItSays (jwkLibrary refusedTokens) sampleValidator [sampleJwk] "elsewhere" 1200 ↔
        ToldApart (jwkLibrary refusedTokens) "elsewhere" 1200 .rs256) := by
  have signed : CorrectlySigned (jwkLibrary refusedTokens) [sampleJwk] "elsewhere"
      sampleSelection :=
    ⟨⟨"k1", rfl, select_eq_ok_iff.mp rfl⟩, by decide +kernel⟩
  exact ⟨by decide +kernel,
    means_what_it_says_iff_told_apart jwkLibrary_reportsInOrder (by decide) signed⟩

/-- A correctly signed token that is not yet valid is refused for its
signature. -/
theorem not_means_what_it_says_of_early :
    (jwkLibrary refusedTokens).ReportsInOrder ∧
      CorrectlySigned (jwkLibrary refusedTokens) [sampleJwk] "early" sampleSelection ∧
      validate (jwkLibrary refusedTokens) sampleValidator (some [sampleJwk]) "early" 1200 =
        .error .badSignature ∧
      ¬ MeansWhatItSays (jwkLibrary refusedTokens) sampleValidator [sampleJwk] "early" 1200 := by
  have blamed : validate (jwkLibrary refusedTokens) sampleValidator (some [sampleJwk]) "early"
      1200 = .error .badSignature := by decide +kernel
  refine ⟨jwkLibrary_reportsInOrder, ⟨⟨"k1", rfl, select_eq_ok_iff.mp rfl⟩, by decide +kernel⟩,
    blamed, ?_⟩
  intro means
  exact means.notBadSignature blamed

end Validation
end OidcRs
