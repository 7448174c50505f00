import OidcRs.Validation.ReferenceLibrary
import OidcRs.Validation.Validator

namespace OidcRs
namespace Validation

open Foundation

/-!
# The scopes of a validated token

A token lists its scopes as one text, in `scope`, or as an array, in `scp`.  The
text is cut into words; the array is taken as it is, and only when there is no
text.  So an element of an array may be blank or several words, and a text with
nothing in it hides what the array lists.
-/

/-- One scope: some text without white space. -/
def IsScopeToken (scope : String) : Prop := Text.IsWord scope.toList

/-- The text has something in it besides white space. -/
def AssertsToken (text : String) : Prop := ∃ c ∈ text.toList, Text.isWhitespace c = false

/-- Either claim lists some scope. -/
def AssertsScopes (scope : Option String) (scp : Option (List String)) : Prop :=
  (∃ text, scope = some text ∧ AssertsToken text) ∨
    ∃ items, scp = some items ∧ ∃ item ∈ items, AssertsToken item

/-- What the scopes taken from a token are to be: single tokens, none only if the
token asserts none, and the same list whichever way the token writes it. -/
structure Normalised (scope : Option String) (scp : Option (List String))
    (scopes : List String) : Prop where
  tokens : ∀ item ∈ scopes, IsScopeToken item
  asserted : scopes = [] → ¬ AssertsScopes scope scp
  ofArray : ∀ items, (∀ item ∈ items, IsScopeToken item) → scope = none → scp = some items →
    scopes = items
  ofText : ∀ text items, scope = some text →
    Text.Spells text.toList (items.map String.toList) → scopes = items

/-- An array that is used lists single tokens, and a text does not hide one by
being blank. -/
def Normalisable : Option String → Option (List String) → Prop
  | none, scp => ∀ items, scp = some items → ∀ item ∈ items, IsScopeToken item
  | some text, scp =>
      AssertsToken text ∨ ¬ ∃ items, scp = some items ∧ ∃ item ∈ items, AssertsToken item

/-! ## Texts -/

theorem not_blank_iff_asserts {text : String} :
    ¬ Text.Blank text.toList ↔ AssertsToken text := by
  constructor
  · intro notBlank
    by_contra silent
    apply notBlank
    intro c member
    by_contra dark
    exact silent ⟨c, member, Bool.eq_false_iff.mpr dark⟩
  · rintro ⟨c, member, dark⟩ blank
    exact Bool.false_ne_true (dark.symm.trans (blank c member))

/-- The scopes of a text are single tokens. -/
theorem parseScopes_text_tokens {text : String} {scp : Option (List String)} :
    ∀ item ∈ parseScopes (some text) scp, IsScopeToken item := by
  intro item member
  rcases List.mem_map.mp member with ⟨word, inText, rfl⟩
  unfold IsScopeToken
  rw [String.toList_ofList]
  exact Text.isWord_of_mem_splitWhitespace inText

theorem parseScopes_text_eq_nil_iff {text : String} {scp : Option (List String)} :
    parseScopes (some text) scp = [] ↔ ¬ AssertsToken text := by
  change (Text.splitWhitespace text.toList).map String.ofList = [] ↔ _
  rw [List.map_eq_nil_iff, Text.splitWhitespace_eq_nil_iff, ← not_blank_iff_asserts,
    Classical.not_not]

/-- Whatever white space stands between the scopes of a text, before them and
after them, the text lists them in order. -/
theorem parseScopes_of_spells {text : String} {items : List String} {scp : Option (List String)}
    (spells : Text.Spells text.toList (items.map String.toList)) :
    parseScopes (some text) scp = items := by
  change (Text.splitWhitespace text.toList).map String.ofList = items
  rw [Text.splitWhitespace_of_spells spells, List.map_map]
  calc items.map (String.ofList ∘ String.toList)
      = items.map id := List.map_congr_left fun item _ => String.ofList_toList
    _ = items := List.map_id items

/-! ## Both claims -/

theorem normalised_of_array {scp : Option (List String)} :
    Normalised none scp (parseScopes none scp) ↔ Normalisable none scp := by
  constructor
  · rintro normalised items rfl
    exact normalised.tokens
  · intro single
    refine ⟨?_, ?_, ?_, ?_⟩
    · intro item member
      cases scp with
      | none => cases member
      | some items => exact single items rfl item member
    · rintro empty (⟨text, impossible, _⟩ | ⟨items, rfl, item, member, _⟩)
      · cases impossible
      · change items = [] at empty
        subst empty
        cases member
    · rintro items _ _ rfl
      rfl
    · rintro text items impossible
      cases impossible

theorem normalised_of_text {text : String} {scp : Option (List String)} :
    Normalised (some text) scp (parseScopes (some text) scp) ↔ Normalisable (some text) scp := by
  constructor
  · intro normalised
    by_cases inText : AssertsToken text
    · exact Or.inl inText
    · refine Or.inr fun inArray => ?_
      exact normalised.asserted (parseScopes_text_eq_nil_iff.mpr inText) (Or.inr inArray)
  · intro shown
    refine ⟨parseScopes_text_tokens, ?_, ?_, ?_⟩
    · rintro empty (⟨there, same, inText⟩ | inArray)
      · rcases Option.some.inj same with rfl
        exact parseScopes_text_eq_nil_iff.mp empty inText
      · rcases shown with inText | silent
        · exact parseScopes_text_eq_nil_iff.mp empty inText
        · exact silent inArray
    · rintro items _ impossible
      cases impossible
    · rintro there items same spells
      rcases Option.some.inj same with rfl
      exact parseScopes_of_spells spells

/-- The scopes of a validated token are those of the claims decoded from it. -/
theorem scopes_of_validate {library : JwtLibrary} {inner : ValidatorInner}
    {jwks : Option (List library.CoreJsonWebKey)} {rawJwt : String} {now : Nat} {claims : Claims}
    (accepted : validate library inner jwks rawJwt now = .ok claims) :
    ∃ algorithm decodingKey raw,
      library.decode rawJwt decodingKey (validation library inner algorithm) now = .ok raw ∧
        claims.scopes = parseScopes raw.scope raw.scp := by
  rcases validate_ok accepted with ⟨key, jwk, algorithm, decodingKey, raw, validated⟩
  exact ⟨algorithm, decodingKey, raw, validated.decoded, validated.claims ▸ rfl⟩

/-- The same scopes are read from an array and from a text, if the text is the
only claim or the first of both. -/
theorem same_scopes_either_way {text : String} {items : List String}
    (spells : Text.Spells text.toList (items.map String.toList)) (scp : Option (List String)) :
    parseScopes none (some items) = parseScopes (some text) scp :=
  (parseScopes_of_spells spells).symm

/-- Whatever the two claims of an accepted token are, its scopes are normalised
exactly when its array, if used, lists single tokens, and its text, if blank,
stands beside no array that lists any. -/
theorem scopes_normalised_iff {library : JwtLibrary} {inner : ValidatorInner}
    {jwks : Option (List library.CoreJsonWebKey)} {rawJwt : String} {now : Nat} {claims : Claims}
    (accepted : validate library inner jwks rawJwt now = .ok claims) :
    (∃ algorithm decodingKey raw,
      library.decode rawJwt decodingKey (validation library inner algorithm) now = .ok raw ∧
        claims.scopes = parseScopes raw.scope raw.scp ∧
        (Normalised raw.scope raw.scp claims.scopes ↔ Normalisable raw.scope raw.scp)) ∧
      ∀ scope scp, Normalised scope scp (parseScopes scope scp) ↔ Normalisable scope scp := by
  have everyPair : ∀ scope scp,
      Normalised scope scp (parseScopes scope scp) ↔ Normalisable scope scp := by
    intro scope scp
    cases scope with
    | none => exact normalised_of_array
    | some text => exact normalised_of_text
  rcases scopes_of_validate accepted with ⟨algorithm, decodingKey, raw, decoded, same⟩
  refine ⟨⟨algorithm, decodingKey, raw, decoded, same, ?_⟩, everyPair⟩
  rw [same]
  exact everyPair raw.scope raw.scp

/-- Two tokens that list scopes in an array, the first behind a blank text, the
second several in one element. -/
def scopedTokens : String → Option SignedToken
  | "hidden" => some (sampleToken [("scope", .str ""), ("scp", .arr [.str "read"])])
  | "joined" => some (sampleToken [("scp", .arr [.str "read write", .str ""])])
  | _ => none

theorem scopes_normalised_iff_of_sample :
    ∃ claims, validate (referenceLibrary sampleTokens) sampleValidator (some [sampleKey]) "jwt"
        1200 = .ok claims ∧ claims.scopes = ["read", "write"] ∧
      ∃ raw : RawClaims, claims.scopes = parseScopes raw.scope raw.scp ∧
        (Normalised raw.scope raw.scp claims.scopes ↔ Normalisable raw.scope raw.scp) := by
  have accepted : validate (referenceLibrary sampleTokens) sampleValidator (some [sampleKey]) "jwt"
      1200 = .ok ⟨"https://idp", "u1", none, none, ["read", "write"]⟩ := by decide +kernel
  rcases (scopes_normalised_iff accepted).1 with ⟨_, _, raw, _, same, iff⟩
  exact ⟨_, accepted, rfl, raw, same, iff⟩

/-- An accepted token whose scopes are not what its claims list. -/
structure Misreported (rawJwt : String) (raw : RawClaims) (claims : Claims) : Prop where
  accepted : validate (referenceLibrary scopedTokens) sampleValidator (some [sampleKey]) rawJwt
    1200 = .ok claims
  decoded : referenceDecode scopedTokens rawJwt ⟨"n1", "e1"⟩
    (validation (referenceLibrary scopedTokens) sampleValidator .rs256) 1200 = .ok raw
  misreported : ¬ Normalised raw.scope raw.scp claims.scopes

/-- Scopes that are listed go unreported behind a blank text, and an element that
is several words, or none, is reported as one scope. -/
theorem not_normalised_when_hidden_or_joined :
    Misreported "hidden" ⟨"https://idp", "u1", none, none, some "", some ["read"]⟩
        ⟨"https://idp", "u1", none, none, []⟩ ∧
      Misreported "joined" ⟨"https://idp", "u1", none, none, none, some ["read write", ""]⟩
        ⟨"https://idp", "u1", none, none, ["read write", ""]⟩ := by
  refine ⟨⟨by decide +kernel, by decide +kernel, ?_⟩, ⟨by decide +kernel, by decide +kernel, ?_⟩⟩
  · intro normalised
    have listed : AssertsToken "read" := ⟨'r', by decide, by decide⟩
    exact normalised.asserted rfl (Or.inr ⟨_, rfl, _, List.mem_cons_self, listed⟩)
  · intro normalised
    have space : (' ' : Char) ∈ "read write".toList := by decide
    have dark := (normalised.tokens _ List.mem_cons_self).dark ' ' space
    cases dark

end Validation
end OidcRs
