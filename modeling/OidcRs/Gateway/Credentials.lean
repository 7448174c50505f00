import OidcRs.Foundation.Base64
import OidcRs.Gateway.Requests

namespace OidcRs
namespace Gateway

open Foundation
open Validation (JwtLibrary ValidatorInner)
open Exchange (ExchangerInner)

/-!
# Which header carries which credentials

A header that can be read as text is plain ASCII, so no slice falls inside a
character, and a scheme is followed by a blank, so no header names both.  From
there on each layer is undone exactly: blanks around the credential, base64,
UTF-8 and the first colon.
-/

/-! ## The libraries -/

/-- The characters a header value may have to be read as text. -/
def headerChar (c : Char) : Bool := (0x20 ≤ c.toNat && c.toNat < 0x7F) || c.toNat == 0x09

/-- What is documented about the libraries: a value is read as text if it is
printed ASCII, blanks and tabs, and decoding accepts the canonical base64 texts
and inverts encoding. -/
structure HttpLibrary.Documented (http : HttpLibrary) : Prop where
  to_str : ∀ value text, http.toStr value = some text ↔
    value = text.toUTF8 ∧ ∀ c ∈ text.toList, headerChar c = true
  decode_base64 : ∀ text bytes, http.decodeBase64 text = some bytes ↔
    text.toList = Base64.encode bytes.data.toList

theorem fromUTF8?_eq_some_iff {bytes : ByteArray} {text : String} :
    String.fromUTF8? bytes = some text ↔ bytes = text.toUTF8 := by
  unfold String.fromUTF8?
  constructor
  · intro decoded
    split at decoded
    · rw [← Option.some.inj decoded]
      rfl
    · cases decoded
  · rintro rfl
    exact dif_pos text.isValidUTF8

/-- The libraries as documented. -/
def standardHttp : HttpLibrary where
  toStr value := (String.fromUTF8? value).filter (fun text => text.toList.all headerChar)
  decodeBase64 text := (Base64.decode text.toList).map (fun bytes => ⟨bytes.toArray⟩)

theorem standardHttp_documented : standardHttp.Documented where
  to_str value text := by
    change Option.filter _ _ = some text ↔ _
    rw [Option.filter_eq_some_iff, fromUTF8?_eq_some_iff, List.all_eq_true]
  decode_base64 text bytes := by
    change Option.map _ _ = some bytes ↔ _
    rw [Option.map_eq_some_iff]
    constructor
    · rintro ⟨list, decoded, rfl⟩
      exact Base64.encode_of_decode decoded
    · intro encoded
      exact ⟨bytes.data.toList, Base64.decode_eq_some_iff.mpr encoded, rfl⟩

/-! ## Characters -/

/-- A blank as it may stand in a header. -/
def blank (c : Char) : Prop := c = ' ' ∨ c = '\t'

theorem utf8Size_of_headerChar {c : Char} (plain : headerChar c = true) : c.utf8Size = 1 := by
  apply Char.utf8Size_eq_one_iff.mpr
  apply UInt32.le_iff_toNat_le.mpr
  change c.toNat ≤ 127
  simp only [headerChar, Bool.or_eq_true, Bool.and_eq_true, decide_eq_true_eq, beq_iff_eq] at plain
  omega

theorem blank_of_isWhitespace {c : Char} (plain : headerChar c = true)
    (white : Text.isWhitespace c = true) : blank c := by
  simp only [headerChar, Bool.or_eq_true, Bool.and_eq_true, decide_eq_true_eq, beq_iff_eq] at plain
  simp only [Text.isWhitespace, Bool.or_eq_true, Bool.and_eq_true, decide_eq_true_eq,
    beq_iff_eq] at white
  have code : c.toNat = 0x20 ∨ c.toNat = 0x09 := by omega
  rcases code with code | code
  · exact Or.inl (Char.toNat_inj.mp code)
  · exact Or.inr (Char.toNat_inj.mp code)

theorem isWhitespace_of_blank {c : Char} (white : blank c) : Text.isWhitespace c = true := by
  rcases white with rfl | rfl <;> decide

theorem headerChar_of_blank {c : Char} (white : blank c) : headerChar c = true := by
  rcases white with rfl | rfl <;> decide

theorem headerChar_of_visible {c : Char} (visible : Base64.visible c) : headerChar c = true := by
  unfold Base64.visible at visible
  simp only [headerChar, Bool.or_eq_true, Bool.and_eq_true, decide_eq_true_eq, beq_iff_eq]
  omega

theorem isWhitespace_of_visible {c : Char} (visible : Base64.visible c) :
    Text.isWhitespace c = false := by
  unfold Base64.visible at visible
  rw [Bool.eq_false_iff]
  intro white
  simp only [Text.isWhitespace, Bool.or_eq_true, Bool.and_eq_true, decide_eq_true_eq,
    beq_iff_eq] at white
  omega

/-- A character whose lower case may stand in a header may stand there. -/
theorem headerChar_of_toLower {c : Char} (plain : headerChar c.toLower = true) :
    headerChar c = true := by
  by_cases upper : c.val ≥ 'A'.val ∧ c.val ≤ 'Z'.val
  · have low : 65 ≤ c.toNat := UInt32.le_iff_toNat_le.mp upper.1
    have high : c.toNat ≤ 90 := UInt32.le_iff_toNat_le.mp upper.2
    simp only [headerChar, Bool.or_eq_true, Bool.and_eq_true, decide_eq_true_eq, beq_iff_eq]
    omega
  · have same : c.toLower = c := dif_neg upper
    rwa [same] at plain

/-! ## The scheme -/

/-- The scheme spelled in any mixture of cases. -/
def spelled (front scheme : List Char) : Prop :=
  front.map Char.toLower = scheme.map Char.toLower

theorem spelled.length {front scheme : List Char} (same : spelled front scheme) :
    front.length = scheme.length := by
  have lengths := congrArg List.length same
  rwa [List.length_map, List.length_map] at lengths

theorem eqIgnoreAsciiCase_iff {front scheme : List Char} :
    Text.eqIgnoreAsciiCase front scheme = true ↔ spelled front scheme := by
  rw [Text.eqIgnoreAsciiCase, beq_iff_eq]
  rfl

section Plain

variable {header scheme rest : List Char}

/-- In a plain header the slice succeeds. -/
theorem stripSchemePrefix_eq (plain : ∀ c ∈ header, headerChar c = true)
    (ascii : Text.byteLen scheme = scheme.length) :
    stripSchemePrefix header scheme =
      if header.length ≤ scheme.length then .unmatched
      else if Text.eqIgnoreAsciiCase (header.take scheme.length) scheme = false then .unmatched
      else if (header.drop scheme.length).head? ≠ some ' ' then .unmatched
      else .matched (Text.trimStart (header.drop scheme.length)) := by
  have narrow : ∀ c ∈ header, c.utf8Size = 1 :=
    fun c member => utf8Size_of_headerChar (plain c member)
  simp only [stripSchemePrefix, ascii, Text.byteLen_of_ascii narrow]
  by_cases short : header.length ≤ scheme.length
  · rw [if_pos short, if_pos short]
  · rw [if_neg short, if_neg short,
      Text.splitAtByte_of_ascii narrow (Nat.le_of_lt (Nat.lt_of_not_le short))]

theorem stripSchemePrefix_not_panicked (plain : ∀ c ∈ header, headerChar c = true)
    (ascii : Text.byteLen scheme = scheme.length) :
    stripSchemePrefix header scheme ≠ .panicked := by
  rw [stripSchemePrefix_eq plain ascii]
  split
  · exact Stripped.noConfusion
  · split
    · exact Stripped.noConfusion
    · split <;> exact Stripped.noConfusion

/-- A scheme is stripped from what begins with it and a blank. -/
theorem stripSchemePrefix_eq_matched_iff (plain : ∀ c ∈ header, headerChar c = true)
    (ascii : Text.byteLen scheme = scheme.length) :
    stripSchemePrefix header scheme = .matched rest ↔
      ∃ front tail, header = front ++ ' ' :: tail ∧ spelled front scheme ∧
        rest = Text.trimStart tail := by
  rw [stripSchemePrefix_eq plain ascii]
  constructor
  · intro stripped
    split at stripped
    · cases stripped
    · split at stripped
      · cases stripped
      · next same =>
          split at stripped
          · cases stripped
          · next separated =>
              have begins := Decidable.not_not.mp separated
              rcases List.head?_eq_some_iff.mp begins with ⟨tail, there⟩
              refine ⟨header.take scheme.length, tail, ?_, ?_, ?_⟩
              · rw [← there, List.take_append_drop]
              · exact eqIgnoreAsciiCase_iff.mp (by simpa using same)
              · rw [← Stripped.matched.inj stripped, there]
                rfl
  · rintro ⟨front, tail, rfl, same, rfl⟩
    have length := same.length
    have long : ¬ (front ++ ' ' :: tail).length ≤ scheme.length := by
      rw [List.length_append, List.length_cons]
      omega
    rw [if_neg long, ← length, List.take_left, List.drop_left,
      if_neg (by rw [eqIgnoreAsciiCase_iff.mpr same]; exact Bool.true_eq_false.mp),
      if_neg (by simp)]
    rfl

/-- No header begins with both schemes. -/
theorem schemes_exclusive {bearer basic : List Char} (plain : ∀ c ∈ header, headerChar c = true)
    (isBearer : stripSchemePrefix header "Bearer".toList = .matched bearer)
    (isBasic : stripSchemePrefix header "Basic".toList = .matched basic) : False := by
  rcases (stripSchemePrefix_eq_matched_iff plain rfl).mp isBearer with
    ⟨front, tail, whole, spelledBearer, _⟩
  rcases (stripSchemePrefix_eq_matched_iff plain rfl).mp isBasic with
    ⟨other, otherTail, otherWhole, spelledBasic, _⟩
  -- the second letters differ, in any case
  have second : (header.map Char.toLower)[1]? = some 'e' := by
    rw [whole, List.map_append, spelledBearer]
    rfl
  have otherSecond : (header.map Char.toLower)[1]? = some 'a' := by
    rw [otherWhole, List.map_append, spelledBasic]
    rfl
  rw [second] at otherSecond
  exact absurd (Option.some.inj otherSecond) (by decide)

end Plain

/-! ## Basic credentials -/

theorem headerChar_of_spelled {front : List Char} (same : spelled front "Basic".toList) :
    ∀ c ∈ front, headerChar c = true := by
  intro c member
  apply headerChar_of_toLower
  have lower : c.toLower ∈ "Basic".toList.map Char.toLower := by
    rw [← same]
    exact List.mem_map_of_mem member
  have each : ("Basic".toList.map Char.toLower).all headerChar = true := by decide
  exact List.all_eq_true.mp each _ lower

/-- The bytes `id ':' secret`. -/
def credentialBytes (id secret : String) : List UInt8 :=
  (String.ofList (id.toList ++ ':' :: secret.toList)).toUTF8.data.toList

/-- The header is a spelling of the scheme, one blank and any more, the
credentials in base64, and any blanks. -/
def CarriesBasic (value : ByteArray) (id secret : String) : Prop :=
  ∃ scheme blanks trailing : List Char, spelled scheme "Basic".toList ∧
    (∀ c ∈ blanks, blank c) ∧ (∀ c ∈ trailing, blank c) ∧ ':' ∉ id.toList ∧
    value = (String.ofList (scheme ++ ' ' ::
      (blanks ++ Base64.encode (credentialBytes id secret) ++ trailing))).toUTF8

section Documented

variable {http : HttpLibrary} {id secret : String}

theorem parseBasic_eq_basic_iff (documented : http.Documented) {b64 : List Char} :
    parseBasic http b64 = .basic id secret ↔
      ':' ∉ id.toList ∧ Text.trim b64 = Base64.encode (credentialBytes id secret) := by
  constructor
  · intro parsed
    unfold parseBasic at parsed
    split at parsed
    · cases parsed
    · next decoded decodes =>
        split at parsed
        · cases parsed
        · next text reads =>
            split at parsed
            · cases parsed
            · next front back cut =>
                rcases Parsed.basic.inj parsed with ⟨rfl, rfl⟩
                rcases Text.splitOnce_eq_some_iff.mp cut with ⟨whole, absent⟩
                have canonical := (documented.decode_base64 _ _).mp decodes
                rw [String.toList_ofList] at canonical ⊢
                refine ⟨absent, ?_⟩
                rw [canonical, fromUTF8?_eq_some_iff.mp reads, credentialBytes,
                  String.toList_ofList, String.toList_ofList, ← whole, String.ofList_toList]
  · rintro ⟨absent, canonical⟩
    have decodes : http.decodeBase64 (String.ofList (Text.trim b64)) =
        some (String.ofList (id.toList ++ ':' :: secret.toList)).toUTF8 := by
      rw [documented.decode_base64, String.toList_ofList]
      exact canonical
    have cut : Text.splitOnce ':' (String.ofList (id.toList ++ ':' :: secret.toList)).toList =
        some (id.toList, secret.toList) := by
      rw [String.toList_ofList]
      exact Text.splitOnce_eq_some_iff.mpr ⟨rfl, absent⟩
    simp only [parseBasic, decodes, fromUTF8?_eq_some_iff.mpr rfl, cut, String.ofList_toList]

/-- The header of these credentials is parsed to them. -/
theorem parseAuthorization_of_carriesBasic (documented : http.Documented) {value : ByteArray}
    (carries : CarriesBasic value id secret) :
    parseAuthorization http (some value) = .basic id secret := by
  rcases carries with ⟨scheme, blanks, trailing, cased, white, whiteEnd, absent, rfl⟩
  generalize whole : scheme ++ ' ' :: (blanks ++ Base64.encode (credentialBytes id secret) ++
    trailing) = header
  have plain : ∀ c ∈ header, headerChar c = true := by
    intro c member
    rw [← whole] at member
    simp only [List.mem_append, List.mem_cons] at member
    rcases member with inScheme | rfl | (inBlanks | encoded) | atEnd
    · exact headerChar_of_spelled cased c inScheme
    · decide
    · exact headerChar_of_blank (white c inBlanks)
    · exact headerChar_of_visible (Base64.encode_visible _ c encoded)
    · exact headerChar_of_blank (whiteEnd c atEnd)
  have reads : http.toStr (String.ofList header).toUTF8 = some (String.ofList header) := by
    rw [documented.to_str, String.toList_ofList]
    exact ⟨rfl, plain⟩
  have isBasic := (stripSchemePrefix_eq_matched_iff plain rfl).mpr
    ⟨scheme, _, whole.symm, cased, rfl⟩
  have notBearer : stripSchemePrefix header "Bearer".toList = .unmatched := by
    cases stripped : stripSchemePrefix header "Bearer".toList with
    | panicked => exact absurd stripped (stripSchemePrefix_not_panicked plain rfl)
    | matched token => exact (schemes_exclusive plain stripped isBasic).elim
    | unmatched => rfl
  have parsed : parseBasic http (Text.trimStart (blanks ++
      Base64.encode (credentialBytes id secret) ++ trailing)) = .basic id secret := by
    rw [parseBasic_eq_basic_iff documented, Text.trim_trimStart]
    refine ⟨absent, Text.trim_of_blanks ?_ ?_ ?_⟩
    · exact fun c member => isWhitespace_of_blank (white c member)
    · exact fun c member => isWhitespace_of_visible (Base64.encode_visible _ c member)
    · exact fun c member => isWhitespace_of_blank (whiteEnd c member)
  simp only [parseAuthorization, Option.bind_some, reads, String.toList_ofList, notBearer, isBasic,
    parsed]

/-- Whatever is parsed to credentials is a header of them. -/
theorem carriesBasic_of_parseAuthorization (documented : http.Documented)
    {authorization : Option ByteArray}
    (parsed : parseAuthorization http authorization = .basic id secret) :
    ∃ value, authorization = some value ∧ CarriesBasic value id secret := by
  unfold parseAuthorization at parsed
  split at parsed
  · cases parsed
  · next text reads =>
      rcases Option.bind_eq_some_iff.mp reads with ⟨value, rfl, reads⟩
      rcases (documented.to_str _ _).mp reads with ⟨rfl, plain⟩
      refine ⟨_, rfl, ?_⟩
      split at parsed
      · cases parsed
      · cases parsed
      · split at parsed
        · cases parsed
        · next b64 isBasic =>
            rcases (stripSchemePrefix_eq_matched_iff plain rfl).mp isBasic with
              ⟨front, tail, whole, cased, rfl⟩
            rcases (parseBasic_eq_basic_iff documented).mp parsed with ⟨absent, canonical⟩
            rw [Text.trim_trimStart] at canonical
            rcases Text.exists_trim tail with ⟨left, right, rest, whiteLeft, whiteRight⟩
            rw [canonical] at rest
            rw [whole, rest] at plain
            refine ⟨front, left, right, cased, fun c member => ?_, fun c member => ?_, absent, ?_⟩
            · exact blank_of_isWhitespace (plain c (by simp [member])) (whiteLeft c member)
            · exact blank_of_isWhitespace (plain c (by simp [member])) (whiteRight c member)
            · rw [← rest, ← whole, String.ofList_toList]
        · cases parsed

theorem parseAuthorization_eq_basic_iff (documented : http.Documented)
    {authorization : Option ByteArray} :
    parseAuthorization http authorization = .basic id secret ↔
      ∃ value, authorization = some value ∧ CarriesBasic value id secret := by
  constructor
  · exact carriesBasic_of_parseAuthorization documented
  · rintro ⟨value, rfl, carries⟩
    exact parseAuthorization_of_carriesBasic documented carries

/-- No slice falls inside a character, and at most one scheme is stripped. -/
def DispatchesCleanly (http : HttpLibrary) (value : ByteArray) : Prop :=
  ∀ header, http.toStr value = some header →
    stripSchemePrefix header.toList "Bearer".toList ≠ .panicked ∧
    stripSchemePrefix header.toList "Basic".toList ≠ .panicked ∧
    ¬ ∃ bearer basic, stripSchemePrefix header.toList "Bearer".toList = .matched bearer ∧
      stripSchemePrefix header.toList "Basic".toList = .matched basic

theorem dispatchesCleanly (documented : http.Documented) (value : ByteArray) :
    DispatchesCleanly http value := by
  intro header reads
  have plain := ((documented.to_str _ _).mp reads).2
  refine ⟨stripSchemePrefix_not_panicked plain rfl, stripSchemePrefix_not_panicked plain rfl, ?_⟩
  rintro ⟨bearer, basic, isBearer, isBasic⟩
  exact schemes_exclusive plain isBearer isBasic

variable {jwt : JwtLibrary} {validator : ValidatorInner} {exchanger : ExchangerInner}
  {state : State (List jwt.CoreJsonWebKey)} {index : Nat}

/-- Reading its header, the request calls `exchange` with these credentials and
awaits that call. -/
def CallsExchange (jwt : JwtLibrary) (http : HttpLibrary) (validator : ValidatorInner)
    (exchanger : ExchangerInner) (state : State (List jwt.CoreJsonWebKey)) (index : Nat)
    (id secret : String) : Prop :=
  ∃ authorization next,
    step (enabled jwt http validator exchanger) state (.resolve index) = some next ∧
    next.requests[index]? =
      some ⟨authorization, .exchanging id secret state.exchanger.calls.length⟩ ∧
    next.exchanger.calls = state.exchanger.calls ++ [⟨id, secret, .lookupPositive⟩]

theorem callsExchange_iff {authorization : Option ByteArray}
    (found : state.requests[index]? = some ⟨authorization, .arrived⟩) :
    CallsExchange jwt http validator exchanger state index id secret ↔
      parseAuthorization http authorization = .basic id secret := by
  have bound := (List.getElem?_eq_some_iff.mp found).1
  constructor
  · rintro ⟨_, next, taken, waits, _⟩
    cases parsed : parseAuthorization http authorization with
    | panicked | refused | bearer =>
        simp only [step, found, resolve, parsed] at taken
        rcases Option.some.inj taken with rfl
        simp [State.move, bound] at waits
    | basic otherId otherSecret =>
        simp only [step, found, resolve, parsed] at taken
        rcases Option.map_eq_some_iff.mp taken with ⟨moved, began, rfl⟩
        simp only [State.move, List.getElem?_set_self bound, Option.some.injEq,
          Request.mk.injEq, RequestStage.exchanging.injEq] at waits
        rw [waits.2.1, waits.2.2.1]
  · intro parsed
    have begins : step (enabled jwt http validator exchanger) state (.resolve index) =
        some { state.move index ⟨authorization, .arrived⟩
            (.exchanging id secret state.exchanger.calls.length) with
          exchanger := { state.exchanger with
            calls := state.exchanger.calls ++ [⟨id, secret, .lookupPositive⟩] } } := by
      simp only [step, found, resolve, parsed, Exchange.step, Option.map_some]
    exact ⟨authorization, _, begins, List.getElem?_set_self bound, rfl⟩

/-- Credentials are decoded exactly.  No header makes the dispatch panic or take
both branches, and a request calls `exchange` with a pair of strings precisely
when its header carries that pair. -/
theorem basic_credentials_exact (documented : http.Documented) (jwt : JwtLibrary)
    (validator : ValidatorInner) (exchanger : ExchangerInner) :
    (∀ value, DispatchesCleanly http value) ∧
    ∀ (state : State (List jwt.CoreJsonWebKey)) (index : Nat) (authorization : Option ByteArray),
      state.requests[index]? = some ⟨authorization, .arrived⟩ → ∀ id secret,
        CallsExchange jwt http validator exchanger state index id secret ↔
          ∃ value, authorization = some value ∧ CarriesBasic value id secret := by
  constructor
  · exact dispatchesCleanly documented
  · intro state index authorization found id secret
    rw [callsExchange_iff found]
    exact parseAuthorization_eq_basic_iff documented

end Documented

/-- A secret with a colon in it, an odd spelling and blanks all around. -/
theorem basic_credentials_exact_of_spelled :
    DispatchesCleanly standardHttp "bASIC   YzpzOmVj \t".toUTF8 ∧
      CallsExchange (Validation.referenceLibrary Validation.sampleTokens) standardHttp
        Validation.sampleValidator Exchange.sampleInner
        { State.initial 0 1200 with
          requests := [⟨some "bASIC   YzpzOmVj \t".toUTF8, .arrived⟩] } 0 "c" "s:ec" := by
  have decodes := basic_credentials_exact standardHttp_documented
    (Validation.referenceLibrary Validation.sampleTokens) Validation.sampleValidator
    Exchange.sampleInner
  refine ⟨decodes.1 _, (decodes.2 _ 0 _ rfl "c" "s:ec").mpr ⟨_, rfl, ?_⟩⟩
  refine ⟨"bASIC".toList, [' ', ' '], [' ', '\t'], by unfold spelled; decide, ?_, ?_, by decide, ?_⟩
  · simp [blank]
  · simp [blank]
  · exact congrArg String.toUTF8 (by decide +kernel)

end Gateway
end OidcRs
