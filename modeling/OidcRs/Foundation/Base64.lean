namespace OidcRs
namespace Foundation
namespace Base64

/-!
# Base64 with the standard alphabet

Three bytes are written as four characters of six bits each; a last group of
one or two bytes is padded.  Decoding accepts the canonical padded texts and no
others, so it is exactly the inverse of encoding.
-/

/-- The character of a six-bit value: a capital, a small letter, a digit or one of
two signs. -/
def digit (value : Nat) : Char :=
  if value < 26 then Char.ofNat (65 + value)
  else if value < 52 then Char.ofNat (71 + value)
  else if value < 62 then Char.ofNat (value - 4)
  else if value = 62 then '+'
  else '/'

/-- The six-bit value of a character of the alphabet. -/
def value (c : Char) : Option Nat := (List.range 64).find? (fun value => digit value = c)

theorem value_digit {bits : Nat} (small : bits < 64) : value (digit bits) = some bits := by
  have each : ∀ bits : Fin 64, value (digit bits.val) = some bits.val := by decide +kernel
  exact each ⟨bits, small⟩

theorem value_eq_some {c : Char} {bits : Nat} (read : value c = some bits) :
    bits < 64 ∧ digit bits = c :=
  ⟨List.mem_range.mp (List.mem_of_find?_eq_some read), by simpa using List.find?_some read⟩

theorem toNat_ofNat {bits : Nat} (small : bits < 256) : (UInt8.ofNat bits).toNat = bits := by
  rw [UInt8.toNat_ofNat']
  exact Nat.mod_eq_of_lt small

theorem ofNat_eq {bits : Nat} {byte : UInt8} (same : bits = byte.toNat) :
    UInt8.ofNat bits = byte := by
  rw [same, UInt8.ofNat_toNat]

/-! ## Groups -/

def encodeOne (a : UInt8) : List Char :=
  [digit (a.toNat / 4), digit (a.toNat % 4 * 16), '=', '=']

def encodeTwo (a b : UInt8) : List Char :=
  [digit (a.toNat / 4), digit (a.toNat % 4 * 16 + b.toNat / 16), digit (b.toNat % 16 * 4), '=']

def encodeThree (a b c : UInt8) : List Char :=
  [digit (a.toNat / 4), digit (a.toNat % 4 * 16 + b.toNat / 16),
    digit (b.toNat % 16 * 4 + c.toNat / 64), digit (c.toNat % 64)]

/-- One byte; the four bits that are left over must be zero. -/
def decodeOne (w x : Char) : Option UInt8 :=
  match value w, value x with
  | some w, some x => if x % 16 = 0 then some (.ofNat (w * 4 + x / 16)) else none
  | _, _ => none

/-- Two bytes; the two bits that are left over must be zero. -/
def decodeTwo (w x y : Char) : Option (UInt8 × UInt8) :=
  match value w, value x, value y with
  | some w, some x, some y =>
      if y % 4 = 0 then some (.ofNat (w * 4 + x / 16), .ofNat (x % 16 * 16 + y / 4)) else none
  | _, _, _ => none

def decodeThree (w x y z : Char) : Option (UInt8 × UInt8 × UInt8) :=
  match value w, value x, value y, value z with
  | some w, some x, some y, some z =>
      some (.ofNat (w * 4 + x / 16), .ofNat (x % 16 * 16 + y / 4), .ofNat (y % 4 * 64 + z))
  | _, _, _, _ => none

theorem decodeOne_eq_some_iff {w x : Char} {a : UInt8} :
    decodeOne w x = some a ↔ [w, x, '=', '='] = encodeOne a := by
  constructor
  · intro decoded
    unfold decodeOne at decoded
    split at decoded
    · next high low readW readX =>
        split at decoded
        · next zero =>
            rcases value_eq_some readW with ⟨smallW, rfl⟩
            rcases value_eq_some readX with ⟨smallX, rfl⟩
            rcases Option.some.inj decoded with rfl
            simp only [encodeOne, toNat_ofNat (show high * 4 + low / 16 < 256 by omega),
              List.cons.injEq, and_true]
            exact ⟨congrArg digit (by omega), congrArg digit (by omega)⟩
        · cases decoded
    · cases decoded
  · intro encoded
    have bound := a.toNat_lt
    simp only [encodeOne, List.cons.injEq, and_true] at encoded
    rw [encoded.1, encoded.2, decodeOne, value_digit (by omega), value_digit (by omega)]
    simp only [Nat.mul_mod_left, if_true]
    exact congrArg some (ofNat_eq (by omega))

theorem decodeTwo_eq_some_iff {w x y : Char} {a b : UInt8} :
    decodeTwo w x y = some (a, b) ↔ [w, x, y, '='] = encodeTwo a b := by
  constructor
  · intro decoded
    unfold decodeTwo at decoded
    split at decoded
    · next first second third readW readX readY =>
        split at decoded
        · next zero =>
            rcases value_eq_some readW with ⟨smallW, rfl⟩
            rcases value_eq_some readX with ⟨smallX, rfl⟩
            rcases value_eq_some readY with ⟨smallY, rfl⟩
            rcases Prod.mk.inj (Option.some.inj decoded) with ⟨rfl, rfl⟩
            simp only [encodeTwo, toNat_ofNat (show first * 4 + second / 16 < 256 by omega),
              toNat_ofNat (show second % 16 * 16 + third / 4 < 256 by omega), List.cons.injEq,
              and_true]
            exact ⟨congrArg digit (by omega), congrArg digit (by omega), congrArg digit (by omega)⟩
        · cases decoded
    · cases decoded
  · intro encoded
    have boundA := a.toNat_lt
    have boundB := b.toNat_lt
    simp only [encodeTwo, List.cons.injEq, and_true] at encoded
    rw [encoded.1, encoded.2.1, encoded.2.2, decodeTwo, value_digit (by omega),
      value_digit (by omega), value_digit (by omega)]
    simp only [Nat.mul_mod_left, if_true, Option.some.injEq, Prod.mk.injEq]
    exact ⟨ofNat_eq (by omega), ofNat_eq (by omega)⟩

theorem decodeThree_eq_some_iff {w x y z : Char} {a b c : UInt8} :
    decodeThree w x y z = some (a, b, c) ↔ [w, x, y, z] = encodeThree a b c := by
  constructor
  · intro decoded
    unfold decodeThree at decoded
    split at decoded
    · next first second third fourth readW readX readY readZ =>
        rcases value_eq_some readW with ⟨smallW, rfl⟩
        rcases value_eq_some readX with ⟨smallX, rfl⟩
        rcases value_eq_some readY with ⟨smallY, rfl⟩
        rcases value_eq_some readZ with ⟨smallZ, rfl⟩
        rcases Option.some.inj decoded with ⟨rfl, rfl, rfl⟩
        simp only [encodeThree, toNat_ofNat (show first * 4 + second / 16 < 256 by omega),
          toNat_ofNat (show second % 16 * 16 + third / 4 < 256 by omega),
          toNat_ofNat (show third % 4 * 64 + fourth < 256 by omega), List.cons.injEq, and_true]
        exact ⟨congrArg digit (by omega), congrArg digit (by omega), congrArg digit (by omega),
          congrArg digit (by omega)⟩
    · cases decoded
  · intro encoded
    have boundA := a.toNat_lt
    have boundB := b.toNat_lt
    have boundC := c.toNat_lt
    simp only [encodeThree, List.cons.injEq, and_true] at encoded
    rw [encoded.1, encoded.2.1, encoded.2.2.1, encoded.2.2.2, decodeThree, value_digit (by omega),
      value_digit (by omega), value_digit (by omega), value_digit (by omega)]
    simp only [Option.some.injEq, Prod.mk.injEq]
    exact ⟨ofNat_eq (by omega), ofNat_eq (by omega), ofNat_eq (by omega)⟩

/-! ## Texts -/

def encode : List UInt8 → List Char
  | [] => []
  | [a] => encodeOne a
  | [a, b] => encodeTwo a b
  | a :: b :: c :: rest => encodeThree a b c ++ encode rest

/-- The last group of a text may be padded, no other. -/
def decode : List Char → Option (List UInt8)
  | [] => some []
  | w :: x :: y :: z :: rest =>
      if z = '=' then
        if rest ≠ [] then none
        else if y = '=' then (decodeOne w x).map (fun a => [a])
        else (decodeTwo w x y).map (fun group => [group.1, group.2])
      else
        match decodeThree w x y z, decode rest with
        | some (a, b, c), some bytes => some (a :: b :: c :: bytes)
        | _, _ => none
  | _ => none

theorem encode_three (a b c : UInt8) (rest : List UInt8) :
    encode (a :: b :: c :: rest) = encodeThree a b c ++ encode rest := rfl

theorem digit_ne_pad {bits : Nat} (small : bits < 64) : digit bits ≠ '=' := by
  have each : ∀ bits : Fin 64, digit bits.val ≠ '=' := by decide +kernel
  exact each ⟨bits, small⟩

theorem encode_of_decode {text : List Char} {bytes : List UInt8}
    (decoded : decode text = some bytes) : text = encode bytes := by
  induction text using decode.induct generalizing bytes with
  | case1 =>
      rcases Option.some.inj decoded with rfl
      rfl
  | case2 w x y rest more =>
      rw [decode, if_pos rfl, if_pos more] at decoded
      cases decoded
  | case3 w x rest last =>
      rw [Decidable.not_not.mp last] at decoded ⊢
      rcases Option.map_eq_some_iff.mp decoded with ⟨a, one, rfl⟩
      exact decodeOne_eq_some_iff.mp one
  | case4 w x y rest last unpadded =>
      rw [Decidable.not_not.mp last] at decoded ⊢
      simp only [decode, if_true, ne_eq, not_true_eq_false, if_false, if_neg unpadded] at decoded
      rcases Option.map_eq_some_iff.mp decoded with ⟨group, two, rfl⟩
      exact decodeTwo_eq_some_iff.mp two
  | case5 w x y z rest full a b c others decodedRest three inductionHypothesis =>
      simp only [decode, if_neg full, three, decodedRest] at decoded
      rcases Option.some.inj decoded with rfl
      rw [encode_three, ← decodeThree_eq_some_iff.mp three, ← inductionHypothesis decodedRest]
      rfl
  | case6 w x y z rest full neither inductionHypothesis =>
      simp only [decode, if_neg full] at decoded
      cases decoded
  | case7 text empty short =>
      rw [decode] at decoded
      · cases decoded
      · exact empty
      · exact short

theorem decode_of_encode (bytes : List UInt8) : decode (encode bytes) = some bytes := by
  induction bytes using encode.induct with
  | case1 => rfl
  | case2 a =>
      have one := decodeOne_eq_some_iff.mpr (Eq.refl (encodeOne a))
      change (decodeOne _ _).map _ = _
      rw [one]
      rfl
  | case3 a b =>
      have bound := b.toNat_lt
      have two := decodeTwo_eq_some_iff.mpr (Eq.refl (encodeTwo a b))
      have unpadded : digit (b.toNat % 16 * 4) ≠ '=' := digit_ne_pad (by omega)
      change decode (encodeTwo a b) = _
      simp only [encodeTwo, decode, if_true, ne_eq, not_true_eq_false, if_false, if_neg unpadded]
      rw [two]
      rfl
  | case4 a b c rest inductionHypothesis =>
      have bound := c.toNat_lt
      have three := decodeThree_eq_some_iff.mpr (Eq.refl (encodeThree a b c))
      have unpadded : digit (c.toNat % 64) ≠ '=' := digit_ne_pad (by omega)
      rw [encode_three]
      simp only [encodeThree, List.cons_append, List.nil_append, decode, if_neg unpadded]
      rw [three, inductionHypothesis]

/-- Decoding succeeds exactly on what encoding writes, and inverts it. -/
theorem decode_eq_some_iff {text : List Char} {bytes : List UInt8} :
    decode text = some bytes ↔ text = encode bytes := by
  constructor
  · exact encode_of_decode
  · rintro rfl
    exact decode_of_encode bytes

/-! ## The characters of a text -/

/-- A printed ASCII character other than the blank. -/
def visible (c : Char) : Prop := 0x21 ≤ c.toNat ∧ c.toNat ≤ 0x7E

theorem digit_visible (bits : Nat) : visible (digit bits) := by
  have each : ∀ bits : Fin 64, 0x21 ≤ (digit bits.val).toNat ∧ (digit bits.val).toNat ≤ 0x7E := by
    decide +kernel
  by_cases small : bits < 64
  · exact each ⟨bits, small⟩
  · have beyond : digit bits = '/' := by
      unfold digit
      rw [if_neg (by omega), if_neg (by omega), if_neg (by omega), if_neg (by omega)]
    rw [beyond]
    unfold visible
    decide

theorem pad_visible : visible '=' := by unfold visible; decide

theorem encode_visible (bytes : List UInt8) : ∀ c ∈ encode bytes, visible c := by
  induction bytes using encode.induct with
  | case1 => simp [encode]
  | case2 a => simp [encode, encodeOne, digit_visible, pad_visible]
  | case3 a b => simp [encode, encodeTwo, digit_visible, pad_visible]
  | case4 a b c rest inductionHypothesis =>
      have first : ∀ char ∈ encodeThree a b c, visible char := by
        simp [encodeThree, digit_visible]
      intro char member
      rcases List.mem_append.mp member with here | later
      · exact first char here
      · exact inductionHypothesis char later

end Base64
end Foundation
end OidcRs
