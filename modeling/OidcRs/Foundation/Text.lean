namespace OidcRs
namespace Foundation
namespace Text

/-!
# Text as the standard library cuts it

Strings are looked at as lists of characters.  White space is Unicode's
`White_Space` property.  Slicing is by bytes and fails inside a character, which
is where the unchecked slice panics.
-/

/-- `char::is_whitespace` -/
def isWhitespace (c : Char) : Bool :=
  (0x09 ≤ c.toNat && c.toNat ≤ 0x0D) || c.toNat == 0x20 || c.toNat == 0x85 || c.toNat == 0xA0 ||
    c.toNat == 0x1680 || (0x2000 ≤ c.toNat && c.toNat ≤ 0x200A) || c.toNat == 0x2028 ||
    c.toNat == 0x2029 || c.toNat == 0x202F || c.toNat == 0x205F || c.toNat == 0x3000

def trimStart (text : List Char) : List Char := text.dropWhile isWhitespace

def trimEnd (text : List Char) : List Char := (text.reverse.dropWhile isWhitespace).reverse

def trim (text : List Char) : List Char := trimEnd (trimStart text)

/-- `trim_end_matches` -/
def trimEndMatches (char : Char) (text : List Char) : List Char :=
  (text.reverse.dropWhile (fun c => c = char)).reverse

/-- `split_whitespace`: the maximal runs of characters that are not white
space. -/
def splitWhitespace (text : List Char) : List (List Char) :=
  (text.splitOnP isWhitespace).filter (fun word => !word.isEmpty)

/-- `split_once`: what stands before and after the first separator. -/
def splitOnce (separator : Char) : List Char → Option (List Char × List Char)
  | [] => none
  | c :: rest =>
      if c = separator then some ([], rest)
      else (splitOnce separator rest).map (fun halves => (c :: halves.1, halves.2))

/-- The length in bytes. -/
def byteLen : List Char → Nat
  | [] => 0
  | c :: rest => c.utf8Size + byteLen rest

/-- Both sides of a byte offset, if it is at the boundary of a character. -/
def splitAtByte : Nat → List Char → Option (List Char × List Char)
  | 0, text => some ([], text)
  | _ + 1, [] => none
  | offset + 1, c :: rest =>
      if c.utf8Size ≤ offset + 1 then
        (splitAtByte (offset + 1 - c.utf8Size) rest).map (fun halves => (c :: halves.1, halves.2))
      else none

/-- `eq_ignore_ascii_case` -/
def eqIgnoreAsciiCase (left right : List Char) : Bool :=
  left.map Char.toLower == right.map Char.toLower

/-! ## Slicing -/

theorem byteLen_of_ascii {text : List Char} (ascii : ∀ c ∈ text, c.utf8Size = 1) :
    byteLen text = text.length := by
  induction text with
  | nil => rfl
  | cons c rest inductionHypothesis =>
      rw [byteLen, ascii c List.mem_cons_self,
        inductionHypothesis fun other member => ascii other (List.mem_cons_of_mem _ member),
        List.length_cons, Nat.add_comm]

/-- In ASCII every offset within the text is a boundary. -/
theorem splitAtByte_of_ascii {text : List Char} {offset : Nat}
    (ascii : ∀ c ∈ text, c.utf8Size = 1) (within : offset ≤ text.length) :
    splitAtByte offset text = some (text.take offset, text.drop offset) := by
  induction text generalizing offset with
  | nil =>
      obtain rfl : offset = 0 := Nat.le_zero.mp within
      rfl
  | cons c rest inductionHypothesis =>
      cases offset with
      | zero => rfl
      | succ offset =>
          have one := ascii c List.mem_cons_self
          have below : offset ≤ rest.length := Nat.le_of_succ_le_succ within
          have later := inductionHypothesis
            (fun other member => ascii other (List.mem_cons_of_mem _ member)) below
          rw [splitAtByte, one, if_pos (Nat.succ_le_succ (Nat.zero_le _)), Nat.add_sub_cancel, later]
          rfl

/-! ## Trimming -/

theorem trimStart_of_blanks {left text : List Char} (blank : ∀ c ∈ left, isWhitespace c = true) :
    trimStart (left ++ text) = trimStart text := by
  induction left with
  | nil => rfl
  | cons c rest inductionHypothesis =>
      rw [List.cons_append, trimStart, List.dropWhile_cons, if_pos (blank c List.mem_cons_self)]
      exact inductionHypothesis fun other member => blank other (List.mem_cons_of_mem _ member)

theorem trimStart_of_dark {text : List Char} (dark : ∀ c ∈ text.head?, isWhitespace c = false) :
    trimStart text = text := by
  cases text with
  | nil => rfl
  | cons c rest =>
      rw [trimStart, List.dropWhile_cons, if_neg]
      rw [dark c rfl]
      exact Bool.false_ne_true

/-- What is cut off at the front is blank. -/
theorem exists_trimStart (text : List Char) :
    ∃ left, text = left ++ trimStart text ∧ ∀ c ∈ left, isWhitespace c = true :=
  ⟨text.takeWhile isWhitespace, (List.takeWhile_append_dropWhile).symm,
    List.all_eq_true.mp List.all_takeWhile⟩

theorem exists_trimEnd (text : List Char) :
    ∃ right, text = trimEnd text ++ right ∧ ∀ c ∈ right, isWhitespace c = true := by
  rcases exists_trimStart text.reverse with ⟨left, whole, blank⟩
  refine ⟨left.reverse, ?_, fun c member => blank c (List.mem_reverse.mp member)⟩
  change text = (trimStart text.reverse).reverse ++ left.reverse
  rw [← List.reverse_append, ← whole, List.reverse_reverse]

/-- Trimming recovers a text without blanks from between blanks. -/
theorem trim_of_blanks {left core right : List Char} (blankLeft : ∀ c ∈ left, isWhitespace c = true)
    (dark : ∀ c ∈ core, isWhitespace c = false) (blankRight : ∀ c ∈ right, isWhitespace c = true) :
    trim (left ++ core ++ right) = core := by
  unfold trim
  rw [List.append_assoc, trimStart_of_blanks blankLeft]
  cases core with
  | nil =>
      rw [List.nil_append, ← List.append_nil right, trimStart_of_blanks blankRight]
      rfl
  | cons c rest =>
      have first : ∀ char ∈ (c :: rest ++ right).head?, isWhitespace char = false := by
        intro char here
        rcases Option.some.inj here with rfl
        exact dark c List.mem_cons_self
      have last : ∀ char ∈ (c :: rest).reverse.head?, isWhitespace char = false := by
        intro char here
        exact dark char (List.mem_reverse.mp (List.mem_of_head? here))
      have blankReversed : ∀ char ∈ right.reverse, isWhitespace char = true :=
        fun char member => blankRight char (List.mem_reverse.mp member)
      rw [trimStart_of_dark first]
      change (trimStart (c :: rest ++ right).reverse).reverse = c :: rest
      rw [List.reverse_append, trimStart_of_blanks blankReversed, trimStart_of_dark last,
        List.reverse_reverse]

theorem trim_trimStart (text : List Char) : trim (trimStart text) = trim text := by
  rcases exists_trimStart text with ⟨left, whole, blank⟩
  have again : trimStart text = trimStart (trimStart text) :=
    (congrArg trimStart whole).trans (trimStart_of_blanks blank)
  unfold trim
  rw [← again]

/-- What is cut off on either side is blank. -/
theorem exists_trim (text : List Char) :
    ∃ left right, text = left ++ trim text ++ right ∧ (∀ c ∈ left, isWhitespace c = true) ∧
      ∀ c ∈ right, isWhitespace c = true := by
  rcases exists_trimStart text with ⟨left, whole, blankLeft⟩
  rcases exists_trimEnd (trimStart text) with ⟨right, rest, blankRight⟩
  refine ⟨left, right, ?_, blankLeft, blankRight⟩
  rw [List.append_assoc, trim, ← rest]
  exact whole

/-! ## Cutting at a separator -/

theorem splitOnce_eq_some_iff {separator : Char} {text front back : List Char} :
    splitOnce separator text = some (front, back) ↔
      text = front ++ separator :: back ∧ separator ∉ front := by
  induction text generalizing front with
  | nil => simp [splitOnce]
  | cons c rest inductionHypothesis =>
      by_cases found : c = separator
      · rw [splitOnce, if_pos found]
        cases front with
        | nil => simp [found]
        | cons first others =>
            constructor
            · intro impossible
              cases impossible
            · rintro ⟨whole, absent⟩
              rcases List.cons.inj whole with ⟨rfl, _⟩
              exact absurd (found ▸ List.mem_cons_self) absent
      · rw [splitOnce, if_neg found]
        cases front with
        | nil => simp [found]
        | cons first others =>
            constructor
            · intro cut
              rcases Option.map_eq_some_iff.mp cut with ⟨halves, inside, same⟩
              rcases Prod.mk.inj same with ⟨joined, rfl⟩
              rcases List.cons.inj joined with ⟨rfl, rfl⟩
              rcases inductionHypothesis.mp inside with ⟨rfl, absent⟩
              refine ⟨rfl, fun member => ?_⟩
              rcases List.mem_cons.mp member with same | member
              · exact found same.symm
              · exact absent member
            · rintro ⟨whole, absent⟩
              rcases List.cons.inj whole with ⟨rfl, rfl⟩
              have inside := inductionHypothesis.mpr
                ⟨rfl, fun member => absent (List.mem_cons_of_mem _ member)⟩
              rw [inside]
              rfl

/-! ## Words -/

def Blank (text : List Char) : Prop := ∀ c ∈ text, isWhitespace c = true

/-- Some text, and none of it white space. -/
structure IsWord (word : List Char) : Prop where
  nonempty : word ≠ []
  dark : ∀ c ∈ word, isWhitespace c = false

/-- A text that writes words out in order, with any runs of white space before
them, after them and, never empty, between them. -/
inductive Spells : List Char → List (List Char) → Prop
  | nil {gap : List Char} (blank : Blank gap) : Spells gap []
  | cons {gap word rest : List Char} {words : List (List Char)} (blank : Blank gap)
      (isWord : IsWord word) (apart : ∀ c ∈ rest.head?, isWhitespace c = true)
      (later : Spells rest words) : Spells (gap ++ (word ++ rest)) (word :: words)

theorem IsWord.cons {c : Char} {word : List Char} (dark : isWhitespace c = false)
    (rest : ∀ other ∈ word, isWhitespace other = false) : IsWord (c :: word) := by
  refine ⟨List.cons_ne_nil c word, fun other member => ?_⟩
  rcases List.mem_cons.mp member with rfl | member
  · exact dark
  · exact rest other member

theorem Blank.cons {c : Char} {text : List Char} (white : isWhitespace c = true)
    (rest : Blank text) : Blank (c :: text) := by
  intro other member
  rcases List.mem_cons.mp member with rfl | member
  · exact white
  · exact rest other member

theorem Blank.head {text : List Char} (blank : Blank text) :
    ∀ c ∈ text.head?, isWhitespace c = true :=
  fun c here => blank c (List.mem_of_head? here)

namespace Spells

theorem isWord {text : List Char} {words : List (List Char)} (spells : Spells text words) :
    ∀ word ∈ words, IsWord word := by
  induction spells with
  | nil blank =>
      intro word member
      cases member
  | cons blank isWord apart later inductionHypothesis =>
      intro word member
      rcases List.mem_cons.mp member with rfl | member
      · exact isWord
      · exact inductionHypothesis word member

theorem white {c : Char} {text : List Char} {words : List (List Char)}
    (white : isWhitespace c = true) (spells : Spells text words) : Spells (c :: text) words := by
  cases spells with
  | nil blank => exact .nil (.cons white blank)
  | @cons gap word rest words blank isWord apart later =>
      have wider : Blank (c :: gap) := .cons white blank
      exact .cons wider isWord apart later

end Spells

/-- Whatever the text, it spells some words. -/
theorem exists_spells (text : List Char) : ∃ words, Spells text words := by
  induction text with
  | nil => exact ⟨[], .nil fun c member => nomatch member⟩
  | cons c rest inductionHypothesis =>
      rcases inductionHypothesis with ⟨words, spells⟩
      have none : Blank [] := fun other member => nomatch member
      cases isWhite : isWhitespace c with
      | true => exact ⟨words, spells.white isWhite⟩
      | false =>
          have alone : IsWord [c] := .cons isWhite fun other member => nomatch member
          cases spells with
          | nil blank => exact ⟨[[c]], .cons none alone blank.head (.nil blank)⟩
          | @cons gap word rest words blank isWord apart later =>
              cases gap with
              | nil =>
                  have longer : IsWord (c :: word) := .cons isWhite isWord.dark
                  exact ⟨(c :: word) :: words, .cons none longer apart later⟩
              | cons first others =>
                  refine ⟨[c] :: word :: words, .cons none alone ?_ ?_⟩
                  · intro other here
                    exact Option.some.inj here ▸ blank first List.mem_cons_self
                  · exact .cons blank isWord apart later

theorem splitWhitespace_white {c : Char} (white : isWhitespace c = true) (text : List Char) :
    splitWhitespace (c :: text) = splitWhitespace text := by
  unfold splitWhitespace
  rw [List.splitOnP_cons_eq_if_modifyHead, if_pos white]
  rfl

theorem splitWhitespace_blanks {gap : List Char} (blank : Blank gap) (text : List Char) :
    splitWhitespace (gap ++ text) = splitWhitespace text := by
  induction gap with
  | nil => rfl
  | cons c rest inductionHypothesis =>
      rw [List.cons_append, splitWhitespace_white (blank c List.mem_cons_self)]
      exact inductionHypothesis fun other member => blank other (List.mem_cons_of_mem _ member)

theorem splitWhitespace_word {word rest : List Char} (isWord : IsWord word)
    (apart : ∀ c ∈ rest.head?, isWhitespace c = true) :
    splitWhitespace (word ++ rest) = word :: splitWhitespace rest := by
  have kept : (!word.isEmpty) = true := by
    rw [Bool.not_eq_true', List.isEmpty_eq_false_iff]
    exact isWord.nonempty
  cases rest with
  | nil =>
      unfold splitWhitespace
      rw [List.append_nil, List.splitOnP_eq_singleton isWord.dark, List.filter_cons, if_pos kept]
      rfl
  | cons c rest =>
      rw [splitWhitespace_white (apart c rfl)]
      unfold splitWhitespace
      rw [List.splitOnP_append_cons_of_forall_mem isWord.dark c (apart c rfl),
        List.filter_cons, if_pos kept]

/-- The words that a text spells are the words that splitting it gives, however
wide the white space is. -/
theorem splitWhitespace_of_spells {text : List Char} {words : List (List Char)}
    (spells : Spells text words) : splitWhitespace text = words := by
  induction spells with
  | @nil gap blank =>
      rw [← List.append_nil gap, splitWhitespace_blanks blank]
      rfl
  | cons blank isWord apart later inductionHypothesis =>
      rw [splitWhitespace_blanks blank, splitWhitespace_word isWord apart, inductionHypothesis]

theorem spells_splitWhitespace (text : List Char) : Spells text (splitWhitespace text) := by
  rcases exists_spells text with ⟨words, spells⟩
  rw [splitWhitespace_of_spells spells]
  exact spells

theorem isWord_of_mem_splitWhitespace {text word : List Char}
    (member : word ∈ splitWhitespace text) : IsWord word :=
  (spells_splitWhitespace text).isWord word member

/-- Only blank text has no words. -/
theorem splitWhitespace_eq_nil_iff {text : List Char} :
    splitWhitespace text = [] ↔ Blank text := by
  constructor
  · intro empty
    have spells := spells_splitWhitespace text
    rw [empty] at spells
    cases spells with
    | nil blank => exact blank
  · intro blank
    exact splitWhitespace_of_spells (.nil blank)

/-! ## Lists of names -/

/-- The entries between separators, trimmed, without those that are empty. -/
def entries (separator : Char) (text : List Char) : List (List Char) :=
  ((text.splitOn separator).map trim).filter (fun entry => !entry.isEmpty)

/-- Some text that stands for itself in a list: no separator, and no white space at
its ends. -/
structure IsName (separator : Char) (name : List Char) : Prop where
  nonempty : name ≠ []
  absent : separator ∉ name
  first : ∀ c ∈ name.head?, isWhitespace c = false
  last : ∀ c ∈ name.getLast?, isWhitespace c = false

/-- One entry: a name with white space around it, or none. -/
inductive Entry (separator : Char) : List Char → List (List Char) → Prop
  | blank {gap : List Char} (blank : Blank gap) : Entry separator gap []
  | name {left name right : List Char} (blankLeft : Blank left) (isName : IsName separator name)
      (blankRight : Blank right) : Entry separator (left ++ name ++ right) [name]

/-- A text that lists names in order, with a separator between any two entries. -/
inductive Lists (separator : Char) : List Char → List (List Char) → Prop
  | last {entry : List Char} {names : List (List Char)} (here : Entry separator entry names) :
      Lists separator entry names
  | cons {entry rest : List Char} {names others : List (List Char)}
      (here : Entry separator entry names) (later : Lists separator rest others) :
      Lists separator (entry ++ separator :: rest) (names ++ others)

theorem trim_of_blank {gap : List Char} (blank : Blank gap) : trim gap = [] := by
  have nothing : trim (gap ++ [] ++ []) = [] :=
    trim_of_blanks blank (fun c member => nomatch member) fun c member => nomatch member
  rwa [List.append_nil, List.append_nil] at nothing

/-- Trimming recovers a name from between blanks, whatever white space is inside. -/
theorem trim_of_isName {separator : Char} {left name right : List Char} (blankLeft : Blank left)
    (isName : IsName separator name) (blankRight : Blank right) :
    trim (left ++ name ++ right) = name := by
  unfold trim
  rw [List.append_assoc, trimStart_of_blanks blankLeft]
  have first : ∀ c ∈ (name ++ right).head?, isWhitespace c = false := by
    intro c here
    cases name with
    | nil => exact absurd rfl isName.nonempty
    | cons char rest => exact isName.first c here
  have last : ∀ c ∈ name.reverse.head?, isWhitespace c = false := by
    intro c here
    rw [List.head?_reverse] at here
    exact isName.last c here
  rw [trimStart_of_dark first]
  change (trimStart (name ++ right).reverse).reverse = name
  rw [List.reverse_append, trimStart_of_blanks fun c member =>
    blankRight c (List.mem_reverse.mp member), trimStart_of_dark last, List.reverse_reverse]

theorem trimStart_head (text : List Char) :
    ∀ c ∈ (trimStart text).head?, isWhitespace c = false := by
  intro c here
  have dark := List.head?_dropWhile_not isWhitespace text
  change (trimStart text).head? = some c at here
  unfold trimStart at here
  rw [here] at dark
  simpa using dark

/-- What is left has no white space at its ends. -/
theorem trim_ends (text : List Char) :
    (∀ c ∈ (trim text).head?, isWhitespace c = false) ∧
      ∀ c ∈ (trim text).getLast?, isWhitespace c = false := by
  constructor
  · intro c here
    rcases exists_trimEnd (trimStart text) with ⟨right, whole, _⟩
    refine trimStart_head text c ?_
    rw [whole, List.head?_append]
    change (trim text).head?.or right.head? = some c
    rw [Option.mem_def.mp here]
    rfl
  · intro c here
    have reversed := trimStart_head (trimStart text).reverse c
    unfold trim trimEnd at here
    rw [List.getLast?_reverse] at here
    exact reversed here

namespace Entry

variable {separator : Char} {entry : List Char} {names : List (List Char)}

theorem absent (dark : isWhitespace separator = false) (here : Entry separator entry names) :
    separator ∉ entry := by
  have notBlank {gap : List Char} (blank : Blank gap) : separator ∉ gap := by
    intro member
    rw [blank separator member] at dark
    cases dark
  cases here with
  | blank blank => exact notBlank blank
  | name blankLeft isName blankRight =>
      simp only [List.mem_append, not_or]
      exact ⟨⟨notBlank blankLeft, isName.absent⟩, notBlank blankRight⟩

theorem trimmed (here : Entry separator entry names) :
    [trim entry].filter (fun entry => !entry.isEmpty) = names := by
  cases here with
  | blank blank =>
      rw [trim_of_blank blank]
      rfl
  | @name left name right blankLeft isName blankRight =>
      have kept : (!name.isEmpty) = true := by
        rw [Bool.not_eq_true', List.isEmpty_eq_false_iff]
        exact isName.nonempty
      rw [trim_of_isName blankLeft isName blankRight, List.filter_cons, if_pos kept]
      rfl

end Entry

/-- Whatever stands between separators is an entry. -/
theorem exists_entry {separator : Char} {entry : List Char} (absent : separator ∉ entry) :
    ∃ names, Entry separator entry names := by
  rcases exists_trim entry with ⟨left, right, whole, blankLeft, blankRight⟩
  by_cases empty : trim entry = []
  · refine ⟨[], .blank fun c member => ?_⟩
    rw [whole, empty, List.append_nil] at member
    rcases List.mem_append.mp member with before | after
    · exact blankLeft c before
    · exact blankRight c after
  · have isName : IsName separator (trim entry) := by
      refine ⟨empty, fun member => absent ?_, (trim_ends entry).1, (trim_ends entry).2⟩
      rw [whole]
      exact List.mem_append_left _ (List.mem_append_right _ member)
    have here : Entry separator (left ++ trim entry ++ right) [trim entry] :=
      .name blankLeft isName blankRight
    rw [← whole] at here
    exact ⟨_, here⟩

/-- Whatever the text, it lists some names. -/
theorem exists_lists (separator : Char) (text : List Char) :
    ∃ names, Lists separator text names := by
  by_cases member : separator ∈ text
  · rcases List.eq_append_cons_of_mem member with ⟨entry, rest, whole, absent⟩
    have shorter : rest.length < text.length := by
      rw [whole, List.length_append, List.length_cons]
      omega
    rcases exists_entry absent with ⟨names, here⟩
    rcases exists_lists separator rest with ⟨others, later⟩
    rw [whole]
    exact ⟨names ++ others, .cons here later⟩
  · rcases exists_entry member with ⟨names, here⟩
    exact ⟨names, .last here⟩
termination_by text.length

/-- The names that a text lists are its entries, however they are spaced. -/
theorem entries_of_lists {separator : Char} (dark : isWhitespace separator = false)
    {text : List Char} {names : List (List Char)} (lists : Lists separator text names) :
    entries separator text = names := by
  induction lists with
  | last here =>
      unfold entries
      rw [List.splitOn_eq_singleton (here.absent dark)]
      exact here.trimmed
  | cons here later inductionHypothesis =>
      unfold entries at inductionHypothesis ⊢
      rw [List.splitOn_append_cons_self_of_not_mem (here.absent dark), List.map_cons,
        ← List.singleton_append, List.filter_append, here.trimmed, inductionHypothesis]

theorem entries_eq_iff {separator : Char} (dark : isWhitespace separator = false)
    {text : List Char} {names : List (List Char)} :
    entries separator text = names ↔ Lists separator text names := by
  constructor
  · intro same
    rcases exists_lists separator text with ⟨listed, lists⟩
    rw [← same, entries_of_lists dark lists]
    exact lists
  · exact entries_of_lists dark

end Text
end Foundation
end OidcRs
