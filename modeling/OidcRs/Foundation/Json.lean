namespace OidcRs
namespace Foundation

/-!
# JSON documents and derived field decoding

The value type keeps the three number shapes a parser distinguishes: unsigned
64-bit, negative, and everything else as a float in its written form.  The
field rules are those of a derived record decoder: unknown fields are ignored,
a field written twice is an error, and an optional field may be absent or null.
-/

inductive Json
  | null
  | bool (value : Bool)
  | unsigned (value : UInt64)
  | negative (value : Int)
  | float (text : String)
  | str (text : String)
  | arr (items : List Json)
  | obj (fields : List (String × Json))

namespace Json

def asString : Json → Option String
  | str text => some text
  | _ => none

def asUnsigned : Json → Option UInt64
  | unsigned value => some value
  | _ => none

/-- An array all of whose items are strings. -/
def asStrings : Json → Option (List String)
  | arr items => items.mapM asString
  | _ => none

/-- The field of a document that is kept as it is: the last of its name. -/
def get (document : Json) (name : String) : Option Json :=
  match document with
  | obj fields => (fields.reverse.find? (fun field => field.1 = name)).map Prod.snd
  | _ => none

/-- What a record decoder meets under a field name. -/
inductive FieldRead
  | absent
  | found (value : Json)
  | repeated

def readField (fields : List (String × Json)) (name : String) : FieldRead :=
  match fields.filter (fun field => field.1 = name) with
  | [] => .absent
  | [field] => .found field.2
  | _ => .repeated

/-- A field that is listed is found, unless there is another of its name. -/
theorem readField_of_mem {fields : List (String × Json)} {name : String} {value : Json}
    (listed : (name, value) ∈ fields) :
    readField fields name = .found value ∨ readField fields name = .repeated := by
  have inFilter : (name, value) ∈ fields.filter (fun field => field.1 = name) :=
    List.mem_filter.mpr ⟨listed, by simp⟩
  unfold readField
  cases filtered : fields.filter (fun field => field.1 = name) with
  | nil =>
      rw [filtered] at inFilter
      cases inFilter
  | cons first rest =>
      rw [filtered] at inFilter
      cases rest with
      | nil =>
          rcases List.mem_singleton.mp inFilter with rfl
          exact Or.inl rfl
      | cons second rest => exact Or.inr rfl

/-- The order of the fields is not looked at. -/
theorem readField_perm {fields others : List (String × Json)} (permuted : fields.Perm others)
    (name : String) : readField fields name = readField others name := by
  have filtered := permuted.filter (fun field => decide (field.1 = name))
  unfold readField
  generalize fields.filter (fun field => decide (field.1 = name)) = here at filtered ⊢
  generalize others.filter (fun field => decide (field.1 = name)) = there at filtered ⊢
  match here, there with
  | [], _ => rw [List.nil_perm.mp filtered]
  | [field], _ => rw [List.singleton_perm.mp filtered]
  | _ :: _ :: _, [] => cases List.perm_nil.mp filtered
  | _ :: _ :: _, [field] => cases List.perm_singleton.mp filtered
  | _ :: _ :: _, _ :: _ :: _ => rfl

/-- Fields of other names are ignored. -/
theorem readField_append {fields others : List (String × Json)} {name : String}
    (unknown : ∀ field ∈ others, field.1 ≠ name) :
    readField (fields ++ others) name = readField fields name := by
  have none : others.filter (fun field => decide (field.1 = name)) = [] :=
    List.filter_eq_nil_iff.mpr fun field member => by simpa using unknown field member
  unfold readField
  rw [List.filter_append, none, List.append_nil]

/-- A field that is found is the one that is kept. -/
theorem get_of_found {fields : List (String × Json)} {name : String} {value : Json}
    (found : readField fields name = .found value) : (obj fields).get name = some value := by
  unfold readField at found
  split at found
  · cases found
  · next field alone =>
      rcases FieldRead.found.inj found with rfl
      change (fields.reverse.find? _).map Prod.snd = _
      rw [← List.head?_filter, List.filter_reverse, alone]
      rfl
  · cases found

/-- A field that must be present once and decode. -/
def required {Value : Type} (decode : Json → Option Value) (fields : List (String × Json))
    (name : String) : Option Value :=
  match readField fields name with
  | .found value => decode value
  | .absent | .repeated => none

/-- An optional value: null, or something that decodes. -/
def nullable {Value : Type} (decode : Json → Option Value) : Json → Option (Option Value)
  | null => some none
  | value => (decode value).map some

/-- A field that defaults to nothing when it is absent. -/
def optional {Value : Type} (decode : Json → Option Value) (fields : List (String × Json))
    (name : String) : Option (Option Value) :=
  match readField fields name with
  | .absent => some none
  | .found value => nullable decode value
  | .repeated => none

/-- A field that has a default when it is absent. -/
def defaulted {Value : Type} (decode : Json → Option Value) (fields : List (String × Json))
    (name : String) (default : Value) : Option Value :=
  match readField fields name with
  | .absent => some default
  | .found value => decode value
  | .repeated => none

end Json
end Foundation
end OidcRs
