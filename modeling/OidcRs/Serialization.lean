import OidcRs.Identity
import OidcRs.Validation.JwtLibrary

namespace OidcRs

open Foundation

/-!
# Identities as documents

Claims are written as a record without the parts that they lack, and read from any
record that has them, whatever else it has and in whatever order.  An identity is
written as the record of its claims with a tag.  The library does not read
identities, on purpose, but whoever is shown one can tell which it is.
-/

/-! ## Claims -/

/-- The fields of `Claims` as they are written. -/
def Claims.fields (claims : Claims) : List (String × Json) :=
  [("iss", .str claims.iss), ("sub", .str claims.sub)] ++
    (claims.email.map (fun email => ("email", Json.str email))).toList ++
    (claims.name.map (fun name => ("name", Json.str name))).toList ++
    [("scopes", .arr (claims.scopes.map Json.str))]

def Claims.serialize (claims : Claims) : Json := .obj claims.fields

/-- The derived decoder: a record with named fields, or the same fields in order in
an array. -/
def Claims.deserialize : Json → Option Claims
  | .obj fields => do
      let iss ← Json.required Json.asString fields "iss"
      let sub ← Json.required Json.asString fields "sub"
      let email ← Json.optional Json.asString fields "email"
      let name ← Json.optional Json.asString fields "name"
      let scopes ← Json.defaulted Json.asStrings fields "scopes" []
      pure ⟨iss, sub, email, name, scopes⟩
  | .arr (.str iss :: .str sub :: rest) => do
      guard (rest.length ≤ 3)
      let email ← Validation.optionalAt Json.asString rest 0
      let name ← Validation.optionalAt Json.asString rest 1
      let scopes ← match rest[2]? with
        | some value => Json.asStrings value
        | none => some []
      pure ⟨iss, sub, email, name, scopes⟩
  | _ => none

/-- The names that a record of claims is searched for. -/
def Claims.names : List String := ["iss", "sub", "email", "name", "scopes"]

theorem asStrings_str (items : List String) :
    Json.asStrings (.arr (items.map Json.str)) = some items := by
  change (items.map Json.str).mapM Json.asString = some items
  induction items with
  | nil => rfl
  | cons item rest inductionHypothesis =>
      rw [List.map_cons, List.mapM_cons, inductionHypothesis]
      rfl

/-- What stands under each name of a record of claims. -/
theorem readField_fields (claims : Claims) :
    Json.readField claims.fields "iss" = .found (.str claims.iss) ∧
      Json.readField claims.fields "sub" = .found (.str claims.sub) ∧
      Json.readField claims.fields "email" =
        (claims.email.elim .absent fun email => .found (.str email)) ∧
      Json.readField claims.fields "name" =
        (claims.name.elim .absent fun name => .found (.str name)) ∧
      Json.readField claims.fields "scopes" = .found (.arr (claims.scopes.map Json.str)) := by
  rcases claims with ⟨iss, sub, email, name, scopes⟩
  cases email <;> cases name <;> exact ⟨rfl, rfl, rfl, rfl, rfl⟩

/-- A decoder only sees what stands under the names it searches for. -/
theorem deserialize_of_readField {claims : Claims} {fields : List (String × Json)}
    (same : ∀ name ∈ Claims.names, Json.readField fields name = Json.readField claims.fields name) :
    Claims.deserialize (.obj fields) = some claims := by
  rcases readField_fields claims with ⟨iss, sub, email, name, scopes⟩
  rw [← same _ (by decide)] at iss sub email name scopes
  have readEmail : Json.optional Json.asString fields "email" = some claims.email := by
    rw [Json.optional, email]
    cases claims.email <;> rfl
  have readName : Json.optional Json.asString fields "name" = some claims.name := by
    rw [Json.optional, name]
    cases claims.name <;> rfl
  have readScopes : Json.defaulted Json.asStrings fields "scopes" [] = some claims.scopes := by
    rw [Json.defaulted, scopes]
    exact asStrings_str claims.scopes
  simp only [Claims.deserialize, Json.required, iss, sub, readEmail, readName, readScopes]
  rfl

/-- Claims are read back from any record that has them, once each, in whatever order
and beside whatever else. -/
theorem deserialize_of_perm {claims : Claims} {fields others : List (String × Json)}
    (permuted : fields.Perm (claims.fields ++ others))
    (unknown : ∀ field ∈ others, field.1 ∉ Claims.names) :
    Claims.deserialize (.obj fields) = some claims := by
  refine deserialize_of_readField fun name listed => ?_
  have ignored : ∀ field ∈ others, field.1 ≠ name := fun field member same =>
    unknown field member (same ▸ listed)
  rw [Json.readField_perm permuted, Json.readField_append ignored]

/-! ## Identities -/

/-- The value of the `type` tag. -/
def Identity.tag : Identity → String
  | disabled => "disabled"
  | bearer _ => "bearer"
  | basic _ => "basic"

def Identity.claims : Identity → Option Claims
  | disabled => none
  | bearer claims | basic claims => some claims

/-- The tag and, if any, the claims beside it. -/
def Identity.fields (identity : Identity) : List (String × Json) :=
  ("type", .str identity.tag) :: (identity.claims.map Claims.fields).getD []

def Identity.serialize (identity : Identity) : Json := .obj identity.fields

/-- What a reader makes of a document that shows an identity. -/
def shownIdentity (document : Json) : Option Identity :=
  match (document.get "type").bind Json.asString with
  | some "disabled" => some .disabled
  | some "bearer" => (Claims.deserialize document).map .bearer
  | some "basic" => (Claims.deserialize document).map .basic
  | _ => none

/-- The tag is the first field, and no claim is called like it. -/
theorem readField_type (identity : Identity) :
    Json.readField identity.fields "type" = .found (.str identity.tag) := by
  cases identity with
  | disabled => rfl
  | bearer claims | basic claims =>
      rcases claims with ⟨iss, sub, email, name, scopes⟩
      cases email <;> cases name <;> rfl

/-- Whoever is shown a written identity can tell which it is and whose, in whatever
order the fields reach them and whatever was added to the document on the way. -/
theorem identity_is_shown {identity : Identity} {fields others : List (String × Json)}
    (permuted : fields.Perm (identity.fields ++ others))
    (unknown : ∀ field ∈ others, field.1 ∉ "type" :: Claims.names) :
    shownIdentity (.obj fields) = some identity := by
  have tagged : Json.readField fields "type" = .found (.str identity.tag) := by
    have ignored : ∀ field ∈ others, field.1 ≠ "type" := fun field member same =>
      unknown field member (same ▸ List.mem_cons_self)
    rw [Json.readField_perm permuted, Json.readField_append ignored, readField_type]
  have claimed : ∀ claims, identity.claims = some claims →
      Claims.deserialize (.obj fields) = some claims := by
    intro claims carried
    have shape : identity.fields = ("type", .str identity.tag) :: claims.fields := by
      rw [Identity.fields, carried]
      rfl
    rw [shape, List.cons_append] at permuted
    refine deserialize_of_perm (permuted.trans List.perm_middle.symm) fun field member => ?_
    rcases List.mem_cons.mp member with rfl | added
    · exact (by decide : "type" ∉ Claims.names)
    · exact fun listed => unknown field added (List.mem_cons_of_mem _ listed)
  rw [shownIdentity, Json.get_of_found tagged]
  cases identity with
  | disabled => rfl
  | bearer claims | basic claims =>
      have read := claimed claims rfl
      change (Claims.deserialize (.obj fields)).map _ = _
      rw [read]
      rfl

/-- A service with no email and no name. -/
def sampleService : Identity :=
  .basic ⟨"https://idp", "service", none, none, ["jobs.read"]⟩

/-- A service shown with its fields in reverse, behind one that was added. -/
theorem identity_is_shown_of_service :
    shownIdentity (.obj
      [("region", .str "eu"), ("scopes", .arr [.str "jobs.read"]), ("sub", .str "service"),
        ("iss", .str "https://idp"), ("type", .str "basic")]) = some sampleService := by
  let region : List (String × Json) := [("region", .str "eu")]
  have permuted : (sampleService.fields ++ region).reverse.Perm (sampleService.fields ++ region) :=
    List.reverse_perm _
  exact identity_is_shown permuted (by decide)

end OidcRs
