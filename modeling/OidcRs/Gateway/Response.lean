import OidcRs.Foundation.Json
import OidcRs.Identity

namespace OidcRs
namespace Gateway

open Foundation

/-!
# The response to a refused request

An error is shown to the client as a status, a code and a message that depend
on its kind alone.  Nothing that an error carries with it gets out.
-/

def code : AuthError → String
  | .missingHeader => "MISSING_AUTHORIZATION"
  | .malformedHeader => "MALFORMED_AUTHORIZATION"
  | .idpRejected => "INVALID_CREDENTIALS"
  | .expired => "TOKEN_EXPIRED"
  | .badSignature => "BAD_SIGNATURE"
  | .badIssuer _ => "BAD_ISSUER"
  | .badAudience => "BAD_AUDIENCE"
  | .idpUnreachable _ => "IDP_UNREACHABLE"
  | .idpMalformedResponse _ => "IDP_MALFORMED_RESPONSE"

def publicMessage : AuthError → String
  | .missingHeader => "missing Authorization header"
  | .malformedHeader => "malformed Authorization header"
  | .expired => "token expired"
  | .badSignature => "token signature invalid"
  | .badIssuer _ => "token issuer not accepted"
  | .badAudience => "token audience not accepted"
  | .idpRejected => "invalid credentials"
  | .idpUnreachable _ => "identity provider unreachable"
  | .idpMalformedResponse _ => "identity provider returned an unexpected response"

structure Response where
  status : Nat
  retryAfter : Option String
  body : Json

/-- The body: a code and a message. -/
def errorBody (code message : String) : Json :=
  .obj [("error", .obj [("code", .str code), ("message", .str message)])]

def toResponse (error : AuthError) : Response :=
  let body := errorBody (code error) (publicMessage error)
  match error with
  | .idpUnreachable _ | .idpMalformedResponse _ => ⟨503, some "5", body⟩
  | _ => ⟨401, none, body⟩

/-- The response has this status and this code. -/
def Response.Tells (response : Response) (status : Nat) (code : String) : Prop :=
  response.status = status ∧ ∃ message, response.body = errorBody code message

theorem toResponse_body (error : AuthError) :
    (toResponse error).body = errorBody (code error) (publicMessage error) := by
  cases error <;> rfl

/-- Errors of one kind are shown alike, whatever they carry. -/
theorem toResponse_of_code {first second : AuthError} (same : code first = code second) :
    toResponse first = toResponse second := by
  cases first <;> cases second <;> first
    | rfl
    | simp [code] at same

/-- The client may try again exactly when the IdP is at fault. -/
theorem toResponse_retryAfter (error : AuthError) :
    (toResponse error).retryAfter.isSome = true ↔ (toResponse error).status = 503 := by
  cases error <;> simp [toResponse]

theorem toResponse_tells_iff {error : AuthError} {status : Nat} {text : String} :
    (toResponse error).Tells status text ↔ (toResponse error).status = status ∧ code error = text := by
  unfold Response.Tells
  rw [toResponse_body]
  constructor
  · rintro ⟨same, message, body⟩
    simp only [errorBody, Json.obj.injEq, List.cons.injEq, Prod.mk.injEq, Json.str.injEq, true_and,
      and_true] at body
    exact ⟨same, body.1⟩
  · rintro ⟨same, rfl⟩
    exact ⟨same, _, rfl⟩

/-- The error is nothing but its kind. -/
def bare : AuthError → Bool
  | .missingHeader | .malformedHeader | .expired | .badSignature | .badAudience | .idpRejected => true
  | .badIssuer _ | .idpUnreachable _ | .idpMalformedResponse _ => false

theorem eq_of_code {error named : AuthError} (isBare : bare named = true)
    (same : code error = code named) : error = named := by
  cases named with
  | badIssuer | idpUnreachable | idpMalformedResponse => cases isBare
  | missingHeader | malformedHeader | expired | badSignature | badAudience | idpRejected =>
      cases error <;> simp [code] at same ⊢

/-- The client is told of an error that is nothing but its kind only if it is that error. -/
theorem toResponse_tells_own_iff {error : AuthError} (named : AuthError) (isBare : bare named = true) :
    (toResponse error).Tells (toResponse named).status (code named) ↔ error = named := by
  rw [toResponse_tells_iff]
  constructor
  · rintro ⟨_, same⟩
    exact eq_of_code isBare same
  · rintro rfl
    exact ⟨rfl, rfl⟩

end Gateway
end OidcRs
