namespace OidcRs

/-!
# Core authentication types

The claims taken from a validated token, the identity attached to a request
(named after the credential format that produced it), and the error type that
every part of the pipeline returns.
-/

/-- JWT claims extracted from a validated token. -/
structure Claims where
  iss : String
  sub : String
  email : Option String
  name : Option String
  scopes : List String
  deriving DecidableEq

inductive Identity
  /-- authentication is switched off at the middleware -/
  | disabled
  /-- arrived as `Authorization: Bearer <jwt>` -/
  | bearer (claims : Claims)
  /-- arrived as `Authorization: Basic …` and was exchanged for a JWT -/
  | basic (claims : Claims)
  deriving DecidableEq

/-- Errors surfaced by the authentication pipeline. -/
inductive AuthError
  | missingHeader
  | malformedHeader
  | expired
  | badSignature
  | badIssuer (issuer : String)
  | badAudience
  | idpUnreachable (detail : String)
  | idpRejected
  | idpMalformedResponse (detail : String)
  deriving DecidableEq

end OidcRs
