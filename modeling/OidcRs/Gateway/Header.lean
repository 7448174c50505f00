import OidcRs.Foundation.Text
import OidcRs.Identity

namespace OidcRs
namespace Gateway

open Foundation

/-!
# Reading the `Authorization` header

The header is cut by bytes, so a scheme name is compared only after a slice
that fails inside a character.  Reading a header value as a string and decoding
base64 are the work of libraries outside the repository.
-/

/-- What the middleware calls of the HTTP and base64 libraries. -/
structure HttpLibrary where
  /-- `HeaderValue::to_str` -/
  toStr : ByteArray → Option String
  /-- `STANDARD.decode` -/
  decodeBase64 : String → Option ByteArray

/-- The outcome of looking for a scheme: a slice inside a character panics. -/
inductive Stripped
  | panicked
  | unmatched
  | matched (rest : List Char)
  deriving DecidableEq

def stripSchemePrefix (header scheme : List Char) : Stripped :=
  let prefixLen := Text.byteLen scheme
  if Text.byteLen header ≤ prefixLen then .unmatched
  else
    match Text.splitAtByte prefixLen header with
    | none => .panicked
    | some (front, rest) =>
        if Text.eqIgnoreAsciiCase front scheme = false then .unmatched
        else if rest.head? ≠ some ' ' then .unmatched
        else .matched (Text.trimStart rest)

/-- What a request asks for, or why it is refused. -/
inductive Parsed
  | panicked
  | refused (error : AuthError)
  | bearer (token : String)
  | basic (id secret : String)
  deriving DecidableEq

/-- The credentials behind `Basic`. -/
def parseBasic (http : HttpLibrary) (b64 : List Char) : Parsed :=
  match http.decodeBase64 (String.ofList (Text.trim b64)) with
  | none => .refused .malformedHeader
  | some decoded =>
      match String.fromUTF8? decoded with
      | none => .refused .malformedHeader
      | some text =>
          match Text.splitOnce ':' text.toList with
          | none => .refused .malformedHeader
          | some (id, secret) => .basic (String.ofList id) (String.ofList secret)

/-- The first part of `resolve_identity`, up to its first call. -/
def parseAuthorization (http : HttpLibrary) (authorization : Option ByteArray) : Parsed :=
  match authorization.bind http.toStr with
  | none => .refused .missingHeader
  | some header =>
      match stripSchemePrefix header.toList "Bearer".toList with
      | .panicked => .panicked
      | .matched token => .bearer (String.ofList token)
      | .unmatched =>
          match stripSchemePrefix header.toList "Basic".toList with
          | .panicked => .panicked
          | .matched b64 => parseBasic http b64
          | .unmatched => .refused .malformedHeader

/-- The libraries on the header values used below. -/
def sampleHttp : HttpLibrary where
  toStr bytes :=
    if bytes.data.toList.all (fun byte => (32 ≤ byte && byte < 127) || byte == 9) then
      String.fromUTF8? bytes
    else none
  decodeBase64 text := if text = "YzpzZWM=" then some "c:sec".toUTF8 else none

/-- The scheme is matched whatever its case; blanks around the credential go. -/
example : parseAuthorization sampleHttp (some "bASIC   YzpzZWM= ".toUTF8) = .basic "c" "sec" := by
  decide +kernel

end Gateway
end OidcRs
