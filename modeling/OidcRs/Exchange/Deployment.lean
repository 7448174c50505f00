import OidcRs.Configuration
import OidcRs.Exchange.Machine
import OidcRs.Foundation.Checks
import OidcRs.Foundation.Text

namespace OidcRs
namespace Exchange

open Foundation

/-!
# From a configuration to an exchanger

`BasicExchanger::new` asks the issuer's discovery document for the token
endpoint and takes everything else from its arguments.  An application passes it
the fields of an accepted configuration.
-/

/-- What a request for the discovery document comes back with.  Its status is
not looked at. -/
inductive DiscoveryReply
  | sendFailed (error : String)
  | undecodable (error : String)
  | document (value : Json)

/-- What the HTTP client does while an exchanger is made: the build of the client
that fetches the discovery document, the fetch, and the build of the client that
is kept. -/
structure DiscoveryClient where
  builds : Except String Unit
  get : String → DiscoveryReply
  buildsAgain : Except String Unit

def buildHttpClient (built : Except String Unit) : Except AuthError Unit :=
  built.mapError (fun error => .idpUnreachable ("http client: " ++ error))

def discoveryUrl (issuer : String) : String :=
  String.ofList (Text.trimEndMatches '/' issuer.toList) ++ "/.well-known/openid-configuration"

def discoveryDocument : DiscoveryReply → Except AuthError Json
  | .sendFailed error => .error (.idpUnreachable ("discovery: " ++ error))
  | .undecodable error => .error (.idpMalformedResponse ("discovery: " ++ error))
  | .document value => .ok value

def tokenEndpoint (document : Json) : Except AuthError String :=
  match (document.get "token_endpoint").bind Json.asString with
  | some endpoint => .ok endpoint
  | none => .error (.idpMalformedResponse "discovery missing token_endpoint")

/-- `BasicExchanger::new`; the digest of the `sha2` crate is handed in. -/
def BasicExchanger.new (sha256 : ByteArray → Digest) (http : DiscoveryClient) (issuer : String)
    (audience scope : Option String) (hardTtl : Duration) : Except AuthError ExchangerInner := do
  buildHttpClient http.builds
  let document ← discoveryDocument (http.get (discoveryUrl issuer))
  let endpoint ← tokenEndpoint document
  buildHttpClient http.buildsAgain
  pure ⟨endpoint, audience, scope, hardTtl, sha256⟩

/-- An exchanger is what it was asked for, at the endpoint the issuer names. -/
theorem new_eq_ok {sha256 : ByteArray → Digest} {http : DiscoveryClient} {issuer : String}
    {audience scope : Option String} {hardTtl : Duration} {inner : ExchangerInner}
    (made : BasicExchanger.new sha256 http issuer audience scope hardTtl = .ok inner) :
    ∃ document endpoint, http.get (discoveryUrl issuer) = .document document ∧
      (document.get "token_endpoint").bind Json.asString = some endpoint ∧
      inner = ⟨endpoint, audience, scope, hardTtl, sha256⟩ := by
  rcases bind_eq_ok made with ⟨_, _, made⟩
  rcases bind_eq_ok made with ⟨document, fetched, made⟩
  rcases bind_eq_ok made with ⟨endpoint, named, made⟩
  rcases bind_eq_ok made with ⟨_, _, made⟩
  refine ⟨document, endpoint, ?_, ?_, (Except.ok.inj made).symm⟩
  · generalize http.get (discoveryUrl issuer) = reply at fetched
    cases reply with
    | sendFailed error => cases fetched
    | undecodable error => cases fetched
    | document value => exact congrArg DiscoveryReply.document (Except.ok.inj fetched)
  · unfold tokenEndpoint at named
    split at named
    · next found there => exact there.trans (congrArg some (Except.ok.inj named))
    · cases named

/-- The exchanger an application makes from what the builder accepted. -/
inductive Deployed (builder : AuthConfigBuilder) (inner : ExchangerInner) : Prop
  | intro {config : EnabledConfig} {sha256 : ByteArray → Digest} {http : DiscoveryClient}
      (accepted : builder.build = .ok (.enabled config))
      (made : BasicExchanger.new sha256 http config.issuer config.basicAudience config.basicScope
        config.basicCacheTtl = .ok inner)

namespace Deployed

variable {builder : AuthConfigBuilder} {inner : ExchangerInner}

/-- The cap of the exchanger is the configured one. -/
theorem hardTtl (deployed : Deployed builder inner) : inner.hardTtl = builder.cacheTtl := by
  rcases deployed with ⟨accepted, made⟩
  rcases new_eq_ok made with ⟨_, _, _, _, rfl⟩
  exact (AuthConfigBuilder.build_eq_ok_iff.mp accepted).cacheTtl.symm

end Deployed

/-- An issuer that names its token endpoint. -/
def sampleDiscovery : DiscoveryClient where
  builds := .ok ()
  get _ := .document (.obj [("token_endpoint", .str "https://idp/token")])
  buildsAgain := .ok ()

/-- A builder with nothing but the required fields and a cap. -/
def sampleBuilder (ttl : Duration) : AuthConfigBuilder :=
  ((AuthConfig.builder.withIssuer "https://idp").withAudiences ["api"]).withBasicCacheTtl ttl

/-- The concrete exchanger with another cap is deployed from it. -/
theorem deployed_sample {ttl : Duration} (positive : ttl.nanos ≠ 0) :
    Deployed (sampleBuilder ttl) { sampleInner with hardTtl := ttl } := by
  have accepted : (sampleBuilder ttl).build =
      .ok (.enabled ⟨"https://idp", ["api"], none, none, ttl, Duration.fromSecs 300⟩) :=
    AuthConfigBuilder.build_eq_ok_iff.mpr
      { issuer := rfl
        audiences := rfl
        basicAudience := rfl
        basicScope := rfl
        cacheTtl := rfl
        refreshInterval := rfl
        addressed := List.cons_ne_nil _ _
        caches := positive
        refreshes := by
          have fiveMinutes : (Duration.fromSecs 300).nanos ≠ 0 := by decide
          exact fiveMinutes }
  have made : BasicExchanger.new sampleSha256 sampleDiscovery "https://idp" none none ttl =
      .ok { sampleInner with hardTtl := ttl } := rfl
  exact .intro accepted made

end Exchange
end OidcRs
