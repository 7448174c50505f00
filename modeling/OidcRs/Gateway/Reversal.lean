import OidcRs.Exchange.Reversal
import OidcRs.Gateway.Blame
import OidcRs.Gateway.Provenance
import OidcRs.Validation.Withdrawal

namespace OidcRs
namespace Gateway

open Foundation
open Validation (JwtLibrary ValidatorInner)
open Exchange (ExchangerInner)

/-!
# What the IdP takes back

What the IdP has come to think of credentials, the middleware thinks of the requests
that carry them: of those that arrive after the lifetime of the former verdict, or
after a flush, whichever others are on their way.  Revoked credentials are not served.
Restored ones are refused for nothing but the token they are exchanged for.  And a key
that is published no more is shut out by the next key set that is written.
-/

variable {jwt : JwtLibrary} {http : HttpLibrary} {validator : ValidatorInner}
  {exchanger : ExchangerInner} {before between after : History jwt}
  {mid later state : State (List jwt.CoreJsonWebKey)} {index : Nat}

/-- A request stays in its place. -/
theorem request_of_run (run : Run (step (enabled jwt http validator exchanger)) mid between later)
    {request : Request (List jwt.CoreJsonWebKey)} (found : mid.requests[index]? = some request) :
    ∃ stage, later.requests[index]? = some { request with stage := stage } := by
  refine Run.invariant (fun there : State (List jwt.CoreJsonWebKey) => ∃ stage,
    there.requests[index]? = some { request with stage := stage }) ?_ ⟨request.stage, found⟩ run
  rintro there action next ⟨stage, here⟩ taken
  rcases request_persists taken here with ⟨stage, there, _⟩
  exact ⟨stage, there⟩

/-- A moment that knows a request is later than the moments before it arrived. -/
theorem since_of_listed {clock : Instant} {systemTime : Nat}
    (early : Run (step (enabled jwt http validator exchanger)) (State.initial clock systemTime)
      before mid)
    (late : Run (step (enabled jwt http validator exchanger)) mid after state)
    (new : mid.requests.length ≤ index) {front : History jwt} {mover : State (List jwt.CoreJsonWebKey)}
    {action : Action (List jwt.CoreJsonWebKey)}
    (passed : Passed (before ++ after) front (mover, action))
    {request : Request (List jwt.CoreJsonWebKey)} (listed : mover.requests[index]? = some request) :
    ∃ rest, Passed after rest (mover, action) ∧
      Run (step (enabled jwt http validator exchanger)) mid rest mover := by
  rcases passed.of_joined with earlier | ⟨rest, rfl, since⟩
  · rcases earlier.cut early with ⟨_, _, _, _, taken, rest⟩
    rcases request_of_run (Run.cons taken rest) listed with ⟨_, still⟩
    rw [List.getElem?_eq_none new] at still
    cases still
  · rcases since.cut late with ⟨_, _, _, untilMover, _, _⟩
    exact ⟨rest, since, untilMover⟩

/-- The exchange of a request that arrives when a verdict has lapsed comes away without it. -/
theorem exchange_without_verdict {clock : Instant} {systemTime : Nat} {id secret : String}
    {verdict : Exchange.Verdict}
    (early : Run (step (enabled jwt http validator exchanger)) (State.initial clock systemTime)
      before mid)
    (wait : Run (step (enabled jwt http validator exchanger)) mid between later)
    (late : Run (step (enabled jwt http validator exchanger)) later after state)
    (separate : Exchange.DigestsSeparate exchanger state.exchanger.calls)
    (ended : Exchange.Ended verdict mid.exchanger
      ((exchangerComponent jwt http validator exchanger).history (between ++ after)) id secret)
    (lapsed : Exchange.Lapsed exchanger verdict mid.exchanger later.exchanger id)
    (new : later.requests.length ≤ index) {authorization : Option ByteArray} {call : Nat}
    (began : BeganExchange (before ++ between ++ after) index authorization call)
    {stage : Exchange.CallStage} (found : state.exchanger.calls[call]? = some ⟨id, secret, stage⟩) :
    stage.verdict ≠ some verdict := by
  let component := exchangerComponent jwt http validator exchanger
  rcases began with ⟨_, starter, passed, arrived, rfl⟩
  rcases since_of_listed (early.append wait) late new passed arrived with ⟨_, _, untilStarter⟩
  have since := component.run (wait.append late)
  have ungiven := ended.not_givenAt since separate found
  rw [Component.history, List.filterMap_append] at ungiven
  exact Exchange.emptyHanded_of_lapsed (component.run early) (component.run wait)
    (component.run late) (ended.noneInHand since separate found) ungiven lapsed
    (Exchange.calls_length_le_of_run (component.run untilStarter)) found rfl

/-! ## Revoked -/

/-- Nobody is served with credentials that the IdP grants nothing any more, who arrives
after the lifetime of the cache has passed, or after a flush of the client has begun
and returned. -/
theorem revoked_credentials_are_refused {clock : Instant} {systemTime : Nat} {id secret : String}
    (early : Run (step (enabled jwt http validator exchanger)) (State.initial clock systemTime)
      before mid)
    (wait : Run (step (enabled jwt http validator exchanger)) mid between later)
    (late : Run (step (enabled jwt http validator exchanger)) later after state)
    (separate : Exchange.DigestsSeparate exchanger state.exchanger.calls)
    (revoked : Exchange.Ended .granted mid.exchanger
      ((exchangerComponent jwt http validator exchanger).history (between ++ after)) id secret)
    (lapsed : Exchange.Lapsed exchanger .granted mid.exchanger later.exchanger id)
    (new : later.requests.length ≤ index) {authorization : Option ByteArray}
    (named : parseAuthorization http authorization = .basic id secret) (identity : Identity) :
    state.requests[index]? ≠ some ⟨authorization, .serving identity⟩ := by
  intro served
  rcases vouched_of_run rfl ((early.append wait).append late) served with
    ⟨scheme, token, claims, _, source, _⟩
  cases scheme with
  | bearer =>
      have parsed : parseAuthorization http authorization = .bearer token := source
      rw [named] at parsed
      cases parsed
  | basic =>
      rcases source with ⟨_, _, call, parsed, began, returned⟩
      rw [named] at parsed
      cases parsed
      exact exchange_without_verdict early wait late separate revoked lapsed new began returned rfl

/-- A client is served.  Its secret is revoked, its token flushed, and it is not
served again. -/
theorem revoked_credentials_are_refused_of_flushed :
    ∃ history state,
      Run (step (enabled (Validation.referenceLibrary Validation.sampleTokens) sampleHttp
        Validation.sampleValidator Exchange.sampleInner)) (State.initial 0 1200) history state ∧
      state.requests.map (·.stage.served) = [some (.basic sampleClaims), none] ∧
      ∀ identity, state.requests[1]? ≠ some ⟨some "Basic YzpzZWM=".toUTF8, .serving identity⟩ := by
  obtain ⟨history, state, run, observed⟩ := execute_observed
    (step (enabled (Validation.referenceLibrary Validation.sampleTokens) sampleHttp
      Validation.sampleValidator Exchange.sampleInner)) (State.initial 0 1200)
    (serveBasic ++ [.exchanger (.flush (some "c"))] ++
      List.replicate 7 (.exchanger (.advanceFlush 0)) ++
      basicRequest 1 6 Exchange.sampleRejection 4)
    (fun history state => (state.requests.map (·.stage.served),
      decide (Exchange.DigestsSeparate Exchange.sampleInner state.exchanger.calls),
      history[19]?.any (fun moment => moment.1.exchanger.flushes.length = 0 &&
        moment.1.exchanger.calls.all (·.stage.finished)),
      history[27]?.any (fun moment => moment.1.requests.length = 1 &&
        moment.1.exchanger.flushes = [⟨some "c", .returned 1 0⟩]),
      ((exchangerComponent (Validation.referenceLibrary Validation.sampleTokens) sampleHttp
        Validation.sampleValidator Exchange.sampleInner).history
          ((history.take 27).drop 19 ++ history.drop 27)).all
            (!Exchange.answeredWith .granted ·)))
    ([some (.basic sampleClaims), none], true, true, true, true) (by decide +kernel)
  rcases Prod.mk.inj observed with ⟨served, observed⟩
  rcases Prod.mk.inj observed with ⟨separate, observed⟩
  rcases Prod.mk.inj observed with ⟨atMid, observed⟩
  rcases Prod.mk.inj observed with ⟨atLater, silent⟩
  rcases (Option.any_eq_true _ _).mp atMid with ⟨⟨mid, _⟩, hereMid, sameMid⟩
  rcases (Option.any_eq_true _ _).mp atLater with ⟨⟨later, _⟩, hereLater, sameLater⟩
  simp only [Bool.and_eq_true, decide_eq_true_eq] at sameMid sameLater
  rcases sameMid with ⟨flushes, finished⟩
  rcases sameLater with ⟨requests, flushed⟩
  rcases Passed.cut_at hereLater run with ⟨untilLater, late⟩
  have within : (history.take 27)[19]? = some (mid, _) :=
    (List.getElem?_take_of_lt (by decide)).trans hereMid
  rcases Passed.cut_at within untilLater with ⟨early, wait⟩
  have flushedSince : Exchange.FlushedBetween mid.exchanger later.exchanger "c" :=
    ⟨0, some "c", 1, 0, Nat.le_of_eq flushes, by rw [flushed]; rfl, Or.inr rfl⟩
  have parsed : parseAuthorization sampleHttp (some "Basic YzpzZWM=".toUTF8) = .basic "c" "sec" := by
    decide +kernel
  exact ⟨history, state, run, served, revoked_credentials_are_refused early wait late
    (of_decide_eq_true separate) (.of_finished silent finished) (Or.inr flushedSince)
    (Nat.le_of_eq requests) parsed⟩

/-! ## Restored -/

/-- Why a request with credentials is refused: its exchange failed, or the token that
it was exchanged for did not pass. -/
theorem refusal_of_run {clock : Instant} {systemTime : Nat} {id secret : String}
    {authorization : Option ByteArray}
    (run : Run (step (enabled jwt http validator exchanger)) (State.initial clock systemTime)
      after state)
    (named : parseAuthorization http authorization = .basic id secret) {error : AuthError}
    (refused : state.requests[index]? = some ⟨authorization, .refused error⟩) :
    ∃ call, BeganExchange after index authorization call ∧
      (state.exchanger.calls[call]? = some ⟨id, secret, .returned (.error error)⟩ ∨
        ∃ token, state.exchanger.calls[call]? = some ⟨id, secret, .returned (.ok token)⟩ ∧
          InvalidDuring validator after index token error) := by
  refine run.history_invariant (fun history state => ∀ error,
    state.requests[index]? = some ⟨authorization, .refused error⟩ →
    ∃ call, BeganExchange history index authorization call ∧
      (state.exchanger.calls[call]? = some ⟨id, secret, .returned (.error error)⟩ ∨
        ∃ token, state.exchanger.calls[call]? = some ⟨id, secret, .returned (.ok token)⟩ ∧
          InvalidDuring validator history index token error)) ?_ ?_ error refused
  · intro error listed
    cases listed
  · intro history state action next earlier reasons taken error found
    have kept {call : Nat} {result : Except AuthError String}
        (returned : state.exchanger.calls[call]? = some ⟨id, secret, .returned result⟩) :
        next.exchanger.calls[call]? = some ⟨id, secret, .returned result⟩ := by
      rcases call_kept taken returned with ⟨stage, there, same⟩
      rwa [same rfl] at there
    rcases request_origin taken found with before | arrived | ⟨stage, after, before, moves⟩
    · rcases reasons error before with ⟨call, began, failed | ⟨token, returned, invalid⟩⟩
      · exact ⟨call, began.snoc, Or.inl (kept failed)⟩
      · exact ⟨call, began.snoc, Or.inr ⟨token, kept returned, invalid.snoc⟩⟩
    · cases arrived
    · have vouched : Vouched http validator history state.exchanger.calls index authorization
          stage := vouched_of_run rfl earlier before
      cases moves with
      | refused parsed =>
          rw [named] at parsed
          cases parsed
      | exchangeFailed =>
          rcases exchanged_of_step before taken with ⟨there, ended, listed, decided, here⟩
          rcases vouched with ⟨parsed, began, _, known⟩
          rw [named] at parsed
          cases parsed
          have same := Option.some.inj (here.symm.trans found)
          rw [(Request.mk.inj same).2] at decided
          obtain rfl := Option.some.inj (known.symm.trans listed)
          obtain rfl := exchangedStage_refused decided
          exact ⟨_, began.snoc, Or.inl (kept known)⟩
      | @rejected scheme token jwks =>
          rcases vouched with ⟨source, early, reader, read, rfl⟩
          have same := Option.some.inj ((decided_of_step before taken).symm.trans found)
          have invalid := decidedStage_refused (Request.mk.inj same).2
          cases scheme with
          | bearer =>
              have parsed : parseAuthorization http authorization = .bearer token := source
              rw [named] at parsed
              cases parsed
          | basic =>
              rcases source with ⟨_, _, call, parsed, began, returned⟩
              rw [named] at parsed
              cases parsed
              exact ⟨call, began.snoc, Or.inr ⟨token, kept returned, history, state, early, reader,
                Passed.last, read, invalid⟩⟩

/-- Whoever arrives with credentials that the IdP always grants a token, after the
lifetime of a failure has passed, or after a flush of the client has begun and
returned, is refused for nothing but that token, which does not pass with the key set
that the request has read. -/
theorem restored_credentials_are_exchanged {clock : Instant} {systemTime : Nat} {id secret : String}
    (early : Run (step (enabled jwt http validator exchanger)) (State.initial clock systemTime)
      before mid)
    (wait : Run (step (enabled jwt http validator exchanger)) mid between later)
    (late : Run (step (enabled jwt http validator exchanger)) later after state)
    (separate : Exchange.DigestsSeparate exchanger state.exchanger.calls)
    (restored : Exchange.Ended .failed mid.exchanger
      ((exchangerComponent jwt http validator exchanger).history (between ++ after)) id secret)
    (lapsed : Exchange.Lapsed exchanger .failed mid.exchanger later.exchanger id)
    (new : later.requests.length ≤ index) {authorization : Option ByteArray}
    (named : parseAuthorization http authorization = .basic id secret) {error : AuthError}
    (refused : state.requests[index]? = some ⟨authorization, .refused error⟩) :
    ∃ call token, BeganExchange (before ++ between ++ after) index authorization call ∧
      state.exchanger.calls[call]? = some ⟨id, secret, .returned (.ok token)⟩ ∧
      InvalidDuring validator (before ++ between ++ after) index token error := by
  rcases refusal_of_run ((early.append wait).append late) named refused with
    ⟨call, began, failed | ⟨token, returned, invalid⟩⟩
  · exact absurd rfl
      (exchange_without_verdict early wait late separate restored lapsed new began failed)
  · exact ⟨call, token, began, returned, invalid⟩

/-- A client is refused by the IdP.  Half a minute later it is granted a token, and is
refused for what is wrong with that. -/
theorem restored_credentials_are_exchanged_of_later :
    ∃ history state,
      Run (step (enabled (Validation.referenceLibrary Validation.sampleTokens) sampleHttp
        Validation.sampleValidator Exchange.sampleInner)) (State.initial 0 1200) history state ∧
      state.requests.map (fun request => (parseAuthorization sampleHttp request.authorization,
        request.stage.refusal)) = [(.basic "c" "sec", some .idpRejected),
          (.basic "c" "sec", some .malformedHeader)] ∧
      ∃ token, InvalidDuring Validation.sampleValidator history 1 token .malformedHeader := by
  obtain ⟨history, state, run, observed⟩ := execute_observed
    (step (enabled (Validation.referenceLibrary Validation.sampleTokens) sampleHttp
      Validation.sampleValidator Exchange.sampleInner)) (State.initial 0 1200)
    (loadKeys ++ basicRequest 0 6 Exchange.sampleRejection 4 ++ [.exchanger (.tick 30000000000)] ++
      basicRequest 1 7 (Exchange.sampleGrant "nonsense" 300) 5 ++ [.readKeys 1, .decide 1])
    (fun history state => (state.requests.map (fun request =>
        (parseAuthorization sampleHttp request.authorization, request.stage.refusal)),
      decide (Exchange.DigestsSeparate Exchange.sampleInner state.exchanger.calls),
      history[16]?.any (fun moment => moment.1.exchanger.shared.clock = 0 &&
        moment.1.exchanger.calls.all (·.stage.finished)),
      history[17]?.any (fun moment => moment.1.requests.length = 1 &&
        moment.1.exchanger.shared.clock = 30000000000),
      ((exchangerComponent (Validation.referenceLibrary Validation.sampleTokens) sampleHttp
        Validation.sampleValidator Exchange.sampleInner).history
          ((history.take 17).drop 16 ++ history.drop 17)).all
            (!Exchange.answeredWith .failed ·)))
    ([(.basic "c" "sec", some .idpRejected), (.basic "c" "sec", some .malformedHeader)], true, true,
      true, true) (by decide +kernel)
  rcases Prod.mk.inj observed with ⟨refusals, observed⟩
  rcases Prod.mk.inj observed with ⟨separate, observed⟩
  rcases Prod.mk.inj observed with ⟨atMid, observed⟩
  rcases Prod.mk.inj observed with ⟨atLater, silent⟩
  rcases (Option.any_eq_true _ _).mp atMid with ⟨⟨mid, _⟩, hereMid, sameMid⟩
  rcases (Option.any_eq_true _ _).mp atLater with ⟨⟨later, _⟩, hereLater, sameLater⟩
  simp only [Bool.and_eq_true, decide_eq_true_eq] at sameMid sameLater
  rcases sameMid with ⟨midClock, finished⟩
  rcases sameLater with ⟨requests, laterClock⟩
  rcases Passed.cut_at hereLater run with ⟨untilLater, late⟩
  have within : (history.take 17)[16]? = some (mid, _) :=
    (List.getElem?_take_of_lt (by decide)).trans hereMid
  rcases Passed.cut_at within untilLater with ⟨early, wait⟩
  have waited : mid.exchanger.shared.clock + Exchange.Verdict.lifetime Exchange.sampleInner .failed ≤
      later.exchanger.shared.clock := by
    rw [midClock, laterClock]
    decide
  have second := congrArg (·[1]?) refusals
  rw [List.getElem?_map] at second
  rcases Option.map_eq_some_iff.mp second with ⟨⟨authorization, stage⟩, found, seen⟩
  rcases Prod.mk.inj seen with ⟨parsed, refusal⟩
  obtain rfl := RequestStage.of_refusal refusal
  rcases restored_credentials_are_exchanged early wait late (of_decide_eq_true separate)
    (.of_finished silent finished) (Or.inl waited) (Nat.le_of_eq requests) parsed found with
    ⟨_, token, _, _, invalid⟩
  rw [List.take_append_drop, List.take_append_drop] at invalid
  exact ⟨history, state, run, refusals, token, invalid⟩

/-! ## Withdrawn -/

/-- The key set has a key of this `kid`. -/
def Offers (jwt : JwtLibrary) (kid : String) (keys : List jwt.CoreJsonWebKey) : Prop :=
  ∃ key ∈ keys, jwt.keyId key = some kid

/-- A moment in which a request reads the cell knows the request. -/
theorem listed_of_readKeys {reader next : State (List jwt.CoreJsonWebKey)}
    (taken : step (enabled jwt http validator exchanger) reader (.readKeys index) = some next) :
    ∃ request, reader.requests[index]? = some request := by
  simp only [step] at taken
  split at taken
  · next found => exact ⟨_, found⟩
  · cases taken

/-- Once key sets with the key are not offered any more, and none of them waits to be
written, the next write shuts the key out: nobody who arrives later is served on a
token that names it. -/
theorem withdrawn_keys_are_refused {clock : Instant} {systemTime : Nat} {kid : String}
    (early : Run (step (enabled jwt http validator exchanger)) (State.initial clock systemTime)
      before mid)
    (wait : Run (step (enabled jwt http validator exchanger)) mid between later)
    (late : Run (step (enabled jwt http validator exchanger)) later after state)
    (settled : Validation.NoneWriting (Offers jwt kid) mid.keys)
    (unoffered : ∀ moment ∈ (keysComponent jwt http validator exchanger).history (between ++ after),
      ¬ Validation.OfferedAt (Offers jwt kid) moment)
    (stored : ∃ moment ∈ (keysComponent jwt http validator exchanger).history between,
      moment.2.stores = true)
    (new : later.requests.length ≤ index) {authorization : Option ByteArray} {identity : Identity}
    (served : state.requests[index]? = some ⟨authorization, .serving identity⟩) :
    ∃ scheme token claims other, identity = scheme.identity claims ∧
      TokenSource http (before ++ between ++ after) state.exchanger.calls index authorization scheme
        token ∧
      ValidatedDuring validator (before ++ between ++ after) index token claims ∧
      Validation.tokenKid jwt token = some other ∧ other ≠ kid := by
  let component := keysComponent jwt http validator exchanger
  have whole := (early.append wait).append late
  rcases vouched_of_run rfl whole served with ⟨scheme, token, claims, same, source, validated⟩
  have kept := validated
  rcases validated with ⟨middle, decider, front, reader, decided, read, accepted⟩
  have passed := read.extend decided.before_prefix
  rcases passed.cut whole with ⟨_, _, _, _, taken, _⟩
  rcases listed_of_readKeys taken with ⟨request, listed⟩
  rcases since_of_listed (early.append wait) late new passed listed with ⟨rest, since, untilReader⟩
  rcases Validation.validate_ok accepted with ⟨key, _, _, _, _, behind⟩
  rcases behind.loaded with ⟨keys, loaded, member⟩
  rcases behind.selected with ⟨header, other, parsed, named, keyed⟩
  have withdrawn : Validation.Withdrawn (Offers jwt kid) reader.keys := by
    rw [Component.history, List.filterMap_append] at unoffered
    have written : Validation.Withdrawn (Offers jwt kid) later.keys :=
      Validation.withdrawn_of_stored (component.run wait) settled
        (fun moment member => unoffered moment (List.mem_append_left _ member)) stored
    refine Validation.withdrawn_of_run (component.run untilReader) written fun moment member =>
      unoffered moment (List.mem_append_right _ ?_)
    exact (List.IsPrefix.filterMap component.moment since.before_prefix).subset member
  refine ⟨scheme, token, claims, other, same, source, kept, ?_, ?_⟩
  · rw [Validation.tokenKid, parsed]
    exact named
  · rintro rfl
    exact withdrawn.cell keys loaded ⟨key, member, keyed⟩

/-- A key that the IdP published before. -/
def formerKey : Validation.PublishedKey := { Validation.sampleKey with id := some "k0" }

/-- The former key is withdrawn, and a token of the other one is still accepted. -/
theorem withdrawn_keys_are_refused_of_former :
    ∃ history state authorization,
      Run (step (enabled (Validation.referenceLibrary Validation.sampleTokens) sampleHttp
        Validation.sampleValidator Exchange.sampleInner)) (State.initial 0 1200) history state ∧
      state.requests[0]? = some ⟨authorization, .serving (.bearer sampleClaims)⟩ ∧
      ∃ token other, ValidatedDuring Validation.sampleValidator history 0 token sampleClaims ∧
        Validation.tokenKid (Validation.referenceLibrary Validation.sampleTokens) token =
          some other ∧ other ≠ "k0" := by
  obtain ⟨history, state, run, observed⟩ := execute_observed
    (step (enabled (Validation.referenceLibrary Validation.sampleTokens) sampleHttp
      Validation.sampleValidator Exchange.sampleInner)) (State.initial 0 1200)
    [.keys (.answer 0 (.ok [formerKey, Validation.sampleKey])), .keys (.store 0), .keys .refresh,
      .keys (.answer 1 (.ok [Validation.sampleKey])), .keys (.store 1),
      .request (some "Bearer jwt".toUTF8), .resolve 0, .readKeys 0, .decide 0]
    (fun history state => (state.requests.map (·.stage.served),
      history[2]?.any (fun moment => moment.1.keys.fetches.all (!·.stage.outstanding)),
      history[5]?.any (fun moment => moment.1.requests.length = 0),
      ((keysComponent (Validation.referenceLibrary Validation.sampleTokens) sampleHttp
        Validation.sampleValidator Exchange.sampleInner).history
          ((history.take 5).drop 2 ++ history.drop 5)).all (fun moment =>
            moment.2.brought.all (fun keys => keys.all (·.id ≠ some "k0"))),
      ((keysComponent (Validation.referenceLibrary Validation.sampleTokens) sampleHttp
        Validation.sampleValidator Exchange.sampleInner).history
          ((history.take 5).drop 2)).any (·.2.stores)))
    ([some (.bearer sampleClaims)], true, true, true, true) (by decide +kernel)
  rcases Prod.mk.inj observed with ⟨first, observed⟩
  rcases Prod.mk.inj observed with ⟨atMid, observed⟩
  rcases Prod.mk.inj observed with ⟨atLater, observed⟩
  rcases Prod.mk.inj observed with ⟨silent, stored⟩
  rcases (Option.any_eq_true _ _).mp atMid with ⟨⟨mid, _⟩, hereMid, completed⟩
  rcases (Option.any_eq_true _ _).mp atLater with ⟨⟨later, _⟩, hereLater, requests⟩
  rcases Passed.cut_at hereLater run with ⟨untilLater, late⟩
  have within : (history.take 5)[2]? = some (mid, _) :=
    (List.getElem?_take_of_lt (by decide)).trans hereMid
  rcases Passed.cut_at within untilLater with ⟨early, wait⟩
  have settled : Validation.NoneWriting (Offers _ "k0") mid.keys := by
    intro index origin fresh found
    have finished := List.all_eq_true.mp completed _ (List.mem_of_getElem? found)
    cases finished
  have unoffered : ∀ moment ∈ (keysComponent (Validation.referenceLibrary Validation.sampleTokens)
      sampleHttp Validation.sampleValidator Exchange.sampleInner).history
        ((history.take 5).drop 2 ++ history.drop 5),
      ¬ Validation.OfferedAt (Offers _ "k0") moment := by
    rintro moment member ⟨keys, brought, key, listed, named⟩
    have without := List.all_eq_true.mp silent moment member
    rw [brought] at without
    have differs := List.all_eq_true.mp without key listed
    exact of_decide_eq_true differs named
  have zeroth := congrArg (·[0]?) first
  rw [List.getElem?_map] at zeroth
  rcases Option.map_eq_some_iff.mp zeroth with ⟨⟨authorization, stage⟩, found, serving⟩
  obtain rfl := RequestStage.of_served serving
  rcases withdrawn_keys_are_refused early wait late settled unoffered
    (List.any_eq_true.mp stored) (Nat.le_of_eq (of_decide_eq_true requests)) found with
    ⟨scheme, token, claims, other, same, _, validated, named, different⟩
  rw [List.take_append_drop, List.take_append_drop] at validated
  cases scheme with
  | basic => cases same
  | bearer =>
      rcases Identity.bearer.inj same with rfl
      exact ⟨history, state, authorization, run, found, token, other, validated, named, different⟩

end Gateway
end OidcRs
