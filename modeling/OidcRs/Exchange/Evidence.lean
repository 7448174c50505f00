import OidcRs.Exchange.Caches

namespace OidcRs
namespace Exchange

open Foundation

/-!
# What the result of a call rests on

Every result of `exchange` is either the classified answer to the call's own
POST or a live entry read from one of the caches, and every entry was stored by
a call that had itself sent a POST and received its answer.  `Accounted` is the
invariant: for each stage from the POST on it names the moments of the history
that justify what the call has bound so far.
-/

variable {inner : ExchangerInner}

/-- The call sent its POST at an earlier moment. -/
def Sent (inner : ExchangerInner) (history : List (Moment State Action)) (index : Nat)
    (clientId secret : String) (post : TokenPost) : Prop :=
  ∃ before sender lock, Passed history before (sender, .advance index) ∧
    sender.calls[index]? = some ⟨clientId, secret, .sendPost lock⟩ ∧
    post = tokenPost inner clientId secret

/-- The step of this moment sends a token POST for the key. -/
def sendsPost (inner : ExchangerInner) (key : CacheKey) (moment : Moment State Action) : Bool :=
  match moment.2 with
  | .advance index =>
      match moment.1.calls[index]? with
      | some ⟨clientId, secret, .sendPost _⟩ => cacheKey inner clientId secret = key
      | _ => false
  | _ => false

theorem sendsPost_iff {key : CacheKey} {moment : Moment State Action} :
    sendsPost inner key moment = true ↔ ∃ index clientId secret lock, moment.2 = .advance index ∧
      moment.1.calls[index]? = some ⟨clientId, secret, .sendPost lock⟩ ∧
      cacheKey inner clientId secret = key := by
  unfold sendsPost
  split
  · next index acts =>
      split
      · next clientId secret lock found =>
          simp only [decide_eq_true_eq]
          constructor
          · exact fun same => ⟨index, clientId, secret, lock, acts, found, same⟩
          · rintro ⟨other, client, otherSecret, otherLock, otherActs, otherFound, same⟩
            rw [acts] at otherActs
            rcases Action.advance.inj otherActs with rfl
            rw [found] at otherFound
            cases otherFound
            exact same
      · next noPost =>
          constructor
          · exact fun impossible => nomatch impossible
          · rintro ⟨other, client, secret, lock, otherActs, found, _⟩
            rw [acts] at otherActs
            rcases Action.advance.inj otherActs with rfl
            exact absurd found (noPost client secret lock)
  · next noAdvance =>
      constructor
      · exact fun impossible => nomatch impossible
      · rintro ⟨index, _, _, _, acts, _⟩
        exact absurd acts (noAdvance index)

/-- The POST of the call was answered at an earlier moment. -/
def Answered (inner : ExchangerInner) (history : List (Moment State Action)) (index : Nat)
    (clientId secret : String) (post : TokenPost) (reply : TokenReply) : Prop :=
  ∃ before waiting lock, Passed history before (waiting, .answer index reply) ∧
    waiting.calls[index]? = some ⟨clientId, secret, .awaitAnswer lock post⟩ ∧
    Sent inner before index clientId secret post

/-- The call read a live entry at an earlier moment. -/
structure ReadEntry (inner : ExchangerInner) (history before : List (Moment State Action))
    (reader : State) (index : Nat) (clientId secret : String) (entry : Entry) : Prop where
  passed : Passed history before (reader, .advance index)
  caller : ∃ stage, reader.calls[index]? = some ⟨clientId, secret, stage⟩ ∧ entry.ReadAt stage
  found : entry.At reader.shared (cacheKey inner clientId secret)
  live : reader.shared.clock < entry.deadline

/-- Where the result of a call came from. -/
inductive ResultSource (inner : ExchangerInner) (history : List (Moment State Action))
    (index : Nat) (clientId secret : String) : Except AuthError String → Prop
  | answer {post : TokenPost} {reply : TokenReply} {result : Except AuthError String}
      (answered : Answered inner history index clientId secret post reply)
      (outcome : (exchangeInner reply).map Prod.fst = result) :
      ResultSource inner history index clientId secret result
  | cached {before : List (Moment State Action)} {reader : State} {entry : Entry}
      (read : ReadEntry inner history before reader index clientId secret entry) :
      ResultSource inner history index clientId secret entry.answer

/-- What the history says about a call at each of its stages. -/
def Accounted (inner : ExchangerInner) (history : List (Moment State Action)) (index : Nat)
    (clientId secret : String) : CallStage → Prop
  | .awaitAnswer _ post => Sent inner history index clientId secret post
  | .storeOutcome _ result =>
      ∃ post reply, Answered inner history index clientId secret post reply ∧
        exchangeInner reply = result
  | .removeNegative _ jwt => ResultSource inner history index clientId secret (.ok jwt)
  | .dropGuard _ result | .dropLock _ result | .cleanupInflight result | .returned result =>
      ResultSource inner history index clientId secret result
  | .lookupPositive | .evictPositive | .lookupNegative | .evictNegative | .takeHandle
  | .awaitLock _ | .recheckPositive _ | .sendPost _ | .unwindGuard _ | .unwindLock _
  | .aborted => True

/-! ## Evidence outlives the step that produced it -/

section Extend

variable {history : List (Moment State Action)} {newest : Moment State Action} {index : Nat}
  {clientId secret : String}

theorem Sent.snoc {post : TokenPost} (sent : Sent inner history index clientId secret post) :
    Sent inner (history ++ [newest]) index clientId secret post := by
  rcases sent with ⟨before, sender, lock, passed, caller, same⟩
  exact ⟨before, sender, lock, passed.snoc, caller, same⟩

theorem Answered.extend {longer : List (Moment State Action)} {post : TokenPost}
    {reply : TokenReply} (answered : Answered inner history index clientId secret post reply)
    (longerHistory : history <+: longer) :
    Answered inner longer index clientId secret post reply := by
  rcases answered with ⟨before, waiting, lock, passed, caller, sent⟩
  exact ⟨before, waiting, lock, passed.extend longerHistory, caller, sent⟩

theorem Answered.snoc {post : TokenPost} {reply : TokenReply}
    (answered : Answered inner history index clientId secret post reply) :
    Answered inner (history ++ [newest]) index clientId secret post reply :=
  answered.extend (List.prefix_append _ _)

theorem ReadEntry.snoc {before : List (Moment State Action)} {reader : State} {entry : Entry}
    (read : ReadEntry inner history before reader index clientId secret entry) :
    ReadEntry inner (history ++ [newest]) before reader index clientId secret entry :=
  ⟨read.passed.snoc, read.caller, read.found, read.live⟩

theorem ResultSource.snoc {result : Except AuthError String}
    (source : ResultSource inner history index clientId secret result) :
    ResultSource inner (history ++ [newest]) index clientId secret result := by
  cases source with
  | answer answered outcome => exact .answer answered.snoc outcome
  | cached read => exact .cached read.snoc

theorem Accounted.snoc {stage : CallStage}
    (accounted : Accounted inner history index clientId secret stage) :
    Accounted inner (history ++ [newest]) index clientId secret stage := by
  cases stage with
  | awaitAnswer => exact Sent.snoc accounted
  | storeOutcome =>
      rcases accounted with ⟨post, reply, answered, outcome⟩
      exact ⟨post, reply, answered.snoc, outcome⟩
  | removeNegative | dropGuard | dropLock | cleanupInflight | returned =>
      exact ResultSource.snoc accounted
  | lookupPositive | evictPositive | lookupNegative | evictNegative | takeHandle | awaitLock
  | recheckPositive | sendPost | unwindGuard | unwindLock | aborted => trivial

end Extend

/-- One move of a call accounts for the stage it leads to. -/
theorem Accounted.move {history : List (Moment State Action)} {state : State} {action : Action}
    {next : Shared} {index : Nat} {clientId secret : String} {current stage : CallStage}
    (accounted : Accounted inner history index clientId secret current)
    (found : state.calls[index]? = some ⟨clientId, secret, current⟩)
    (move : CallMove inner state.shared index clientId secret action current next stage) :
    Accounted inner (history ++ [(state, action)]) index clientId secret stage := by
  cases move with
  | answer reply => exact ⟨_, reply, ⟨history, state, _, Passed.last, found, accounted⟩, rfl⟩
  | abandonWait | abandonPost => trivial
  | advance spec =>
      cases spec with
      | @positiveHit cached hit live =>
          have read : ReadEntry inner _ history state index clientId secret (.token cached) :=
            ⟨Passed.last, ⟨_, found, Or.inl rfl⟩, hit, live⟩
          exact .cached read
      | @recheckHit lock cached hit live =>
          have read : ReadEntry inner _ history state index clientId secret (.token cached) :=
            ⟨Passed.last, ⟨_, found, Or.inr ⟨lock, rfl⟩⟩, hit, live⟩
          exact .cached read
      | @negativeHit entry hit live =>
          have read : ReadEntry inner _ history state index clientId secret (.failure entry) :=
            ⟨Passed.last, ⟨_, found, rfl⟩, hit, live⟩
          exact .cached read
      | sendPost => exact ⟨history, state, _, Passed.last, found, rfl⟩
      | storeToken | storeFailure | storeNothing =>
          rcases accounted with ⟨post, reply, answered, outcome⟩
          exact .answer answered.snoc (by rw [outcome]; rfl)
      | removeNegative | dropGuard | dropLock | cleanup => exact ResultSource.snoc accounted
      | positiveExpired | positiveMiss | evictPositive | negativeExpired | negativeMiss
      | evictNegative | takeHandle | acquire | recheckMiss | storePanic | unwindGuard
      | unwindLock => trivial

/-- Every call that began in a run is accounted for by it. -/
theorem accounted_of_run {start state : State} {history : List (Moment State Action)}
    (run : Run (step inner) start history state) {index : Nat}
    (fresh : start.calls[index]? = none) {call : ExchangeCall}
    (found : state.calls[index]? = some call) :
    Accounted inner history index call.clientId call.secret call.stage := by
  refine run.history_invariant (fun history state => ∀ call, state.calls[index]? = some call →
    Accounted inner history index call.clientId call.secret call.stage) ?_ ?_ call found
  · intro call listed
    rw [fresh] at listed
    cases listed
  · intro history state action next _ accounted taken call found
    cases call_origin taken found with
    | unchanged before => exact (accounted call before).snoc
    | moved before same move =>
        subst same
        exact (accounted _ before).move before move
    | begun _ _ same =>
        subst same
        trivial

/-! ## The answer behind a cached entry -/

/-- SHA-256 has no collision among the secrets of these calls. -/
def DigestsSeparate (inner : ExchangerInner) (calls : List ExchangeCall) : Prop :=
  ∀ first ∈ calls, ∀ second ∈ calls,
    inner.sha256 first.secret.toUTF8 = inner.sha256 second.secret.toUTF8 →
      first.secret.toUTF8 = second.secret.toUTF8

instance (inner : ExchangerInner) (calls : List ExchangeCall) :
    Decidable (DigestsSeparate inner calls) :=
  inferInstanceAs (Decidable (∀ first ∈ calls, ∀ second ∈ calls,
    inner.sha256 first.secret.toUTF8 = inner.sha256 second.secret.toUTF8 →
      first.secret.toUTF8 = second.secret.toUTF8))

/-- So the secrets are told apart by the hash that is part of the cache key. -/
theorem DigestsSeparate.of_hashSecret {calls : List ExchangeCall} {first second : ExchangeCall}
    (separate : DigestsSeparate inner calls) (listed : first ∈ calls) (listedToo : second ∈ calls)
    (same : hashSecret inner first.secret = hashSecret inner second.secret) :
    first.secret = second.secret :=
  String.toByteArray_inj.mp (separate first listed second listedToo same)

/-- Calls named anywhere in a history are still listed at its end. -/
theorem listed_of_passed {start last : State} {history before : List (Moment State Action)}
    {moment : Moment State Action} (run : Run (step inner) start history last)
    (passed : Passed history before moment) {index : Nat} {clientId secret : String}
    {stage : CallStage} (found : moment.1.calls[index]? = some ⟨clientId, secret, stage⟩) :
    ∃ later, last.calls[index]? = some ⟨clientId, secret, later⟩ := by
  rcases passed.cut run with ⟨next, after, _, _, taken, rest⟩
  rcases call_of_run (Run.cons taken rest) found with ⟨later, here, _⟩
  exact ⟨later, here⟩

/-- Two calls of a run with one cache key have the same credentials. -/
theorem DigestsSeparate.credentials {state : State} (separate : DigestsSeparate inner state.calls)
    {first second : Nat} {clientId secret otherClient otherSecret : String}
    {stage otherStage : CallStage}
    (found : state.calls[first]? = some ⟨clientId, secret, stage⟩)
    (foundOther : state.calls[second]? = some ⟨otherClient, otherSecret, otherStage⟩)
    (sameKey : cacheKey inner clientId secret = cacheKey inner otherClient otherSecret) :
    otherClient = clientId ∧ otherSecret = secret :=
  ⟨(congrArg CacheKey.clientId sameKey).symm,
    (separate.of_hashSecret (List.mem_of_getElem? found) (List.mem_of_getElem? foundOther)
      (congrArg CacheKey.secretHash sameKey)).symm⟩

/-- The entry was stored by a call with these credentials on an answer to its
own POST, and has been in its cache since. -/
def EntryBacked (inner : ExchangerInner) (history : List (Moment State Action))
    (clientId secret : String) (entry : Entry) : Prop :=
  ∃ before storer index lock post reply,
    HeldSince (fun state => entry.At state.shared (cacheKey inner clientId secret)) history before
      (storer, .advance index) ∧
    Store inner (storer, .advance index) index clientId secret lock (exchangeInner reply) entry ∧
    Answered inner before index clientId secret post reply

/-- Every entry of a cache is backed by an answer to a POST with the credentials
of its key. -/
theorem entry_backed {start last reader : State} {history before : List (Moment State Action)}
    {action : Action} {index : Nat} {clientId secret : String} {stage : CallStage} {entry : Entry}
    (run : Run (step inner) start history last) (fresh : start.calls = [])
    (empty : ∀ key, ¬ entry.At start.shared key) (separate : DigestsSeparate inner last.calls)
    (caller : last.calls[index]? = some ⟨clientId, secret, stage⟩)
    (passed : Passed history before (reader, action))
    (found : entry.At reader.shared (cacheKey inner clientId secret)) :
    EntryBacked inner before clientId secret entry := by
  rcases passed.cut run with ⟨_, _, _, runToReader, _, _⟩
  rcases entry_stored runToReader (empty _) found with
    ⟨early, storer, other, otherClient, otherSecret, lock, outcome, held, sameKey, store⟩
  rcases listed_of_passed run (held.passed.extend passed.before_prefix) store.caller with
    ⟨later, listed⟩
  rcases separate.credentials caller listed sameKey with ⟨rfl, rfl⟩
  rcases held.passed.cut runToReader with ⟨_, _, _, runToStorer, _, _⟩
  rcases accounted_of_run runToStorer (by rw [fresh]; rfl) store.caller with
    ⟨post, reply, answered, rfl⟩
  exact ⟨early, storer, other, lock, post, reply, held, store, answered⟩

/-- Nothing is cached at the start. -/
theorem not_at_initial (clock : Instant) (entry : Entry) (key : CacheKey) :
    ¬ entry.At (State.initial clock).shared key := by
  intro found
  cases entry <;> cases found

end Exchange
end OidcRs
