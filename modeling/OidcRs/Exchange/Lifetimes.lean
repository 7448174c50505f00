import OidcRs.Exchange.Evidence

namespace OidcRs
namespace Exchange

open Foundation

/-!
# How long a token is cached

A token carries the time at which it expires, and the cache never reads it.
An entry's deadline is computed when the token is stored, from the lifetime the
IdP reported or, when it reported none, from the cap.  The cache stops serving
a token in time if the token outlives what was computed, and otherwise there is
always a call that is served an expired one.
-/

variable {inner : ExchangerInner}

/-- Whoever is served a token from the cache is served it before it expires. -/
def ServesLiveTokens (inner : ExchangerInner) (exp : String → Instant)
    (history : List (Moment State Action)) : Prop :=
  ∀ before reader index clientId secret cached,
    ReadEntry inner history before reader index clientId secret (.token cached) →
    reader.shared.clock < exp cached.jwt

/-- Whoever read a token in the cache returns it before it expires. -/
def ReturnsLiveTokens (inner : ExchangerInner) (exp : String → Instant)
    (history : List (Moment State Action)) : Prop :=
  ∀ before leaver index next clientId secret early reader cached,
    Passed history before (leaver, .advance index) →
    step inner leaver (.advance index) = some next →
    next.calls[index]? = some ⟨clientId, secret, .returned (.ok cached.jwt)⟩ →
    ReadEntry inner (before ++ [(leaver, .advance index)]) early reader index clientId secret
      (.token cached) →
    leaver.shared.clock < exp cached.jwt

/-- The call has its result and awaits nothing any more. -/
def CallStage.leaving : CallStage → Bool
  | dropGuard _ _ | dropLock _ _ | cleanupInflight _ => true
  | _ => false

/-- No time passes while a call is on its way out. -/
def LeavesAtOnce (history : List (Moment State Action)) : Prop :=
  ∀ moment ∈ history, ∀ elapsed, moment.2 = .tick elapsed → 0 < elapsed →
    ∀ call ∈ moment.1.calls, call.stage.leaving = false

/-- The lifetime a response speaks for: the one it reports, or the cap when it
reports none, and at most the cap. -/
def spokenLifetime (inner : ExchangerInner) (expiresIn : Option UInt64) : Nat :=
  Nat.min ((expiresIn.map (fun secs => secs.toNat * nanosPerSec)).getD inner.hardTtl.nanos)
    inner.hardTtl.nanos

/-- A token stored now is spoken for by at most a minute, or lives that long
less a minute. -/
def Covered (inner : ExchangerInner) (exp : String → Instant) (now : Instant) (jwt : String)
    (expiresIn : Option UInt64) : Prop :=
  spokenLifetime inner expiresIn ≤ 60 * nanosPerSec ∨
    now + spokenLifetime inner expiresIn ≤ exp jwt + 60 * nanosPerSec

instance (inner : ExchangerInner) (exp : String → Instant) (now : Instant) (jwt : String)
    (expiresIn : Option UInt64) : Decidable (Covered inner exp now jwt expiresIn) :=
  inferInstanceAs (Decidable (_ ∨ _))

/-- A call stores a granted token at this moment. -/
structure StoresToken (inner : ExchangerInner) (history before : List (Moment State Action))
    (storer : State) (index : Nat) (jwt : String) (expiresIn : Option UInt64) : Prop where
  passed : Passed history before (storer, .advance index)
  stores : ∃ clientId secret lock cached,
    Store inner (storer, .advance index) index clientId secret lock (.ok (jwt, expiresIn))
      (.token cached)

/-- A lifetime that the IdP reports is what the token had left when the IdP
issued it, between the sending of the POST and the arrival of its answer, and
the answer arrives within ten seconds. -/
def LifetimesReported (exp : String → Instant) (history : List (Moment State Action)) : Prop :=
  ∀ before waiting index clientId secret lock post reply sentBefore sender sendLock jwt secs,
    Passed history before (waiting, .answer index reply) →
    waiting.calls[index]? = some ⟨clientId, secret, .awaitAnswer lock post⟩ →
    Passed before sentBefore (sender, .advance index) →
    sender.calls[index]? = some ⟨clientId, secret, .sendPost sendLock⟩ →
    reply.Grants jwt (some secs) →
    waiting.shared.clock ≤ sender.shared.clock + 10 * nanosPerSec ∧
      ∃ issued, sender.shared.clock ≤ issued ∧ issued ≤ waiting.shared.clock ∧
        exp jwt = issued + secs.toNat * nanosPerSec

/-! ## Covered tokens are served in time -/

/-- Truncated subtraction moved across a comparison. -/
theorem outlives_iff {now lifetime minute expiry : Nat} :
    lifetime ≤ minute ∨ now + lifetime ≤ expiry + minute ↔
      now + (lifetime - minute) ≤ now ∨ now + (lifetime - minute) ≤ expiry := by
  omega

/-- A token is covered if its entry is dead at once or no later than the token. -/
theorem covered_iff {exp : String → Instant} {now deadline : Instant} {jwt : String}
    {expiresIn : Option UInt64}
    (added : Instant.checkedAdd now (positiveTtl inner expiresIn) = some deadline) :
    Covered inner exp now jwt expiresIn ↔ deadline ≤ now ∨ deadline ≤ exp jwt := by
  rw [Instant.checkedAdd_eq_some added, positiveTtl_nanos]
  exact outlives_iff

theorem serves_live_of_covered {exp : String → Instant} {clock : Instant}
    {history : List (Moment State Action)} {state : State}
    (run : Run (step inner) (State.initial clock) history state)
    (covered : ∀ before storer index jwt expiresIn,
      StoresToken inner history before storer index jwt expiresIn →
      Covered inner exp storer.shared.clock jwt expiresIn) :
    ServesLiveTokens inner exp history := by
  intro before reader index clientId secret cached read
  rcases read.passed.cut run with ⟨_, _, _, runToReader, _, _⟩
  rcases entry_stored runToReader (not_at_initial clock _ _) read.found with
    ⟨early, storer, other, otherClient, otherSecret, lock, outcome, held, _, store⟩
  rcases store.of_token with ⟨expiresIn, rfl, added⟩
  have stores : StoresToken inner history early storer other cached.jwt expiresIn :=
    ⟨held.passed.extend read.passed.before_prefix, otherClient, otherSecret, lock, cached, store⟩
  rcases held.passed.cut runToReader with ⟨_, _, _, _, taken, rest⟩
  have ordered : storer.shared.clock ≤ reader.shared.clock :=
    clock_le_of_run (Run.cons taken rest)
  have live : reader.shared.clock < cached.expiresAt := read.live
  rcases (covered_iff added).mp (covered _ _ _ _ _ stores) with atOnce | inTime
  · exact absurd live (Nat.not_lt_of_le (Nat.le_trans atOnce ordered))
  · exact Nat.lt_of_lt_of_le live inTime

/-! ## From the look at the clock to the return -/

theorem CallStage.leaving_iff (stage : CallStage) :
    stage.leaving = true ↔ 11 ≤ stage.rank ∧ stage.rank ≤ 13 := by
  cases stage <;> simp [leaving, rank]

/-- A step that is no passing of time leaves the clock alone. -/
theorem clock_kept_of_step {state next : State} {action : Action}
    (taken : step inner state action = some next)
    (timeless : ∀ elapsed, action = .tick elapsed → ¬ 0 < elapsed) :
    next.shared.clock = state.shared.clock := by
  cases step_spec taken with
  | exchange | flush => rfl
  | call _ move => exact move.clock
  | flushStep _ spec => exact spec.clock
  | @tick elapsed =>
      have zero : elapsed = 0 := Nat.eq_zero_of_not_pos (timeless elapsed rfl)
      subst zero
      rfl

/-- The clock stands still while a call leaves. -/
theorem clock_kept_while_leaving {start last : State} {history : List (Moment State Action)}
    (run : Run (step inner) start history last) (atOnce : LeavesAtOnce history) {index : Nat}
    {call : ExchangeCall} (found : start.calls[index]? = some call)
    (leaving : call.stage.leaving = true) {stage : CallStage}
    (there : last.calls[index]? = some { call with stage := stage })
    (stillLeaving : stage.leaving = true) : last.shared.clock = start.shared.clock := by
  induction run generalizing stage with
  | nil => rfl
  | @snoc history state next action earlier taken inductionHypothesis =>
      have earlierAtOnce : LeavesAtOnce history := fun moment member =>
        atOnce moment (List.mem_append_left _ member)
      rcases call_of_run earlier found with ⟨current, here, forward⟩
      have onward : current.rank ≤ stage.rank := rank_le_of_run (Run.single taken) here there
      have bounds := (CallStage.leaving_iff _).mp leaving
      have lateBounds := (CallStage.leaving_iff _).mp stillLeaving
      have currentLeaves : current.leaving = true :=
        (CallStage.leaving_iff _).mpr ⟨Nat.le_trans bounds.1 forward,
          Nat.le_trans onward lateBounds.2⟩
      have before := inductionHypothesis earlierAtOnce here currentLeaves
      refine (clock_kept_of_step taken ?_).trans before
      intro elapsed ticks passes
      have idle := atOnce (state, action) (by simp) elapsed ticks passes _
        (List.mem_of_getElem? here)
      rw [currentLeaves] at idle
      cases idle

/-- A call that reads a live token returns it at the first look, and is on its
way out with it after the second. -/
theorem read_leads {shared next : Shared} {index : Nat} {clientId secret : String}
    {action : Action} {current stage : CallStage} {cached : CachedToken}
    (move : CallMove inner shared index clientId secret action current next stage)
    (reads : (Entry.token cached).ReadAt current)
    (found : shared.positive.lookup (cacheKey inner clientId secret) = some cached)
    (live : shared.clock < cached.expiresAt) :
    current = .lookupPositive ∧ stage = .returned (.ok cached.jwt) ∨
      ∃ lock, current = .recheckPositive lock ∧ stage = .dropGuard lock (.ok cached.jwt) := by
  have sole : ∀ other, shared.positive.lookup (cacheKey inner clientId secret) = some other →
      other = cached := fun other present => Option.some.inj (present.symm.trans found)
  rcases reads with rfl | ⟨lock, rfl⟩
  · cases move with
    | advance spec =>
        cases spec with
        | positiveHit present =>
            rcases sole _ present with rfl
            exact Or.inl ⟨rfl, rfl⟩
        | positiveExpired present expired =>
            rcases sole _ present with rfl
            exact absurd expired (Nat.not_le_of_lt live)
        | positiveMiss absent =>
            rw [found] at absent
            cases absent
  · cases move with
    | advance spec =>
        cases spec with
        | recheckHit present =>
            rcases sole _ present with rfl
            exact Or.inr ⟨lock, rfl, rfl⟩
        | recheckMiss dead => exact absurd (dead _ found) (Nat.not_le_of_lt live)

/-- If no time passes on the way out, what is served in time is returned in
time. -/
theorem returns_live_of_serves_live {exp : String → Instant} {start state : State}
    {history : List (Moment State Action)} (run : Run (step inner) start history state)
    (serves : ServesLiveTokens inner exp history) (atOnce : LeavesAtOnce history) :
    ReturnsLiveTokens inner exp history := by
  intro before leaver index next clientId secret early reader cached passed taken returns read
  have inTime : reader.shared.clock < exp cached.jwt :=
    serves early reader index clientId secret cached
      ⟨read.passed.extend passed, read.caller, read.found, read.live⟩
  rcases read.passed.compare Passed.last with earlier | ⟨_, same⟩ | later
  · rcases passed.cut run with ⟨_, _, _, runToLeaver, _, _⟩
    rcases earlier.cut runToLeaver with ⟨middle, after, whole, _, readStep, rest⟩
    rcases read.caller with ⟨_, caller, reads⟩
    rcases moved_of_found readStep (Or.inl rfl) caller with ⟨settled, readMove, there⟩
    rcases moved_of_step taken (Or.inl rfl) with ⟨current, stage, atLeaver, move, atNext⟩
    have returned : stage = .returned (.ok cached.jwt) :=
      congrArg ExchangeCall.stage (Option.some.inj (atNext.symm.trans returns))
    subst returned
    rcases read_leads readMove reads read.found read.live with ⟨_, rfl⟩ | ⟨lock, _, rfl⟩
    · have stays := finished_of_run rest there rfl
      rcases Option.some.inj (stays.symm.trans atLeaver) with rfl
      cases move.unfinished
    · rcases call_of_run rest there with ⟨last, stillThere, forward⟩
      rcases Option.some.inj (stillThere.symm.trans atLeaver) with rfl
      have unreturned : last.rank < 14 := move.rank_lt
      have stillLeaving : last.leaving = true :=
        (CallStage.leaving_iff _).mpr
          ⟨forward, Nat.le_of_lt_succ unreturned⟩
      have restAtOnce : LeavesAtOnce after := fun moment member =>
        atOnce moment (passed.before_prefix.subset (by rw [whole]; simp [member]))
      rw [clock_kept_while_leaving rest restAtOnce there rfl stillThere stillLeaving,
        readMove.clock]
      exact inTime
  · rcases Prod.mk.inj same with ⟨rfl, _⟩
    exact inTime
  · have forth := later.length_le
    have back := read.passed.length_le
    simp only [List.length_append, List.length_singleton] at forth back
    exact absurd (Nat.le_trans forth (Nat.le_of_succ_le_succ back)) (Nat.not_succ_le_self _)

/-- A token found at the first look is returned by that step. -/
theorem ReturnsLiveTokens.at_lookup {exp : String → Instant} {start state : State}
    {history before : List (Moment State Action)} {reader : State} {index : Nat}
    {clientId secret : String} {cached : CachedToken}
    (returns : ReturnsLiveTokens inner exp history)
    (run : Run (step inner) start history state)
    (read : ReadEntry inner history before reader index clientId secret (.token cached))
    (first : reader.calls[index]? = some ⟨clientId, secret, .lookupPositive⟩) :
    reader.shared.clock < exp cached.jwt := by
  rcases read.passed.cut run with ⟨next, _, _, _, taken, _⟩
  rcases moved_of_found taken (Or.inl rfl) first with ⟨stage, move, there⟩
  rcases read_leads move (Or.inl rfl) read.found read.live with ⟨_, rfl⟩ | ⟨_, rechecks, _⟩
  · exact returns before reader index next clientId secret before reader cached read.passed taken
      there ⟨Passed.last, read.caller, read.found, read.live⟩
  · cases rechecks

/-! ## Others are served too late -/

/-- A live token is served to a call that asks for it once some time has passed. -/
theorem served_after {start : State} {key : CacheKey} {clientId secret : String}
    {cached : CachedToken} (keyed : key = cacheKey inner clientId secret)
    (present : start.shared.positive.lookup key = some cached) {elapsed : Nat}
    (live : start.shared.clock + elapsed < cached.expiresAt) :
    ∃ history reader index final, Run (step inner) start (history ++ [(reader, .advance index)])
        final ∧ reader.shared.clock = start.shared.clock + elapsed ∧
      reader.calls[index]? = some ⟨clientId, secret, .lookupPositive⟩ ∧
      ∀ front, ReadEntry inner (front ++ (history ++ [(reader, .advance index)])) (front ++ history)
        reader index clientId secret (.token cached) := by
  subst keyed
  let later : State :=
    { start with shared := { start.shared with clock := start.shared.clock + elapsed } }
  have ticked : step inner start (.tick elapsed) = some later := rfl
  have called : step inner later (.exchange clientId secret) =
      some (later.joinedBy clientId secret later.shared .lookupPositive) := rfl
  have stillPresent : later.shared.positive.lookup (cacheKey inner clientId secret) =
      some cached := present
  have stillLive : later.shared.clock < cached.expiresAt := live
  have run := ((Run.single ticked).snoc called).snoc (joinedBy_hits stillPresent stillLive)
  have asks : (later.joinedBy clientId secret later.shared .lookupPositive).calls[
      later.calls.length]? = some ⟨clientId, secret, .lookupPositive⟩ :=
    List.getElem?_concat_length
  refine ⟨_, _, _, _, run, rfl, asks, fun front => ?_⟩
  exact
    { passed := Passed.last.prepend front
      caller := ⟨.lookupPositive, asks, Or.inl rfl⟩
      found := present
      live := live }

/-- The later of now and the expiry lies before a deadline that lies behind both. -/
theorem wait_past_expiry {now expiry deadline : Nat} (lasting : ¬ deadline ≤ now)
    (expires : ¬ deadline ≤ expiry) :
    now + (expiry - now) < deadline ∧ expiry ≤ now + (expiry - now) := by
  omega

/-- After a store that is not covered, a call can be served the token when it
has expired. -/
theorem serves_expired_of_not_covered {exp : String → Instant} {clock : Instant}
    {history : List (Moment State Action)} {state : State}
    (run : Run (step inner) (State.initial clock) history state)
    {before : List (Moment State Action)} {storer : State} {index : Nat} {jwt : String}
    {expiresIn : Option UInt64} (stores : StoresToken inner history before storer index jwt expiresIn)
    (uncovered : ¬ Covered inner exp storer.shared.clock jwt expiresIn) :
    ∃ longer final, Run (step inner) (State.initial clock) longer final ∧
      before ++ [(storer, .advance index)] <+: longer ∧
      ¬ ServesLiveTokens inner exp longer ∧ ¬ ReturnsLiveTokens inner exp longer := by
  rcases stores.stores with ⟨clientId, secret, lock, cached, store⟩
  rcases stores.passed.cut run with ⟨next, _, _, runToStorer, taken, _⟩
  rcases present_after_store taken store with ⟨present, atStore⟩
  rcases store.of_token with ⟨_, granted, added⟩
  cases granted
  rcases not_or.mp (mt (covered_iff added).mpr uncovered) with ⟨lasting, expires⟩
  rw [← atStore] at lasting
  rcases wait_past_expiry lasting expires with ⟨live, late⟩
  rcases served_after rfl present live with
    ⟨more, reader, other, final, calls, now, asks, reads⟩
  have longerRun := (runToStorer.snoc taken).append calls
  refine ⟨_, final, longerRun, List.prefix_append _ _, ?_, ?_⟩
  · intro serves
    have inTime := serves _ reader other clientId secret cached (reads _)
    rw [now] at inTime
    exact absurd inTime (Nat.not_lt_of_le late)
  · intro returns
    have inTime := returns.at_lookup longerRun (reads _) asks
    rw [now] at inTime
    exact absurd inTime (Nat.not_lt_of_le late)

/-! ## What the reported lifetimes are good for -/

/-- Ten seconds on the way and fifty until it is stored are within the minute. -/
theorem stored_in_time {lifetime left sent issued arrived stored second : Nat}
    (capped : lifetime ≤ left) (afterSending : sent ≤ issued)
    (arrives : arrived ≤ sent + 10 * second) (prompt : stored ≤ arrived + 50 * second) :
    stored + lifetime ≤ issued + left + 60 * second := by
  omega

/-- If reported lifetimes are right, a token stored with one is covered,
provided it is stored within 50 s of the arrival of the answer. -/
theorem covered_of_reported {exp : String → Instant} {clock : Instant}
    {history : List (Moment State Action)} {state : State}
    (run : Run (step inner) (State.initial clock) history state)
    (reported : LifetimesReported exp history) {before : List (Moment State Action)}
    {storer : State} {index : Nat} {jwt : String} {secs : UInt64}
    (stores : StoresToken inner history before storer index jwt (some secs)) :
    ∃ answeredBefore waiting reply,
      Passed before answeredBefore (waiting, .answer index reply) ∧
      reply.Grants jwt (some secs) ∧
      (storer.shared.clock ≤ waiting.shared.clock + 50 * nanosPerSec →
        Covered inner exp storer.shared.clock jwt (some secs)) := by
  rcases stores.stores with ⟨clientId, secret, lock, cached, store⟩
  rcases stores.passed.cut run with ⟨_, _, _, runToStorer, _, _⟩
  rcases accounted_of_run runToStorer rfl store.caller with ⟨post, reply, answered, outcome⟩
  have grants := TokenReply.grants_of_ok outcome
  rcases answered with ⟨answeredBefore, waiting, waitLock, passed, waits, sent⟩
  rcases sent with ⟨sentBefore, sender, sendLock, sentPassed, sends, _⟩
  have inHistory := passed.extend stores.passed.before_prefix
  rcases reported _ _ _ _ _ _ _ _ _ _ _ _ _ inHistory waits sentPassed sends grants with
    ⟨arrives, issued, afterSending, _, lasts⟩
  refine ⟨answeredBefore, waiting, reply, passed, grants, fun prompt => Or.inr ?_⟩
  have capped : spokenLifetime inner (some secs) ≤ secs.toNat * nanosPerSec := Nat.min_le_left _ _
  rw [lasts]
  exact stored_in_time capped afterSending arrives prompt

/-- The cache serves only live tokens in every run whose stored tokens are
covered, and they are returned in time if no time passes on the way out.  After
a store that is not covered some call is served and returns an expired one.  If
reported lifetimes are right, a token with one is covered unless it is stored
more than 50 s after its arrival. -/
theorem cache_serves_live_tokens {exp : String → Instant} {clock : Instant}
    {history : List (Moment State Action)} {state : State}
    (run : Run (step inner) (State.initial clock) history state) :
    ((∀ before storer index jwt expiresIn,
        StoresToken inner history before storer index jwt expiresIn →
        Covered inner exp storer.shared.clock jwt expiresIn) →
      ServesLiveTokens inner exp history ∧
        (LeavesAtOnce history → ReturnsLiveTokens inner exp history)) ∧
    (∀ before storer index jwt expiresIn,
      StoresToken inner history before storer index jwt expiresIn →
      ¬ Covered inner exp storer.shared.clock jwt expiresIn →
      ∃ longer final, Run (step inner) (State.initial clock) longer final ∧
        before ++ [(storer, .advance index)] <+: longer ∧
        ¬ ServesLiveTokens inner exp longer ∧ ¬ ReturnsLiveTokens inner exp longer) ∧
    (LifetimesReported exp history → ∀ before storer index jwt secs,
      StoresToken inner history before storer index jwt (some secs) →
      ∃ answeredBefore waiting reply,
        Passed before answeredBefore (waiting, .answer index reply) ∧
        reply.Grants jwt (some secs) ∧
        (storer.shared.clock ≤ waiting.shared.clock + 50 * nanosPerSec →
          Covered inner exp storer.shared.clock jwt (some secs))) := by
  refine ⟨?_, ?_, ?_⟩
  · intro covered
    have serves := serves_live_of_covered run covered
    exact ⟨serves, returns_live_of_serves_live run serves⟩
  · intro before storer index jwt expiresIn stores uncovered
    exact serves_expired_of_not_covered run stores uncovered
  · intro reported before storer index jwt secs stores
    exact covered_of_reported run reported stores

/-- A 2xx answer with a token and no lifetime. -/
def sampleOpenGrant (jwt : String) : TokenReply :=
  .answered ⟨200, "200 OK"⟩ (.complete (some (.obj [("access_token", .str jwt)])) "")

/-- The moment brings no answer that reports a lifetime. -/
def silentOnLifetimes (moment : Moment State Action) : Bool :=
  match moment.2 with
  | .answer _ reply =>
      match exchangeInner reply with
      | .ok (_, some _) => false
      | _ => true
  | _ => true

/-- No lifetime is reported for a token that lives five minutes.  With a cap of
an hour a call is served it after 50 minutes. -/
theorem not_serves_live_tokens :
    ∃ exp history state, Run (step sampleInner) (State.initial 0) history state ∧
      LifetimesReported exp history ∧ ¬ ServesLiveTokens sampleInner exp history ∧
      ¬ ReturnsLiveTokens sampleInner exp history := by
  obtain ⟨history, state, run, observed⟩ := execute_observed (step sampleInner)
    (State.initial 0)
    [.exchange "c" "sec", .advance 0, .advance 0, .advance 0, .advance 0, .advance 0,
      .advance 0, .answer 0 (sampleOpenGrant "jwt"), .advance 0, .advance 0, .advance 0,
      .advance 0, .advance 0, .tick 3000000000000, .exchange "c" "sec", .advance 1]
    (fun history _ => (history[15]?.any (fun moment => moment.2.advanced = some 1 &&
        moment.1.calls[1]? = some ⟨"c", "sec", .lookupPositive⟩ &&
        moment.1.shared.positive.lookup (cacheKey sampleInner "c" "sec") =
          some ⟨"jwt", 3540000000000⟩ && moment.1.shared.clock = 3000000000000),
      history.all silentOnLifetimes))
    (true, true) (by decide +kernel)
  rcases Prod.mk.inj observed with ⟨reading, silent⟩
  rcases Option.any_eq_true _ _ |>.mp reading with ⟨⟨reader, reads⟩, here, seen⟩
  simp only [Bool.and_eq_true, decide_eq_true_eq] at seen
  rcases seen with ⟨⟨⟨acts, caller⟩, found⟩, now⟩
  rcases Action.of_advanced acts with rfl
  have read : ReadEntry sampleInner history (history.take 15) reader 1 "c" "sec"
      (.token ⟨"jwt", 3540000000000⟩) :=
    { passed := Passed.of_getElem? here
      caller := ⟨.lookupPositive, caller, Or.inl rfl⟩
      found := found
      live := by
        rw [now]
        decide }
  refine ⟨fun _ => 300000000000, history, state, run, ?_, fun serves => ?_, fun returns => ?_⟩
  · intro before waiting index clientId secret lock post reply _ _ _ jwt secs passed _ _ _ grants
    have quiet := List.all_eq_true.mp silent _ passed.mem
    simp only [silentOnLifetimes, TokenReply.ok_of_grants grants, Bool.false_eq_true] at quiet
  · have inTime := serves _ reader 1 "c" "sec" _ read
    rw [now] at inTime
    exact absurd inTime (by decide)
  · have inTime := returns.at_lookup run read caller
    rw [now] at inTime
    exact absurd inTime (by decide)

/-- A step of this moment that stores a token stores a covered one. -/
def storesCovered (exp : String → Instant) (moment : Moment State Action) : Bool :=
  moment.1.calls.all (fun call =>
    match call.stage with
    | .storeOutcome _ (.ok (jwt, expiresIn)) =>
        Covered sampleInner exp moment.1.shared.clock jwt expiresIn
    | _ => true)

/-- A POST of this moment is sent at the start, and an answer of it arrives within ten
seconds and reports five minutes if any lifetime. -/
def reportsFiveMinutes (moment : Moment State Action) : Bool :=
  moment.1.calls.all (fun call =>
    match call.stage with
    | .sendPost _ => moment.1.shared.clock = 0
    | _ => true) &&
  match moment.2 with
  | .answer _ reply =>
      moment.1.shared.clock ≤ 10000000000 &&
        match exchangeInner reply with
        | .ok (_, some secs) => secs = 300
        | _ => true
  | _ => true

theorem lifetimesReported_of_all {history : List (Moment State Action)}
    (checked : history.all reportsFiveMinutes = true) :
    LifetimesReported (fun _ => 300000000000) history := by
  intro before waiting index clientId secret lock post reply sentBefore sender sendLock jwt secs
    passed _ sent sends grants
  have atAnswer := List.all_eq_true.mp checked _ passed.mem
  have atPost := List.all_eq_true.mp checked _ (sent.extend passed.before_prefix).mem
  simp only [reportsFiveMinutes, TokenReply.ok_of_grants grants, Bool.and_eq_true,
    decide_eq_true_eq] at atAnswer
  rcases atAnswer with ⟨_, inTime, rfl⟩
  rw [reportsFiveMinutes, Bool.and_eq_true] at atPost
  have atStart := List.all_eq_true.mp atPost.1 _ (List.mem_of_getElem? sends)
  have start : sender.shared.clock = 0 := of_decide_eq_true atStart
  rw [start]
  exact ⟨Nat.le_trans inTime (by decide), 0, Nat.le_refl 0, Nat.zero_le _, rfl⟩

/-- A token whose reported lifetime of five minutes is right is stored ten seconds after
its arrival, which covers it, and is served until a minute before its end. -/
theorem cache_serves_live_tokens_of_reported :
    ∃ history state, Run (step sampleInner) (State.initial 0) history state ∧
      LifetimesReported (fun _ => 300000000000) history ∧
      state.calls[1]? = some ⟨"c", "sec", .returned (.ok "jwt")⟩ ∧
      ServesLiveTokens sampleInner (fun _ => 300000000000) history ∧
      ∃ before storer, StoresToken sampleInner history before storer 0 "jwt" (some 300) ∧
        Covered sampleInner (fun _ => 300000000000) storer.shared.clock "jwt" (some 300) := by
  obtain ⟨history, state, run, observed⟩ := execute_observed (step sampleInner)
    (State.initial 0)
    [.exchange "c" "sec", .advance 0, .advance 0, .advance 0, .advance 0, .advance 0,
      .advance 0, .tick 5000000000, .answer 0 (sampleGrant "jwt" 300), .tick 10000000000,
      .advance 0, .advance 0, .advance 0, .advance 0, .advance 0, .tick 200000000000,
      .exchange "c" "sec", .advance 1]
    (fun history state => (state.calls[1]?, history.all (storesCovered (fun _ => 300000000000)),
      history.all reportsFiveMinutes, history[10]?.any (fun moment => moment.2.advanced = some 0 &&
        moment.1.calls[0]? = some ⟨"c", "sec", .storeOutcome 0 (.ok ("jwt", some 300))⟩ &&
        moment.1.shared.clock = 15000000000)))
    (some ⟨"c", "sec", .returned (.ok "jwt")⟩, true, true, true) (by decide +kernel)
  rcases Prod.mk.inj observed with ⟨returned, observed⟩
  rcases Prod.mk.inj observed with ⟨checked, observed⟩
  rcases Prod.mk.inj observed with ⟨lifetimes, storing⟩
  rcases Option.any_eq_true _ _ |>.mp storing with ⟨⟨storer, stores⟩, here, seen⟩
  simp only [Bool.and_eq_true, decide_eq_true_eq] at seen
  rcases seen with ⟨⟨acts, caller⟩, now⟩
  rcases Action.of_advanced acts with rfl
  have reported := lifetimesReported_of_all lifetimes
  have store : StoresToken sampleInner history (history.take 10) storer 0 "jwt" (some 300) :=
    ⟨Passed.of_getElem? here, "c", "sec", 0, ⟨"jwt", 255000000000⟩, rfl, caller,
      .token (by rw [now]; decide +kernel)⟩
  have result := @cache_serves_live_tokens sampleInner (fun _ => 300000000000) _ _ _ run
  rcases result.2.2 reported _ _ _ _ _ store with ⟨_, waiting, _, _, _, inTime⟩
  refine ⟨history, state, run, reported, returned, (result.1 ?_).1, _, storer, store, inTime ?_⟩
  · rintro before storer index jwt expiresIn ⟨passed, clientId, secret, lock, cached, store⟩
    have good := List.all_eq_true.mp (List.all_eq_true.mp checked _ passed.mem) _
      (List.mem_of_getElem? store.caller)
    exact of_decide_eq_true good
  · rw [now]
    exact Nat.le_trans (by decide) (Nat.le_add_left _ _)

end Exchange
end OidcRs
