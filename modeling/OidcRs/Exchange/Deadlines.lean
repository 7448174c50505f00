import OidcRs.Exchange.Departure
import OidcRs.Exchange.Deployment
import OidcRs.Exchange.Lifetimes

namespace OidcRs
namespace Exchange

open Foundation

/-!
# Deadlines that do not fit

The lifetime of a token is computed with a minimum and a subtraction that stops
at zero, and is added to the clock without a check.  The builder puts no upper
bound on the cap, so the sum can leave the range of an instant, and then the
call panics with the token in hand: nothing is cached, nothing is returned, and
the client's in-flight entry is not cleaned up.
-/

variable {inner : ExchangerInner} {builder : AuthConfigBuilder}

/-- For how long a token is cached under a cap: the reported lifetime, or the cap
when none is reported, at most the cap, less a minute. -/
def cachedFor (cap : Duration) (expiresIn : Option UInt64) : Nat :=
  Nat.min ((expiresIn.map (fun secs => secs.toNat * nanosPerSec)).getD cap.nanos) cap.nanos -
    60 * nanosPerSec

theorem Deployed.positiveTtl_nanos (deployed : Deployed builder inner)
    (expiresIn : Option UInt64) :
    (positiveTtl inner expiresIn).nanos = cachedFor builder.cacheTtl expiresIn := by
  rw [Exchange.positiveTtl_nanos, deployed.hardTtl]
  rfl

/-! ## The way to the return -/

/-- The stages of a call that has obtained a token. -/
def completion (lock : LockId) (jwt : String) (expiresIn : Option UInt64) : Nat → CallStage
  | 0 => .storeOutcome lock (.ok (jwt, expiresIn))
  | 1 => .removeNegative lock jwt
  | taken + 2 => departure lock (.ok jwt) taken

section Completion

variable {lock : LockId} {jwt : String} {expiresIn : Option UInt64}

theorem completion_awaits (taken : Nat) : (completion lock jwt expiresIn taken).awaits = false := by
  rcases taken with _ | _ | taken
  · rfl
  · rfl
  · exact departure_awaits lock (.ok jwt) taken

theorem completion_rank_le (taken : Nat) : (completion lock jwt expiresIn taken).rank ≤ 14 := by
  rcases taken with _ | _ | _ | _ | _ | taken <;>
    simp only [completion, departure, CallStage.rank, Nat.reduceLeDiff]

/-- One step leads on, unless it is the store and the deadline does not fit. -/
theorem completion_onward {shared next : Shared} {clientId secret : String} {taken : Nat}
    {stage : CallStage}
    (spec : CallSpec inner shared clientId secret (completion lock jwt expiresIn taken) next stage)
    (fits : taken = 0 → Instant.checkedAdd shared.clock (positiveTtl inner expiresIn) ≠ none) :
    stage = completion lock jwt expiresIn (taken + 1) := by
  rcases taken with _ | _ | taken
  · cases spec with
    | storeToken => rfl
    | storePanic stored overflow =>
        rcases Option.some.inj stored with rfl
        exact absurd overflow (fits rfl)
  · cases spec
    rfl
  · exact departure_onward spec

theorem completion_enabled {shared : Shared} {clientId secret : String} {taken : Nat}
    (unfinished : taken < 5) :
    (callStep inner shared ⟨clientId, secret, completion lock jwt expiresIn taken⟩).isSome := by
  rcases taken with _ | _ | _ | _ | _ | taken
  · rfl
  · rfl
  · rfl
  · rfl
  · rfl
  · exact absurd unfinished (by omega)

end Completion

/-- What a call with a token does from a state on, as far as a run shows it: it
has gone through the store, the removal, the release of the lock and the cleanup
to the return, as many of them as it has taken steps, its next step is enabled,
and its first step has put the token in the cache. -/
structure Completes (inner : ExchangerInner) (after : List (Moment State Action)) (last : State)
    (index : Nat) (clientId secret : String) (lock : LockId) (jwt : String)
    (expiresIn : Option UInt64) : Prop where
  stage : last.calls[index]? =
    some ⟨clientId, secret, completion lock jwt expiresIn (ownSteps index after)⟩
  enabled : ownSteps index after < 5 → ∃ next, step inner last (.advance index) = some next
  stored : 0 < ownSteps index after → ∃ before storer next,
    Passed after before (storer, .advance index) ∧ ownSteps index before = 0 ∧
      step inner storer (.advance index) = some next ∧
      next.shared.positive.lookup (cacheKey inner clientId secret) =
        some ⟨jwt, storer.shared.clock + (positiveTtl inner expiresIn).nanos⟩

section Received

variable {history after : List (Moment State Action)} {state last : State} {index : Nat}
  {clientId secret : String} {lock : LockId} {reply : TokenReply} {jwt : String}
  {expiresIn : Option UInt64}

/-- The token is stored by the first step the call takes. -/
theorem Received.at_store (received : Received inner history state index clientId secret lock reply)
    (grants : reply.Grants jwt expiresIn) {storer : State}
    (run : Run (step inner) state after storer) (still : ownSteps index after = 0) :
    storer.calls[index]? = some ⟨clientId, secret, .storeOutcome lock (.ok (jwt, expiresIn))⟩ := by
  have here := received.here
  rw [TokenReply.ok_of_grants grants] at here
  exact still_of_run run here rfl still

/-- A call that has gone on after its store had a deadline that fits. -/
theorem fits_of_completes (received : Received inner history state index clientId secret lock reply)
    (grants : reply.Grants jwt expiresIn) (run : Run (step inner) state after last)
    (completes : Completes inner after last index clientId secret lock jwt expiresIn)
    {before : List (Moment State Action)} {storer : State}
    (passed : Passed after before (storer, .advance index)) (first : ownSteps index before = 0) :
    storer.shared.clock + (positiveTtl inner expiresIn).nanos < instantLimit := by
  rcases passed.cut run with ⟨next, rest, _, runToStorer, taken, runOn⟩
  have found := received.at_store grants runToStorer first
  by_contra large
  have overflow := Instant.checkedAdd_eq_none_iff.mpr (Nat.le_of_not_lt large)
  have unwinds := (after_overflow taken found rfl overflow).2
  have unwound : 15 ≤ (completion lock jwt expiresIn (ownSteps index after)).rank :=
    rank_le_of_run runOn unwinds completes.stage
  exact absurd (Nat.le_trans unwound (completion_rank_le _)) (by decide)

/-- A call whose deadline fits goes on to its return. -/
theorem completes_of_fits (received : Received inner history state index clientId secret lock reply)
    (grants : reply.Grants jwt expiresIn) (run : Run (step inner) state after last)
    (fits : ∀ before storer, Passed after before (storer, .advance index) →
      ownSteps index before = 0 →
      storer.shared.clock + (positiveTtl inner expiresIn).nanos < instantLimit) :
    Completes inner after last index clientId secret lock jwt expiresIn := by
  have start := received.at_store grants Run.nil rfl
  have stage : last.calls[index]? =
      some ⟨clientId, secret, completion lock jwt expiresIn (ownSteps index after)⟩ := by
    refine stage_of_run completion_awaits run start ?_
    intro before mover next stage passed spec
    refine completion_onward spec fun first => ?_
    rw [Instant.checkedAdd_of_lt (fits before mover passed first)]
    exact Option.some_ne_none _
  refine ⟨stage, fun unfinished => exists_step stage (completion_enabled unfinished), ?_⟩
  intro moves
  rcases exists_first_own moves with ⟨before, storer, passed, first⟩
  rcases passed.cut run with ⟨next, _, _, runToStorer, taken, _⟩
  have found := received.at_store grants runToStorer first
  have added := Instant.checkedAdd_of_lt (fits before storer passed first)
  have store : Store inner (storer, .advance index) index clientId secret lock
      (.ok (jwt, expiresIn)) (.token ⟨jwt, _⟩) := ⟨rfl, found, .token added⟩
  exact ⟨before, storer, next, passed, first, taken, (present_after_store taken store).1⟩

end Received

/-- A call that has obtained a token from an exchanger of an accepted
configuration completes in a run exactly when, at the time of its store, the
clock and the lifetime under the configured cap add up to an instant. -/
theorem completes_iff_representable (deployed : Deployed builder inner)
    {history after : List (Moment State Action)} {state last : State} {index : Nat}
    {clientId secret : String} {lock : LockId} {reply : TokenReply} {jwt : String}
    {expiresIn : Option UInt64}
    (received : Received inner history state index clientId secret lock reply)
    (grants : reply.Grants jwt expiresIn) (run : Run (step inner) state after last) :
    Completes inner after last index clientId secret lock jwt expiresIn ↔
      ∀ before storer, Passed after before (storer, .advance index) →
        ownSteps index before = 0 →
        storer.shared.clock + cachedFor builder.cacheTtl expiresIn < instantLimit := by
  rw [← deployed.positiveTtl_nanos]
  constructor
  · intro completes before storer passed first
    exact fits_of_completes received grants run completes passed first
  · exact completes_of_fits received grants run

/-- With the default cap a token that lives five minutes is stored and on its way
to the caller. -/
theorem completes_iff_representable_of_default :
    ∃ history state next lock,
      Received sampleInner history state 0 "c" "sec" lock (sampleGrant "jwt" 300) ∧
      Completes sampleInner [(state, .advance 0)] next 0 "c" "sec" lock "jwt" (some 300) := by
  have deployed : Deployed (sampleBuilder (Duration.fromSecs 3600)) sampleInner :=
    deployed_sample (by decide)
  have grants : (sampleGrant "jwt" 300).Grants "jwt" (some 300) :=
    TokenReply.grants_of_ok (by decide)
  rcases received_alone sampleInner 0 "c" "sec" (sampleGrant "jwt" 300) with
    ⟨history, state, lock, received, now, _, _⟩
  rcases exists_step received.here rfl with ⟨next, taken⟩
  refine ⟨history, state, next, lock, received,
    (completes_iff_representable deployed received grants (Run.single taken)).mpr ?_⟩
  intro before storer passed _
  have same : (storer, Action.advance 0) = (state, .advance 0) := List.mem_singleton.mp passed.mem
  rcases Prod.mk.inj same with ⟨rfl, _⟩
  rw [now]
  decide

/-- With the longest cap and no reported lifetime the call panics instead. -/
theorem not_completes_of_longest :
    Deployed (sampleBuilder Duration.longest) { sampleInner with hardTtl := Duration.longest } ∧
      (sampleOpenGrant "jwt").Grants "jwt" none ∧
      ∃ history state next lock,
        Received { sampleInner with hardTtl := Duration.longest } history state 0 "c" "sec" lock
          (sampleOpenGrant "jwt") ∧
        step { sampleInner with hardTtl := Duration.longest } state (.advance 0) = some next ∧
        next.calls[0]? = some ⟨"c", "sec", .unwindGuard lock⟩ ∧
        next.shared.positive = ∅ ∧
        ¬ Completes { sampleInner with hardTtl := Duration.longest } [(state, .advance 0)] next 0
          "c" "sec" lock "jwt" none := by
  have deployed : Deployed (sampleBuilder Duration.longest)
      { sampleInner with hardTtl := Duration.longest } := deployed_sample (by decide)
  have grants : (sampleOpenGrant "jwt").Grants "jwt" none := TokenReply.grants_of_ok (by decide)
  refine ⟨deployed, grants, ?_⟩
  rcases received_alone { sampleInner with hardTtl := Duration.longest } 0 "c" "sec"
    (sampleOpenGrant "jwt") with ⟨history, state, lock, received, now, nothing, _⟩
  rcases exists_step received.here rfl with ⟨next, taken⟩
  have large : instantLimit ≤ state.shared.clock + (positiveTtl
      { sampleInner with hardTtl := Duration.longest } none).nanos := by
    rw [deployed.positiveTtl_nanos, now]
    decide
  have overflow := Instant.checkedAdd_eq_none_iff.mpr large
  have found := received.at_store grants Run.nil rfl
  rcases after_overflow taken found rfl overflow with ⟨same, unwinds⟩
  refine ⟨history, state, next, lock, received, taken, unwinds, ?_, fun completes => ?_⟩
  · rw [same]
    exact nothing
  · have passed : Passed [(state, Action.advance 0)] [] (state, .advance 0) := Passed.last
    have fits := fits_of_completes received grants (Run.single taken) completes passed rfl
    exact absurd fits (Nat.not_lt_of_le large)

end Exchange
end OidcRs
