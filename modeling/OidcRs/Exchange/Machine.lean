import OidcRs.Exchange.TokenEndpoint
import OidcRs.Foundation.LockRegistry
import OidcRs.Foundation.Runs

namespace OidcRs
namespace Exchange

open Foundation

/-!
# The exchanger as a machine of atomic steps

Any number of `exchange` and `flush` calls run against one shared memory.  A
call is a program counter with the values its code has bound so far; each step
performs one map operation, one lock operation, one reference drop, the POST or
its answer.  A read of a cache includes the comparison with the clock, because
the entry stays locked until it is made; an insertion includes the reading of
the clock that its deadline is computed from.

The lock is granted in any order and the IdP answers at any time.  A call can
be abandoned where its code awaits something.  Its destructors then run as two
further steps: the guard is dropped if it is held, then the reference to the
lock.  A deadline that is not representable panics and unwinds the same way.
-/

/-- The key of both caches: the client and the digest of its secret. -/
structure CacheKey where
  clientId : String
  secretHash : Digest
  deriving DecidableEq

structure CachedToken where
  jwt : String
  expiresAt : Instant
  deriving DecidableEq

inductive NegativeReason
  | rejected
  | transient
  deriving DecidableEq

structure NegativeEntry where
  «until» : Instant
  error : NegativeReason
  deriving DecidableEq

/-- The error a cached failure is returned as. -/
def NegativeReason.toAuthError : NegativeReason → AuthError
  | rejected => .idpRejected
  | transient => .idpUnreachable "recent transient failure"

/-- How long a failure is cached. -/
def NegativeReason.ttl : NegativeReason → Duration
  | rejected => Duration.fromSecs 30
  | transient => Duration.fromSecs 5

def hashSecret (inner : ExchangerInner) (secret : String) : Digest := inner.sha256 secret.toUTF8

def cacheKey (inner : ExchangerInner) (clientId secret : String) : CacheKey where
  clientId := clientId
  secretHash := hashSecret inner secret

/-- The lifetime of a cached token: the reported one, or the cap when none is
reported, at most the cap, less a minute. -/
def positiveTtl (inner : ExchangerInner) (expiresIn : Option UInt64) : Duration :=
  (((expiresIn.map Duration.fromSecs).getD inner.hardTtl).min inner.hardTtl).saturatingSub
    (Duration.fromSecs 60)

/-- The three maps and the clock that every call shares. -/
structure Shared where
  positive : KeyedMap CacheKey CachedToken
  negative : KeyedMap CacheKey NegativeEntry
  inflight : LockRegistry String
  clock : Instant

/-! ## One `exchange` call -/

/-- The next atomic step of an `exchange` call, with what the call has bound. -/
inductive CallStage
  | lookupPositive
  | evictPositive
  | lookupNegative
  | evictNegative
  | takeHandle
  | awaitLock (lock : LockId)
  | recheckPositive (lock : LockId)
  | sendPost (lock : LockId)
  | awaitAnswer (lock : LockId) (post : TokenPost)
  | storeOutcome (lock : LockId) (result : ExchangeResult)
  | removeNegative (lock : LockId) (jwt : String)
  | dropGuard (lock : LockId) (result : Except AuthError String)
  | dropLock (lock : LockId) (result : Except AuthError String)
  | cleanupInflight (result : Except AuthError String)
  | returned (result : Except AuthError String)
  /-- destructors of an abandoned or panicking call that holds the guard -/
  | unwindGuard (lock : LockId)
  | unwindLock (lock : LockId)
  | aborted
  deriving DecidableEq

structure ExchangeCall where
  clientId : String
  secret : String
  stage : CallStage
  deriving DecidableEq

def ExchangeCall.key (inner : ExchangerInner) (call : ExchangeCall) : CacheKey :=
  cacheKey inner call.clientId call.secret

/-- Storing a token: the entry, or a panic when its deadline overflows. -/
def storeToken (shared : Shared) (key : CacheKey) (lock : LockId) (jwt : String)
    (ttl : Duration) : Shared × CallStage :=
  match Instant.checkedAdd shared.clock ttl with
  | some deadline =>
      ({ shared with positive := shared.positive.insert key ⟨jwt, deadline⟩ },
        .removeNegative lock jwt)
  | none => (shared, .unwindGuard lock)

/-- Storing a failure, likewise. -/
def storeFailure (shared : Shared) (key : CacheKey) (lock : LockId) (reason : NegativeReason)
    (error : AuthError) : Shared × CallStage :=
  match Instant.checkedAdd shared.clock reason.ttl with
  | some deadline =>
      ({ shared with negative := shared.negative.insert key ⟨deadline, reason⟩ },
        .dropGuard lock (.error error))
  | none => (shared, .unwindGuard lock)

/-- The match on the outcome of the POST, up to and including the insertion. -/
def storeOutcome (inner : ExchangerInner) (shared : Shared) (key : CacheKey) (lock : LockId) :
    ExchangeResult → Shared × CallStage
  | .ok (jwt, expiresIn) => storeToken shared key lock jwt (positiveTtl inner expiresIn)
  | .error .idpRejected => storeFailure shared key lock .rejected .idpRejected
  | .error (.idpUnreachable detail) =>
      storeFailure shared key lock .transient (.idpUnreachable detail)
  | .error error => (shared, .dropGuard lock (.error error))

/-- Remove the client's in-flight entry if the map holds the last reference. -/
def cleanupInflight (shared : Shared) (clientId : String) : Shared :=
  { shared with inflight := shared.inflight.removeIf clientId (fun strong => strong ≤ 1) }

/-- One atomic step of an `exchange` call.  `none` when it has finished, or
when it waits for the lock or for the answer to its POST. -/
def callStep (inner : ExchangerInner) (shared : Shared) (call : ExchangeCall) :
    Option (Shared × CallStage) :=
  match call.stage with
  | .lookupPositive =>
      match shared.positive.lookup (call.key inner) with
      | some cached =>
          if shared.clock < cached.expiresAt then some (shared, .returned (.ok cached.jwt))
          else some (shared, .evictPositive)
      | none => some (shared, .lookupNegative)
  | .evictPositive =>
      some ({ shared with positive := shared.positive.erase (call.key inner) }, .lookupNegative)
  | .lookupNegative =>
      match shared.negative.lookup (call.key inner) with
      | some entry =>
          if shared.clock < entry.until then
            some (shared, .returned (.error entry.error.toAuthError))
          else some (shared, .evictNegative)
      | none => some (shared, .takeHandle)
  | .evictNegative =>
      some ({ shared with negative := shared.negative.erase (call.key inner) }, .takeHandle)
  | .takeHandle =>
      some ({ shared with inflight := (shared.inflight.checkout call.clientId).1 },
        .awaitLock (shared.inflight.checkout call.clientId).2)
  | .awaitLock lock =>
      if shared.inflight.heap.isLocked lock then none
      else some ({ shared with inflight :=
          { shared.inflight with heap := shared.inflight.heap.setLocked lock true } },
        .recheckPositive lock)
  | .recheckPositive lock =>
      match shared.positive.lookup (call.key inner) with
      | some cached =>
          if shared.clock < cached.expiresAt then some (shared, .dropGuard lock (.ok cached.jwt))
          else some (shared, .sendPost lock)
      | none => some (shared, .sendPost lock)
  | .sendPost lock =>
      some (shared, .awaitAnswer lock (tokenPost inner call.clientId call.secret))
  | .awaitAnswer _ _ => none
  | .storeOutcome lock result => some (storeOutcome inner shared (call.key inner) lock result)
  | .removeNegative lock jwt =>
      some ({ shared with negative := shared.negative.erase (call.key inner) },
        .dropGuard lock (.ok jwt))
  | .dropGuard lock result =>
      some ({ shared with inflight :=
          { shared.inflight with heap := shared.inflight.heap.setLocked lock false } },
        .dropLock lock result)
  | .dropLock lock result =>
      some ({ shared with inflight :=
          { shared.inflight with heap := shared.inflight.heap.release lock } },
        .cleanupInflight result)
  | .cleanupInflight result =>
      some (cleanupInflight shared call.clientId, .returned result)
  | .returned _ => none
  | .unwindGuard lock =>
      some ({ shared with inflight :=
          { shared.inflight with heap := shared.inflight.heap.setLocked lock false } },
        .unwindLock lock)
  | .unwindLock lock =>
      some ({ shared with inflight :=
          { shared.inflight with heap := shared.inflight.heap.release lock } }, .aborted)
  | .aborted => none

/-- The answer to the outstanding POST arrives. -/
def answerStage (reply : TokenReply) : CallStage → Option CallStage
  | .awaitAnswer lock _ => some (.storeOutcome lock (exchangeInner reply))
  | _ => none

/-- The future of a call is dropped at one of its two await points. -/
def abandonStage : CallStage → Option CallStage
  | .awaitLock lock => some (.unwindLock lock)
  | .awaitAnswer lock _ => some (.unwindGuard lock)
  | _ => none

/-! ## One `flush` call -/

inductive FlushStage
  | readPositiveLen
  | readNegativeLen (posBefore : Nat)
  | flushPositive (posBefore negBefore : Nat)
  | flushNegative (posBefore negBefore : Nat)
  | flushInflight (posBefore negBefore : Nat)
  | countPositive (posBefore negBefore : Nat)
  | countNegative (posEvicted negBefore : Nat)
  | returned (posEvicted negEvicted : Nat)
  /-- a length difference was negative -/
  | overflowed
  deriving DecidableEq

structure FlushCall where
  clientId : Option String
  stage : FlushStage
  deriving DecidableEq

/-- `retain` the other clients' entries, or `clear` when no client is named. -/
def flushMap {Value : Type} (clientId : Option String) (map : KeyedMap CacheKey Value) :
    KeyedMap CacheKey Value :=
  match clientId with
  | some cid => KeyedMap.retain (fun key _ => key.clientId ≠ cid) map
  | none => ∅

def flushRegistry (clientId : Option String) (inflight : LockRegistry String) :
    LockRegistry String :=
  match clientId with
  | some cid => inflight.purge (fun key => key ≠ cid)
  | none => inflight.purge (fun _ => false)

/-- Unsigned subtraction, undefined when it would wrap. -/
def checkedSub (before after : Nat) : Option Nat :=
  if after ≤ before then some (before - after) else none

def flushStep (shared : Shared) (call : FlushCall) : Option (Shared × FlushStage) :=
  match call.stage with
  | .readPositiveLen => some (shared, .readNegativeLen (KeyedMap.len shared.positive))
  | .readNegativeLen posBefore =>
      some (shared, .flushPositive posBefore (KeyedMap.len shared.negative))
  | .flushPositive posBefore negBefore =>
      some ({ shared with positive := flushMap call.clientId shared.positive },
        .flushNegative posBefore negBefore)
  | .flushNegative posBefore negBefore =>
      some ({ shared with negative := flushMap call.clientId shared.negative },
        .flushInflight posBefore negBefore)
  | .flushInflight posBefore negBefore =>
      some ({ shared with inflight := flushRegistry call.clientId shared.inflight },
        .countPositive posBefore negBefore)
  | .countPositive posBefore negBefore =>
      match checkedSub posBefore (KeyedMap.len shared.positive) with
      | some posEvicted => some (shared, .countNegative posEvicted negBefore)
      | none => some (shared, .overflowed)
  | .countNegative posEvicted negBefore =>
      match checkedSub negBefore (KeyedMap.len shared.negative) with
      | some negEvicted => some (shared, .returned posEvicted negEvicted)
      | none => some (shared, .overflowed)
  | .returned _ _ => none
  | .overflowed => none

/-! ## All calls together -/

/-- Shared memory and every call ever made.  A call is named by its position,
and a finished call keeps its place. -/
structure State where
  shared : Shared
  calls : List ExchangeCall
  flushes : List FlushCall

def State.initial (clock : Instant) : State where
  shared := ⟨∅, ∅, LockRegistry.empty, clock⟩
  calls := []
  flushes := []

inductive Action
  /-- `exchange(clientId, secret)` is called -/
  | exchange (clientId secret : String)
  /-- an exchange call takes its next step -/
  | advance (index : Nat)
  /-- the answer to an exchange call's POST arrives -/
  | answer (index : Nat) (reply : TokenReply)
  /-- an exchange call's future is dropped -/
  | abandon (index : Nat)
  /-- `flush(clientId)` is called -/
  | flush (clientId : Option String)
  | advanceFlush (index : Nat)
  /-- time passes -/
  | tick (elapsed : Nat)

/-- Put a call at its next stage. -/
def State.setStage (state : State) (index : Nat) (call : ExchangeCall) (stage : CallStage) :
    List ExchangeCall :=
  state.calls.set index { call with stage := stage }

def step (inner : ExchangerInner) (state : State) : Action → Option State
  | .exchange clientId secret =>
      some { state with calls := state.calls ++ [⟨clientId, secret, .lookupPositive⟩] }
  | .advance index =>
      match state.calls[index]? with
      | none => none
      | some call =>
          match callStep inner state.shared call with
          | none => none
          | some (shared, stage) =>
              some ⟨shared, state.setStage index call stage, state.flushes⟩
  | .answer index reply =>
      match state.calls[index]? with
      | none => none
      | some call =>
          match answerStage reply call.stage with
          | none => none
          | some stage => some { state with calls := state.setStage index call stage }
  | .abandon index =>
      match state.calls[index]? with
      | none => none
      | some call =>
          match abandonStage call.stage with
          | none => none
          | some stage => some { state with calls := state.setStage index call stage }
  | .flush clientId =>
      some { state with flushes := state.flushes ++ [⟨clientId, .readPositiveLen⟩] }
  | .advanceFlush index =>
      match state.flushes[index]? with
      | none => none
      | some call =>
          match flushStep state.shared call with
          | none => none
          | some (shared, stage) =>
              some ⟨shared, state.calls, state.flushes.set index { call with stage := stage }⟩
  | .tick elapsed =>
      some { state with shared := { state.shared with clock := state.shared.clock + elapsed } }

/-! ## A concrete exchanger

Small enough to evaluate.  Its digest is SHA-256 on the secrets listed; no run
below hashes another one.
-/

def sampleSha256 (input : ByteArray) : Digest :=
  if input.data = "sec".toUTF8.data then
    #v[173, 217, 53, 52, 238, 180, 99, 128, 15, 224, 237, 9, 70, 4, 141, 51, 99, 109, 210, 160,
      20, 250, 185, 46, 138, 55, 247, 124, 233, 140, 116, 11]
  else if input.data = "bad".toUTF8.data then
    #v[47, 5, 212, 182, 137, 210, 112, 202, 251, 2, 40, 95, 53, 244, 72, 102, 247, 220, 138, 45,
      54, 138, 63, 157, 17, 36, 55, 62, 234, 179, 31, 177]
  else if input.data = "other".toUTF8.data then
    #v[217, 41, 138, 16, 209, 176, 115, 88, 55, 220, 75, 216, 93, 172, 100, 27, 15, 60, 239, 39,
      164, 126, 93, 83, 165, 79, 47, 63, 91, 47, 207, 250]
  else Vector.replicate 32 0

def sampleInner : ExchangerInner where
  tokenEndpoint := "https://idp/token"
  audience := none
  scope := none
  hardTtl := Duration.fromSecs 3600
  sha256 := sampleSha256

/-- A 2xx answer with a token and a lifetime. -/
def sampleGrant (jwt : String) (expiresIn : UInt64) : TokenReply :=
  .answered ⟨200, "200 OK"⟩ (.complete
    (some (.obj [("access_token", .str jwt), ("expires_in", .unsigned expiresIn)])) "")

/-- A 401 answer. -/
def sampleRejection : TokenReply := .answered ⟨401, "401 Unauthorized"⟩ (.complete none "")

/-! An action seen in a run is told by what it carries. -/

def Action.called : Action → Option (String × String)
  | exchange clientId secret => some (clientId, secret)
  | _ => none

def Action.advanced : Action → Option Nat
  | advance index => some index
  | _ => none

def Action.flushed : Action → Option (Option String)
  | flush clientId => some clientId
  | _ => none

def Action.flushAdvanced : Action → Option Nat
  | advanceFlush index => some index
  | _ => none

def Action.abandoned : Action → Option Nat
  | abandon index => some index
  | _ => none

theorem Action.of_called {action : Action} {clientId secret : String}
    (seen : action.called = some (clientId, secret)) : action = .exchange clientId secret := by
  cases action <;> cases seen
  rfl

theorem Action.of_advanced {action : Action} {index : Nat} (seen : action.advanced = some index) :
    action = .advance index := by
  cases action <;> cases seen
  rfl

theorem Action.of_flushed {action : Action} {clientId : Option String}
    (seen : action.flushed = some clientId) : action = .flush clientId := by
  cases action <;> cases seen
  rfl

theorem Action.of_flushAdvanced {action : Action} {index : Nat}
    (seen : action.flushAdvanced = some index) : action = .advanceFlush index := by
  cases action <;> cases seen
  rfl

theorem Action.of_abandoned {action : Action} {index : Nat}
    (seen : action.abandoned = some index) : action = .abandon index := by
  cases action <;> cases seen
  rfl

end Exchange
end OidcRs
