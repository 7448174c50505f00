import OidcRs.Exchange.Machine
import OidcRs.Foundation.Simulation

namespace OidcRs
namespace Exchange
namespace Reference

open Foundation

/-!
# What the exchanger is for: one cache, one caller

The reference machine has one map, from a cache key to a slot, and serves one
caller at a time.  A live slot is answered as it is read.  Otherwise one POST is
sent and its outcome overwrites the slot.  A flush empties the slots of a client
or all of them, and counts what it emptied.  Time may pass between any two
steps.

The deadlines below are written out from the documented lifetimes, not in terms
of the exchanger's own code.
-/

inductive Slot
  | token (jwt : String) (deadline : Instant)
  | failed (reason : NegativeReason) (deadline : Instant)
  deriving DecidableEq

def Slot.deadline : Slot → Instant
  | token _ deadline | failed _ deadline => deadline

/-- What a live slot is answered with. -/
def Slot.answer : Slot → Except AuthError String
  | token jwt _ => .ok jwt
  | failed reason _ => .error reason.toAuthError

def Slot.isToken : Slot → Bool
  | token _ _ => true
  | failed _ _ => false

/-- What the one caller is in the middle of. -/
inductive Activity
  | idle
  | reading (clientId secret : String)
  | sending (clientId secret : String)
  | waiting (clientId secret : String)
  | writing (clientId secret : String) (outcome : ExchangeResult)
  | returning (result : Except AuthError String)
  | flushing (scope : Option String)
  | emptied (tokens failures : Nat)

structure State where
  slots : KeyedMap CacheKey Slot
  clock : Instant
  activity : Activity

def State.initial (clock : Instant) : State := ⟨∅, clock, .idle⟩

/-- The slot an outcome is written as: a token until the earlier of its
lifetime and the cap, less a minute; a refusal for 30 s; an unreachable IdP for
5 s; nothing for a malformed answer. -/
def slotOf (inner : ExchangerInner) (now : Instant) : ExchangeResult → Option Slot
  | .ok (jwt, expiresIn) =>
      some (.token jwt (now +
        (Nat.min ((expiresIn.map (fun secs => secs.toNat * nanosPerSec)).getD inner.hardTtl.nanos)
          inner.hardTtl.nanos - 60 * nanosPerSec)))
  | .error .idpRejected => some (.failed .rejected (now + 30 * nanosPerSec))
  | .error (.idpUnreachable _) => some (.failed .transient (now + 5 * nanosPerSec))
  | .error _ => none

/-- Overwrite a slot, or empty it. -/
def overwrite (slots : KeyedMap CacheKey Slot) (key : CacheKey) : Option Slot →
    KeyedMap CacheKey Slot
  | some slot => slots.insert key slot
  | none => slots.erase key

/-- The keys a flush is about. -/
def covers (scope : Option String) (key : CacheKey) : Bool :=
  match scope with
  | some clientId => key.clientId = clientId
  | none => true

def empty (scope : Option String) (slots : KeyedMap CacheKey Slot) : KeyedMap CacheKey Slot :=
  KeyedMap.retain (fun key _ => !covers scope key) slots

/-- How many slots of a kind a flush empties. -/
def count (scope : Option String) (kind : Slot → Bool) (slots : KeyedMap CacheKey Slot) : Nat :=
  (slots.keys.filter (fun key => covers scope key = true ∧
    (slots.lookup key).any kind = true)).card

inductive Action
  | call (clientId secret : String)
  | read
  | send
  | answer (reply : TokenReply)
  | write
  | finish
  | flush (scope : Option String)
  | empty
  | returnFlush
  | tick (elapsed : Nat)

/-- What can be seen from outside. -/
inductive Event
  | called (clientId secret : String)
  | posted (post : TokenPost)
  | answered (reply : TokenReply)
  | returned (result : Except AuthError String)
  | flushCalled (scope : Option String)
  | flushReturned (posEvicted negEvicted : Nat)
  | elapsed (time : Nat)

/-- The live slot of a key, if there is one. -/
def live (state : State) (key : CacheKey) : Option Slot :=
  (state.slots.lookup key).filter (fun slot => state.clock < slot.deadline)

def step (inner : ExchangerInner) (state : State) : Action → Option State
  | .call clientId secret =>
      match state.activity with
      | .idle => some { state with activity := .reading clientId secret }
      | _ => none
  | .read =>
      match state.activity with
      | .reading clientId secret =>
          match live state (cacheKey inner clientId secret) with
          | some _ => some { state with activity := .idle }
          | none => some { state with activity := .sending clientId secret }
      | _ => none
  | .send =>
      match state.activity with
      | .sending clientId secret => some { state with activity := .waiting clientId secret }
      | _ => none
  | .answer reply =>
      match state.activity with
      | .waiting clientId secret =>
          some { state with activity := .writing clientId secret (exchangeInner reply) }
      | _ => none
  | .write =>
      match state.activity with
      | .writing clientId secret outcome =>
          some { state with
            slots := overwrite state.slots (cacheKey inner clientId secret)
              (slotOf inner state.clock outcome)
            activity := .returning (outcome.map Prod.fst) }
      | _ => none
  | .finish =>
      match state.activity with
      | .returning _ => some { state with activity := .idle }
      | _ => none
  | .flush scope =>
      match state.activity with
      | .idle => some { state with activity := .flushing scope }
      | _ => none
  | .empty =>
      match state.activity with
      | .flushing scope =>
          some { state with
            slots := empty scope state.slots
            activity := .emptied (count scope Slot.isToken state.slots)
              (count scope (fun slot => !slot.isToken) state.slots) }
      | _ => none
  | .returnFlush =>
      match state.activity with
      | .emptied _ _ => some { state with activity := .idle }
      | _ => none
  | .tick elapsed => some { state with clock := state.clock + elapsed }

/-- The event of a step: a live slot is returned as it is read. -/
def event (inner : ExchangerInner) (moment : Moment State Action) : Option Event :=
  match moment.2, moment.1.activity with
  | .call clientId secret, _ => some (.called clientId secret)
  | .read, .reading clientId secret =>
      (live moment.1 (cacheKey inner clientId secret)).map (fun slot => .returned slot.answer)
  | .send, .sending clientId secret => some (.posted (tokenPost inner clientId secret))
  | .answer reply, _ => some (.answered reply)
  | .finish, .returning result => some (.returned result)
  | .flush scope, _ => some (.flushCalled scope)
  | .returnFlush, .emptied tokens failures => some (.flushReturned tokens failures)
  | .tick elapsed, _ => some (.elapsed elapsed)
  | _, _ => none

/-- A step that writes a slot writes a representable deadline. -/
def Representable (inner : ExchangerInner) (moment : Moment State Action) : Prop :=
  ∀ clientId secret outcome slot, moment.2 = .write →
    moment.1.activity = .writing clientId secret outcome →
    slotOf inner moment.1.clock outcome = some slot → slot.deadline < instantLimit

/-- The reference machine with what it shows. -/
def machine (inner : ExchangerInner) : Machine State Action Event := ⟨step inner, event inner⟩

end Reference
end Exchange
end OidcRs
