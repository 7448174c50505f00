import Mathlib.Logic.Function.Basic
import OidcRs.Foundation.KeyedMap

namespace OidcRs
namespace Foundation

universe u

/-!
# A registry of shared locks, one per key

The single-flight pattern keeps one reference-counted mutex per key in a
concurrent map.  A member checks the key's lock out (creating it when absent),
waits for it, works, unlocks, drops its reference and then sweeps: the map
entry is removed when the map itself holds the only reference left.  A purge
removes entries regardless of who holds their locks.

Reference counts are stored numbers that members increment and decrement, as
the program does; that they equal the number of holders is the invariant
`SoundAt` and not a definition.  From it follow the two facts a client relies
on: an entry whose lock somebody holds is never swept away, and two members
never guard one lock.
-/

abbrev LockId := Nat

/-- One allocation: a mutex behind a strong reference count. -/
structure LockCell where
  strong : Nat
  locked : Bool

/-- The allocations made so far.  Identifiers are never reused. -/
structure LockHeap where
  cells : LockId → LockCell
  next : LockId

namespace LockHeap

def empty : LockHeap := ⟨fun _ => ⟨0, false⟩, 0⟩

def strongCount (heap : LockHeap) (lock : LockId) : Nat := (heap.cells lock).strong

def isLocked (heap : LockHeap) (lock : LockId) : Bool := (heap.cells lock).locked

/-- Allocate an unlocked mutex with the given number of references. -/
def alloc (heap : LockHeap) (references : Nat) : LockHeap where
  cells := Function.update heap.cells heap.next ⟨references, false⟩
  next := heap.next + 1

/-- Clone a reference. -/
def retain (heap : LockHeap) (lock : LockId) : LockHeap where
  cells := Function.update heap.cells lock ⟨heap.strongCount lock + 1, heap.isLocked lock⟩
  next := heap.next

/-- Drop a reference. -/
def release (heap : LockHeap) (lock : LockId) : LockHeap where
  cells := Function.update heap.cells lock ⟨heap.strongCount lock - 1, heap.isLocked lock⟩
  next := heap.next

/-- Set the locked flag. -/
def setLocked (heap : LockHeap) (lock : LockId) (flag : Bool) : LockHeap where
  cells := Function.update heap.cells lock ⟨heap.strongCount lock, flag⟩
  next := heap.next

/-- Drop `dropped lock` references of every allocation. -/
def releaseAll (heap : LockHeap) (dropped : LockId → Nat) : LockHeap where
  cells := fun lock => ⟨heap.strongCount lock - dropped lock, heap.isLocked lock⟩
  next := heap.next

variable (heap : LockHeap) (lock other : LockId) (flag : Bool) (references : Nat)

@[simp] theorem next_retain : (heap.retain lock).next = heap.next := rfl
@[simp] theorem next_release : (heap.release lock).next = heap.next := rfl
@[simp] theorem next_setLocked : (heap.setLocked lock flag).next = heap.next := rfl
@[simp] theorem next_releaseAll (dropped : LockId → Nat) :
    (heap.releaseAll dropped).next = heap.next := rfl
@[simp] theorem next_alloc : (heap.alloc references).next = heap.next + 1 := rfl

@[simp] theorem strongCount_retain :
    (heap.retain lock).strongCount other =
      if other = lock then heap.strongCount lock + 1 else heap.strongCount other := by
  by_cases same : other = lock
  · subst same
    simp [strongCount, retain]
  · simp [strongCount, retain, same]

@[simp] theorem strongCount_release :
    (heap.release lock).strongCount other =
      if other = lock then heap.strongCount lock - 1 else heap.strongCount other := by
  by_cases same : other = lock
  · subst same
    simp [strongCount, release]
  · simp [strongCount, release, same]

@[simp] theorem strongCount_setLocked :
    (heap.setLocked lock flag).strongCount other = heap.strongCount other := by
  by_cases same : other = lock
  · subst same
    simp [strongCount, setLocked]
  · simp [strongCount, setLocked, same]

@[simp] theorem strongCount_releaseAll (dropped : LockId → Nat) :
    (heap.releaseAll dropped).strongCount lock = heap.strongCount lock - dropped lock := rfl

@[simp] theorem strongCount_alloc :
    (heap.alloc references).strongCount other =
      if other = heap.next then references else heap.strongCount other := by
  by_cases same : other = heap.next
  · subst same
    simp [strongCount, alloc]
  · simp [strongCount, alloc, same]

@[simp] theorem isLocked_retain : (heap.retain lock).isLocked other = heap.isLocked other := by
  by_cases same : other = lock
  · subst same
    simp [isLocked, retain]
  · simp [isLocked, retain, same]

@[simp] theorem isLocked_release : (heap.release lock).isLocked other = heap.isLocked other := by
  by_cases same : other = lock
  · subst same
    simp [isLocked, release]
  · simp [isLocked, release, same]

@[simp] theorem isLocked_setLocked :
    (heap.setLocked lock flag).isLocked other =
      if other = lock then flag else heap.isLocked other := by
  by_cases same : other = lock
  · subst same
    simp [isLocked, setLocked]
  · simp [isLocked, setLocked, same]

@[simp] theorem isLocked_releaseAll (dropped : LockId → Nat) :
    (heap.releaseAll dropped).isLocked lock = heap.isLocked lock := rfl

@[simp] theorem isLocked_alloc :
    (heap.alloc references).isLocked other =
      if other = heap.next then false else heap.isLocked other := by
  by_cases same : other = heap.next
  · subst same
    simp [isLocked, alloc]
  · simp [isLocked, alloc, same]

end LockHeap

/-- A concurrent map from keys to shared locks, with the heap behind it. -/
structure LockRegistry (Key : Type u) where
  entries : KeyedMap Key LockId
  heap : LockHeap

namespace LockRegistry

variable {Key : Type u}

def empty : LockRegistry Key := ⟨∅, LockHeap.empty⟩

/-- How many removed entries pointed at a lock. -/
def droppedReferences (keep : Key → Bool) (entries : KeyedMap Key LockId) (lock : LockId) : Nat :=
  (entries.entries.filter (fun entry => keep entry.1 = false ∧ entry.2 = lock)).card

/-- Keep the entries whose key passes the test; the others drop their reference. -/
def purge (registry : LockRegistry Key) (keep : Key → Bool) : LockRegistry Key where
  entries := KeyedMap.retain (fun key _ => keep key) registry.entries
  heap := registry.heap.releaseAll (droppedReferences keep registry.entries)

variable [DecidableEq Key]

/-- Clone the lock stored under the key, first storing a fresh one if there is none. -/
def checkout (registry : LockRegistry Key) (key : Key) : LockRegistry Key × LockId :=
  match registry.entries.lookup key with
  | some lock => ({ registry with heap := registry.heap.retain lock }, lock)
  | none =>
      ({ entries := registry.entries.insert key registry.heap.next
         heap := registry.heap.alloc 2 }, registry.heap.next)

/-- Remove the entry of a key when its reference count passes the test. -/
def removeIf (registry : LockRegistry Key) (key : Key) (test : Nat → Bool) : LockRegistry Key :=
  match registry.entries.lookup key with
  | some lock =>
      if test (registry.heap.strongCount lock) then
        { entries := registry.entries.erase key, heap := registry.heap.release lock }
      else registry
  | none => registry

theorem checkout_of_some {registry : LockRegistry Key} {key : Key} {lock : LockId}
    (found : registry.entries.lookup key = some lock) :
    registry.checkout key = ({ registry with heap := registry.heap.retain lock }, lock) := by
  simp only [checkout, found]

theorem checkout_of_none {registry : LockRegistry Key} {key : Key}
    (absent : registry.entries.lookup key = none) :
    registry.checkout key =
      ({ entries := registry.entries.insert key registry.heap.next
         heap := registry.heap.alloc 2 }, registry.heap.next) := by
  simp only [checkout, absent]

/-- Checking out leaves the key's entry pointing at the lock handed out. -/
theorem lookup_checkout (registry : LockRegistry Key) (key : Key) :
    (registry.checkout key).1.entries.lookup key = some (registry.checkout key).2 := by
  cases found : registry.entries.lookup key with
  | some lock => rw [checkout_of_some found]; exact found
  | none => rw [checkout_of_none found]; exact Finmap.lookup_insert _

theorem lookup_checkout_ne (registry : LockRegistry Key) {key other : Key}
    (different : other ≠ key) :
    (registry.checkout key).1.entries.lookup other = registry.entries.lookup other := by
  cases found : registry.entries.lookup key with
  | some lock => rw [checkout_of_some found]
  | none => rw [checkout_of_none found]; exact Finmap.lookup_insert_of_ne _ different

theorem lookup_checkout_of_some {registry : LockRegistry Key} {key other : Key} {lock : LockId}
    (found : registry.entries.lookup other = some lock) :
    (registry.checkout key).1.entries.lookup other = some lock := by
  by_cases same : other = key
  · subst same
    rw [checkout_of_some found]
    exact found
  · rw [lookup_checkout_ne registry same, found]

/-- What a guarded removal does. -/
inductive RemoveIfSpec (registry : LockRegistry Key) (key : Key) (test : Nat → Bool) :
    LockRegistry Key → Prop
  | removed {lock : LockId} (present : registry.entries.lookup key = some lock)
      (pass : test (registry.heap.strongCount lock) = true) :
      RemoveIfSpec registry key test
        { entries := registry.entries.erase key, heap := registry.heap.release lock }
  | spared (fail : ∀ lock, registry.entries.lookup key = some lock →
      test (registry.heap.strongCount lock) = false) :
      RemoveIfSpec registry key test registry

theorem removeIf_spec {registry after : LockRegistry Key} {key : Key} {test : Nat → Bool}
    (taken : registry.removeIf key test = after) : RemoveIfSpec registry key test after := by
  unfold removeIf at taken
  split at taken
  · next lock present =>
      split at taken
      · next pass =>
          subst taken
          exact .removed present pass
      · next fail =>
          subst taken
          apply RemoveIfSpec.spared
          intro other there
          rw [present] at there
          cases there
          exact Bool.eq_false_iff.mpr fail
  · next absent =>
      subst taken
      apply RemoveIfSpec.spared
      intro lock there
      rw [absent] at there
      cases there

/-- A guarded removal leaves the other keys alone. -/
theorem lookup_removeIf_ne (registry : LockRegistry Key) {key other : Key} (test : Nat → Bool)
    (different : other ≠ key) :
    (registry.removeIf key test).entries.lookup other = registry.entries.lookup other := by
  generalize taken : registry.removeIf key test = after
  cases removeIf_spec taken with
  | removed => exact Finmap.lookup_erase_ne different
  | spared => rfl

/-- What fails the test stays. -/
theorem lookup_removeIf_of_fail {registry : LockRegistry Key} {other : Key} {lock : LockId}
    (key : Key) (test : Nat → Bool) (present : registry.entries.lookup other = some lock)
    (fail : test (registry.heap.strongCount lock) = false) :
    (registry.removeIf key test).entries.lookup other = some lock := by
  generalize taken : registry.removeIf key test = after
  cases removeIf_spec taken with
  | spared => exact present
  | removed there pass =>
      have different : other ≠ key := by
        rintro rfl
        rw [present] at there
        cases there
        rw [fail] at pass
        cases pass
      exact (Finmap.lookup_erase_ne different).trans present

/-- What is left was there before, and failed the test if it is of the key. -/
theorem lookup_removeIf_some {registry : LockRegistry Key} {key other : Key} {lock : LockId}
    {test : Nat → Bool} (found : (registry.removeIf key test).entries.lookup other = some lock) :
    registry.entries.lookup other = some lock ∧
      (other = key → test (registry.heap.strongCount lock) = false) := by
  generalize taken : registry.removeIf key test = after at found
  cases removeIf_spec taken with
  | removed =>
      rcases KeyedMap.lookup_erase_some found with ⟨different, before⟩
      exact ⟨before, fun same => absurd same different⟩
  | spared fail =>
      refine ⟨found, ?_⟩
      rintro rfl
      exact fail lock found

end LockRegistry

/-! ## Members and their moves -/

/-- Where a member stands with respect to the lock of its key. -/
inductive Phase
  | outside
  | waiting (lock : LockId)
  | guarding (lock : LockId)
  | draining (lock : LockId)
  | owing
  | done
  deriving DecidableEq

namespace Phase

/-- The lock a member holds a reference to. -/
def handle : Phase → Option LockId
  | waiting lock | guarding lock | draining lock => some lock
  | outside | owing | done => none

/-- The lock a member has locked. -/
def guard : Phase → Option LockId
  | guarding lock => some lock
  | _ => none

end Phase

structure Member (Key : Type u) where
  key : Key
  phase : Phase

/-- The registry together with everybody who ever used it. -/
structure Roster (Key : Type u) where
  registry : LockRegistry Key
  members : List (Member Key)

/-- The single steps of a member. -/
inductive Turn
  | checkout
  | acquire
  | unlock
  | release
  | sweep
  | leave
  /-- give up waiting, keeping the reference for the moment -/
  | withdraw
  /-- drop the reference without sweeping afterwards -/
  | forfeit
  deriving DecidableEq

inductive Move (Key : Type u)
  | enter (key : Key)
  | member (index : Nat) (turn : Turn)
  | purge (keep : Key → Bool)

namespace Roster

variable {Key : Type u} [DecidableEq Key]

def empty : Roster Key := ⟨LockRegistry.empty, []⟩

def turnStep (registry : LockRegistry Key) (member : Member Key) :
    Turn → Option (LockRegistry Key × Phase)
  | .checkout =>
      match member.phase with
      | .outside =>
          some ((registry.checkout member.key).1, .waiting (registry.checkout member.key).2)
      | _ => none
  | .acquire =>
      match member.phase with
      | .waiting lock =>
          if registry.heap.isLocked lock then none
          else some ({ registry with heap := registry.heap.setLocked lock true }, .guarding lock)
      | _ => none
  | .unlock =>
      match member.phase with
      | .guarding lock =>
          some ({ registry with heap := registry.heap.setLocked lock false }, .draining lock)
      | _ => none
  | .release =>
      match member.phase with
      | .draining lock => some ({ registry with heap := registry.heap.release lock }, .owing)
      | _ => none
  | .sweep =>
      match member.phase with
      | .owing => some (registry.removeIf member.key (fun strong => strong ≤ 1), .done)
      | _ => none
  | .leave =>
      match member.phase with
      | .outside => some (registry, .done)
      | _ => none
  | .withdraw =>
      match member.phase with
      | .waiting lock => some (registry, .draining lock)
      | _ => none
  | .forfeit =>
      match member.phase with
      | .draining lock => some ({ registry with heap := registry.heap.release lock }, .done)
      | _ => none

def step (roster : Roster Key) : Move Key → Option (Roster Key)
  | .enter key => some { roster with members := roster.members ++ [⟨key, .outside⟩] }
  | .purge keep => some { roster with registry := roster.registry.purge keep }
  | .member index turn =>
      match roster.members[index]? with
      | none => none
      | some member =>
          match turnStep roster.registry member turn with
          | none => none
          | some (registry, phase) =>
              some ⟨registry, roster.members.set index { member with phase := phase }⟩

/-- What a single turn does, phase by phase. -/
inductive TurnSpec (registry : LockRegistry Key) (key : Key) :
    Turn → Phase → LockRegistry Key → Phase → Prop
  | checkout : TurnSpec registry key .checkout .outside
      (registry.checkout key).1 (.waiting (registry.checkout key).2)
  | acquire {lock : LockId} (free : registry.heap.isLocked lock = false) :
      TurnSpec registry key .acquire (.waiting lock)
        { registry with heap := registry.heap.setLocked lock true } (.guarding lock)
  | unlock {lock : LockId} : TurnSpec registry key .unlock (.guarding lock)
      { registry with heap := registry.heap.setLocked lock false } (.draining lock)
  | release {lock : LockId} : TurnSpec registry key .release (.draining lock)
      { registry with heap := registry.heap.release lock } .owing
  | sweep : TurnSpec registry key .sweep .owing
      (registry.removeIf key (fun strong => strong ≤ 1)) .done
  | leave : TurnSpec registry key .leave .outside registry .done
  | withdraw {lock : LockId} : TurnSpec registry key .withdraw (.waiting lock)
      registry (.draining lock)
  | forfeit {lock : LockId} : TurnSpec registry key .forfeit (.draining lock)
      { registry with heap := registry.heap.release lock } .done

theorem turnStep_spec {registry next : LockRegistry Key} {member : Member Key} {turn : Turn}
    {phase : Phase} (taken : turnStep registry member turn = some (next, phase)) :
    TurnSpec registry member.key turn member.phase next phase := by
  rcases member with ⟨key, stage⟩
  cases turn <;> cases stage <;> simp only [turnStep, reduceCtorEq, Option.some.injEq,
    Prod.mk.injEq] at taken
  case acquire.waiting lock =>
    split at taken
    · cases taken
    · next free =>
        simp only [Option.some.injEq, Prod.mk.injEq] at taken
        rcases taken with ⟨rfl, rfl⟩
        exact .acquire (Bool.eq_false_iff.mpr free)
  all_goals
    rcases taken with ⟨rfl, rfl⟩
    constructor

theorem step_member {roster next : Roster Key} {index : Nat} {turn : Turn}
    (taken : roster.step (.member index turn) = some next) :
    ∃ member registry phase, roster.members[index]? = some member ∧
      TurnSpec roster.registry member.key turn member.phase registry phase ∧
      next = ⟨registry, roster.members.set index { member with phase := phase }⟩ := by
  simp only [step] at taken
  split at taken
  · cases taken
  · next member found =>
      split at taken
      · cases taken
      · next registry phase moved =>
          exact ⟨member, registry, phase, found, turnStep_spec moved,
            (Option.some.inj taken).symm⟩

end Roster
end Foundation
end OidcRs
