import OidcRs.Foundation.LockRegistry
import OidcRs.Foundation.Roll

namespace OidcRs
namespace Foundation
namespace Roster

universe u

/-!
# Invariants of the lock registry

`SoundAt` ties the three places that must agree: the map entry of a key, the
stored reference count and locked flag of its lock, and the members that hold
or guard it.  The assignment `home` sends every allocated lock to the key it
was created for; it makes the entries injective without a separate field.

Every move preserves soundness.  Two consequences do not depend on how members
are scheduled: an entry survives every move but a purge while somebody holds
its lock, and if nobody forfeits then every entry has a member that still owes
its sweep.
-/

variable {Key : Type u}

/-! ## Counting members by what they hold -/

/-- How many members are seen holding a lock through `observe`. -/
def tally (observe : Phase → Option LockId) (members : List (Member Key)) (lock : LockId) : Nat :=
  members.countP (fun member => decide (observe member.phase = some lock))

variable {observe : Phase → Option LockId} {members : List (Member Key)} {lock : LockId}

theorem tally_set (observe : Phase → Option LockId) (lock : LockId) {index : Nat}
    {member : Member Key} (found : members[index]? = some member) (phase : Phase) :
    tally observe (members.set index { member with phase := phase }) lock +
        (if observe member.phase = some lock then 1 else 0) =
      tally observe members lock + (if observe phase = some lock then 1 else 0) := by
  rcases List.getElem?_eq_some_iff.mp found with ⟨bound, here⟩
  have counted := List.countP_set (p := fun other : Member Key =>
    decide (observe other.phase = some lock)) (a := { member with phase := phase }) bound
  rw [here] at counted
  simp only [decide_eq_true_eq] at counted
  rw [tally, tally, counted]
  by_cases held : observe member.phase = some lock
  · have positive : 0 < members.countP (fun other => decide (observe other.phase = some lock)) :=
      List.countP_pos_iff.mpr ⟨member, List.mem_of_getElem? found, decide_eq_true held⟩
    simp only [held, if_true]
    omega
  · simp only [held, if_false]
    omega

theorem tally_pos (observe : Phase → Option LockId) {member : Member Key} (listed : member ∈ members)
    (held : observe member.phase = some lock) : 0 < tally observe members lock :=
  List.countP_pos_iff.mpr ⟨member, listed, decide_eq_true held⟩

theorem exists_of_tally_pos (positive : 0 < tally observe members lock) :
    ∃ member ∈ members, observe member.phase = some lock := by
  rcases List.countP_pos_iff.mp positive with ⟨member, listed, held⟩
  exact ⟨member, listed, of_decide_eq_true held⟩

theorem tally_enter (key : Key) (outside : observe .outside = none) :
    tally observe (members ++ [⟨key, .outside⟩]) lock = tally observe members lock := by
  simp only [tally, List.countP_append, List.countP_singleton, outside, reduceCtorEq,
    decide_false, Bool.false_eq_true, if_false, Nat.add_zero]

/-- A lock seen at most once is held by at most one position.  Taking it away
from the first position leaves nobody for the second. -/
theorem index_unique (observe : Phase → Option LockId) {first second : Nat}
    {left right : Member Key}
    (outside : observe .outside = none)
    (atMostOne : tally observe members lock ≤ 1)
    (foundLeft : members[first]? = some left) (foundRight : members[second]? = some right)
    (heldLeft : observe left.phase = some lock) (heldRight : observe right.phase = some lock) :
    first = second := by
  by_contra different
  have counted := tally_set observe lock foundLeft .outside
  simp only [heldLeft, outside, if_true, reduceCtorEq, if_false] at counted
  have still : (members.set first { left with phase := .outside })[second]? = some right := by
    rw [List.getElem?_set_ne different]
    exact foundRight
  have positive := tally_pos observe (List.mem_of_getElem? still) heldRight
  omega

/-! ## Soundness -/

variable [DecidableEq Key]

/-- The agreement between entries, reference counts, locked flags and members,
for a given assignment of locks to the keys they were created for. -/
structure SoundAt (home : LockId → Key) (roster : Roster Key) : Prop where
  entryHome : ∀ key lock, roster.registry.entries.lookup key = some lock → home lock = key
  entryAllocated : ∀ key lock, roster.registry.entries.lookup key = some lock →
    lock < roster.registry.heap.next
  memberHome : ∀ member ∈ roster.members, ∀ lock, member.phase.handle = some lock →
    home lock = member.key
  memberAllocated : ∀ member ∈ roster.members, ∀ lock, member.phase.handle = some lock →
    lock < roster.registry.heap.next
  strongExact : ∀ key lock, roster.registry.entries.lookup key = some lock →
    roster.registry.heap.strongCount lock = 1 + tally Phase.handle roster.members lock
  lockedExact : ∀ lock, tally Phase.guard roster.members lock =
    if roster.registry.heap.isLocked lock then 1 else 0

def Sound (roster : Roster Key) : Prop := ∃ home, SoundAt home roster

theorem sound_empty [Inhabited Key] : Sound (empty : Roster Key) :=
  ⟨fun _ => default,
    { entryHome := fun _ _ found => by cases found
      entryAllocated := fun _ _ found => by cases found
      memberHome := fun _ listed => by cases listed
      memberAllocated := fun _ listed => by cases listed
      strongExact := fun _ _ found => by cases found
      lockedExact := fun _ => rfl }⟩

/-- A guarded lock is in particular held. -/
theorem handle_of_guard {phase : Phase} (guarded : phase.guard = some lock) :
    phase.handle = some lock := by
  cases phase <;> first | exact guarded | cases guarded

namespace SoundAt

variable {home : LockId → Key} {roster : Roster Key}

/-- Two keys never share a lock. -/
theorem entries_injective (sound : SoundAt home roster) {first second : Key}
    (foundFirst : roster.registry.entries.lookup first = some lock)
    (foundSecond : roster.registry.entries.lookup second = some lock) : first = second :=
  (sound.entryHome first lock foundFirst).symm.trans (sound.entryHome second lock foundSecond)

/-- Turns that hand out no new reference keep the parts of soundness that only
speak about which locks exist; the two counting equations remain. -/
theorem of_turn (sound : SoundAt home roster) {index : Nat} {member : Member Key}
    (found : roster.members[index]? = some member) {registry : LockRegistry Key} {phase : Phase}
    (fewer : ∀ key lock, registry.entries.lookup key = some lock →
      roster.registry.entries.lookup key = some lock)
    (sameNext : registry.heap.next = roster.registry.heap.next)
    (noNewHandle : ∀ lock, phase.handle = some lock → member.phase.handle = some lock)
    (strong : ∀ key lock, registry.entries.lookup key = some lock →
      registry.heap.strongCount lock +
          (if member.phase.handle = some lock then 1 else 0) =
        roster.registry.heap.strongCount lock + (if phase.handle = some lock then 1 else 0))
    (locked : ∀ lock, (if registry.heap.isLocked lock then 1 else 0) +
          (if member.phase.guard = some lock then 1 else 0) =
        (if roster.registry.heap.isLocked lock then 1 else 0) +
          (if phase.guard = some lock then 1 else 0)) :
    SoundAt home ⟨registry, roster.members.set index { member with phase := phase }⟩ where
  entryHome := fun key lock listed => sound.entryHome key lock (fewer key lock listed)
  entryAllocated := fun key lock listed => by
    rw [sameNext]
    exact sound.entryAllocated key lock (fewer key lock listed)
  memberHome := fun other listed lock held => by
    rcases List.mem_or_eq_of_mem_set listed with old | rfl
    · exact sound.memberHome other old lock held
    · exact sound.memberHome member (List.mem_of_getElem? found) lock (noNewHandle lock held)
  memberAllocated := fun other listed lock held => by
    rw [sameNext]
    rcases List.mem_or_eq_of_mem_set listed with old | rfl
    · exact sound.memberAllocated other old lock held
    · exact sound.memberAllocated member (List.mem_of_getElem? found) lock (noNewHandle lock held)
  strongExact := fun key lock listed => by
    have counted := tally_set Phase.handle lock found phase
    have before := sound.strongExact key lock (fewer key lock listed)
    have change := strong key lock listed
    simp only at counted change ⊢
    omega
  lockedExact := fun lock => by
    have counted := tally_set Phase.guard lock found phase
    have before := sound.lockedExact lock
    have change := locked lock
    simp only at counted change ⊢
    omega

/-- Checking out an existing entry adds one reference and one holder. -/
theorem checkout_existing (sound : SoundAt home roster) {index : Nat} {key : Key}
    (found : roster.members[index]? = some ⟨key, .outside⟩)
    (present : roster.registry.entries.lookup key = some lock) :
    SoundAt home ⟨{ roster.registry with heap := roster.registry.heap.retain lock },
      roster.members.set index ⟨key, .waiting lock⟩⟩ where
  entryHome := sound.entryHome
  entryAllocated := sound.entryAllocated
  memberHome := fun other listed lock' held => by
    rcases List.mem_or_eq_of_mem_set listed with old | rfl
    · exact sound.memberHome other old lock' held
    · cases held
      exact sound.entryHome key lock present
  memberAllocated := fun other listed lock' held => by
    rcases List.mem_or_eq_of_mem_set listed with old | rfl
    · exact sound.memberAllocated other old lock' held
    · cases held
      exact sound.entryAllocated key lock present
  strongExact := fun key' lock' listed => by
    have counted := tally_set Phase.handle lock' found (.waiting lock)
    have before := sound.strongExact key' lock' listed
    simp only [Phase.handle, Option.some.injEq, reduceCtorEq, if_false] at counted
    simp only [LockHeap.strongCount_retain]
    by_cases same : lock' = lock
    · subst same
      simp only [if_true] at counted ⊢
      omega
    · simp only [if_neg same, if_neg (Ne.symm same)] at counted ⊢
      omega
  lockedExact := fun lock' => by
    have counted := tally_set Phase.guard lock' found (.waiting lock)
    have before := sound.lockedExact lock'
    simp only [Phase.guard, reduceCtorEq, if_false, Nat.add_zero] at counted
    simp only [LockHeap.isLocked_retain]
    omega

theorem handle_ne_next (sound : SoundAt home roster) {member : Member Key}
    (listed : member ∈ roster.members) {lock : LockId} (held : member.phase.handle = some lock) :
    lock ≠ roster.registry.heap.next :=
  Nat.ne_of_lt (sound.memberAllocated member listed lock held)

theorem entry_ne_next (sound : SoundAt home roster) {key : Key} {lock : LockId}
    (listed : roster.registry.entries.lookup key = some lock) :
    lock ≠ roster.registry.heap.next :=
  Nat.ne_of_lt (sound.entryAllocated key lock listed)

/-- The next lock is in nobody's hands. -/
theorem tally_next (sound : SoundAt home roster) {observe : Phase → Option LockId}
    (handled : ∀ phase lock, observe phase = some lock → phase.handle = some lock) :
    tally observe roster.members roster.registry.heap.next = 0 := by
  apply Nat.eq_zero_of_not_pos
  intro positive
  rcases exists_of_tally_pos positive with ⟨member, listed, held⟩
  exact sound.handle_ne_next listed (handled _ _ held) rfl

/-- Checking out an absent entry creates a lock nobody has seen before, with
one reference for the map and one for the member. -/
theorem checkout_fresh (sound : SoundAt home roster) {index : Nat} {key : Key}
    (found : roster.members[index]? = some ⟨key, .outside⟩)
    (absent : roster.registry.entries.lookup key = none) :
    SoundAt (Function.update home roster.registry.heap.next key)
      ⟨{ entries := roster.registry.entries.insert key roster.registry.heap.next
         heap := roster.registry.heap.alloc 2 },
       roster.members.set index ⟨key, .waiting roster.registry.heap.next⟩⟩ := by
  have unheld : tally Phase.handle roster.members roster.registry.heap.next = 0 :=
    sound.tally_next fun _ _ held => held
  have unguarded : tally Phase.guard roster.members roster.registry.heap.next = 0 :=
    sound.tally_next fun _ _ guarded => handle_of_guard guarded
  exact
    { entryHome := fun key' lock' listed => by
        rcases KeyedMap.lookup_insert_some listed with ⟨rfl, rfl⟩ | old
        · exact Function.update_self _ _ _
        · rw [Function.update_of_ne (sound.entry_ne_next old)]
          exact sound.entryHome key' lock' old
      entryAllocated := fun key' lock' listed => by
        rcases KeyedMap.lookup_insert_some listed with ⟨rfl, rfl⟩ | old
        · exact Nat.lt_succ_self _
        · exact Nat.lt_succ_of_lt (sound.entryAllocated key' lock' old)
      memberHome := fun other listed lock' held => by
        rcases List.mem_or_eq_of_mem_set listed with old | rfl
        · rw [Function.update_of_ne (sound.handle_ne_next old held)]
          exact sound.memberHome other old lock' held
        · cases held
          exact Function.update_self _ _ _
      memberAllocated := fun other listed lock' held => by
        rcases List.mem_or_eq_of_mem_set listed with old | rfl
        · exact Nat.lt_succ_of_lt (sound.memberAllocated other old lock' held)
        · cases held
          exact Nat.lt_succ_self _
      strongExact := fun key' lock' listed => by
        have counted := tally_set Phase.handle lock' found
          (.waiting roster.registry.heap.next)
        simp only [Phase.handle, Option.some.injEq, reduceCtorEq, if_false] at counted
        simp only [LockHeap.strongCount_alloc]
        rcases KeyedMap.lookup_insert_some listed with ⟨rfl, rfl⟩ | old
        · simp only [if_true] at counted ⊢
          omega
        · have before := sound.strongExact key' lock' old
          have different := sound.entry_ne_next old
          simp only [if_neg different, if_neg (Ne.symm different)] at counted ⊢
          omega
      lockedExact := fun lock' => by
        have counted := tally_set Phase.guard lock' found
          (.waiting roster.registry.heap.next)
        have before := sound.lockedExact lock'
        simp only [Phase.guard, reduceCtorEq, if_false, Nat.add_zero] at counted
        simp only [LockHeap.isLocked_alloc]
        by_cases same : lock' = roster.registry.heap.next
        · subst same
          simp only [if_true, Bool.false_eq_true, if_false]
          omega
        · simp only [if_neg same]
          omega }

/-- A sweep that removes an entry drops the reference of a lock that no other
entry points at. -/
theorem sweep (sound : SoundAt home roster) {index : Nat} {key : Key}
    (found : roster.members[index]? = some ⟨key, .owing⟩) (test : Nat → Bool) :
    SoundAt home ⟨roster.registry.removeIf key test, roster.members.set index ⟨key, .done⟩⟩ := by
  generalize taken : roster.registry.removeIf key test = after
  cases LockRegistry.removeIf_spec taken with
  | spared =>
      exact sound.of_turn found (fun _ _ listed => listed) rfl (fun _ held => held)
        (fun _ _ _ => rfl) (fun _ => rfl)
  | @removed lock present =>
      refine sound.of_turn found (fun _ _ listed => (KeyedMap.lookup_erase_some listed).2) rfl
        (fun _ held => held) ?_ ?_
      · intro other otherLock listed
        rcases KeyedMap.lookup_erase_some listed with ⟨different, old⟩
        have spared : otherLock ≠ lock := by
          rintro rfl
          exact different (sound.entries_injective old present)
        rw [LockHeap.strongCount_release, if_neg spared]
        rfl
      · intro otherLock
        rw [LockHeap.isLocked_release]
        rfl

/-- Taking or giving back the guard of a lock moves its flag along. -/
theorem set_flag (sound : SoundAt home roster) {index : Nat} {key : Key} {before after : Phase}
    {lock : LockId} {flag : Bool} (found : roster.members[index]? = some ⟨key, before⟩)
    (flipped : roster.registry.heap.isLocked lock = !flag) (sameHandle : after.handle = before.handle)
    (guardBefore : before.guard = if flag then none else some lock)
    (guardAfter : after.guard = if flag then some lock else none) :
    SoundAt home
      ⟨{ roster.registry with heap := roster.registry.heap.setLocked lock flag },
        roster.members.set index ⟨key, after⟩⟩ := by
  refine sound.of_turn found (fun _ _ listed => listed) rfl ?_ ?_ ?_
  · intro held same
    rwa [← sameHandle]
  · intro _ held _
    rw [LockHeap.strongCount_setLocked, sameHandle]
  · intro other
    rw [LockHeap.isLocked_setLocked, guardBefore, guardAfter]
    by_cases same : other = lock
    · subst same
      cases flag <;> simp [flipped]
    · cases flag <;> simp [same, Ne.symm same]

/-- A member that has given back the guard drops its reference. -/
theorem drop_handle (sound : SoundAt home roster) {index : Nat} {key : Key} {lock : LockId}
    (found : roster.members[index]? = some ⟨key, .draining lock⟩) {after : Phase}
    (noHandle : after.handle = none) (noGuard : after.guard = none) :
    SoundAt home
      ⟨{ roster.registry with heap := roster.registry.heap.release lock },
        roster.members.set index ⟨key, after⟩⟩ := by
  refine sound.of_turn found (fun _ _ listed => listed) rfl ?_ ?_ ?_
  · intro held same
    rw [noHandle] at same
    cases same
  · intro key' other listed
    have before := sound.strongExact key' other listed
    have held : Phase.handle (.draining lock) = some lock := rfl
    simp only [LockHeap.strongCount_release, held, noHandle, Option.some.injEq, reduceCtorEq,
      if_false]
    by_cases same : other = lock
    · subst same
      simp only [if_true]
      omega
    · simp only [if_neg same, if_neg (Ne.symm same)]
  · intro other
    rw [LockHeap.isLocked_release, noGuard]
    rfl

/-- Every turn preserves soundness.  Only a checkout that creates a lock
changes the assignment of homes. -/
theorem turn (sound : SoundAt home roster) {index : Nat} {member : Member Key} {turn : Turn}
    {registry : LockRegistry Key} {phase : Phase}
    (found : roster.members[index]? = some member)
    (spec : TurnSpec roster.registry member.key turn member.phase registry phase) :
    Sound ⟨registry, roster.members.set index { member with phase := phase }⟩ := by
  rcases member with ⟨key, stage⟩
  cases spec with
  | checkout =>
      cases present : roster.registry.entries.lookup key with
      | some lock =>
          rw [LockRegistry.checkout_of_some present]
          exact ⟨home, sound.checkout_existing found present⟩
      | none =>
          rw [LockRegistry.checkout_of_none present]
          exact ⟨_, sound.checkout_fresh found present⟩
  | acquire free => exact ⟨home, sound.set_flag found free rfl rfl rfl⟩
  | @unlock lock =>
      have locked : roster.registry.heap.isLocked lock = true := by
        have counted := sound.lockedExact lock
        have positive := tally_pos Phase.guard
          (List.mem_of_getElem? found) rfl
        by_contra unlocked
        simp only [unlocked, if_false] at counted
        omega
      exact ⟨home, sound.set_flag found locked rfl rfl rfl⟩
  | release | forfeit => exact ⟨home, sound.drop_handle found rfl rfl⟩
  | sweep => exact ⟨home, sound.sweep found _⟩
  | leave | withdraw =>
      exact ⟨home, sound.of_turn found (fun _ _ listed => listed) rfl
        (fun _ held => held) (fun _ _ _ => rfl) (fun _ => rfl)⟩

/-- A purge keeps the counts of the surviving entries: a removed entry never
pointed at the lock of a kept one. -/
theorem purge (sound : SoundAt home roster) (keep : Key → Bool) :
    SoundAt home { roster with registry := roster.registry.purge keep } where
  entryHome := fun key lock listed =>
    sound.entryHome key lock (KeyedMap.lookup_retain_some listed)
  entryAllocated := fun key lock listed =>
    sound.entryAllocated key lock (KeyedMap.lookup_retain_some listed)
  memberHome := sound.memberHome
  memberAllocated := sound.memberAllocated
  strongExact := fun key lock listed => by
    have old := KeyedMap.lookup_retain_some listed
    have kept : keep key = true := by
      change (KeyedMap.retain _ _).lookup key = some lock at listed
      rw [KeyedMap.lookup_retain, Option.filter_eq_some_iff] at listed
      exact listed.2
    have spared : LockRegistry.droppedReferences keep roster.registry.entries lock = 0 := by
      rw [LockRegistry.droppedReferences, Multiset.card_eq_zero, Multiset.filter_eq_nil]
      rintro ⟨other, pointed⟩ listedOther ⟨dropped, rfl⟩
      have samekey := sound.entries_injective (Finmap.lookup_eq_some_iff.mpr listedOther) old
      rw [samekey, kept] at dropped
      cases dropped
    change roster.registry.heap.strongCount lock -
      LockRegistry.droppedReferences keep roster.registry.entries lock = _
    rw [spared, Nat.sub_zero]
    exact sound.strongExact key lock old
  lockedExact := sound.lockedExact

theorem enter (sound : SoundAt home roster) (key : Key) :
    SoundAt home { roster with members := roster.members ++ [⟨key, .outside⟩] } where
  entryHome := sound.entryHome
  entryAllocated := sound.entryAllocated
  memberHome := fun member listed lock held => by
    rcases List.mem_append.mp listed with old | new
    · exact sound.memberHome member old lock held
    · cases List.mem_singleton.mp new
      cases held
  memberAllocated := fun member listed lock held => by
    rcases List.mem_append.mp listed with old | new
    · exact sound.memberAllocated member old lock held
    · cases List.mem_singleton.mp new
      cases held
  strongExact := fun key' lock listed => by
    change _ = 1 + tally Phase.handle (roster.members ++ [⟨key, .outside⟩]) lock
    rw [tally_enter key rfl]
    exact sound.strongExact key' lock listed
  lockedExact := fun lock => by
    change tally Phase.guard (roster.members ++ [⟨key, .outside⟩]) lock = _
    rw [tally_enter key rfl]
    exact sound.lockedExact lock

/-- A held lock that is in the map has a reference count of at least two. -/
theorem shared_of_held (sound : SoundAt home roster) {key : Key} {member : Member Key}
    (present : roster.registry.entries.lookup key = some lock)
    (listed : member ∈ roster.members) (held : member.phase.handle = some lock) :
    2 ≤ roster.registry.heap.strongCount lock := by
  have counted := sound.strongExact key lock present
  have positive := tally_pos Phase.handle listed held
  omega

/-- Two members never guard one lock. -/
theorem guard_unique (sound : SoundAt home roster) {first second : Nat} {left right : Member Key}
    (foundLeft : roster.members[first]? = some left)
    (foundRight : roster.members[second]? = some right)
    (guardLeft : left.phase.guard = some lock) (guardRight : right.phase.guard = some lock) :
    first = second := by
  have counted := sound.lockedExact lock
  apply index_unique Phase.guard rfl _ foundLeft foundRight guardLeft guardRight
  split at counted <;> omega

end SoundAt

/-- Soundness is an invariant of every move. -/
theorem Sound.step {roster next : Roster Key} {move : Move Key} (sound : Sound roster)
    (taken : roster.step move = some next) : Sound next := by
  rcases sound with ⟨home, sound⟩
  cases move with
  | enter key =>
      cases taken
      exact ⟨home, sound.enter key⟩
  | purge keep =>
      cases taken
      exact ⟨home, sound.purge keep⟩
  | member index turn =>
      rcases step_member taken with ⟨member, registry, phase, found, spec, rfl⟩
      exact sound.turn found spec

/-! ## Entries are not removed under their holders -/

/-- A sweep that removes an entry finds nobody holding its lock. -/
theorem Sound.sweep_spares {roster : Roster Key} (sound : Sound roster) {key : Key}
    (present : roster.registry.entries.lookup key = some lock)
    (removed : (roster.registry.removeIf key (fun strong => strong ≤ 1)).entries.lookup key = none) :
    ∀ member ∈ roster.members, member.phase.handle ≠ some lock := by
  rcases sound with ⟨home, sound⟩
  intro member listed held
  have shared := sound.shared_of_held present listed held
  have kept := LockRegistry.lookup_removeIf_of_fail key (fun strong => strong ≤ 1) present
    (decide_eq_false (Nat.not_le.mpr shared))
  rw [removed] at kept
  cases kept

/-- While a member holds the lock stored under a key, every turn of anybody
keeps that entry. -/
theorem Sound.entry_kept {roster next : Roster Key} (sound : Sound roster) {index : Nat}
    {turn : Turn} (taken : roster.step (.member index turn) = some next) {key : Key}
    (present : roster.registry.entries.lookup key = some lock) {holder : Member Key}
    (listed : holder ∈ roster.members) (held : holder.phase.handle = some lock) :
    next.registry.entries.lookup key = some lock := by
  rcases sound with ⟨home, soundAt⟩
  rcases step_member taken with ⟨member, registry, phase, found, spec, rfl⟩
  rcases member with ⟨memberKey, stage⟩
  have shared := soundAt.shared_of_held present listed held
  cases spec with
  | checkout => exact LockRegistry.lookup_checkout_of_some present
  | sweep =>
      exact LockRegistry.lookup_removeIf_of_fail memberKey _ present
        (decide_eq_false (Nat.not_le.mpr shared))
  | acquire | unlock | release | leave | withdraw | forfeit => exact present

/-! ## Somebody owes the sweep -/

/-- Every entry has a member of its key that holds its lock or still owes the
sweep, so that the entry cannot be forgotten. -/
def Attended (roster : Roster Key) : Prop :=
  ∀ key lock, roster.registry.entries.lookup key = some lock →
    ∃ member ∈ roster.members, member.key = key ∧
      (member.phase.handle = some lock ∨ member.phase = .owing)

theorem attended_empty : Attended (empty : Roster Key) := fun _ _ found => by cases found

/-- Whoever attended an entry still does after the turn of a member, unless it
is the mover and lets go. -/
theorem Attended.turned {roster : Roster Key} (attended : Attended roster) {index : Nat}
    {key other : Key} {before after : Phase} (found : roster.members[index]? = some ⟨key, before⟩)
    (listed : roster.registry.entries.lookup other = some lock)
    (carries : key = other → before.handle = some lock ∨ before = .owing →
      after.handle = some lock ∨ after = .owing) :
    ∃ member ∈ roster.members.set index ⟨key, after⟩, member.key = other ∧
      (member.phase.handle = some lock ∨ member.phase = .owing) := by
  rcases attended other lock listed with ⟨member, known, sameKey, owes⟩
  rcases Roll.mem_replaced found known ⟨key, after⟩ with kept | rfl
  · exact ⟨member, kept, sameKey, owes⟩
  · exact ⟨⟨key, after⟩, Roll.mem_replaced_self found _, sameKey, carries sameKey owes⟩

theorem Attended.checkout {roster : Roster Key} (attended : Attended roster) {index : Nat}
    {key : Key} (found : roster.members[index]? = some ⟨key, .outside⟩) :
    Attended ⟨(roster.registry.checkout key).1,
      roster.members.set index ⟨key, .waiting (roster.registry.checkout key).2⟩⟩ := by
  intro other lock listed
  change (roster.registry.checkout key).1.entries.lookup other = some lock at listed
  by_cases same : other = key
  · subst same
    rw [LockRegistry.lookup_checkout] at listed
    exact ⟨_, Roll.mem_replaced_self found _, rfl, Or.inl listed⟩
  · rw [LockRegistry.lookup_checkout_ne _ same] at listed
    exact attended.turned found listed fun mine => absurd mine.symm same

/-- The reference count of an entry that a sweep leaves in place exceeds one, so
somebody else still holds the lock. -/
theorem Attended.sweep {roster : Roster Key} (attended : Attended roster)
    (sound : SoundAt home roster) {index : Nat} {key : Key}
    (found : roster.members[index]? = some ⟨key, .owing⟩) :
    Attended ⟨roster.registry.removeIf key (fun strong => strong ≤ 1),
      roster.members.set index ⟨key, .done⟩⟩ := by
  intro other lock listed
  rcases LockRegistry.lookup_removeIf_some listed with ⟨before, shared⟩
  by_cases same : other = key
  · have counted := sound.strongExact other lock before
    have many : ¬ roster.registry.heap.strongCount lock ≤ 1 := of_decide_eq_false (shared same)
    have positive : 0 < tally Phase.handle roster.members lock := by omega
    rcases exists_of_tally_pos positive with ⟨holder, known, held⟩
    have holderKey : holder.key = other :=
      (sound.memberHome holder known lock held).symm.trans (sound.entryHome other lock before)
    rcases Roll.mem_replaced found known ⟨key, Phase.done⟩ with stays | rfl
    · exact ⟨holder, stays, holderKey, Or.inl held⟩
    · cases held
  · exact attended.turned found before fun mine => absurd mine.symm same

/-- Nobody forfeits: then entries stay attended. -/
theorem Attended.step {roster next : Roster Key} {move : Move Key} (attended : Attended roster)
    (sound : Sound roster) (taken : roster.step move = some next)
    (honest : ∀ index, move ≠ .member index .forfeit) : Attended next := by
  rcases sound with ⟨home, soundAt⟩
  cases move with
  | enter key =>
      cases taken
      intro key' lock listed
      rcases attended key' lock listed with ⟨member, known, sameKey, owes⟩
      exact ⟨member, List.mem_append_left _ known, sameKey, owes⟩
  | purge keep =>
      cases taken
      intro key lock listed
      exact attended key lock (KeyedMap.lookup_retain_some listed)
  | member index turn =>
      rcases step_member taken with ⟨⟨key, stage⟩, registry, phase, found, spec, rfl⟩
      cases spec with
      | checkout => exact attended.checkout found
      | sweep => exact attended.sweep soundAt found
      | forfeit => exact absurd rfl (honest index)
      | acquire | unlock | withdraw =>
          intro other lock listed
          exact attended.turned found listed
            (fun _ owes => owes.imp_right (fun owing => nomatch owing))
      | release =>
          intro other lock listed
          exact attended.turned found listed (fun _ _ => Or.inr rfl)
      | leave =>
          intro other lock listed
          exact attended.turned found listed
            (fun _ owes => owes.elim (fun held => nomatch held) (fun owing => nomatch owing))

/-- When no member of a key is left, an attended registry has no entry for it. -/
theorem Attended.no_leak {roster : Roster Key} (attended : Attended roster) {key : Key}
    (finished : ∀ member ∈ roster.members, member.key = key →
      member.phase = .outside ∨ member.phase = .done) :
    roster.registry.entries.lookup key = none := by
  cases present : roster.registry.entries.lookup key with
  | none => rfl
  | some lock =>
      rcases attended key lock present with ⟨member, known, sameKey, owes⟩
      rcases finished member known sameKey with outside | done
      · rw [outside] at owes
        exact owes.elim (fun held => nomatch held) (fun owing => nomatch owing)
      · rw [done] at owes
        exact owes.elim (fun held => nomatch held) (fun owing => nomatch owing)

end Roster
end Foundation
end OidcRs
