import OidcRs.Foundation.LockRegistry

namespace OidcRs
namespace Foundation

universe u

/-!
# The registry as the users of one key see it

Two registries are alike for a key if its users cannot tell them apart: the locks
ever made for the key correspond one to one, and corresponding locks have the
same count and the same flag.  Which numbers the locks have does not matter, nor
what is stored under other keys.  Everything done with the locks of the key on
both sides keeps registries alike, and so does anything done with other locks on
one side.
-/

variable {Key : Type u} [DecidableEq Key]

/-- The second registry has nothing but this key, and looks like the first one to
its users.  `mine` are the locks made for the key, `rename` leads to their
counterparts. -/
structure Alike (key : Key) (mine : LockId → Prop) (rename : LockId → LockId)
    (registry own : LockRegistry Key) : Prop where
  entry : own.entries.lookup key = (registry.entries.lookup key).map rename
  alone : ∀ other, other ≠ key → own.entries.lookup other = none
  entryMine : ∀ other lock, registry.entries.lookup other = some lock → (mine lock ↔ other = key)
  entryAllocated : ∀ other lock, registry.entries.lookup other = some lock →
    lock < registry.heap.next
  allocated : ∀ lock, mine lock → lock < registry.heap.next
  renamed : ∀ lock, mine lock → rename lock < own.heap.next
  injective : ∀ first second, mine first → mine second → rename first = rename second →
    first = second
  strong : ∀ lock, mine lock →
    own.heap.strongCount (rename lock) = registry.heap.strongCount lock
  locked : ∀ lock, mine lock → own.heap.isLocked (rename lock) = registry.heap.isLocked lock

theorem alike_empty (key : Key) :
    Alike key (fun _ => False) id LockRegistry.empty LockRegistry.empty where
  entry := rfl
  alone := fun _ _ => rfl
  entryMine := fun _ _ found => by cases found
  entryAllocated := fun _ _ found => by cases found
  allocated := fun _ none => none.elim
  renamed := fun _ none => none.elim
  injective := fun _ _ none => none.elim
  strong := fun _ none => none.elim
  locked := fun _ none => none.elim

namespace Alike

variable {key other : Key} {mine : LockId → Prop} {rename : LockId → LockId}
  {registry own : LockRegistry Key} {lock : LockId}

theorem rename_eq_iff (alike : Alike key mine rename registry own) {first second : LockId}
    (firstMine : mine first) (secondMine : mine second) :
    rename first = rename second ↔ first = second :=
  ⟨alike.injective first second firstMine secondMine, congrArg rename⟩

/-- What is done to the heap of the first registry and leaves the locks of the key
alone. -/
theorem of_heap (alike : Alike key mine rename registry own) {heap : LockHeap}
    (later : registry.heap.next ≤ heap.next)
    (strong : ∀ lock, mine lock → heap.strongCount lock = registry.heap.strongCount lock)
    (locked : ∀ lock, mine lock → heap.isLocked lock = registry.heap.isLocked lock) :
    Alike key mine rename { registry with heap := heap } own where
  entry := alike.entry
  alone := alike.alone
  entryMine := alike.entryMine
  entryAllocated := fun other lock found =>
    Nat.lt_of_lt_of_le (alike.entryAllocated other lock found) later
  allocated := fun lock is => Nat.lt_of_lt_of_le (alike.allocated lock is) later
  renamed := alike.renamed
  injective := alike.injective
  strong := fun lock is => (alike.strong lock is).trans (strong lock is).symm
  locked := fun lock is => (alike.locked lock is).trans (locked lock is).symm

/-- What is done to both heaps in the same way. -/
theorem of_heaps (alike : Alike key mine rename registry own) {heap ownHeap : LockHeap}
    (sameNext : heap.next = registry.heap.next) (sameOwnNext : ownHeap.next = own.heap.next)
    (strong : ∀ lock, mine lock → ownHeap.strongCount (rename lock) = heap.strongCount lock)
    (locked : ∀ lock, mine lock → ownHeap.isLocked (rename lock) = heap.isLocked lock) :
    Alike key mine rename { registry with heap := heap } { own with heap := ownHeap } where
  entry := alike.entry
  alone := alike.alone
  entryMine := alike.entryMine
  entryAllocated := fun other lock found => sameNext ▸ alike.entryAllocated other lock found
  allocated := fun lock is => sameNext ▸ alike.allocated lock is
  renamed := fun lock is => sameOwnNext ▸ alike.renamed lock is
  injective := alike.injective
  strong := strong
  locked := locked

/-- Entries that go away on both sides, or that are of other keys. -/
theorem of_entries (alike : Alike key mine rename registry own)
    {entries ownEntries : KeyedMap Key LockId}
    (fewer : ∀ other lock, entries.lookup other = some lock →
      registry.entries.lookup other = some lock)
    (ownFewer : ∀ other lock, ownEntries.lookup other = some lock →
      own.entries.lookup other = some lock)
    (same : ownEntries.lookup key = (entries.lookup key).map rename) :
    Alike key mine rename { registry with entries := entries }
      { own with entries := ownEntries } where
  entry := same
  alone := fun other different => by
    cases found : ownEntries.lookup other with
    | none => rfl
    | some lock =>
        have impossible := ownFewer other lock found
        rw [alike.alone other different] at impossible
        cases impossible
  entryMine := fun other lock found => alike.entryMine other lock (fewer other lock found)
  entryAllocated := fun other lock found =>
    alike.entryAllocated other lock (fewer other lock found)
  allocated := alike.allocated
  renamed := alike.renamed
  injective := alike.injective
  strong := alike.strong
  locked := alike.locked

/-! ## One lock -/

theorem setLocked (alike : Alike key mine rename registry own) (is : mine lock) (flag : Bool) :
    Alike key mine rename { registry with heap := registry.heap.setLocked lock flag }
      { own with heap := own.heap.setLocked (rename lock) flag } := by
  refine alike.of_heaps rfl rfl ?_ ?_
  · intro other otherMine
    rw [LockHeap.strongCount_setLocked, LockHeap.strongCount_setLocked, alike.strong other otherMine]
  · intro other otherMine
    simp only [LockHeap.isLocked_setLocked, alike.rename_eq_iff otherMine is,
      alike.locked other otherMine]

theorem setLocked_other (alike : Alike key mine rename registry own) (foreign : ¬ mine lock)
    (flag : Bool) :
    Alike key mine rename { registry with heap := registry.heap.setLocked lock flag } own := by
  refine alike.of_heap (Nat.le_refl _) (fun _ _ => LockHeap.strongCount_setLocked _ _ _ _) ?_
  intro other otherMine
  have different : other ≠ lock := fun same => foreign (same ▸ otherMine)
  rw [LockHeap.isLocked_setLocked, if_neg different]

theorem release (alike : Alike key mine rename registry own) (is : mine lock) :
    Alike key mine rename { registry with heap := registry.heap.release lock }
      { own with heap := own.heap.release (rename lock) } := by
  refine alike.of_heaps rfl rfl ?_ ?_
  · intro other otherMine
    simp only [LockHeap.strongCount_release, alike.rename_eq_iff otherMine is,
      alike.strong other otherMine, alike.strong lock is]
  · intro other otherMine
    rw [LockHeap.isLocked_release, LockHeap.isLocked_release, alike.locked other otherMine]

theorem release_other (alike : Alike key mine rename registry own) (foreign : ¬ mine lock) :
    Alike key mine rename { registry with heap := registry.heap.release lock } own := by
  refine alike.of_heap (Nat.le_refl _) ?_ (fun _ _ => LockHeap.isLocked_release _ _ _)
  intro other otherMine
  have different : other ≠ lock := fun same => foreign (same ▸ otherMine)
  rw [LockHeap.strongCount_release, if_neg different]

theorem retain (alike : Alike key mine rename registry own) (is : mine lock) :
    Alike key mine rename { registry with heap := registry.heap.retain lock }
      { own with heap := own.heap.retain (rename lock) } := by
  refine alike.of_heaps rfl rfl ?_ ?_
  · intro other otherMine
    simp only [LockHeap.strongCount_retain, alike.rename_eq_iff otherMine is,
      alike.strong other otherMine, alike.strong lock is]
  · intro other otherMine
    rw [LockHeap.isLocked_retain, LockHeap.isLocked_retain, alike.locked other otherMine]

theorem retain_other (alike : Alike key mine rename registry own) (foreign : ¬ mine lock) :
    Alike key mine rename { registry with heap := registry.heap.retain lock } own := by
  refine alike.of_heap (Nat.le_refl _) ?_ (fun _ _ => LockHeap.isLocked_retain _ _ _)
  intro other otherMine
  have different : other ≠ lock := fun same => foreign (same ▸ otherMine)
  rw [LockHeap.strongCount_retain, if_neg different]

/-! ## Checking out -/

/-- What becomes of the correspondence when a lock is made for the key: it grows by
the new locks, which nobody has had before. -/
structure Grown (mine : LockId → Prop) (rename : LockId → LockId) (registry : LockRegistry Key)
    (mineAfter : LockId → Prop) (renameAfter : LockId → LockId) : Prop where
  kept : ∀ lock, mine lock → mineAfter lock ∧ renameAfter lock = rename lock
  fresh : ∀ lock, mineAfter lock → mine lock ∨ lock = registry.heap.next

omit [DecidableEq Key] in
theorem Grown.refl : Grown mine rename registry mine rename :=
  ⟨fun _ is => ⟨is, rfl⟩, fun _ is => Or.inl is⟩

/-- A lock made for the key gets the counterpart that is made at the same time. -/
theorem checkout_fresh (alike : Alike key mine rename registry own)
    (absent : registry.entries.lookup key = none) :
    Alike key (fun lock => mine lock ∨ lock = registry.heap.next)
      (Function.update rename registry.heap.next own.heap.next)
      ⟨registry.entries.insert key registry.heap.next, registry.heap.alloc 2⟩
      ⟨own.entries.insert key own.heap.next, own.heap.alloc 2⟩ := by
  have old : ∀ lock, mine lock → lock ≠ registry.heap.next := fun lock is =>
    Nat.ne_of_lt (alike.allocated lock is)
  have same : ∀ lock, mine lock →
      Function.update rename registry.heap.next own.heap.next lock = rename lock :=
    fun lock is => Function.update_of_ne (old lock is) _ _
  have new : Function.update rename registry.heap.next own.heap.next registry.heap.next =
      own.heap.next := Function.update_self _ _ _
  have oldOwn : ∀ lock, mine lock → rename lock ≠ own.heap.next := fun lock is =>
    Nat.ne_of_lt (alike.renamed lock is)
  exact
    { entry := by rw [Finmap.lookup_insert, Finmap.lookup_insert, Option.map_some, new]
      alone := fun other different => by
        rw [Finmap.lookup_insert_of_ne _ different, alike.alone other different]
      entryMine := fun other lock found => by
        rcases KeyedMap.lookup_insert_some found with ⟨rfl, rfl⟩ | before
        · exact ⟨fun _ => rfl, fun _ => Or.inr rfl⟩
        · have earlier := Nat.ne_of_lt (alike.entryAllocated other lock before)
          rw [← alike.entryMine other lock before, or_iff_left earlier]
      entryAllocated := fun other lock found => by
        rcases KeyedMap.lookup_insert_some found with ⟨rfl, rfl⟩ | before
        · exact Nat.lt_succ_self _
        · exact Nat.lt_succ_of_lt (alike.entryAllocated other lock before)
      allocated := by
        rintro lock (is | rfl)
        · exact Nat.lt_succ_of_lt (alike.allocated lock is)
        · exact Nat.lt_succ_self _
      renamed := by
        rintro lock (is | rfl)
        · rw [same lock is]
          exact Nat.lt_succ_of_lt (alike.renamed lock is)
        · rw [new]
          exact Nat.lt_succ_self _
      injective := by
        rintro first second (firstMine | rfl) (secondMine | rfl) agree
        · rw [same first firstMine, same second secondMine] at agree
          exact alike.injective first second firstMine secondMine agree
        · rw [same first firstMine, new] at agree
          exact absurd agree (oldOwn first firstMine)
        · rw [same second secondMine, new] at agree
          exact absurd agree.symm (oldOwn second secondMine)
        · rfl
      strong := by
        rintro lock (is | rfl)
        · rw [same lock is, LockHeap.strongCount_alloc, LockHeap.strongCount_alloc,
            if_neg (oldOwn lock is), if_neg (old lock is), alike.strong lock is]
        · rw [new, LockHeap.strongCount_alloc, LockHeap.strongCount_alloc, if_pos rfl, if_pos rfl]
      locked := by
        rintro lock (is | rfl)
        · rw [same lock is, LockHeap.isLocked_alloc, LockHeap.isLocked_alloc,
            if_neg (oldOwn lock is), if_neg (old lock is), alike.locked lock is]
        · rw [new, LockHeap.isLocked_alloc, LockHeap.isLocked_alloc, if_pos rfl, if_pos rfl] }

/-- Checking out the key on both sides hands out corresponding locks. -/
theorem checkout (alike : Alike key mine rename registry own) :
    ∃ mineAfter renameAfter, Grown mine rename registry mineAfter renameAfter ∧
      Alike key mineAfter renameAfter (registry.checkout key).1 (own.checkout key).1 ∧
      mineAfter (registry.checkout key).2 ∧
      (own.checkout key).2 = renameAfter (registry.checkout key).2 := by
  have counterpart := alike.entry
  cases present : registry.entries.lookup key with
  | some lock =>
      rw [present, Option.map_some] at counterpart
      have is : mine lock := (alike.entryMine key lock present).mpr rfl
      refine ⟨mine, rename, Grown.refl, ?_⟩
      rw [LockRegistry.checkout_of_some present, LockRegistry.checkout_of_some counterpart]
      exact ⟨alike.retain is, is, rfl⟩
  | none =>
      rw [present, Option.map_none] at counterpart
      refine ⟨fun lock => mine lock ∨ lock = registry.heap.next,
        Function.update rename registry.heap.next own.heap.next, ⟨?_, fun lock is => is⟩, ?_⟩
      · exact fun lock is => ⟨Or.inl is, Function.update_of_ne
          (Nat.ne_of_lt (alike.allocated lock is)) _ _⟩
      · rw [LockRegistry.checkout_of_none present, LockRegistry.checkout_of_none counterpart]
        exact ⟨alike.checkout_fresh present, Or.inr rfl, (Function.update_self _ own.heap.next rename).symm⟩

/-- Checking out another key hands out a lock that is none of this one's. -/
theorem checkout_other (alike : Alike key mine rename registry own) (different : other ≠ key) :
    Alike key mine rename (registry.checkout other).1 own ∧ ¬ mine (registry.checkout other).2 := by
  cases present : registry.entries.lookup other with
  | some lock =>
      have foreign : ¬ mine lock := fun is => different ((alike.entryMine other lock present).mp is)
      rw [LockRegistry.checkout_of_some present]
      exact ⟨alike.retain_other foreign, foreign⟩
  | none =>
      have old : ∀ lock, mine lock → lock ≠ registry.heap.next := fun lock is =>
        Nat.ne_of_lt (alike.allocated lock is)
      have foreign : ¬ mine registry.heap.next := fun is => old _ is rfl
      rw [LockRegistry.checkout_of_none present]
      refine ⟨?_, foreign⟩
      exact
        { entry := by
            rw [Finmap.lookup_insert_of_ne _ (Ne.symm different)]
            exact alike.entry
          alone := alike.alone
          entryMine := fun third lock found => by
            rcases KeyedMap.lookup_insert_some found with ⟨rfl, rfl⟩ | before
            · exact ⟨fun is => absurd is foreign, fun same => absurd same different⟩
            · exact alike.entryMine third lock before
          entryAllocated := fun third lock found => by
            rcases KeyedMap.lookup_insert_some found with ⟨rfl, rfl⟩ | before
            · exact Nat.lt_succ_self _
            · exact Nat.lt_succ_of_lt (alike.entryAllocated third lock before)
          allocated := fun lock is => Nat.lt_succ_of_lt (alike.allocated lock is)
          renamed := alike.renamed
          injective := alike.injective
          strong := fun lock is => by
            rw [LockHeap.strongCount_alloc, if_neg (old lock is), alike.strong lock is]
          locked := fun lock is => by
            rw [LockHeap.isLocked_alloc, if_neg (old lock is), alike.locked lock is] }

/-! ## Removing entries -/

/-- A guarded removal finds the same count on both sides. -/
theorem removeIf (alike : Alike key mine rename registry own) (test : Nat → Bool) :
    Alike key mine rename (registry.removeIf key test) (own.removeIf key test) := by
  have counterpart := alike.entry
  cases present : registry.entries.lookup key with
  | none =>
      rw [present, Option.map_none] at counterpart
      simp only [LockRegistry.removeIf, present, counterpart]
      exact alike
  | some lock =>
      rw [present, Option.map_some] at counterpart
      have is : mine lock := (alike.entryMine key lock present).mpr rfl
      simp only [LockRegistry.removeIf, present, counterpart, alike.strong lock is]
      cases test (registry.heap.strongCount lock) with
      | false => exact alike
      | true =>
          have erased : Alike key mine rename
              { registry with entries := registry.entries.erase key }
              { own with entries := own.entries.erase key } :=
            alike.of_entries (fun _ _ found => (KeyedMap.lookup_erase_some found).2)
              (fun _ _ found => (KeyedMap.lookup_erase_some found).2)
              (by rw [Finmap.lookup_erase, Finmap.lookup_erase, Option.map_none])
          exact erased.release is

theorem removeIf_other (alike : Alike key mine rename registry own) (different : other ≠ key)
    (test : Nat → Bool) : Alike key mine rename (registry.removeIf other test) own := by
  generalize taken : registry.removeIf other test = after
  cases LockRegistry.removeIf_spec taken with
  | spared => exact alike
  | @removed lock present =>
      have foreign : ¬ mine lock := fun is => different ((alike.entryMine other lock present).mp is)
      have erased : Alike key mine rename
          { registry with entries := registry.entries.erase other } own :=
        alike.of_entries (fun _ _ found => (KeyedMap.lookup_erase_some found).2)
          (fun _ _ found => found)
          (by rw [Finmap.lookup_erase_ne (Ne.symm different)]; exact alike.entry)
      exact erased.release_other foreign

/-- A purge that spares the key takes no reference to its locks. -/
theorem purge_other (alike : Alike key mine rename registry own) {keep : Key → Bool}
    (kept : keep key = true) : Alike key mine rename (registry.purge keep) own := by
  have spared : ∀ lock, mine lock →
      LockRegistry.droppedReferences keep registry.entries lock = 0 := by
    intro lock is
    rw [LockRegistry.droppedReferences, Multiset.card_eq_zero, Multiset.filter_eq_nil]
    rintro ⟨other, pointed⟩ listed ⟨dropped, rfl⟩
    rw [(alike.entryMine other pointed (Finmap.lookup_eq_some_iff.mpr listed)).mp is,
      kept] at dropped
    cases dropped
  have fewer : Alike key mine rename
      { registry with entries := KeyedMap.retain (fun key _ => keep key) registry.entries } own :=
    alike.of_entries (fun _ _ found => KeyedMap.lookup_retain_some found) (fun _ _ found => found)
      (by rw [KeyedMap.lookup_retain_of_kept (fun _ => kept)]; exact alike.entry)
  refine fewer.of_heap (Nat.le_refl _) ?_ (fun _ _ => LockHeap.isLocked_releaseAll _ _ _)
  intro lock is
  rw [LockHeap.strongCount_releaseAll, spared lock is, Nat.sub_zero]

/-- A purge that removes the only entry that can point at a lock takes its
reference. -/
theorem droppedReferences_of_only {keep : Key → Bool} {entries : KeyedMap Key LockId}
    (only : ∀ other, entries.lookup other = some lock → other = key) (dropped : keep key = false) :
    LockRegistry.droppedReferences keep entries lock =
      if entries.lookup key = some lock then 1 else 0 := by
  have pointing : ∀ entry ∈ entries.entries,
      (keep entry.1 = false ∧ entry.2 = lock) ↔ entry = ⟨key, lock⟩ := by
    rintro ⟨other, pointed⟩ listed
    constructor
    · rintro ⟨_, rfl⟩
      rw [only other (Finmap.lookup_eq_some_iff.mpr listed)]
    · rintro same
      cases same
      exact ⟨dropped, rfl⟩
  rw [LockRegistry.droppedReferences, Multiset.filter_congr pointing, Multiset.filter_eq',
    Multiset.card_replicate, Multiset.count_eq_of_nodup entries.nodup_entries]
  simp only [Finmap.lookup_eq_some_iff]

/-- Purging the key on both sides takes corresponding references. -/
theorem purge (alike : Alike key mine rename registry own) {keep ownKeep : Key → Bool}
    (dropped : keep key = false) (ownDropped : ownKeep key = false) :
    Alike key mine rename (registry.purge keep) (own.purge ownKeep) := by
  have fewer : Alike key mine rename
      { registry with entries := KeyedMap.retain (fun key _ => keep key) registry.entries }
      { own with entries := KeyedMap.retain (fun key _ => ownKeep key) own.entries } :=
    alike.of_entries (fun _ _ found => KeyedMap.lookup_retain_some found)
      (fun _ _ found => KeyedMap.lookup_retain_some found)
      (by rw [KeyedMap.lookup_retain_of_dropped (fun _ => ownDropped),
        KeyedMap.lookup_retain_of_dropped (fun _ => dropped), Option.map_none])
  refine fewer.of_heaps rfl rfl ?_ ?_
  · intro lock is
    have only : ∀ other, registry.entries.lookup other = some lock → other = key :=
      fun other found => (alike.entryMine other lock found).mp is
    have ownOnly : ∀ other, own.entries.lookup other = some (rename lock) → other = key := by
      intro other found
      by_contra different
      rw [alike.alone other different] at found
      cases found
    have corresponds : own.entries.lookup key = some (rename lock) ↔
        registry.entries.lookup key = some lock := by
      rw [alike.entry, Option.map_eq_some_iff]
      constructor
      · rintro ⟨other, found, agree⟩
        have otherMine : mine other := (alike.entryMine key other found).mpr rfl
        rwa [alike.injective other lock otherMine is agree] at found
      · exact fun found => ⟨lock, found, rfl⟩
    simp only [LockHeap.strongCount_releaseAll, alike.strong lock is,
      droppedReferences_of_only only dropped, droppedReferences_of_only ownOnly ownDropped,
      corresponds]
  · intro lock is
    rw [LockHeap.isLocked_releaseAll, LockHeap.isLocked_releaseAll, alike.locked lock is]

end Alike
end Foundation
end OidcRs
