import Mathlib.Data.Finmap

namespace OidcRs
namespace Foundation

universe u v

/-!
# Finite maps with single-step concurrent operations

A sharded concurrent map is used through operations that each lock the part of
the map they touch, so every one of them is one atomic step.  `Finmap` already
supplies lookup, insertion and removal.  Added here are the bulk filter and the
entry count.  Two maps with the same lookups are equal, so no law depends on an
iteration order.
-/

/-- A finite map from keys to values of one type. -/
abbrev KeyedMap (Key : Type u) (Value : Type v) := Finmap (fun _ : Key => Value)

namespace KeyedMap

variable {Key : Type u} {Value : Type v}

/-- Keep exactly the entries that pass the test. -/
def retain (keep : Key → Value → Bool) (map : KeyedMap Key Value) : KeyedMap Key Value where
  entries := map.entries.filter (fun entry => keep entry.1 entry.2)
  nodupKeys := by
    rw [← Multiset.nodup_keys]
    exact Multiset.nodup_of_le (Multiset.map_le_map (Multiset.filter_le _ _))
      (Multiset.nodup_keys.mpr map.nodupKeys)

/-- The number of entries. -/
def len (map : KeyedMap Key Value) : Nat := map.keys.card

variable [DecidableEq Key]

/-- A lookup that survives a removal is of another key and was there before. -/
theorem lookup_erase_some {map : KeyedMap Key Value} {key other : Key} {value : Value}
    (found : (map.erase other).lookup key = some value) :
    key ≠ other ∧ map.lookup key = some value := by
  by_cases same : key = other
  · subst same
    rw [Finmap.lookup_erase] at found
    cases found
  · rw [Finmap.lookup_erase_ne same] at found
    exact ⟨same, found⟩

/-- A lookup after an insertion finds the inserted value under its key, or what
was there before. -/
theorem lookup_insert_some {map : KeyedMap Key Value} {key other : Key} {value inserted : Value}
    (found : (map.insert other inserted).lookup key = some value) :
    key = other ∧ inserted = value ∨ map.lookup key = some value := by
  by_cases same : key = other
  · subst same
    rw [Finmap.lookup_insert] at found
    exact Or.inl ⟨rfl, Option.some.inj found⟩
  · rw [Finmap.lookup_insert_of_ne _ same] at found
    exact Or.inr found

theorem lookup_retain (keep : Key → Value → Bool) (map : KeyedMap Key Value) (key : Key) :
    (retain keep map).lookup key = (map.lookup key).filter (keep key) := by
  apply Option.ext
  intro value
  rw [Option.filter_eq_some_iff, ← Option.mem_def, Finmap.mem_lookup_iff, Finmap.lookup_eq_some_iff]
  exact Multiset.mem_filter

theorem lookup_retain_of_kept {keep : Key → Value → Bool} {map : KeyedMap Key Value} {key : Key}
    (kept : ∀ value, keep key value = true) :
    (retain keep map).lookup key = map.lookup key := by
  rw [lookup_retain]
  cases map.lookup key with
  | none => rfl
  | some value => simp only [Option.filter, kept, if_true]

theorem lookup_retain_of_dropped {keep : Key → Value → Bool} {map : KeyedMap Key Value}
    {key : Key} (dropped : ∀ value, keep key value = false) :
    (retain keep map).lookup key = none := by
  rw [lookup_retain]
  cases map.lookup key with
  | none => rfl
  | some value => simp only [Option.filter, dropped, Bool.false_eq_true, if_false]

theorem lookup_retain_some {keep : Key → Value → Bool} {map : KeyedMap Key Value} {key : Key}
    {value : Value} (found : (retain keep map).lookup key = some value) :
    map.lookup key = some value := by
  rw [lookup_retain, Option.filter_eq_some_iff] at found
  exact found.1

theorem mem_keys_iff (map : KeyedMap Key Value) (key : Key) :
    key ∈ map.keys ↔ ∃ value, map.lookup key = some value := by
  rw [Finmap.mem_keys, Finmap.mem_iff]

/-- Filtering on the key alone filters the key set. -/
theorem keys_retain_key (keep : Key → Bool) (map : KeyedMap Key Value) :
    (retain (fun key _ => keep key) map).keys = map.keys.filter (fun key => keep key = true) := by
  ext key
  rw [Finset.mem_filter, mem_keys_iff, mem_keys_iff]
  simp only [lookup_retain, Option.filter_eq_some_iff]
  exact ⟨fun ⟨value, found, kept⟩ => ⟨⟨value, found⟩, kept⟩,
    fun ⟨⟨value, found⟩, kept⟩ => ⟨value, found, kept⟩⟩

theorem len_retain_le (keep : Key → Bool) (map : KeyedMap Key Value) :
    len (retain (fun key _ => keep key) map) ≤ len map := by
  simp only [len, keys_retain_key]
  exact Finset.card_le_card (Finset.filter_subset _ _)

/-- A filter on the key drops as many entries as there are keys failing it. -/
theorem len_sub_len_retain (keep : Key → Bool) (map : KeyedMap Key Value) :
    len map - len (retain (fun key _ => keep key) map) =
      (map.keys.filter (fun key => keep key = false)).card := by
  have parts := Finset.card_filter_add_card_filter_not (s := map.keys)
    (fun key => keep key = true)
  simp only [Bool.not_eq_true] at parts
  simp only [len, keys_retain_key]
  omega

end KeyedMap
end Foundation
end OidcRs
