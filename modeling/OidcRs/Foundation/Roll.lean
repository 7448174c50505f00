namespace OidcRs
namespace Foundation
namespace Roll

universe u

/-!
# A roll of parties

Whoever takes part in a run is entered at the end of a list and is named by the
position ever after.  The list changes in two ways only: somebody joins, or one
party is replaced by its next state.  These are the two changes looked at from
a position, backwards and forwards.
-/

variable {Party : Type u} {roll : List Party} {party newcomer old replacement : Party}
  {index position : Nat}

/-- Who is found after somebody has joined. -/
theorem of_joined (found : (roll ++ [newcomer])[index]? = some party) :
    roll[index]? = some party ∨ index = roll.length ∧ party = newcomer := by
  rcases Nat.lt_trichotomy index roll.length with earlier | same | later
  · rw [List.getElem?_append_left earlier] at found
    exact Or.inl found
  · subst same
    rw [List.getElem?_concat_length] at found
    exact Or.inr ⟨rfl, (Option.some.inj found).symm⟩
  · have outside : (roll ++ [newcomer]).length ≤ index := by
      rw [List.length_append, List.length_singleton]
      exact later
    rw [List.getElem?_eq_none outside] at found
    cases found

theorem joined (found : roll[index]? = some party) (newcomer : Party) :
    (roll ++ [newcomer])[index]? = some party := by
  rcases List.getElem?_eq_some_iff.mp found with ⟨within, _⟩
  exact (List.getElem?_append_left within).trans found

/-- Who is found after one party has been replaced. -/
theorem of_replaced (here : roll[position]? = some old)
    (found : (roll.set position replacement)[index]? = some party) :
    position = index ∧ party = replacement ∨ position ≠ index ∧ roll[index]? = some party := by
  by_cases same : position = index
  · subst same
    rcases List.getElem?_eq_some_iff.mp here with ⟨within, _⟩
    rw [List.getElem?_set_self within] at found
    exact Or.inl ⟨rfl, (Option.some.inj found).symm⟩
  · rw [List.getElem?_set_ne same] at found
    exact Or.inr ⟨same, found⟩

theorem replaced_self (here : roll[position]? = some old) (replacement : Party) :
    (roll.set position replacement)[position]? = some replacement := by
  rcases List.getElem?_eq_some_iff.mp here with ⟨within, _⟩
  exact List.getElem?_set_self within

/-- Nothing changes when a party is replaced by itself. -/
theorem replaced_same (here : roll[position]? = some old) : roll.set position old = roll := by
  rcases List.getElem?_eq_some_iff.mp here with ⟨within, same⟩
  rw [← same]
  exact List.set_getElem_self within

/-- Replacing one party keeps every other one listed. -/
theorem mem_replaced (here : roll[position]? = some old) (listed : party ∈ roll)
    (replacement : Party) : party ∈ roll.set position replacement ∨ party = old := by
  rcases List.mem_iff_getElem?.mp listed with ⟨index, found⟩
  by_cases same : index = position
  · subst same
    rw [here] at found
    exact Or.inr (Option.some.inj found).symm
  · apply Or.inl
    apply List.mem_iff_getElem?.mpr
    refine ⟨index, ?_⟩
    rw [List.getElem?_set_ne (Ne.symm same)]
    exact found

theorem mem_replaced_self (here : roll[position]? = some old) (replacement : Party) :
    replacement ∈ roll.set position replacement :=
  List.mem_of_getElem? (replaced_self here replacement)

/-! ## The parties of one kind -/

variable {kind : Party → Bool}

/-- The position of a party among those of the kind. -/
def place (kind : Party → Bool) (roll : List Party) (position : Nat) : Nat :=
  (roll.take position).countP kind

theorem place_cons (kind : Party → Bool) (first : Party) (rest : List Party) (position : Nat) :
    place kind (first :: rest) (position + 1) =
      place kind rest position + (if kind first then 1 else 0) := by
  simp only [place, List.take_succ_cons, List.countP_cons]

/-- A party of the kind is found at its place among them. -/
theorem found_at_place (here : roll[position]? = some old) (was : kind old = true) :
    (roll.filter kind)[place kind roll position]? = some old := by
  induction roll generalizing position with
  | nil => cases here
  | cons first rest inductionHypothesis =>
      cases position with
      | zero =>
          rcases Option.some.inj here with rfl
          rw [List.filter_cons_of_pos was]
          rfl
      | succ position =>
          have there : rest[position]? = some old := here
          have later := inductionHypothesis there
          rw [place_cons]
          cases counted : kind first with
          | true => rwa [List.filter_cons_of_pos counted, if_pos rfl, List.getElem?_cons_succ]
          | false =>
              rw [List.filter_cons_of_neg (by simp [counted])]
              simpa using later

/-- Where all are of the kind, the place is the position. -/
theorem place_of_all (all : ∀ party ∈ roll, kind party = true) (within : position ≤ roll.length) :
    place kind roll position = position := by
  have taken : ∀ party ∈ roll.take position, kind party = true := fun party listed =>
    all party (List.mem_of_mem_take listed)
  rw [place, List.countP_eq_length.mpr taken, List.length_take, Nat.min_eq_left within]

/-- A newcomer is placed behind all of the kind. -/
theorem place_joined (kind : Party → Bool) (roll : List Party) (newcomer : Party) :
    place kind (roll ++ [newcomer]) roll.length = (roll.filter kind).length := by
  rw [place, List.take_left, List.countP_eq_length_filter]

theorem place_replaced (kind : Party → Bool) (roll : List Party) (position : Nat)
    (replacement : Party) : place kind (roll.set position replacement) position =
      place kind roll position := by
  rw [place, place, List.take_set_of_le (Nat.le_refl _)]

/-- Replacing a party of the kind replaces it among them. -/
theorem filter_replaced (here : roll[position]? = some old) (was : kind old = true)
    (stays : kind replacement = true) : (roll.set position replacement).filter kind =
      (roll.filter kind).set (place kind roll position) replacement := by
  induction roll generalizing position with
  | nil => cases here
  | cons first rest inductionHypothesis =>
      cases position with
      | zero =>
          rcases Option.some.inj here with rfl
          rw [List.set_cons_zero, List.filter_cons_of_pos stays, List.filter_cons_of_pos was]
          rfl
      | succ position =>
          have there : rest[position]? = some old := here
          have later := inductionHypothesis there
          rw [place_cons, List.set_cons_succ]
          cases counted : kind first with
          | true =>
              rw [List.filter_cons_of_pos counted, List.filter_cons_of_pos counted, later]
              rfl
          | false =>
              rw [List.filter_cons_of_neg (by simp [counted]),
                List.filter_cons_of_neg (by simp [counted]), later]
              rfl

/-- Replacing another party leaves those of the kind alone. -/
theorem filter_replaced_other (here : roll[position]? = some old) (was : kind old = false)
    (stays : kind replacement = false) :
    (roll.set position replacement).filter kind = roll.filter kind := by
  induction roll generalizing position with
  | nil => cases here
  | cons first rest inductionHypothesis =>
      cases position with
      | zero =>
          rcases Option.some.inj here with rfl
          rw [List.set_cons_zero, List.filter_cons_of_neg (by simp [stays]),
            List.filter_cons_of_neg (by simp [was])]
      | succ position =>
          have there : rest[position]? = some old := here
          have later := inductionHypothesis there
          rw [List.set_cons_succ, List.filter_cons, List.filter_cons, later]

/-- Replacing a party by one of the same kind leaves their number alone. -/
theorem countP_replaced (here : roll[position]? = some old)
    (same : kind replacement = kind old) :
    (roll.set position replacement).countP kind = roll.countP kind := by
  rw [List.countP_eq_length_filter, List.countP_eq_length_filter]
  cases was : kind old with
  | true => rw [filter_replaced here was (same.trans was), List.length_set]
  | false => rw [filter_replaced_other here was (same.trans was)]

end Roll
end Foundation
end OidcRs
