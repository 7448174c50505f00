import Mathlib.Data.Finset.Card
import OidcRs.Foundation.Runs

namespace OidcRs
namespace Foundation

universe u v w

/-!
# Additions and removals along a run

A set read off the state changes with the steps of a run.  Each step adds some
items and removes some, and the books balance: what is there now and what was
removed make up what was there before and what was added.  A tally sums a
measure over the chosen moments of a history, so that the changes made by one
party can be told from those of the others.
-/

variable {State : Type u} {Action : Type v} {Item : Type w} [DecidableEq Item]

/-- How many items the step of this moment adds. -/
def added (step : State → Action → Option State) (content : State → Finset Item)
    (moment : Moment State Action) : Nat :=
  match step moment.1 moment.2 with
  | some next => (content next \ content moment.1).card
  | none => 0

/-- How many items it removes. -/
def removed (step : State → Action → Option State) (content : State → Finset Item)
    (moment : Moment State Action) : Nat :=
  match step moment.1 moment.2 with
  | some next => (content moment.1 \ content next).card
  | none => 0

/-- The sum of a measure over the chosen moments of a history. -/
def tally (chosen : Moment State Action → Bool) (measure : Moment State Action → Nat) :
    List (Moment State Action) → Nat
  | [] => 0
  | moment :: rest => (if chosen moment then measure moment else 0) + tally chosen measure rest

section Step

variable {step : State → Action → Option State} (content : State → Finset Item)
  {state next : State} {action : Action}

/-- The books of one step. -/
theorem step_balance (taken : step state action = some next) :
    (content next).card + removed step content (state, action) =
      (content state).card + added step content (state, action) := by
  simp only [removed, added, taken]
  have before := Finset.card_sdiff_add_card_inter (content state) (content next)
  have after := Finset.card_sdiff_add_card_inter (content next) (content state)
  rw [Finset.inter_comm] at after
  omega

/-- A step that leaves the set alone adds nothing and removes nothing. -/
theorem unchanged_of_same (taken : step state action = some next)
    (same : content next = content state) :
    added step content (state, action) = 0 ∧ removed step content (state, action) = 0 := by
  simp only [added, removed, taken, same, Finset.sdiff_self, Finset.card_empty, and_self]

/-- A step that only shrinks the set adds nothing. -/
theorem added_of_subset (taken : step state action = some next)
    (shrinks : content next ⊆ content state) : added step content (state, action) = 0 := by
  simp only [added, taken, Finset.sdiff_eq_empty_iff_subset.mpr shrinks, Finset.card_empty]

end Step

section Tally

variable {chosen : Moment State Action → Bool} {measure : Moment State Action → Nat}
  {history : List (Moment State Action)} {moment : Moment State Action}

theorem tally_snoc : tally chosen measure (history ++ [moment]) =
    tally chosen measure history + (if chosen moment then measure moment else 0) := by
  induction history with
  | nil => simp only [List.nil_append, tally, Nat.zero_add, Nat.add_zero]
  | cons first rest inductionHypothesis =>
      simp only [List.cons_append, tally, inductionHypothesis, Nat.add_assoc]

theorem tally_snoc_chosen (counts : chosen moment = true) :
    tally chosen measure (history ++ [moment]) = tally chosen measure history + measure moment := by
  rw [tally_snoc, if_pos counts]

theorem tally_snoc_other (skipped : chosen moment = false) :
    tally chosen measure (history ++ [moment]) = tally chosen measure history := by
  rw [tally_snoc, skipped]
  rfl

end Tally

end Foundation
end OidcRs
