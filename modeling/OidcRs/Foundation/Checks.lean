namespace OidcRs
namespace Foundation

/-!
# Checks one after another

A value is checked in a fixed order and the first fault is reported.  So a
report says two things: this check failed, and every check before it passed.
Likewise a chain of fallible steps succeeds only if each of them did.
-/

/-- The fault of the first check that fails. -/
def firstFailure {Fault : Type} : List (Bool × Fault) → Option Fault
  | [] => none
  | (passed, fault) :: rest => if passed then firstFailure rest else some fault

variable {Fault : Type} {checks : List (Bool × Fault)} {fault : Fault}

theorem firstFailure_eq_none_iff :
    firstFailure checks = none ↔ ∀ check ∈ checks, check.1 = true := by
  induction checks with
  | nil => simp [firstFailure]
  | cons check rest inductionHypothesis =>
      rcases check with ⟨passed, fault⟩
      cases passed
      · simp [firstFailure]
      · simp [firstFailure, inductionHypothesis]

/-- A reported fault is that of a failed check, and every check before it has
passed. -/
theorem firstFailure_eq_some_iff :
    firstFailure checks = some fault ↔
      ∃ before after, checks = before ++ (false, fault) :: after ∧
        ∀ check ∈ before, check.1 = true := by
  induction checks with
  | nil => simp [firstFailure]
  | cons check rest inductionHypothesis =>
      rcases check with ⟨passed, here⟩
      cases passed with
      | false =>
          constructor
          · intro reported
            obtain rfl : here = fault := Option.some.inj reported
            exact ⟨[], rest, rfl, fun check member => absurd member List.not_mem_nil⟩
          · rintro ⟨before, after, whole, passed⟩
            cases before with
            | nil =>
                rcases List.cons.inj whole with ⟨same, _⟩
                exact congrArg some (Prod.mk.inj same).2
            | cons first before =>
                have failed := passed first List.mem_cons_self
                rw [← (List.cons.inj whole).1] at failed
                cases failed
      | true =>
          change firstFailure rest = some fault ↔ _
          rw [inductionHypothesis]
          constructor
          · rintro ⟨before, after, rfl, passed⟩
            refine ⟨(true, here) :: before, after, rfl, ?_⟩
            intro check member
            rcases List.mem_cons.mp member with rfl | member
            · rfl
            · exact passed check member
          · rintro ⟨before, after, whole, passed⟩
            cases before with
            | nil =>
                rcases List.cons.inj whole with ⟨same, _⟩
                cases same
            | cons first before =>
                exact ⟨before, after, (List.cons.inj whole).2,
                  fun check member => passed check (List.mem_cons_of_mem _ member)⟩

/-! ## Steps that can fail -/

theorem bind_eq_ok {Error Value Result : Type} {first : Except Error Value}
    {rest : Value → Except Error Result} {result : Result} (isOk : first >>= rest = .ok result) :
    ∃ value, first = .ok value ∧ rest value = .ok result := by
  cases first with
  | error error => cases isOk
  | ok value => exact ⟨value, rfl, isOk⟩

theorem mapError_eq_ok {Error OtherError Value : Type} {rename : Error → OtherError}
    {outcome : Except Error Value} {value : Value}
    (isOk : outcome.mapError rename = .ok value) : outcome = .ok value := by
  cases outcome with
  | error error => cases isOk
  | ok there => exact congrArg Except.ok (Except.ok.inj isOk)

end Foundation
end OidcRs
