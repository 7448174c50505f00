import OidcRs.Validation.Construction

namespace OidcRs
namespace Validation

open Foundation

/-!
# Keys that are published no more

An IdP withdraws a key by leaving it out of its key set.  Fetches that were answered
before may still write the old set, even over a newer one.  But once those have been
written, and one fetch has been written since, the cell holds no set with the key and
never will again.  What holds of a key holds of any property of key sets.
-/

variable {Keys : Type} {offers : Keys → Prop} {mid later state next : KeyState Keys}
  {action : KeyAction Keys} {history : List (Moment (KeyState Keys) (KeyAction Keys))}

/-- The key set that a fetch is answered with. -/
def KeyAction.brought : KeyAction Keys → Option Keys
  | answer _ (.ok fresh) => some fresh
  | _ => none

def KeyAction.stores : KeyAction Keys → Bool
  | store _ => true
  | _ => false

/-- A fetch is answered with such a key set. -/
def OfferedAt (offers : Keys → Prop) (moment : Moment (KeyState Keys) (KeyAction Keys)) : Prop :=
  ∃ fresh, moment.2.brought = some fresh ∧ offers fresh

/-- No such key set waits to be written. -/
def NoneWriting (offers : Keys → Prop) (state : KeyState Keys) : Prop :=
  ∀ (index : Nat) origin fresh, state.fetches[index]? = some ⟨origin, .writing fresh⟩ →
    ¬ offers fresh

/-- Nor is one in the cell. -/
structure Withdrawn (offers : Keys → Prop) (state : KeyState Keys) : Prop where
  noneWriting : NoneWriting offers state
  cell : ∀ keys, state.jwks = some keys → ¬ offers keys

theorem noneWriting_step (none : NoneWriting offers state) (taken : keyStep state action = some next)
    (unoffered : ¬ OfferedAt offers (state, action)) : NoneWriting offers next := by
  intro index origin fresh found offered
  rcases writing_of_step taken found with before | rfl
  · exact none index origin fresh before offered
  · exact unoffered ⟨fresh, rfl, offered⟩

/-- A write leaves no such key set behind. -/
theorem withdrawn_of_store (none : NoneWriting offers state) {index : Nat}
    (taken : keyStep state (.store index) = some next) : Withdrawn offers next := by
  have unoffered : ¬ OfferedAt offers (state, .store index) := by
    rintro ⟨_, nothing, _⟩
    cases nothing
  refine ⟨noneWriting_step none taken unoffered, fun keys held => ?_⟩
  cases keyStep_spec taken with
  | store found =>
      rcases Option.some.inj held with rfl
      exact none index _ _ found

theorem withdrawn_step (withdrawn : Withdrawn offers state)
    (taken : keyStep state action = some next)
    (unoffered : ¬ OfferedAt offers (state, action)) : Withdrawn offers next := by
  have none := noneWriting_step withdrawn.noneWriting taken unoffered
  cases keyStep_spec taken with
  | refresh | tick | answer | abandon => exact ⟨none, withdrawn.cell⟩
  | store => exact withdrawn_of_store withdrawn.noneWriting taken

theorem withdrawn_of_run (run : Run keyStep mid history later) (withdrawn : Withdrawn offers mid)
    (unoffered : ∀ moment ∈ history, ¬ OfferedAt offers moment) : Withdrawn offers later :=
  Run.invariant_of_moments (Withdrawn offers) (fun moment => ¬ OfferedAt offers moment)
    (fun _ _ _ withdrawn unoffered taken => withdrawn_step withdrawn taken unoffered) withdrawn run
    unoffered

/-- What is offered no more is withdrawn by the first write. -/
theorem withdrawn_of_stored (run : Run keyStep mid history later) (settled : NoneWriting offers mid)
    (unoffered : ∀ moment ∈ history, ¬ OfferedAt offers moment)
    (stored : ∃ moment ∈ history, moment.2.stores = true) : Withdrawn offers later := by
  rcases stored with ⟨⟨writer, action⟩, member, stores⟩
  rcases List.append_of_mem member with ⟨front, rest, rfl⟩
  rcases run.split with ⟨written, untilWriter, taken, since⟩
  obtain ⟨index, rfl⟩ : ∃ index, action = .store index := by
    cases action with
    | store index => exact ⟨index, rfl⟩
    | refresh | tick | answer | abandon => cases stores
  have meanwhile : NoneWriting offers writer :=
    Run.invariant_of_moments (NoneWriting offers) (fun moment => ¬ OfferedAt offers moment)
      (fun _ _ _ none unoffered taken => noneWriting_step none taken unoffered) settled untilWriter
      (fun moment member => unoffered moment (List.mem_append_left _ member))
  exact withdrawn_of_run since (withdrawn_of_store meanwhile taken)
    (fun moment member => unoffered moment
      (List.mem_append_right _ (List.mem_cons_of_mem _ member)))

end Validation
end OidcRs
