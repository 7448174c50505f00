import OidcRs.Foundation.Time

namespace OidcRs
namespace Foundation

/-!
# A periodic timer

A ticker is made with a period and then waited for again and again.  Its first
tick is due at once and each later one a period after the one before was due,
however late that one was waited for.  So ticks that were missed are made up for
in a burst, no tick comes early, and the schedule never drifts.
-/

/-- A timer as a runtime offers it, with what can be observed of it. -/
structure TickerLibrary where
  Ticker : Type
  /-- make a ticker at this instant; `none` when that panics -/
  interval : Instant → Duration → Option Ticker
  /-- what waiting for a tick leaves, `none` while it is not due -/
  tick : Ticker → Instant → Option Ticker
  deadline : Ticker → Instant
  period : Ticker → Duration

namespace TickerLibrary

/-- What the documentation promises. -/
structure Documented (library : TickerLibrary) : Prop where
  panics : ∀ now period, library.interval now period = none ↔ period.nanos = 0
  first : ∀ {now period ticker}, library.interval now period = some ticker →
    library.deadline ticker = now ∧ library.period ticker = period
  due : ∀ ticker now, (library.tick ticker now).isSome = true ↔ library.deadline ticker ≤ now
  next : ∀ {ticker now after}, library.tick ticker now = some after →
    library.period after = library.period ticker ∧
      (library.deadline ticker + (library.period ticker).nanos < instantLimit →
        library.deadline after = library.deadline ticker + (library.period ticker).nanos)

/-- The ticker was made at `start` and has been waited for `count` times. -/
structure Scheduled (library : TickerLibrary) (start : Instant) (period : Duration) (count : Nat)
    (ticker : library.Ticker) : Prop where
  deadline : library.deadline ticker = start + count * period.nanos
  period : library.period ticker = period

variable {library : TickerLibrary} (documented : library.Documented) {start now : Instant}
  {period : Duration} {count : Nat} {ticker after : library.Ticker}

include documented

theorem Documented.made (made : library.interval now period = some ticker) :
    library.Scheduled now period 0 ticker where
  deadline := by rw [(documented.first made).1, Nat.zero_mul, Nat.add_zero]
  period := (documented.first made).2

theorem Documented.exists_made (positive : period.nanos ≠ 0) (now : Instant) :
    ∃ ticker, library.interval now period = some ticker :=
  Option.ne_none_iff_exists'.mp fun panicked => positive ((documented.panics now period).mp panicked)

/-- A tick is never early. -/
theorem Documented.not_early (scheduled : library.Scheduled start period count ticker)
    (ticked : library.tick ticker now = some after) : start + count * period.nanos ≤ now := by
  rw [← scheduled.deadline]
  exact (documented.due ticker now).mp (Option.isSome_iff_exists.mpr ⟨after, ticked⟩)

/-- What is not due lies ahead. -/
theorem Documented.not_late (scheduled : library.Scheduled start period count ticker)
    (waits : library.tick ticker now = none) : now < start + count * period.nanos := by
  rw [← scheduled.deadline]
  refine Nat.lt_of_not_le fun due => ?_
  rw [← documented.due, waits] at due
  cases due

theorem Documented.exists_tick (scheduled : library.Scheduled start period count ticker)
    (due : start + count * period.nanos ≤ now) : ∃ after, library.tick ticker now = some after := by
  rw [← scheduled.deadline] at due
  exact Option.isSome_iff_exists.mp ((documented.due ticker now).mpr due)

/-- The schedule is kept, whenever the tick was waited for. -/
theorem Documented.ticked (scheduled : library.Scheduled start period count ticker)
    (ticked : library.tick ticker now = some after) (small : now + period.nanos < instantLimit) :
    library.Scheduled start period (count + 1) after := by
  have due := documented.not_early scheduled ticked
  rcases documented.next ticked with ⟨samePeriod, later⟩
  rw [scheduled.deadline, scheduled.period] at later
  refine ⟨?_, samePeriod.trans scheduled.period⟩
  have representable : start + count * period.nanos + period.nanos < instantLimit :=
    Nat.lt_of_le_of_lt (Nat.add_le_add_right due _) small
  rw [later representable, Nat.add_mul, Nat.one_mul, Nat.add_assoc]

end TickerLibrary

/-! ## A ticker to evaluate -/

/-- The two observations are all there is. -/
def sampleTicker : TickerLibrary where
  Ticker := Instant × Duration
  interval := fun now period => if period.nanos = 0 then none else some (now, period)
  tick := fun ticker now =>
    if ticker.1 ≤ now then some (ticker.1 + ticker.2.nanos, ticker.2) else none
  deadline := Prod.fst
  period := Prod.snd

theorem sampleTicker_documented : sampleTicker.Documented where
  panics := fun now period => by
    change (if period.nanos = 0 then none else some (now, period)) = none ↔ _
    split <;> simp_all
  first := fun {now period ticker} made => by
    change (if period.nanos = 0 then none else some (now, period)) = some ticker at made
    split at made
    · cases made
    · rcases Option.some.inj made with rfl
      exact ⟨rfl, rfl⟩
  due := fun ticker now => Option.isSome_ite
  next := fun {ticker now after} ticked => by
    change (if ticker.1 ≤ now then some (ticker.1 + ticker.2.nanos, ticker.2) else none) =
      some after at ticked
    split at ticked
    · rcases Option.some.inj ticked with rfl
      exact ⟨rfl, fun _ => rfl⟩
    · cases ticked

end Foundation
end OidcRs
