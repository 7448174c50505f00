import Mathlib.Order.Basic

namespace OidcRs
namespace Foundation

/-!
# Durations and instants

Time is counted in nanoseconds.  A duration is a 64-bit number of seconds with
a nanosecond part, so it carries its bound.  An instant is read off a monotone
clock; adding a duration to it fails when the sum leaves the signed 64-bit
range of seconds, which is the point at which the unchecked addition panics.
-/

def nanosPerSec : Nat := 1000000000

/-- A span of time below `2 ^ 64` seconds. -/
structure Duration where
  nanos : Nat
  bounded : nanos < UInt64.size * nanosPerSec
  deriving DecidableEq

namespace Duration

def fromSecs (secs : UInt64) : Duration where
  nanos := secs.toNat * nanosPerSec
  bounded := Nat.mul_lt_mul_of_pos_right secs.toNat_lt_size (by decide)

/-- `Duration::MAX` -/
def longest : Duration where
  nanos := UInt64.size * nanosPerSec - 1
  bounded := by decide

def isZero (duration : Duration) : Bool := duration.nanos = 0

/-- The shorter of two durations. -/
def min (left right : Duration) : Duration :=
  if left.nanos ≤ right.nanos then left else right

/-- Subtraction that stops at zero. -/
def saturatingSub (left right : Duration) : Duration where
  nanos := left.nanos - right.nanos
  bounded := Nat.lt_of_le_of_lt (Nat.sub_le _ _) left.bounded

theorem isZero_iff {duration : Duration} : duration.isZero = true ↔ duration.nanos = 0 :=
  decide_eq_true_iff

theorem min_nanos_le_right (left right : Duration) : (min left right).nanos ≤ right.nanos := by
  unfold min
  split
  · assumption
  · exact Nat.le_refl _

theorem min_nanos (left right : Duration) :
    (min left right).nanos = Nat.min left.nanos right.nanos := by
  unfold min
  split
  · next shorter => exact (Nat.min_eq_left shorter).symm
  · next longer => exact (Nat.min_eq_right (Nat.le_of_not_le longer)).symm

theorem fromSecs_nanos (secs : UInt64) : (fromSecs secs).nanos = secs.toNat * nanosPerSec := rfl

theorem saturatingSub_nanos (left right : Duration) :
    (saturatingSub left right).nanos = left.nanos - right.nanos := rfl

end Duration

/-- A reading of the monotone clock, in nanoseconds from its origin. -/
abbrev Instant := Nat

/-- The first instant whose seconds no longer fit a signed 64-bit number. -/
def instantLimit : Nat := UInt64.size / 2 * nanosPerSec

/-- The deadline `duration` from `now`, when it is representable. -/
def Instant.checkedAdd (now : Instant) (duration : Duration) : Option Instant :=
  if now + duration.nanos < instantLimit then some (now + duration.nanos) else none

theorem Instant.checkedAdd_eq_some {now deadline : Instant} {duration : Duration}
    (added : Instant.checkedAdd now duration = some deadline) :
    deadline = now + duration.nanos := by
  unfold Instant.checkedAdd at added
  split at added
  · exact (Option.some.inj added).symm
  · cases added

theorem Instant.checkedAdd_of_lt {now : Instant} {duration : Duration}
    (small : now + duration.nanos < instantLimit) :
    Instant.checkedAdd now duration = some (now + duration.nanos) := if_pos small

theorem Instant.lt_limit_of_checkedAdd {now deadline : Instant} {duration : Duration}
    (added : Instant.checkedAdd now duration = some deadline) : deadline < instantLimit := by
  unfold Instant.checkedAdd at added
  split at added
  · next bounded =>
      rw [← Option.some.inj added]
      exact bounded
  · cases added

theorem Instant.checkedAdd_eq_none_iff {now : Instant} {duration : Duration} :
    Instant.checkedAdd now duration = none ↔ instantLimit ≤ now + duration.nanos := by
  unfold Instant.checkedAdd
  rw [ite_eq_right_iff]
  constructor
  · intro never
    exact Nat.le_of_not_lt fun small => Option.some_ne_none _ (never small)
  · intro large small
    exact absurd large (Nat.not_le_of_lt small)

end Foundation
end OidcRs
