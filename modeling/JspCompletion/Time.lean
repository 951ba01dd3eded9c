/-!
# Time

Instants and durations are counted in milliseconds.  A clock may be set back,
and then no time has passed.
-/

namespace JspCompletion

/-- An instant, in milliseconds from an arbitrary start. -/
abbrev Time := Int

/-- The milliseconds from one instant to a later one, zero if the clock went
back. -/
def elapsed (earlier later : Time) : Nat :=
  (later - earlier).toNat

/-- As long as the clock does not go back, a span has passed once it fits in
between. -/
theorem le_elapsed_iff
    {earlier later : Time}
    (forward : earlier ≤ later)
    (span : Nat) :
    span ≤ elapsed earlier later ↔ earlier + span ≤ later := by
  have nonneg : 0 ≤ later - earlier := Int.sub_nonneg_of_le forward
  rw [elapsed, Int.le_toNat nonneg, Int.add_comm]
  exact ⟨Int.add_le_of_le_sub_right, Int.le_sub_right_of_add_le⟩

end JspCompletion
