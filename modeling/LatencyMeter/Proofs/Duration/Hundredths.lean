import LatencyMeter.Proofs.Duration.Text

/-!
# How the texts of durations are rounded

The unit in the text of a duration is chosen by its exact length, and the number is rounded to two
decimal places afterwards. The number is at least one, and it is below a thousand, except for
durations so little below the next unit that rounding reaches it: they are shown as a thousand of
their own unit. The double that is rounded is so near the exact quotient that only lengths halfway
between two hundredths are decided by it.
-/

namespace LatencyMeter
namespace Duration

/-! ## Rounding to hundredths -/

section Length

variable {nanos : Nat}

/-- The double of a quotient and the rounding to hundredths together. -/
theorem hundredths_near
    (larger : ShownUnit.of nanos ≠ .nanoseconds)
    (bound : nanos < 2 ^ 100) :
    200 * nanos * (1 - 1 / 2 ^ 53) ^ 3 ≤
        ((2 * hundredths nanos + 1) * (ShownUnit.of nanos).nanos : ℚ) ∧
      (2 * hundredths nanos - 1) * (ShownUnit.of nanos).nanos ≤
        (200 * nanos * (1 + 1 / 2 ^ 53) ^ 3 : ℚ) := by
  obtain ⟨lower, upper⟩ := Decimal.placeUnits_bounds
    (near_shown_quotient (ShownUnit.pos_of_ne_nanoseconds larger) bound _) 2
  rw [← hundredths_of_quotient larger] at lower upper
  have unit : (0 : ℚ) < (ShownUnit.of nanos).nanos := by
    exact_mod_cast (ShownUnit.of nanos).nanos_bounds.1
  constructor
  · rw [← div_le_iff₀ unit]
    refine le_trans (le_of_eq ?_) lower
    ring
  · rw [← le_div_iff₀ unit, sub_le_iff_le_add]
    refine upper.trans (le_of_eq ?_)
    ring

/-- As long as a length is not too large, the double is so near the quotient that the number is
off by half a hundredth at most. -/
theorem hundredths_bounds (small : nanos < 2000000000) :
    200 * nanos ≤ (2 * hundredths nanos + 1) * (ShownUnit.of nanos).nanos ∧
      2 * hundredths nanos * (ShownUnit.of nanos).nanos ≤
        200 * nanos + (ShownUnit.of nanos).nanos := by
  by_cases larger : ShownUnit.of nanos = .nanoseconds
  · have same : hundredths nanos = 100 * nanos := by
      unfold hundredths
      rw [larger]
    rw [same, larger]
    dsimp only [ShownUnit.nanos]
    omega
  · obtain ⟨lower, upper⟩ := hundredths_near larger (by omega)
    have few : (nanos : ℚ) < 2000000000 := by exact_mod_cast small
    -- What the double is off by is less than one here, and so nothing between whole numbers.
    have lower' : (200 * nanos : ℚ) <
        (2 * hundredths nanos + 1) * (ShownUnit.of nanos).nanos + 1 := by
      linarith
    have upper' : (2 * hundredths nanos * (ShownUnit.of nanos).nanos : ℚ) <
        200 * nanos + (ShownUnit.of nanos).nanos + 1 := by
      linarith
    exact ⟨Nat.lt_succ_iff.mp (by exact_mod_cast lower'),
      Nat.lt_succ_iff.mp (by exact_mod_cast upper')⟩

/-- Two seconds and more are not shown as one. -/
theorem hundredths_of_large
    (large : 2000000000 ≤ nanos)
    (bound : nanos < 2 ^ 100) :
    101 ≤ hundredths nanos := by
  have unit : ShownUnit.of nanos = .seconds := by
    rw [ShownUnit.of, if_neg (by omega), if_neg (by omega), if_neg (by omega)]
  obtain ⟨lower, _⟩ := hundredths_near (by rw [unit]; decide) bound
  rw [unit] at lower
  have many : (2000000000 : ℚ) ≤ nanos := by exact_mod_cast large
  have more : (100 : ℚ) < hundredths nanos := by
    norm_num [ShownUnit.nanos] at lower
    linarith
  exact_mod_cast more

/-! ## The ends of a unit -/

/-- A number of hundredths is reached by what is less than half a hundredth below it. -/
theorem le_hundredths
    {least : Nat}
    (small : nanos < 2000000000)
    (above : 2 * least * (ShownUnit.of nanos).nanos <
      200 * nanos + (ShownUnit.of nanos).nanos) :
    least ≤ hundredths nanos := by
  have bounds := (hundredths_bounds small).1
  have scaled : 2 * least * (ShownUnit.of nanos).nanos <
      (2 * hundredths nanos + 1 + 1) * (ShownUnit.of nanos).nanos := by
    rw [Nat.succ_mul (2 * hundredths nanos + 1)]
    omega
  have doubled := Nat.lt_of_mul_lt_mul_right scaled
  omega

/-- A number of hundredths is not passed by what is less than half a hundredth above it. -/
theorem hundredths_le
    {most : Nat}
    (small : nanos < 2000000000)
    (below : 200 * nanos < (2 * most + 1) * (ShownUnit.of nanos).nanos) :
    hundredths nanos ≤ most := by
  have bounds := (hundredths_bounds small).2
  have scaled : 2 * hundredths nanos * (ShownUnit.of nanos).nanos <
      (2 * most + 1 + 1) * (ShownUnit.of nanos).nanos := by
    rw [Nat.succ_mul (2 * most + 1)]
    omega
  have doubled := Nat.lt_of_mul_lt_mul_right scaled
  omega

/-- What fills a unit is shown as at least one of it. -/
theorem hundred_le_hundredths
    (positive : 0 < nanos)
    (bound : nanos < 2 ^ 100) :
    100 ≤ hundredths nanos := by
  have filled := ShownUnit.nanos_of_le positive
  have unit := (ShownUnit.of nanos).nanos_bounds
  by_cases small : nanos < 2000000000
  · exact le_hundredths small (by omega)
  · exact Nat.le_of_succ_le (hundredths_of_large (Nat.not_lt.mp small) bound)

/-- What does not fill the next unit is not shown as more than a thousand of its own. -/
theorem hundredths_le_hundred_thousand (below : nanos < 1000000000) :
    hundredths nanos ≤ 100000 := by
  have room := ShownUnit.lt_of_lt_second below
  exact hundredths_le (by omega) (by omega)

/-- A length that lies between two hundredths is shown as one of a unit if it is half a
hundredth above it: the double of the quotient is the smaller one of two. -/
theorem hundredths_of_half_above
    (tie : 200 * nanos = 201 * (ShownUnit.of nanos).nanos) :
    hundredths nanos = 100 := by
  rcases ShownUnit.of_cases nanos with ⟨_, unit⟩ | ⟨_, unit⟩ | ⟨_, unit⟩ | ⟨_, unit⟩ <;>
    rw [unit, ShownUnit.nanos] at tie
  · omega
  · obtain rfl : nanos = 1005 := by omega
    decide +kernel
  · obtain rfl : nanos = 1005000 := by omega
    decide +kernel
  · obtain rfl : nanos = 1005000000 := by omega
    decide +kernel

/-- The same half a hundredth below a thousand: the double of the quotient is the larger one. -/
theorem hundredths_of_half_below
    (below : nanos < 1000000000)
    (tie : 200 * nanos = 199999 * (ShownUnit.of nanos).nanos) :
    hundredths nanos = 100000 := by
  rcases ShownUnit.of_cases nanos with ⟨_, unit⟩ | ⟨_, unit⟩ | ⟨_, unit⟩ | ⟨_, unit⟩ <;>
    rw [unit, ShownUnit.nanos] at tie
  · omega
  · obtain rfl : nanos = 999995 := by omega
    decide +kernel
  · obtain rfl : nanos = 999995000 := by omega
    decide +kernel
  · omega

/-- What is shown as one of a unit is half a hundredth above it at most. -/
theorem hundredths_eq_hundred_iff
    (positive : 0 < nanos)
    (bound : nanos < 2 ^ 100) :
    hundredths nanos = 100 ↔ 200 * nanos ≤ 201 * (ShownUnit.of nanos).nanos := by
  have least := hundred_le_hundredths positive bound
  have unit := (ShownUnit.of nanos).nanos_bounds
  by_cases small : nanos < 2000000000
  · constructor
    · intro same
      by_contra above
      have more : 101 ≤ hundredths nanos := le_hundredths small (by omega)
      omega
    · intro below
      rcases Nat.lt_or_eq_of_le below with less | tie
      · exact Nat.le_antisymm (hundredths_le small (by omega)) least
      · exact hundredths_of_half_above tie
  · have more := hundredths_of_large (Nat.not_lt.mp small) bound
    constructor <;> intro <;> omega

/-- What is shown as a thousand of a unit is half a hundredth below it at most. -/
theorem hundredths_eq_hundred_thousand_iff (below : nanos < 1000000000) :
    hundredths nanos = 100000 ↔ 199999 * (ShownUnit.of nanos).nanos ≤ 200 * nanos := by
  have most := hundredths_le_hundred_thousand below
  constructor
  · intro same
    by_contra less
    have fewer : hundredths nanos ≤ 99999 := hundredths_le (by omega) (by omega)
    omega
  · intro above
    rcases Nat.lt_or_eq_of_le above with more | tie
    · exact Nat.le_antisymm most (le_hundredths (by omega) (by omega))
    · exact hundredths_of_half_below below tie.symm

end Length

/-! ## Rounding up to the next unit -/

/-- A length is below a unit by five millionths of it at most. -/
def RoundsUpTo (unit : ShownUnit) (nanos : Nat) : Prop :=
  999995 * unit.nanos ≤ 1000000 * nanos ∧ nanos < unit.nanos

/-- Such a length is shown as a thousand of the unit before. -/
theorem roundsUpTo_iff
    {nanos : Nat}
    (below : nanos < 1000000000)
    (unit : ShownUnit) :
    RoundsUpTo unit nanos ↔
      1000 * (ShownUnit.of nanos).nanos = unit.nanos ∧ hundredths nanos = 100000 := by
  rw [hundredths_eq_hundred_thousand_iff below, RoundsUpTo]
  rcases ShownUnit.of_cases nanos with ⟨_, own⟩ | ⟨_, own⟩ | ⟨_, own⟩ | ⟨_, own⟩ <;>
    rw [own] <;> cases unit <;> dsimp only [ShownUnit.nanos] <;> omega

theorem exists_roundsUpTo_iff
    {nanos : Nat}
    (below : nanos < 1000000000) :
    (exists unit, RoundsUpTo unit nanos) ↔ hundredths nanos = 100000 := by
  simp only [roundsUpTo_iff below, exists_and_right]
  refine and_iff_right_of_imp fun _ => ?_
  rcases ShownUnit.of_cases nanos with ⟨_, own⟩ | ⟨_, own⟩ | ⟨_, own⟩ | ⟨_, own⟩ <;> rw [own]
  · exact ⟨.microseconds, rfl⟩
  · exact ⟨.milliseconds, rfl⟩
  · exact ⟨.seconds, rfl⟩
  · omega

section Pair

variable {shorter longer : Nat}

/-- A longer length with another unit is beyond a thousand of the unit of the shorter one. -/
theorem next_unit_le
    (ordered : shorter < longer)
    (differ : ShownUnit.of shorter ≠ ShownUnit.of longer) :
    shorter < 1000000000 ∧
      1000 * (ShownUnit.of shorter).nanos ≤ (ShownUnit.of longer).nanos := by
  rcases ShownUnit.of_cases shorter with ⟨_, first⟩ | ⟨_, first⟩ | ⟨_, first⟩ | ⟨_, first⟩ <;>
    rcases ShownUnit.of_cases longer with ⟨_, second⟩ | ⟨_, second⟩ | ⟨_, second⟩ |
        ⟨_, second⟩ <;>
      rw [first, second] at differ ⊢ <;> dsimp only [ShownUnit.nanos] <;>
        first | omega | contradiction

/-- The shorter of two lengths is shown as no more than a thousand of its unit, and the longer
one as no less than one of a larger unit. -/
theorem amounts_le
    (ordered : shorter < longer)
    (differ : ShownUnit.of shorter ≠ ShownUnit.of longer)
    (bound : longer < 2 ^ 100) :
    hundredths shorter * (ShownUnit.of shorter).nanos ≤
        hundredths longer * (ShownUnit.of longer).nanos ∧
      (hundredths shorter * (ShownUnit.of shorter).nanos =
          hundredths longer * (ShownUnit.of longer).nanos ↔
        RoundsUpTo (ShownUnit.of longer) shorter ∧
          200 * longer ≤ 201 * (ShownUnit.of longer).nanos) := by
  obtain ⟨below, next⟩ := next_unit_le ordered differ
  have positive : 0 < longer := Nat.zero_lt_of_lt ordered
  have least := Nat.mul_le_mul_right (ShownUnit.of longer).nanos
    (hundred_le_hundredths positive bound)
  have most := Nat.mul_le_mul_right (ShownUnit.of shorter).nanos
    (hundredths_le_hundred_thousand below)
  rw [roundsUpTo_iff below, ← hundredths_eq_hundred_iff positive bound]
  refine ⟨by omega, fun same => ?_, ?_⟩
  · have first : hundredths shorter * (ShownUnit.of shorter).nanos =
        100000 * (ShownUnit.of shorter).nanos := by
      omega
    have second : hundredths longer * (ShownUnit.of longer).nanos =
        100 * (ShownUnit.of longer).nanos := by
      omega
    exact ⟨⟨by omega, Nat.eq_of_mul_eq_mul_right (ShownUnit.nanos_bounds _).1 first⟩,
      Nat.eq_of_mul_eq_mul_right (ShownUnit.nanos_bounds _).1 second⟩
  · rintro ⟨⟨_, first⟩, second⟩
    rw [first, second]
    omega

end Pair

/-! ## Texts of durations -/

theorem toNanos_eq_zero_iff (duration : Duration) : duration.toNanos = 0 ↔ duration = zero := by
  constructor
  · intro none
    obtain ⟨seconds, nanoseconds, _⟩ := duration
    simp only [toNanos, Nat.add_eq_zero_iff, Nat.mul_eq_zero] at none
    obtain ⟨whole | impossible, rest⟩ := none
    · obtain rfl : seconds = 0 := UInt64.toNat_inj.mp whole
      obtain rfl : nanoseconds = 0 := UInt32.toNat_inj.mp rest
      rfl
    · contradiction
  · rintro rfl
    rfl

theorem nanos_shown (count : Nat) (unit : ShownUnit) :
    Shown.nanos ⟨count / 100, unit⟩ = (count * unit.nanos : Nat) / 100 := by
  rw [Shown.nanos]
  push_cast
  ring

/-- The unit in the text of a duration is suited to its size, except that what is below the next
unit by five millionths of that unit at most is shown as a thousand of its own unit. -/
theorem unit_suits_size_unless_rounded_up (duration : Duration) :
    exists shown,
      shown? duration.text = some shown ∧
        (duration.toNanos < nanosPerSecond ->
          shown.unit ≠ .seconds ∧
            (duration = zero -> shown = ⟨0, .nanoseconds⟩) ∧
            (duration ≠ zero ->
              (shown.unit.nanos ≤ duration.toNanos ∧
                duration.toNanos < 1000 * shown.unit.nanos) ∧
              1 ≤ shown.number ∧ shown.number ≤ 1000) ∧
            (shown.number < 1000 ↔ forall unit, ¬ RoundsUpTo unit duration.toNanos)) ∧
        forall longer : Duration,
          duration.toNanos < longer.toNanos ->
            exists next,
              shown? longer.text = some next ∧
                (shown.unit ≠ next.unit ->
                  shown.unit.nanos < next.unit.nanos ∧ shown.nanos ≤ next.nanos ∧
                    (shown.nanos < next.nanos ↔
                      ¬ (RoundsUpTo next.unit duration.toNanos ∧
                        200 * longer.toNanos ≤ 201 * next.unit.nanos))) := by
  refine ⟨_, shown?_text duration, fun below => ?_, fun longer ordered => ?_⟩
  · have most := hundredths_le_hundred_thousand below
    refine ⟨ShownUnit.of_ne_seconds below, ?_, fun nonzero => ?_, ?_⟩
    · rintro rfl
      decide +kernel
    · have positive : 0 < duration.toNanos :=
        Nat.pos_of_ne_zero fun none => nonzero (duration.toNanos_eq_zero_iff.mp none)
      have least := hundred_le_hundredths positive duration.toNanos_lt
      refine ⟨⟨ShownUnit.nanos_of_le positive, ShownUnit.lt_of_lt_second below⟩, ?_⟩
      rw [le_div_iff₀ (by norm_num), div_le_iff₀ (by norm_num)]
      constructor <;> norm_cast
    · rw [← not_exists, exists_roundsUpTo_iff below, div_lt_iff₀ (by norm_num)]
      norm_cast
      omega
  · refine ⟨_, shown?_text longer, fun differ => ?_⟩
    obtain ⟨_, units⟩ := next_unit_le ordered differ
    obtain ⟨positive, _⟩ := (ShownUnit.of duration.toNanos).nanos_bounds
    obtain ⟨atMost, same⟩ := amounts_le ordered differ longer.toNanos_lt
    dsimp only
    rw [← same, nanos_shown, nanos_shown, div_le_div_iff_of_pos_right (by norm_num),
      div_lt_div_iff_of_pos_right (by norm_num), Nat.cast_le, Nat.cast_lt]
    omega

/-- The largest length that does not reach a millisecond by rounding. -/
theorem unit_suits_size_below_one_millisecond :
    exists shown next,
      shown? (ofNanos 999994).text = some shown ∧ shown? (ofNanos 1000000).text = some next ∧
        1 ≤ shown.number ∧ shown.number < 1000 ∧ shown.unit ≠ next.unit ∧
        shown.nanos < next.nanos := by
  have noRounding : forall unit, ¬ RoundsUpTo unit (ofNanos 999994).toNanos := by
    intro unit
    rw [toNanos_ofNanos]
    cases unit <;> (unfold RoundsUpTo; decide)
  obtain ⟨shown, same, single, pair⟩ := unit_suits_size_unless_rounded_up (ofNanos 999994)
  obtain ⟨_, _, bounds, whole⟩ := single (by decide)
  obtain ⟨next, nextShown, ordered⟩ := pair (ofNanos 1000000) (by decide)
  have differ : shown.unit ≠ next.unit := by
    have first := same
    have second := nextShown
    rw [shown?_text] at first second
    obtain rfl := Option.some.inj first
    obtain rfl := Option.some.inj second
    decide
  obtain ⟨_, _, strictly⟩ := ordered differ
  exact ⟨shown, next, same, nextShown, (bounds (by decide)).2.1, whole.mpr noRounding, differ,
    strictly.mpr fun reached => noRounding _ reached.1⟩

/-- Less than a millisecond is shown as a thousand microseconds, as much as a millisecond. -/
theorem thousand_microseconds_shown :
    (ofNanos 999999).toNanos < (ofNanos 1000000).toNanos ∧
      (ofNanos 999999).text = "1000.00μs" ∧ (ofNanos 1000000).text = "1.00ms" ∧
      shown? (ofNanos 999999).text = some ⟨1000, .microseconds⟩ ∧
      shown? (ofNanos 1000000).text = some ⟨1, .milliseconds⟩ ∧
      Shown.nanos ⟨1000, .microseconds⟩ = Shown.nanos ⟨1, .milliseconds⟩ := by
  decide +kernel

end Duration
end LatencyMeter
