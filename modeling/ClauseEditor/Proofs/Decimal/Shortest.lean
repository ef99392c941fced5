import ClauseEditor.Proofs.Decimal.Rounding

/-!
# The shortest decimal is read back

The decimal that is found for a positive number lies in the rounding interval
of the number.  The point is placed so that the number has as many digits as
are asked for, and on the grid of 17 digits one of the two neighbours of the
number always lies in the interval: a step of that grid is less than the
number over `10 ^ 16`, and so less than the interval is wide.
-/

namespace ClauseEditor

/-- The number that a decimal stands for. -/
def ShortDecimal.value (decimal : ShortDecimal) : ℚ :=
  decimal.digits *
    10 ^ (decimal.point - (Nat.toDigits 10 decimal.digits).length)

namespace Binary64

/-! ## The place of the point -/

section Point

variable {numerator denominator : Nat}

/-- The digits of a quotient of at least one. -/
theorem length_quotient_bounds
    (denominatorPositive : 0 < denominator)
    (whole : numerator / denominator ≠ 0) :
    let count := (Nat.toDigits 10 (numerator / denominator)).length
    10 ^ (count - 1) * denominator ≤ numerator ∧
      numerator < 10 ^ count * denominator := by
  rcases toDigits_bounds (Nat.pos_of_ne_zero whole) with ⟨least, most⟩
  exact ⟨(Nat.le_div_iff_mul_le denominatorPositive).mp least,
    (Nat.div_lt_iff_lt_mul denominatorPositive).mp most⟩

/-- The digits of the inverse of a quotient below one, rounded up. -/
theorem length_inverse_bounds
    (numeratorPositive : 0 < numerator)
    (ordered : numerator < denominator) :
    let count := (Nat.toDigits 10 ((denominator - 1) / numerator)).length
    10 ^ (count - 1) * numerator < denominator ∧
      denominator ≤ 10 ^ count * numerator := by
  have one : 0 < (denominator - 1) / numerator :=
    Nat.div_pos (by omega) numeratorPositive
  rcases toDigits_bounds one with ⟨least, most⟩
  have below := (Nat.le_div_iff_mul_le numeratorPositive).mp least
  have above := (Nat.div_lt_iff_lt_mul numeratorPositive).mp most
  dsimp only
  omega

theorem decimalPoint_bounds
    (numeratorPositive : 0 < numerator)
    (denominatorPositive : 0 < denominator) :
    (10 : ℚ) ^ (decimalPoint numerator denominator - 1) ≤
        (numerator : ℚ) / denominator ∧
      (numerator : ℚ) / denominator <
        10 ^ decimalPoint numerator denominator := by
  have positive : (0 : ℚ) < denominator := Nat.cast_pos.mpr denominatorPositive
  rw [decimalPoint]
  dsimp only
  rw [le_div_iff₀ positive, div_lt_iff₀ positive]
  split
  · rename_i small
    rcases length_inverse_bounds numeratorPositive
        ((Nat.div_eq_zero_iff_lt denominatorPositive).mp small)
      with ⟨below, above⟩
    have some :
        0 < (Nat.toDigits 10 ((denominator - 1) / numerator)).length :=
      Nat.length_toDigits_pos
    generalize (Nat.toDigits 10 ((denominator - 1) / numerator)).length = count
      at below above some ⊢
    have next : (10 : ℚ) ^ (1 - (count : Int)) = 1 / 10 ^ (count - 1) := by
      rw [one_div, ← zpow_natCast, ← zpow_neg]
      congr 1
      omega
    rw [show 1 - (count : Int) - 1 = -count by omega, next, zpow_neg,
      zpow_natCast, inv_mul_le_iff₀ (by positivity), one_div,
      lt_inv_mul_iff₀ (by positivity)]
    exact ⟨by exact_mod_cast above, by exact_mod_cast below⟩
  · rename_i large
    rcases length_quotient_bounds denominatorPositive large
      with ⟨least, most⟩
    have some :
        0 < (Nat.toDigits 10 (numerator / denominator)).length :=
      Nat.length_toDigits_pos
    generalize (Nat.toDigits 10 (numerator / denominator)).length = count
      at least most some ⊢
    rw [show (count : Int) - 1 = ((count - 1 : Nat) : Int) by omega,
      zpow_natCast, zpow_natCast]
    exact ⟨by exact_mod_cast least, by exact_mod_cast most⟩

end Point

/-! ## Hits on a grid -/

section Neighbours

variable {interval : RoundingInterval} {scale step : Nat}

/-- A better neighbour is a neighbour in the interval. -/
theorem holds_of_neighbour?
    {digits : Nat}
    (found : neighbour? interval scale step = some digits) :
    interval.holds scale (digits * step) = true ∧
      interval.middle * scale / step ≤ digits ∧
      digits ≤ interval.middle * scale / step + 1 := by
  rw [neighbour?] at found
  split at found
  · rename_i below above
    cases found
    rcases roundQuotient_eq_or (interval.middle * scale) step with same | next
    · rw [same]
      exact ⟨below, Nat.le_refl _, Nat.le_succ _⟩
    · rw [next]
      exact ⟨above, Nat.le_succ _, Nat.le_refl _⟩
  · rename_i below above
    cases found
    exact ⟨below, Nat.le_refl _, Nat.le_succ _⟩
  · rename_i below above
    cases found
    exact ⟨above, Nat.le_succ _, Nat.le_refl _⟩
  · cases found

theorem not_holds_of_neighbour?
    (missed : neighbour? interval scale step = none) :
    interval.holds scale (interval.middle * scale / step * step) = false ∧
      interval.holds scale
        ((interval.middle * scale / step + 1) * step) = false := by
  rw [neighbour?] at missed
  split at missed
  · cases missed
  · cases missed
  · cases missed
  · rename_i below above
    exact ⟨below, above⟩

/-- What lies between the ends lies in the interval. -/
theorem RoundingInterval.Contains.of_lt
    {unit value : ℚ}
    (above : interval.low * unit < value)
    (below : value < interval.high * unit) :
    interval.Contains unit value :=
  ⟨above.le, below.le, fun _ => ⟨above, below⟩⟩

/-- A step that reaches over the whole interval is as wide as the interval. -/
theorem RoundingInterval.width_le
    {quarter unit : ℚ}
    {floor : Nat}
    (positive : 0 < quarter)
    (low_lt : interval.low < interval.middle)
    (lt_high : interval.middle < interval.high)
    (below : floor * unit ≤ interval.middle * quarter)
    (above : interval.middle * quarter < (floor + 1) * unit)
    (notBelow : ¬ interval.Contains quarter (floor * unit))
    (notAbove : ¬ interval.Contains quarter ((floor + 1) * unit)) :
    (interval.high - interval.low) * quarter ≤ unit := by
  have lowLt :
      (interval.low : ℚ) * quarter < interval.middle * quarter :=
    mul_lt_mul_of_pos_right (Nat.cast_lt.mpr low_lt) positive
  have ltHigh :
      (interval.middle : ℚ) * quarter < interval.high * quarter :=
    mul_lt_mul_of_pos_right (Nat.cast_lt.mpr lt_high) positive
  have tooHigh : interval.high * quarter ≤ (floor + 1) * unit := by
    by_contra inside
    exact notAbove (.of_lt (lowLt.trans above) (lt_of_not_ge inside))
  have tooLow : floor * unit ≤ interval.low * quarter := by
    by_contra inside
    exact notBelow (.of_lt (lt_of_not_ge inside) (below.trans_lt ltHigh))
  linarith

end Neighbours

/--
The units of a search on whole numbers: the quarters of the interval and the
steps of the grid are counted in one common part.
-/
structure Measures
    (scale step : Nat)
    (quarter unit factor : ℚ) :
    Prop where
  factor_pos : 0 < factor
  unit_pos : 0 < unit
  scale_eq : (scale : ℚ) = quarter * factor
  step_eq : (step : ℚ) = unit * factor

/-- The units that are taken for a digit whose place is `unit`. -/
theorem exists_measures (quarter unit : Int) :
    ∃ factor : ℚ,
      Measures
        (Nat.pow 2 quarter.toNat * Nat.pow 10 (-unit).toNat)
        (Nat.pow 2 (-quarter).toNat * Nat.pow 10 unit.toNat)
        (2 ^ quarter) (10 ^ unit) factor := by
  refine ⟨2 ^ (-quarter).toNat * 10 ^ (-unit).toNat, by positivity,
    by positivity, ?_, ?_⟩
  · rw [Nat.pow_eq, Nat.pow_eq]
    push_cast
    rw [pow_toNat (by norm_num : (2 : ℚ) ≠ 0) quarter]
    ring
  · rw [Nat.pow_eq, Nat.pow_eq]
    push_cast
    rw [pow_toNat (by norm_num : (10 : ℚ) ≠ 0) unit]
    ring

section Grid

variable
    {interval : RoundingInterval}
    {scale step : Nat}
    {quarter unit factor : ℚ}

/-- The test on whole numbers is the test on the interval. -/
theorem Measures.holds_iff
    (measures : Measures scale step quarter unit factor)
    (digits : Nat) :
    interval.holds scale (digits * step) = true ↔
      interval.Contains quarter (digits * unit) := by
  have positive := measures.factor_pos
  have compare (bound : Nat) :
      (bound * scale ≤ digits * step ↔ bound * quarter ≤ digits * unit) ∧
        (digits * step ≤ bound * scale ↔
          digits * unit ≤ bound * quarter) := by
    rw [← Nat.cast_le (α := ℚ), ← Nat.cast_le (α := ℚ), Nat.cast_mul,
      Nat.cast_mul, measures.scale_eq, measures.step_eq, ← mul_assoc,
      ← mul_assoc, mul_le_mul_iff_of_pos_right positive,
      mul_le_mul_iff_of_pos_right positive]
    exact ⟨Iff.rfl, Iff.rfl⟩
  rw [RoundingInterval.holds, RoundingInterval.Contains]
  cases interval.closed with
  | true =>
      simp [compare]
  | false =>
      simp only [Bool.false_eq_true, if_false, ← not_le, compare,
        Bool.and_eq_true, decide_eq_true_eq, forall_const]
      constructor
      · rintro ⟨above, below⟩
        exact ⟨le_of_not_ge above, le_of_not_ge below, above, below⟩
      · rintro ⟨_, _, above, below⟩
        exact ⟨above, below⟩

/-- The number lies between its neighbours on the grid. -/
theorem Measures.floor_bounds
    (measures : Measures scale step quarter unit factor)
    (middle : Nat) :
    ((middle * scale / step : Nat) : ℚ) * unit ≤ middle * quarter ∧
      middle * quarter < ((middle * scale / step : Nat) + 1) * unit := by
  have positive := measures.factor_pos
  have stepPositive : 0 < step := by
    rw [← Nat.cast_pos (α := ℚ), measures.step_eq]
    exact mul_pos measures.unit_pos positive
  have parts := Nat.div_mul_le_self (middle * scale) step
  have rest := Nat.lt_div_mul_add stepPositive (a := middle * scale)
  generalize middle * scale / step = floor at parts rest ⊢
  rw [← Nat.cast_le (α := ℚ)] at parts
  rw [← Nat.cast_lt (α := ℚ)] at rest
  push_cast at parts rest
  rw [measures.scale_eq, measures.step_eq] at parts rest
  constructor
  · rw [← mul_le_mul_iff_of_pos_right positive]
    linarith
  · rw [← mul_lt_mul_iff_of_pos_right positive]
    linarith

end Grid

/-! ## The search -/

section Search

variable
    {mantissa scale step : Nat}
    {exponent point : Int}
    {factor : ℚ}

theorem middle_eq (mantissa : Nat) (exponent : Int) :
    ((roundingInterval mantissa exponent).middle : ℚ) * 2 ^ (exponent - 2) =
      mantissa * 2 ^ exponent := by
  rw [show (2 : Int) = ((2 : Nat) : Int) from rfl, two_zpow_sub,
    roundingInterval]
  push_cast
  ring

/-- A hit on the grid of some number of digits. -/
theorem hit_bounds
    {count digits : Nat}
    (low : 10 ^ (point - 1) ≤ (mantissa : ℚ) * 2 ^ exponent)
    (high : (mantissa : ℚ) * 2 ^ exponent < 10 ^ point)
    (countPositive : 0 < count)
    (measures :
      Measures scale step (2 ^ (exponent - 2)) (10 ^ (point - count)) factor)
    (found :
      neighbour? (roundingInterval mantissa exponent) scale step =
        some digits) :
    RoundsTo mantissa exponent (digits * 10 ^ (point - count)) ∧
      10 ^ (count - 1) ≤ digits ∧ digits ≤ 10 ^ count := by
  have unit := measures.unit_pos
  have ten : (10 : ℚ) ≠ 0 := by norm_num
  rcases holds_of_neighbour? found with ⟨holds, least, most⟩
  rcases measures.floor_bounds (roundingInterval mantissa exponent).middle
    with ⟨below, above⟩
  rw [middle_eq] at below above
  generalize (roundingInterval mantissa exponent).middle * scale / step = floor
    at least most below above
  have floorLeast : 10 ^ (count - 1) ≤ floor := by
    have power :
        (10 : ℚ) ^ (point - 1) = 10 ^ (count - 1) * 10 ^ (point - count) := by
      rw [← zpow_natCast, ← zpow_add₀ ten]
      congr 1
      omega
    rw [power] at low
    have rational : (10 : ℚ) ^ (count - 1) < floor + 1 :=
      lt_of_mul_lt_mul_right (low.trans_lt above) unit.le
    have natural : 10 ^ (count - 1) < floor + 1 := by exact_mod_cast rational
    exact Nat.le_of_lt_succ natural
  have floorMost : floor < 10 ^ count := by
    have power : (10 : ℚ) ^ point = 10 ^ count * 10 ^ (point - count) := by
      rw [← zpow_natCast, ← zpow_add₀ ten]
      congr 1
      omega
    rw [power] at high
    have rational : (floor : ℚ) < 10 ^ count :=
      lt_of_mul_lt_mul_right (below.trans_lt high) unit.le
    exact_mod_cast rational
  exact ⟨(measures.holds_iff digits).mp holds, by omega, by omega⟩

/-- The ends of the interval; below a power of two the numbers are closer. -/
theorem ends_roundingInterval
    (positive : 0 < mantissa)
    (exponent : Int) :
    let interval := roundingInterval mantissa exponent
    interval.middle = 4 * mantissa ∧ interval.high = 4 * mantissa + 2 ∧
      (interval.low + 2 = 4 * mantissa ∨
        mantissa = 2 ^ 52 ∧ interval.low + 1 = 4 * mantissa) := by
  refine ⟨rfl, rfl, ?_⟩
  dsimp only [roundingInterval]
  split
  · rename_i near
    exact Or.inr ⟨near.1, by omega⟩
  · exact Or.inl (by omega)

/-- Seventeen digits are enough. -/
theorem exists_hit
    (canonical : Canonical mantissa exponent)
    (positive : 0 < mantissa)
    (low : 10 ^ (point - 1) ≤ (mantissa : ℚ) * 2 ^ exponent)
    (measures :
      Measures scale step (2 ^ (exponent - 2)) (10 ^ (point - (17 : Nat)))
        factor) :
    neighbour? (roundingInterval mantissa exponent) scale step ≠ none := by
  intro missed
  have quarter : (0 : ℚ) < 2 ^ (exponent - 2) := by positivity
  have fine :
      (10 : ℚ) ^ (point - (17 : Nat)) * 10 ^ 16 ≤
        (roundingInterval mantissa exponent).middle * 2 ^ (exponent - 2) := by
    rw [middle_eq]
    refine le_trans (le_of_eq ?_) low
    rw [← zpow_natCast, ← zpow_add₀ (by norm_num : (10 : ℚ) ≠ 0)]
    congr 1
    push_cast
    omega
  rcases not_holds_of_neighbour? missed with ⟨missedBelow, missedAbove⟩
  rcases measures.floor_bounds (roundingInterval mantissa exponent).middle
    with ⟨below, above⟩
  have notBelow := mt (measures.holds_iff _).mpr (ne_true_of_eq_false missedBelow)
  have notAbove := mt (measures.holds_iff _).mpr (ne_true_of_eq_false missedAbove)
  rw [Nat.cast_succ] at notAbove
  rcases ends_roundingInterval positive exponent with ⟨middle, high, least⟩
  have width :=
    RoundingInterval.width_le quarter (by omega) (by omega) below above
      notBelow notAbove
  rw [middle] at fine
  rw [high] at width
  generalize (roundingInterval mantissa exponent).low = start at least width
  generalize (10 : ℚ) ^ (point - (17 : Nat)) = unit at fine width
  generalize (2 : ℚ) ^ (exponent - 2) = part at quarter fine width
  push_cast at fine width
  -- A step of the grid would have to reach over the whole interval.
  rcases least with regular | ⟨power, near⟩
  · have lowest : (start : ℚ) + 2 = 4 * mantissa := by exact_mod_cast regular
    have most : (mantissa : ℚ) ≤ 2 ^ 53 := by
      exact_mod_cast canonical.mantissa_lt.le
    have four : 4 * part ≤ unit := by
      rw [← lowest] at width
      linarith
    have bounded : mantissa * part ≤ 2 ^ 53 * part :=
      mul_le_mul_of_nonneg_right most quarter.le
    linarith
  · have lowest : (start : ℚ) + 1 = 4 * mantissa := by exact_mod_cast near
    have three : 3 * part ≤ unit := by
      rw [← lowest] at width
      linarith
    rw [power] at fine
    norm_num at fine
    linarith

theorem pow_unit (count : Nat) (point : Int) :
    ((Nat.pow 10 count : Nat) : ℚ) * 10 ^ (point - count) = 10 ^ point := by
  rw [Nat.pow_eq]
  push_cast
  rw [← zpow_natCast, ← zpow_add₀ (by norm_num : (10 : ℚ) ≠ 0)]
  congr 1
  omega

/-- The search ends with a decimal that is read as the number. -/
theorem firstHit_rounds
    (canonical : Canonical mantissa exponent)
    (positive : 0 < mantissa)
    (low : 10 ^ (point - 1) ≤ (mantissa : ℚ) * 2 ^ exponent)
    (high : (mantissa : ℚ) * 2 ^ exponent < 10 ^ point)
    {counts : List Nat}
    (some : ∀ count ∈ counts, 0 < count)
    (enough : 17 ∈ counts) :
    0 < (firstHit (roundingInterval mantissa exponent) exponent point
          counts).digits ∧
      RoundsTo mantissa exponent
        (firstHit (roundingInterval mantissa exponent) exponent point
          counts).value := by
  induction counts with
  | nil => cases enough
  | cons count more induction =>
      rcases exists_measures (exponent - 2) (point - count)
        with ⟨factor, measures⟩
      rw [firstHit]
      split
      · rename_i digits found
        rcases hit_bounds low high (some _ List.mem_cons_self) measures found
          with ⟨inside, least, most⟩
        split
        · rename_i full
          refine ⟨Nat.one_pos, ?_⟩
          rw [full, pow_unit] at inside
          have single : (Nat.toDigits 10 1).length = 1 := rfl
          rw [ShortDecimal.value, single, Nat.cast_one, Nat.cast_one, one_mul,
            Int.add_sub_cancel]
          exact inside
        · rename_i notFull
          have digitsLt : digits < 10 ^ count := Nat.lt_of_le_of_ne most notFull
          refine ⟨lt_of_lt_of_le (Nat.pow_pos (by decide)) least, ?_⟩
          rw [ShortDecimal.value,
            length_toDigits_eq (some _ List.mem_cons_self) least digitsLt]
          exact inside
      · rename_i missed
        have other : count ≠ 17 := by
          rintro rfl
          exact exists_hit canonical positive low measures missed
        exact induction
          (fun count member => some count (List.mem_cons_of_mem _ member))
          ((List.mem_cons.mp enough).resolve_left (Ne.symm other))

theorem shortest_rounds
    (canonical : Canonical mantissa exponent)
    (positive : 0 < mantissa) :
    0 < (shortest mantissa exponent).digits ∧
      RoundsTo mantissa exponent (shortest mantissa exponent).value := by
  have above : 0 < mantissa * Nat.pow 2 exponent.toNat :=
    Nat.mul_pos positive (Nat.pow_pos (by decide))
  have below : 0 < Nat.pow 2 (-exponent).toNat := Nat.pow_pos (by decide)
  rcases decimalPoint_bounds above below with ⟨low, high⟩
  rw [quotient_eq (by decide), Nat.cast_ofNat] at low high
  rw [shortest]
  apply firstHit_rounds canonical positive low high
  · intro count member
    exact (List.mem_range'_1.mp member).1
  · decide

end Search

end Binary64

end ClauseEditor
