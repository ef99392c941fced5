import Mathlib.Algebra.Order.Field.Power
import Mathlib.Algebra.Order.Round
import Mathlib.Data.Nat.Log
import Mathlib.Tactic.FieldSimp
import Mathlib.Tactic.Linarith
import Mathlib.Tactic.NormNum
import Mathlib.Tactic.Positivity
import Mathlib.Tactic.Ring
import ClauseEditor.Decimal.Shortest

/-!
# Which numerals are read as a number

Every finite number has one canonical form: its mantissa has 53 bits unless
its exponent is the least one.  A quotient is rounded by first finding the
exponent of the numbers around it, and this exponent is determined by two
bounds on the quotient.

So a decimal is read as a given positive number whenever it lies in the
rounding interval of the number.  Below a power of two the exponent is found
one too small, and there the mantissa is rounded up to `2 ^ 53`.
-/

namespace ClauseEditor.Binary64

/-! ## Canonical forms -/

/-- The mantissa is as long as the exponent allows. -/
structure Canonical (mantissa : Nat) (exponent : Int) : Prop where
  mantissa_lt : mantissa < 2 ^ 53
  least_le : leastExponent ≤ exponent
  le_greatest : exponent ≤ greatestExponent
  full : exponent = leastExponent ∨ 2 ^ 52 ≤ mantissa

/-- A number in canonical form. -/
def IsCanonical : Binary64 → Prop
  | .finite _ mantissa exponent => Canonical mantissa exponent
  | _ => True

/-! ## Rounding a quotient to a natural number -/

section RoundQuotient

variable {numerator denominator : Nat}

theorem roundQuotient_eq_or (numerator denominator : Nat) :
    roundQuotient numerator denominator = numerator / denominator ∨
      roundQuotient numerator denominator = numerator / denominator + 1 := by
  rw [roundQuotient]
  split
  · exact Or.inl rfl
  · split
    · exact Or.inr rfl
    · rcases Nat.mod_two_eq_zero_or_one (numerator / denominator) with
        even | odd
      · exact Or.inl (by rw [even, Nat.add_zero])
      · exact Or.inr (by rw [odd])

/-- A natural number that is near enough is the rounded quotient. -/
theorem roundQuotient_eq
    {nearest : Nat}
    (positive : 0 < denominator)
    (low : 2 * nearest * denominator ≤ 2 * numerator + denominator)
    (high : 2 * numerator ≤ 2 * nearest * denominator + denominator)
    (ends :
      nearest % 2 = 1 →
        2 * nearest * denominator < 2 * numerator + denominator ∧
          2 * numerator < 2 * nearest * denominator + denominator) :
    roundQuotient numerator denominator = nearest := by
  have parts := Nat.div_add_mod numerator denominator
  have rest := Nat.mod_lt numerator positive
  rw [roundQuotient]
  generalize numerator / denominator = floor at parts ⊢
  generalize numerator % denominator = remainder at parts rest ⊢
  have lower : floor ≤ nearest := by
    by_contra above
    have step : (nearest + 1) * denominator ≤ denominator * floor := by
      rw [Nat.mul_comm]
      exact Nat.mul_le_mul_left _ (Nat.lt_of_not_le above)
    nlinarith
  have upper : nearest ≤ floor + 1 := by
    by_contra above
    have step : denominator * (floor + 2) ≤ nearest * denominator := by
      rw [Nat.mul_comm nearest]
      exact Nat.mul_le_mul_left _ (Nat.lt_of_not_le above)
    nlinarith
  rcases Nat.lt_or_ge floor nearest with next | same
  · obtain rfl : nearest = floor + 1 := by omega
    have product :
        2 * (floor + 1) * denominator =
          2 * (denominator * floor) + 2 * denominator := by ring
    rw [product] at low high ends
    split
    · omega
    · split
      · rfl
      · omega
  · obtain rfl : nearest = floor := by omega
    have product :
        2 * nearest * denominator = 2 * (denominator * nearest) := by ring
    rw [product] at low high ends
    split
    · rfl
    · split
      · omega
      · omega

theorem roundQuotient_le
    {bound : Nat}
    (positive : 0 < denominator)
    (within : numerator ≤ bound * denominator) :
    roundQuotient numerator denominator ≤ bound := by
  have parts := Nat.div_add_mod numerator denominator
  have rest := Nat.mod_lt numerator positive
  have floor_le : numerator / denominator ≤ bound :=
    (Nat.div_le_iff_le_mul_add_pred positive).mpr (by
      rw [Nat.mul_comm denominator]
      omega)
  rcases Nat.lt_or_ge (numerator / denominator) bound with below | reached
  · rcases roundQuotient_eq_or numerator denominator with same | next
    · omega
    · omega
  · have whole : numerator / denominator = bound := by omega
    have nothing : numerator % denominator = 0 := by
      rw [whole, Nat.mul_comm] at parts
      omega
    rw [roundQuotient]
    simp only [nothing, whole]
    rw [if_pos (by omega)]

theorem le_roundQuotient
    {bound : Nat}
    (positive : 0 < denominator)
    (within : bound * denominator ≤ numerator) :
    bound ≤ roundQuotient numerator denominator := by
  have floor_ge := (Nat.le_div_iff_mul_le positive).mpr within
  rcases roundQuotient_eq_or numerator denominator with same | next
  · omega
  · omega

end RoundQuotient

/-! ## Exponents -/

/-- The exponent of the numbers around a positive value. -/
structure HasExponent (value : ℚ) (exponent : Int) : Prop where
  least_le : leastExponent ≤ exponent
  lt_top : value < 2 ^ (exponent + 53)
  le_or : exponent = leastExponent ∨ (2 : ℚ) ^ (exponent + 52) ≤ value

theorem HasExponent.le
    {value : ℚ}
    {exponent other : Int}
    (one : HasExponent value exponent)
    (two : HasExponent value other) :
    exponent ≤ other := by
  rcases one.le_or with least | reached
  · rw [least]
    exact two.least_le
  · have ordered : (2 : ℚ) ^ (exponent + 52) < 2 ^ (other + 53) :=
      lt_of_le_of_lt reached two.lt_top
    have exponents :=
      (zpow_lt_zpow_iff_right₀ (by norm_num : (1 : ℚ) < 2)).mp ordered
    omega

theorem HasExponent.unique
    {value : ℚ}
    {exponent other : Int}
    (one : HasExponent value exponent)
    (two : HasExponent value other) :
    exponent = other :=
  Int.le_antisymm (one.le two) (two.le one)

/-- A power with an exponent cut at zero, and what was cut off. -/
theorem pow_toNat
    {base : ℚ}
    (nonzero : base ≠ 0)
    (exponent : Int) :
    base ^ exponent.toNat = base ^ exponent * base ^ (-exponent).toNat := by
  rw [← zpow_natCast, ← zpow_natCast, ← zpow_add₀ nonzero]
  congr 1
  omega

section Quotient

variable
    {numerator denominator : Nat}
    (numeratorPositive : 0 < numerator)
    (denominatorPositive : 0 < denominator)

include numeratorPositive denominatorPositive

/-- The binary logarithms bound a quotient. -/
theorem log2_bounds :
    (2 : ℚ) ^ ((numerator.log2 : Int) - denominator.log2 - 1) ≤
        (numerator : ℚ) / denominator ∧
      (numerator : ℚ) / denominator <
        2 ^ ((numerator.log2 : Int) - denominator.log2 + 1) := by
  have numeratorLow : ((2 ^ numerator.log2 : Nat) : ℚ) ≤ numerator :=
    Nat.cast_le.mpr (Nat.log2_self_le (Nat.ne_of_gt numeratorPositive))
  have numeratorHigh : (numerator : ℚ) < ((2 ^ (numerator.log2 + 1) : Nat) : ℚ) :=
    Nat.cast_lt.mpr Nat.lt_log2_self
  have denominatorLow : ((2 ^ denominator.log2 : Nat) : ℚ) ≤ denominator :=
    Nat.cast_le.mpr (Nat.log2_self_le (Nat.ne_of_gt denominatorPositive))
  have denominatorHigh :
      (denominator : ℚ) < ((2 ^ (denominator.log2 + 1) : Nat) : ℚ) :=
    Nat.cast_lt.mpr Nat.lt_log2_self
  have positive : (0 : ℚ) < denominator := Nat.cast_pos.mpr denominatorPositive
  have two : (2 : ℚ) ≠ 0 := by norm_num
  push_cast at numeratorLow numeratorHigh denominatorLow denominatorHigh
  constructor
  · rw [le_div_iff₀ positive]
    calc
      (2 : ℚ) ^ ((numerator.log2 : Int) - denominator.log2 - 1) * denominator ≤
          2 ^ ((numerator.log2 : Int) - denominator.log2 - 1) *
            2 ^ (denominator.log2 + 1) := by gcongr
      _ = 2 ^ numerator.log2 := by
        rw [← zpow_natCast, ← zpow_natCast, ← zpow_add₀ two]
        congr 1
        push_cast
        ring
      _ ≤ numerator := numeratorLow
  · rw [div_lt_iff₀ positive]
    calc
      (numerator : ℚ) < 2 ^ (numerator.log2 + 1) := numeratorHigh
      _ =
          2 ^ ((numerator.log2 : Int) - denominator.log2 + 1) *
            2 ^ denominator.log2 := by
        rw [← zpow_natCast, ← zpow_natCast, ← zpow_add₀ two]
        congr 1
        push_cast
        ring
      _ ≤ 2 ^ ((numerator.log2 : Int) - denominator.log2 + 1) *
            denominator := by gcongr

omit numeratorPositive denominatorPositive in
/-- Two sides of a comparison without fractions carry the same factor. -/
theorem exists_factor
    (numerator : Nat)
    (denominatorPositive : 0 < denominator)
    (exponent : Int) :
    ∃ factor : ℚ,
      0 < factor ∧
        ((numerator * Nat.pow 2 (-exponent).toNat : Nat) : ℚ) =
          (numerator : ℚ) / denominator * factor ∧
        ((denominator * Nat.pow 2 exponent.toNat : Nat) : ℚ) =
          2 ^ exponent * factor := by
  have positive : (0 : ℚ) < denominator := Nat.cast_pos.mpr denominatorPositive
  refine ⟨denominator * 2 ^ (-exponent).toNat, by positivity, ?_, ?_⟩
  · rw [Nat.pow_eq]
    push_cast
    field_simp
  · rw [Nat.pow_eq]
    push_cast
    rw [pow_toNat (by norm_num : (2 : ℚ) ≠ 0) exponent]
    ring

omit numeratorPositive denominatorPositive in
theorem pow_le_quotient_iff
    (numerator : Nat)
    (denominatorPositive : 0 < denominator)
    (exponent : Int) :
    denominator * Nat.pow 2 exponent.toNat ≤
        numerator * Nat.pow 2 (-exponent).toNat ↔
      (2 : ℚ) ^ exponent ≤ (numerator : ℚ) / denominator := by
  rcases exists_factor numerator denominatorPositive exponent
    with ⟨factor, positive, above, below⟩
  rw [← Nat.cast_le (α := ℚ), above, below,
    mul_le_mul_iff_of_pos_right positive]

theorem hasExponent_exponentOf :
    HasExponent ((numerator : ℚ) / denominator)
      (exponentOf numerator denominator) := by
  rcases log2_bounds numeratorPositive denominatorPositive with ⟨low, high⟩
  have power := pow_le_quotient_iff numerator denominatorPositive
  have monotone {first second : Int} (ordered : first ≤ second) :
      (2 : ℚ) ^ first ≤ 2 ^ second :=
    zpow_le_zpow_right₀ (by norm_num) ordered
  rw [exponentOf]
  simp only [power]
  generalize bits : (numerator.log2 : Int) - denominator.log2 = difference
    at low high ⊢
  rw [show difference - 53 + 53 = difference by omega]
  split
  · rename_i reaches
    refine ⟨Int.le_max_left _ _, ?_, ?_⟩
    · refine lt_of_lt_of_le high (monotone ?_)
      omega
    · rcases Int.le_total (difference - 53 + 1) leastExponent with
        least | higher
      · exact Or.inl (Int.max_eq_left least)
      · rw [Int.max_eq_right higher]
        refine Or.inr (le_trans (monotone ?_) reaches)
        omega
  · rename_i below
    refine ⟨Int.le_max_left _ _, ?_, ?_⟩
    · refine lt_of_lt_of_le (lt_of_not_ge below) (monotone ?_)
      omega
    · rcases Int.le_total (difference - 53) leastExponent with least | higher
      · exact Or.inl (Int.max_eq_left least)
      · rw [Int.max_eq_right higher]
        refine Or.inr (le_trans (monotone ?_) low)
        omega

end Quotient

/-! ## Reading a quotient -/

/-- The interval, whose ends are counted in `unit`, holds a value. -/
def RoundingInterval.Contains
    (interval : RoundingInterval)
    (unit value : ℚ) :
    Prop :=
  interval.low * unit ≤ value ∧ value ≤ interval.high * unit ∧
    (interval.closed = false →
      interval.low * unit < value ∧ value < interval.high * unit)

/-- The value lies in the rounding interval of a number. -/
abbrev RoundsTo (mantissa : Nat) (exponent : Int) (value : ℚ) : Prop :=
  (roundingInterval mantissa exponent).Contains (2 ^ (exponent - 2)) value

theorem two_zpow_add (exponent : Int) (more : Nat) :
    (2 : ℚ) ^ (exponent + more) = 2 ^ more * 2 ^ exponent := by
  rw [zpow_add₀ (by norm_num), zpow_natCast, mul_comm]

theorem two_zpow_sub (exponent : Int) (fewer : Nat) :
    (2 : ℚ) ^ (exponent - fewer) = 2 ^ exponent / 2 ^ fewer := by
  rw [zpow_sub₀ (by norm_num), zpow_natCast]

section Read

variable
    {mantissa : Nat}
    {exponent : Int}
    {numerator denominator : Nat}

/-- The mantissa for an exponent, by bounds on the quotient. -/
theorem mantissaAt_eq
    (positive : 0 < denominator)
    {nearest : Nat}
    (low :
      (2 * (nearest : ℚ) - 1) * 2 ^ exponent ≤
        2 * ((numerator : ℚ) / denominator))
    (high :
      2 * ((numerator : ℚ) / denominator) ≤
        (2 * (nearest : ℚ) + 1) * 2 ^ exponent)
    (ends :
      nearest % 2 = 1 →
        (2 * (nearest : ℚ) - 1) * 2 ^ exponent <
            2 * ((numerator : ℚ) / denominator) ∧
          2 * ((numerator : ℚ) / denominator) <
            (2 * (nearest : ℚ) + 1) * 2 ^ exponent) :
    mantissaAt numerator denominator exponent = nearest := by
  rcases exists_factor numerator positive exponent
    with ⟨scale, factor, above, below⟩
  have belowPositive : 0 < denominator * Nat.pow 2 exponent.toNat :=
    Nat.mul_pos positive (Nat.pow_pos (by decide))
  rw [mantissaAt]
  generalize numerator * Nat.pow 2 (-exponent).toNat = top at above ⊢
  generalize denominator * Nat.pow 2 exponent.toNat = bottom
    at below belowPositive ⊢
  generalize (numerator : ℚ) / denominator = value at low high ends above
  apply roundQuotient_eq belowPositive
  · rw [← Nat.cast_le (α := ℚ)]
    push_cast
    rw [above, below]
    linarith [mul_le_mul_of_nonneg_right low factor.le]
  · rw [← Nat.cast_le (α := ℚ)]
    push_cast
    rw [above, below]
    linarith [mul_le_mul_of_nonneg_right high factor.le]
  · intro odd
    rcases ends odd with ⟨lowEnd, highEnd⟩
    rw [← Nat.cast_lt (α := ℚ), ← Nat.cast_lt (α := ℚ)]
    push_cast
    rw [above, below]
    constructor
    · linarith [mul_lt_mul_of_pos_right lowEnd factor]
    · linarith [mul_lt_mul_of_pos_right highEnd factor]

theorem mantissaAt_le
    (positive : 0 < denominator)
    {bound : Nat}
    (within : (numerator : ℚ) / denominator ≤ bound * 2 ^ exponent) :
    mantissaAt numerator denominator exponent ≤ bound := by
  rcases exists_factor numerator positive exponent
    with ⟨scale, factor, above, below⟩
  have belowPositive : 0 < denominator * Nat.pow 2 exponent.toNat :=
    Nat.mul_pos positive (Nat.pow_pos (by decide))
  apply roundQuotient_le belowPositive
  rw [← Nat.cast_le (α := ℚ), Nat.cast_mul bound, above, below, ← mul_assoc]
  exact mul_le_mul_of_nonneg_right within factor.le

theorem le_mantissaAt
    (positive : 0 < denominator)
    {bound : Nat}
    (within : bound * 2 ^ exponent ≤ (numerator : ℚ) / denominator) :
    bound ≤ mantissaAt numerator denominator exponent := by
  rcases exists_factor numerator positive exponent
    with ⟨scale, factor, above, below⟩
  have belowPositive : 0 < denominator * Nat.pow 2 exponent.toNat :=
    Nat.mul_pos positive (Nat.pow_pos (by decide))
  apply le_roundQuotient belowPositive
  rw [← Nat.cast_le (α := ℚ), Nat.cast_mul bound, above, below, ← mul_assoc]
  exact mul_le_mul_of_nonneg_right within factor.le

/-- The rounding interval of a number reaches half a unit to either side at most. -/
theorem RoundsTo.bounds
    {value : ℚ}
    (positive : 0 < mantissa)
    (rounds : RoundsTo mantissa exponent value) :
    (2 * (mantissa : ℚ) - 1) * 2 ^ exponent ≤ 2 * value ∧
      2 * value ≤ (2 * (mantissa : ℚ) + 1) * 2 ^ exponent ∧
      (mantissa % 2 = 1 →
        (2 * (mantissa : ℚ) - 1) * 2 ^ exponent < 2 * value ∧
          2 * value < (2 * (mantissa : ℚ) + 1) * 2 ^ exponent) := by
  have unit : (0 : ℚ) < 2 ^ exponent := by positivity
  have quarter : (2 : ℚ) ^ (exponent - 2) = 2 ^ exponent / 4 := by
    rw [show (2 : Int) = ((2 : Nat) : Int) from rfl, two_zpow_sub]
    norm_num
  have lowest :
      4 * (mantissa : ℚ) - 2 ≤ (roundingInterval mantissa exponent).low := by
    have natural :
        4 * mantissa ≤ (roundingInterval mantissa exponent).low + 2 := by
      simp only [roundingInterval]
      split <;> omega
    have rational := (Nat.cast_le (α := ℚ)).mpr natural
    push_cast at rational
    linarith
  have highest :
      ((roundingInterval mantissa exponent).high : ℚ) = 4 * mantissa + 2 := by
    simp [roundingInterval]
  rcases rounds with ⟨low, high, ends⟩
  rw [quarter] at low high ends
  rw [highest] at high ends
  have scaled :=
    mul_le_mul_of_nonneg_right lowest (by positivity : 0 ≤ (2 : ℚ) ^ exponent / 4)
  refine ⟨by linarith, by linarith, fun odd => ?_⟩
  have ended : (roundingInterval mantissa exponent).closed = false := by
    simp [roundingInterval, odd]
  rcases ends ended with ⟨lowEnd, highEnd⟩
  exact ⟨by linarith, by linarith⟩

/--
A value that rounds to a number has its exponent, unless it lies just below a
power of two.
-/
theorem RoundsTo.hasExponent_or
    {value : ℚ}
    (canonical : Canonical mantissa exponent)
    (positive : 0 < mantissa)
    (rounds : RoundsTo mantissa exponent value) :
    HasExponent value exponent ∨
      mantissa = 2 ^ 52 ∧ leastExponent < exponent ∧
        value < 2 ^ (exponent + 52) ∧
        (2 ^ 54 - 1) * 2 ^ exponent ≤ 4 * value := by
  have unit : (0 : ℚ) < 2 ^ exponent := by positivity
  rcases rounds.bounds positive with ⟨low, high, _⟩
  have top : value < 2 ^ (exponent + 53) := by
    have largest : (mantissa : ℚ) ≤ 2 ^ 53 - 1 := by
      have natural : mantissa + 1 ≤ 2 ^ 53 := canonical.mantissa_lt
      have rational := (Nat.cast_le (α := ℚ)).mpr natural
      push_cast at rational
      linarith
    rw [show (53 : Int) = ((53 : Nat) : Int) from rfl, two_zpow_add]
    nlinarith
  have power : (2 : ℚ) ^ (exponent + 52) = 2 ^ 52 * 2 ^ exponent := by
    rw [show (52 : Int) = ((52 : Nat) : Int) from rfl, two_zpow_add]
  by_cases reached : (2 : ℚ) ^ (exponent + 52) ≤ value
  · exact Or.inl ⟨canonical.least_le, top, Or.inr reached⟩
  · rcases canonical.full with least | full
    · exact Or.inl ⟨canonical.least_le, top, Or.inl least⟩
    · have below := lt_of_not_ge reached
      have same : mantissa = 2 ^ 52 := by
        by_contra different
        have natural : 2 ^ 52 + 1 ≤ mantissa := by omega
        have rational := (Nat.cast_le (α := ℚ)).mpr natural
        push_cast at rational
        rw [power] at below
        nlinarith
      rcases Int.lt_or_eq_of_le canonical.least_le with higher | least
      · refine Or.inr ⟨same, higher, below, ?_⟩
        have near : (roundingInterval mantissa exponent).low = 2 ^ 54 - 1 := by
          simp [roundingInterval, same, higher]
        have lowEnd := rounds.1
        rw [near, show (2 : Int) = ((2 : Nat) : Int) from rfl, two_zpow_sub]
          at lowEnd
        push_cast at lowEnd
        linarith
      · exact Or.inl ⟨canonical.least_le, top, Or.inl least.symm⟩

/-- All values that are read as a finite number lie between two bounds. -/
theorem RoundsTo.magnitude
    {value : ℚ}
    (canonical : Canonical mantissa exponent)
    (positive : 0 < mantissa)
    (rounds : RoundsTo mantissa exponent value) :
    2 ^ (-1075 : Int) ≤ value ∧ value < 2 ^ (1024 : Int) := by
  rcases rounds.bounds positive with ⟨low, high, _⟩
  have least : (2 : ℚ) ^ leastExponent ≤ 2 ^ exponent :=
    zpow_le_zpow_right₀ (by norm_num) canonical.least_le
  have greatest : (2 : ℚ) ^ exponent ≤ 2 ^ greatestExponent :=
    zpow_le_zpow_right₀ (by norm_num) canonical.le_greatest
  have unit : (0 : ℚ) < 2 ^ exponent := by positivity
  have one : (1 : ℚ) ≤ mantissa := by exact_mod_cast positive
  have most : (mantissa : ℚ) ≤ 2 ^ 53 - 1 := by
    have natural : mantissa + 1 ≤ 2 ^ 53 := canonical.mantissa_lt
    have rational := (Nat.cast_le (α := ℚ)).mpr natural
    push_cast at rational
    linarith
  constructor
  · have half : (2 : ℚ) ^ (-1075 : Int) = 2 ^ leastExponent / 2 ^ 1 :=
      two_zpow_sub leastExponent 1
    rw [half]
    nlinarith
  · have top : (2 : ℚ) ^ (1024 : Int) = 2 ^ 53 * 2 ^ greatestExponent :=
      two_zpow_add greatestExponent 53
    rw [top]
    generalize (2 : ℚ) ^ greatestExponent = last at greatest
    nlinarith

/-- A value just below a power of two has the exponent below. -/
theorem hasExponent_below
    {value : ℚ}
    (higher : leastExponent < exponent)
    (below : value < 2 ^ (exponent + 52))
    (near : (2 ^ 54 - 1) * 2 ^ exponent ≤ 4 * value) :
    HasExponent value (exponent - 1) := by
  have unit : (0 : ℚ) < 2 ^ exponent := by positivity
  refine ⟨by omega, ?_, Or.inr ?_⟩
  · rwa [show exponent - 1 + 53 = exponent + 52 by omega]
  · rw [show exponent - 1 + 52 = exponent + (51 : Nat) by push_cast; omega,
      two_zpow_add]
    linarith

/-- A quotient in the rounding interval of a number is read as this number. -/
theorem ofQuotient_eq
    (canonical : Canonical mantissa exponent)
    (positive : 0 < mantissa)
    (numeratorPositive : 0 < numerator)
    (denominatorPositive : 0 < denominator)
    (rounds : RoundsTo mantissa exponent ((numerator : ℚ) / denominator))
    (negative : Bool) :
    ofQuotient negative numerator denominator =
      .finite negative mantissa exponent := by
  have found := hasExponent_exponentOf numeratorPositive denominatorPositive
  rw [ofQuotient]
  rcases rounds.hasExponent_or canonical positive with
    regular | ⟨rfl, higher, below, near⟩
  · rcases rounds.bounds positive with ⟨low, high, ends⟩
    rw [found.unique regular,
      mantissaAt_eq denominatorPositive low high ends]
    have small : mantissa ≠ Nat.pow 2 53 := Nat.ne_of_lt canonical.mantissa_lt
    dsimp only
    rw [if_neg small]
    dsimp only
    rw [if_neg (Int.not_lt.mpr canonical.le_greatest)]
  · have half : (2 : ℚ) ^ (exponent - 1) = 2 ^ exponent / 2 := by
      rw [show (1 : Int) = ((1 : Nat) : Int) from rfl, two_zpow_sub, pow_one]
    have power : (2 : ℚ) ^ (exponent + 52) = 2 ^ 52 * 2 ^ exponent := by
      rw [show (52 : Int) = ((52 : Nat) : Int) from rfl, two_zpow_add]
    have full :
        mantissaAt numerator denominator (exponent - 1) = Nat.pow 2 53 := by
      rw [power] at below
      apply mantissaAt_eq denominatorPositive
      · rw [half, Nat.pow_eq]
        push_cast
        linarith
      · rw [half, Nat.pow_eq]
        push_cast
        have unit : (0 : ℚ) < 2 ^ exponent := by positivity
        linarith
      · intro odd
        exact absurd odd (by decide)
    rw [found.unique (hasExponent_below higher below near), full]
    dsimp only
    rw [if_pos rfl]
    dsimp only
    rw [Int.sub_add_cancel, if_neg (Int.not_lt.mpr canonical.le_greatest)]
    rfl

/-- Every quotient is read as a number in canonical form. -/
theorem isCanonical_ofQuotient
    (numeratorPositive : 0 < numerator)
    (denominatorPositive : 0 < denominator)
    (negative : Bool) :
    IsCanonical (ofQuotient negative numerator denominator) := by
  rcases hasExponent_exponentOf numeratorPositive denominatorPositive
    with ⟨least, top, least_or⟩
  rw [ofQuotient]
  generalize exponentOf numerator denominator = exponent
    at least top least_or ⊢
  have atMost :
      mantissaAt numerator denominator exponent ≤ 2 ^ 53 := by
    apply mantissaAt_le denominatorPositive
    rw [show (53 : Int) = ((53 : Nat) : Int) from rfl, two_zpow_add] at top
    exact_mod_cast top.le
  have full :
      exponent = leastExponent ∨
        2 ^ 52 ≤ mantissaAt numerator denominator exponent := by
    refine least_or.imp_right fun reached => ?_
    apply le_mantissaAt denominatorPositive
    rw [show (52 : Int) = ((52 : Nat) : Int) from rfl, two_zpow_add] at reached
    exact_mod_cast reached
  generalize mantissaAt numerator denominator exponent = mantissa
    at atMost full ⊢
  dsimp only
  by_cases carried : mantissa = Nat.pow 2 53
  · rw [if_pos carried]
    dsimp only
    split
    · trivial
    · rename_i fits
      exact ⟨by decide, by omega, by omega, Or.inr (by decide)⟩
  · rw [if_neg carried]
    dsimp only
    split
    · trivial
    · rename_i fits
      exact ⟨Nat.lt_of_le_of_ne atMost carried, least, by omega, full⟩

end Read

/-! ## Reading a decimal -/

section Decimal

variable {digits : Nat} {scale : Int}

/-- The number of digits bounds a positive number. -/
theorem toDigits_bounds (positive : 0 < digits) :
    10 ^ ((Nat.toDigits 10 digits).length - 1) ≤ digits ∧
      digits < 10 ^ (Nat.toDigits 10 digits).length := by
  have length :=
    fun count positive =>
      Nat.length_toDigits_le_iff (b := 10) (n := digits) (k := count)
        (by decide) positive
  have some : 0 < (Nat.toDigits 10 digits).length := Nat.length_toDigits_pos
  refine ⟨?_, (length _ some).mp (Nat.le_refl _)⟩
  rcases Nat.eq_zero_or_pos ((Nat.toDigits 10 digits).length - 1) with
    none | more
  · rw [none]
    exact positive
  · by_contra below
    have shorter := (length _ more).mpr (Nat.lt_of_not_le below)
    omega

theorem magnitude_bounds (positive : 0 < digits) (scale : Int) :
    (10 : ℚ) ^ ((Nat.toDigits 10 digits).length + scale - 1) ≤
        digits * 10 ^ scale ∧
      digits * (10 : ℚ) ^ scale <
        10 ^ ((Nat.toDigits 10 digits).length + scale) := by
  rcases toDigits_bounds positive with ⟨least, most⟩
  have some : 0 < (Nat.toDigits 10 digits).length := Nat.length_toDigits_pos
  have ten : (10 : ℚ) ≠ 0 := by norm_num
  have unit : (0 : ℚ) < 10 ^ scale := by positivity
  constructor
  · have power :
        (10 : ℚ) ^ ((Nat.toDigits 10 digits).length + scale - 1) =
          10 ^ ((Nat.toDigits 10 digits).length - 1) * 10 ^ scale := by
      rw [← zpow_natCast, ← zpow_add₀ ten]
      congr 1
      omega
    rw [power]
    exact mul_le_mul_of_nonneg_right (by exact_mod_cast least) unit.le
  · rw [zpow_add₀ ten, zpow_natCast]
    exact mul_lt_mul_of_pos_right (by exact_mod_cast most) unit

/-- The number of digits is determined by bounds. -/
theorem length_toDigits_eq
    {count : Nat}
    (some : 0 < count)
    (least : 10 ^ (count - 1) ≤ digits)
    (most : digits < 10 ^ count) :
    (Nat.toDigits 10 digits).length = count := by
  have positive : 0 < digits := lt_of_lt_of_le (Nat.pow_pos (by decide)) least
  rcases toDigits_bounds positive with ⟨low, high⟩
  have one := (Nat.pow_lt_pow_iff_right (by decide)).mp (low.trans_lt most)
  have two := (Nat.pow_lt_pow_iff_right (by decide)).mp (least.trans_lt high)
  have digit : 0 < (Nat.toDigits 10 digits).length := Nat.length_toDigits_pos
  omega

/-- The numerator and the denominator for a power of a base. -/
theorem quotient_eq
    {base : Nat}
    (positive : 0 < base)
    (factor : Nat)
    (scale : Int) :
    ((factor * Nat.pow base scale.toNat : Nat) : ℚ) /
        (Nat.pow base (-scale).toNat : Nat) =
      factor * (base : ℚ) ^ scale := by
  have rational : (0 : ℚ) < base := Nat.cast_pos.mpr positive
  have power : (0 : ℚ) < (base : ℚ) ^ (-scale).toNat := by positivity
  rw [Nat.pow_eq, Nat.pow_eq]
  push_cast
  rw [div_eq_iff power.ne', pow_toNat rational.ne' scale]
  ring

theorem tiny_lt : (10 : ℚ) ^ (-331 : Int) < 2 ^ (-1075 : Int) := by
  have natural : 2 ^ 1075 < 10 ^ 331 := by decide +kernel
  have rational : (2 : ℚ) ^ 1075 < 10 ^ 331 := by exact_mod_cast natural
  rw [zpow_neg, zpow_neg]
  exact inv_strictAnti₀ (by positivity) rational

theorem lt_huge : (2 : ℚ) ^ (1024 : Int) < 10 ^ (310 : Int) := by
  have natural : 2 ^ 1024 < 10 ^ 310 := by decide +kernel
  exact_mod_cast natural

/-- A decimal in the rounding interval of a number is read as this number. -/
theorem ofDecimal_eq
    {mantissa : Nat}
    {exponent : Int}
    (canonical : Canonical mantissa exponent)
    (positive : 0 < mantissa)
    (rounds : RoundsTo mantissa exponent (digits * 10 ^ scale))
    (negative : Bool) :
    ofDecimal negative digits scale = .finite negative mantissa exponent := by
  rcases rounds.magnitude canonical positive with ⟨low, high⟩
  have some : digits ≠ 0 := by
    rintro rfl
    have power : (0 : ℚ) < 2 ^ (-1075 : Int) := by positivity
    rw [Nat.cast_zero, zero_mul] at low
    linarith
  rcases magnitude_bounds (Nat.pos_of_ne_zero some) scale with ⟨least, most⟩
  have bigEnough : ¬ (Nat.toDigits 10 digits).length + scale < -330 := by
    intro tiny
    have power : (10 : ℚ) ^ ((Nat.toDigits 10 digits).length + scale) ≤
        10 ^ (-331 : Int) := zpow_le_zpow_right₀ (by norm_num) (by omega)
    exact absurd ((most.trans_le power).trans tiny_lt) (not_lt.mpr low)
  have smallEnough : ¬ 310 < (Nat.toDigits 10 digits).length + scale := by
    intro huge
    have power : (10 : ℚ) ^ (310 : Int) ≤
        10 ^ ((Nat.toDigits 10 digits).length + scale - 1) :=
      zpow_le_zpow_right₀ (by norm_num) (by omega)
    exact absurd (high.trans lt_huge) (not_lt.mpr (power.trans least))
  rw [ofDecimal]
  rw [if_neg (not_or.mpr ⟨some, bigEnough⟩), if_neg smallEnough]
  rw [← Nat.cast_ofNat (R := ℚ), ← quotient_eq (by decide)] at rounds
  exact ofQuotient_eq canonical positive
    (Nat.mul_pos (Nat.pos_of_ne_zero some) (Nat.pow_pos (by decide)))
    (Nat.pow_pos (by decide)) rounds negative

theorem isCanonical_ofDecimal
    (negative : Bool)
    (digits : Nat)
    (scale : Int) :
    IsCanonical (ofDecimal negative digits scale) := by
  rw [ofDecimal]
  split
  · exact ⟨by decide, Int.le_refl _, by decide, Or.inl rfl⟩
  · rename_i some
    split
    · trivial
    · apply isCanonical_ofQuotient
      · exact Nat.mul_pos (by omega) (Nat.pow_pos (by decide))
      · exact Nat.pow_pos (by decide)

end Decimal

end ClauseEditor.Binary64
