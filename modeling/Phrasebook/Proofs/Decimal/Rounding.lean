import Mathlib.Algebra.Order.Field.Power
import Mathlib.Tactic.FieldSimp
import Mathlib.Tactic.Linarith
import Mathlib.Tactic.Positivity
import Mathlib.Tactic.Ring
import Phrasebook.Decimal.Binary64

/-!
Rounding to binary numbers of 64 bits. A decimal number that is not further from a binary number
than half the way to its neighbours is rounded to it, if its mantissa is even also from halfway; and
whatever is rounded is zero, infinite, or a number with a mantissa in the right bounds.
-/

namespace Phrasebook.Binary64

/-- The bounds of the numbers beside zero: a mantissa of 53 bits, or a smaller one with the least
exponent. -/
structure InRange (m : Nat) (e : Int) : Prop where
  filled : 0 < m
  bits : m < 2 * leastMantissa
  least : -1074 ≤ e
  most : e ≤ 971
  full : leastMantissa ≤ m ∨ e = -1074

/-- Half the way to the next smaller number, in units of the last place. Below a power of two the
numbers are closer. -/
def halfBelow (m : Nat) (e : Int) : ℚ := if m = leastMantissa ∧ -1074 < e then 1 / 4 else 1 / 2

/-- The fractions that are rounded to `m * 2 ^ e`. -/
structure RoundsTo (x : ℚ) (m : Nat) (e : Int) : Prop where
  low : (m - halfBelow m e) * 2 ^ e ≤ x
  high : x ≤ (m + 1 / 2) * 2 ^ e
  strict : m % 2 = 1 → (m - halfBelow m e) * 2 ^ e < x ∧ x < (m + 1 / 2) * 2 ^ e

theorem halfBelow_bounds (m : Nat) (e : Int) : 1 / 4 ≤ halfBelow m e ∧ halfBelow m e ≤ 1 / 2 := by
  unfold halfBelow
  split_ifs <;> norm_num

theorem scaled_pos (m : Nat) {base : Nat} (positive : 0 < base) (e : Int) :
    0 < (scaled m base e).2 := by
  unfold scaled
  split
  · exact Nat.one_pos
  · exact Nat.pow_pos positive

theorem scaled_eq (m : Nat) {base : Nat} (positive : 0 < base) (e : Int) :
    ((scaled m base e).1 : ℚ) / (scaled m base e).2 = m * (base : ℚ) ^ e := by
  have filled : (base : ℚ) ≠ 0 := Nat.cast_ne_zero.mpr positive.ne'
  unfold scaled
  split
  · rename_i up
    obtain ⟨k, rfl⟩ := Int.eq_ofNat_of_zero_le up
    simp
  · rename_i down
    obtain ⟨k, same⟩ := Int.eq_ofNat_of_zero_le (show 0 ≤ -e by omega)
    obtain rfl : e = -k := by omega
    simp [div_eq_mul_inv]

theorem inUnits_pos (n : Nat) {d : Nat} (positive : 0 < d) (e : Int) : 0 < (inUnits n d e).2 := by
  unfold inUnits
  split
  · exact Nat.mul_pos positive (Nat.pow_pos Nat.two_pos)
  · exact positive

theorem inUnits_eq (n d : Nat) (e : Int) :
    ((inUnits n d e).1 : ℚ) / (inUnits n d e).2 = (n : ℚ) / d / 2 ^ e := by
  unfold inUnits
  split
  · rename_i up
    obtain ⟨k, rfl⟩ := Int.eq_ofNat_of_zero_le up
    simp [div_div]
  · rename_i down
    obtain ⟨k, same⟩ := Int.eq_ofNat_of_zero_le (show 0 ≤ -e by omega)
    obtain rfl : e = -k := by omega
    simp [div_eq_mul_inv]
    ring

/-- The order of a fraction is that of its size. -/
theorem binaryOrder_bounds {n d : Nat} (numerator : 0 < n) (denominator : 0 < d) :
    (2 : ℚ) ^ binaryOrder n d ≤ (n : ℚ) / d ∧ (n : ℚ) / d < 2 ^ (binaryOrder n d + 1) := by
  have two : (2 : ℚ) ≠ 0 := two_ne_zero
  have positive : (0 : ℚ) < d := Nat.cast_pos.mpr denominator
  have nLow : (2 : ℚ) ^ (Nat.log2 n : Int) ≤ n := by
    exact_mod_cast Nat.log2_self_le numerator.ne'
  have nHigh : (n : ℚ) < 2 ^ ((Nat.log2 n : Int) + 1) := by
    exact_mod_cast Nat.lt_log2_self (n := n)
  have dLow : (2 : ℚ) ^ (Nat.log2 d : Int) ≤ d := by
    exact_mod_cast Nat.log2_self_le denominator.ne'
  have dHigh : (d : ℚ) < 2 ^ ((Nat.log2 d : Int) + 1) := by
    exact_mod_cast Nat.lt_log2_self (n := d)
  let e : Int := (Nat.log2 n : Int) - (Nat.log2 d : Int)
  have above : (n : ℚ) / d < 2 ^ (e + 1) := by
    rw [div_lt_iff₀ positive]
    calc (n : ℚ) < 2 ^ ((Nat.log2 n : Int) + 1) := nHigh
      _ = 2 ^ (e + 1) * 2 ^ (Nat.log2 d : Int) := by rw [← zpow_add₀ two]; congr 1; omega
      _ ≤ 2 ^ (e + 1) * d := by gcongr
  have below : (2 : ℚ) ^ (e - 1) < (n : ℚ) / d := by
    rw [lt_div_iff₀ positive]
    calc (2 : ℚ) ^ (e - 1) * d < 2 ^ (e - 1) * 2 ^ ((Nat.log2 d : Int) + 1) := by gcongr
      _ = 2 ^ (Nat.log2 n : Int) := by rw [← zpow_add₀ two]; congr 1; omega
      _ ≤ n := nLow
  have test : (inUnits n d e).2 ≤ (inUnits n d e).1 ↔ (2 : ℚ) ^ e ≤ (n : ℚ) / d := by
    have unit : (0 : ℚ) < (inUnits n d e).2 := Nat.cast_pos.mpr (inUnits_pos n denominator e)
    rw [← one_le_div₀ (show (0 : ℚ) < 2 ^ e by positivity), ← inUnits_eq, one_le_div₀ unit,
      Nat.cast_le]
  have order : binaryOrder n d = if (inUnits n d e).2 ≤ (inUnits n d e).1 then e else e - 1 := rfl
  rw [order]
  split
  · rename_i reached
    exact ⟨test.mp reached, above⟩
  · rename_i missed
    have short := mt test.mpr missed
    rw [sub_add_cancel]
    exact ⟨below.le, not_le.mp short⟩

theorem roundEven_bounds (n d : Nat) : n / d ≤ roundEven n d ∧ roundEven n d ≤ n / d + 1 := by
  unfold roundEven
  simp only
  split <;> omega

/-- A fraction is rounded to the whole number that is nearest, if it is even also from halfway. -/
theorem roundEven_eq {n d a : Nat} (positive : 0 < d) (low : 2 * (a * d) ≤ 2 * n + d)
    (high : 2 * n ≤ 2 * (a * d) + d)
    (strict : a % 2 = 1 → 2 * (a * d) < 2 * n + d ∧ 2 * n < 2 * (a * d) + d) :
    roundEven n d = a := by
  have parts := Nat.div_add_mod n d
  have rest := Nat.mod_lt n positive
  unfold roundEven
  simp only
  generalize n / d = q at parts ⊢
  generalize n % d = r at parts rest ⊢
  have least : q ≤ a := by
    by_contra less
    have more := Nat.mul_le_mul_right d (show a + 1 ≤ q by omega)
    rw [Nat.add_mul, Nat.one_mul, Nat.mul_comm q] at more
    omega
  have most : a ≤ q + 1 := by
    by_contra more
    have less := Nat.mul_le_mul_right d (show q + 2 ≤ a by omega)
    rw [Nat.add_mul, Nat.mul_comm q] at less
    omega
  obtain rfl | rfl : a = q ∨ a = q + 1 := by omega
  · rw [Nat.mul_comm a] at low high strict
    rw [if_pos]
    by_cases even : a % 2 = 0
    · simp only [even, beq_self_eq_true, Bool.and_true, Bool.or_eq_true, decide_eq_true_eq,
        beq_iff_eq]
      omega
    · have near := strict (by omega)
      simp only [Bool.or_eq_true, decide_eq_true_eq]
      omega
  · rw [Nat.add_mul, Nat.one_mul, Nat.mul_comm q] at low high strict
    rw [if_neg]
    simp only [Bool.or_eq_true, Bool.and_eq_true, decide_eq_true_eq, beq_iff_eq, not_or, not_and]
    exact ⟨by omega, fun halfway even => by have near := strict (by omega); omega⟩

/-- The same for a fraction in units of the last place. -/
theorem roundEven_inUnits {n d a : Nat} {e : Int} (positive : 0 < d)
    (low : (a - 1 / 2) * 2 ^ e ≤ (n : ℚ) / d) (high : (n : ℚ) / d ≤ (a + 1 / 2) * 2 ^ e)
    (strict : a % 2 = 1 → (a - 1 / 2) * 2 ^ e < (n : ℚ) / d ∧
      (n : ℚ) / d < (a + 1 / 2) * 2 ^ e) :
    roundEven (inUnits n d e).1 (inUnits n d e).2 = a := by
  have unit : (0 : ℚ) < 2 ^ e := by positivity
  have filled : 0 < (inUnits n d e).2 := inUnits_pos n positive e
  have whole := inUnits_eq n d e
  generalize inUnits n d e = parts at filled whole ⊢
  obtain ⟨p, q⟩ := parts
  have positive : (0 : ℚ) < q := Nat.cast_pos.mpr filled
  have value : (n : ℚ) / d = p / q * 2 ^ e := by rw [whole, div_mul_cancel₀ _ unit.ne']
  rw [value] at low high strict
  have low := le_of_mul_le_mul_right low unit
  have high := le_of_mul_le_mul_right high unit
  rw [le_div_iff₀ positive] at low
  rw [div_le_iff₀ positive] at high
  refine roundEven_eq filled ?_ ?_ fun odd => ?_
  · have : (2 * (a * q) : ℚ) ≤ 2 * p + q := by linarith
    exact_mod_cast this
  · have : (2 * p : ℚ) ≤ 2 * (a * q) + q := by linarith
    exact_mod_cast this
  · obtain ⟨above, under⟩ := strict odd
    have above := lt_of_mul_lt_mul_right above unit.le
    have under := lt_of_mul_lt_mul_right under unit.le
    rw [lt_div_iff₀ positive] at above
    rw [div_lt_iff₀ positive] at under
    have above : (2 * (a * q) : ℚ) < 2 * p + q := by linarith
    have under : (2 * p : ℚ) < 2 * (a * q) + q := by linarith
    exact ⟨by exact_mod_cast above, by exact_mod_cast under⟩

theorem leastMantissa_eq : (leastMantissa : ℚ) = 2 ^ (52 : Int) := by
  norm_num [leastMantissa]

theorem twice_leastMantissa (e : Int) : 2 * (leastMantissa : ℚ) * 2 ^ e = 2 ^ (e + 53) := by
  rw [leastMantissa_eq, ← zpow_one_add₀ two_ne_zero, ← zpow_add₀ two_ne_zero]
  congr 1
  omega

variable {m n d : Nat} {e : Int}

/-- What is rounded to a number is below the next power of two but one. -/
theorem RoundsTo.lt {x : ℚ} (rounds : RoundsTo x m e) (range : InRange m e) :
    x < 2 ^ (e + 53) := by
  have bits : (m : ℚ) + 1 ≤ 2 * leastMantissa := by exact_mod_cast range.bits
  rw [← twice_leastMantissa]
  refine lt_of_le_of_lt rounds.high ?_
  gcongr
  linarith

/-- Where a fraction is rounded, if it does not fall below a power of two on the way. -/
theorem ofFraction_of_above (range : InRange m e) (numerator : 0 < n) (denominator : 0 < d)
    (rounds : RoundsTo ((n : ℚ) / d) m e)
    (above : (2 : ℚ) ^ (e + 52) ≤ (n : ℚ) / d ∨ e = -1074) (negative : Bool) :
    ofFraction negative n d = finite negative m e := by
  obtain ⟨low, high⟩ := binaryOrder_bounds numerator denominator
  have under : binaryOrder n d < e + 53 :=
    (zpow_lt_zpow_iff_right₀ one_lt_two).mp (low.trans_lt (rounds.lt range))
  have place : max (-1074) (binaryOrder n d - 52) = e := by
    rcases above with above | least
    · have order : e + 52 < binaryOrder n d + 1 :=
        (zpow_lt_zpow_iff_right₀ one_lt_two).mp (above.trans_lt high)
      have := range.least
      omega
    · omega
  have unit : (0 : ℚ) < 2 ^ e := by positivity
  have half : (m - 1 / 2 : ℚ) * 2 ^ e ≤ (m - halfBelow m e) * 2 ^ e := by
    gcongr
    exact (halfBelow_bounds m e).2
  have rounded : roundEven (inUnits n d e).1 (inUnits n d e).2 = m :=
    roundEven_inUnits denominator (half.trans rounds.low) rounds.high fun odd =>
      ⟨half.trans_lt (rounds.strict odd).1, (rounds.strict odd).2⟩
  unfold ofFraction
  simp only [place, rounded]
  rw [if_neg range.filled.ne', if_neg range.bits.ne, if_neg (not_lt.mpr range.most)]

/-- What lies below a power of two is rounded to no number above it. -/
theorem RoundsTo.eq_leastMantissa {x : ℚ} (rounds : RoundsTo x m e) (range : InRange m e)
    (below : x < 2 ^ (e + 52)) (more : e ≠ -1074) : m = leastMantissa := by
  by_contra other
  have larger : (leastMantissa + 1 : ℚ) ≤ m := by
    have := range.full.resolve_right more
    exact_mod_cast (show leastMantissa + 1 ≤ m by omega)
  have inside := rounds.low.trans_lt below
  rw [zpow_add₀ two_ne_zero, mul_comm, ← leastMantissa_eq] at inside
  have unit : (0 : ℚ) ≤ 2 ^ e := by positivity
  have inside := lt_of_mul_lt_mul_left inside unit
  have := (halfBelow_bounds m e).2
  linarith

/-- Just below a power of two the units are half as large; the mantissa gets one bit too long and is
rounded up to the power. -/
theorem ofFraction_of_below (range : InRange m e) (numerator : 0 < n) (denominator : 0 < d)
    (rounds : RoundsTo ((n : ℚ) / d) m e) (below : (n : ℚ) / d < 2 ^ (e + 52))
    (more : e ≠ -1074) (negative : Bool) : ofFraction negative n d = finite negative m e := by
  have unit : (0 : ℚ) < 2 ^ e := by positivity
  have power : (2 : ℚ) ^ (e + 52) = leastMantissa * 2 ^ e := by
    rw [leastMantissa_eq, zpow_add₀ two_ne_zero, mul_comm]
  obtain rfl := rounds.eq_leastMantissa range below more
  have quarter : halfBelow leastMantissa e = 1 / 4 := by
    have := range.least
    rw [halfBelow, if_pos ⟨rfl, by omega⟩]
  have half : (2 : ℚ) ^ e = 2 * 2 ^ (e - 1) := by
    rw [← zpow_one_add₀ two_ne_zero, add_sub_cancel]
  have low : ((2 * leastMantissa : Nat) - 1 / 2 : ℚ) * 2 ^ (e - 1) ≤ (n : ℚ) / d := by
    refine le_trans (le_of_eq ?_) rounds.low
    rw [quarter, half]
    push_cast
    ring
  have high : (n : ℚ) / d ≤ ((2 * leastMantissa : Nat) + 1 / 2 : ℚ) * 2 ^ (e - 1) := by
    refine below.le.trans ?_
    rw [power, half]
    push_cast
    have : (0 : ℚ) < 2 ^ (e - 1) := by positivity
    linarith
  obtain ⟨first, last⟩ := binaryOrder_bounds numerator denominator
  have order : binaryOrder n d - 52 = e - 1 := by
    have under : binaryOrder n d < e + 52 :=
      (zpow_lt_zpow_iff_right₀ one_lt_two).mp (first.trans_lt below)
    have reached : e + 51 < binaryOrder n d + 1 := by
      refine (zpow_lt_zpow_iff_right₀ (one_lt_two (α := ℚ))).mp (lt_of_le_of_lt ?_ last)
      refine le_trans ?_ low
      have power : (2 : ℚ) ^ (e + 51) = leastMantissa * 2 ^ (e - 1) := by
        rw [leastMantissa_eq, ← zpow_add₀ two_ne_zero]
        congr 1
        omega
      rw [power]
      gcongr
      norm_num [leastMantissa]
    omega
  have place : max (-1074) (binaryOrder n d - 52) = e - 1 := by
    have := range.least
    omega
  have rounded : roundEven (inUnits n d (e - 1)).1 (inUnits n d (e - 1)).2 = 2 * leastMantissa :=
    roundEven_inUnits denominator low high fun odd => absurd odd (by decide)
  unfold ofFraction
  simp only [place, rounded, sub_add_cancel]
  rw [if_neg (by decide), if_pos trivial, if_neg (not_lt.mpr range.most)]

/-- The main statement about rounding: a fraction becomes the number that is nearest. -/
theorem ofFraction_eq (range : InRange m e) (numerator : 0 < n) (denominator : 0 < d)
    (rounds : RoundsTo ((n : ℚ) / d) m e) (negative : Bool) :
    ofFraction negative n d = finite negative m e := by
  by_cases above : (2 : ℚ) ^ (e + 52) ≤ (n : ℚ) / d ∨ e = -1074
  · exact ofFraction_of_above range numerator denominator rounds above negative
  · obtain ⟨below, more⟩ := not_or.mp above
    exact ofFraction_of_below range numerator denominator rounds (not_le.mp below) more negative

/-- A fraction in units of the last place has at most 53 bits in front of the point, and as many if
the units are those of its order. -/
theorem quotient_bounds (numerator : 0 < n) (denominator : 0 < d) (place : Int) :
    (binaryOrder n d ≤ place + 52 →
      (inUnits n d place).1 / (inUnits n d place).2 < 2 * leastMantissa) ∧
      (place + 52 ≤ binaryOrder n d →
        leastMantissa ≤ (inUnits n d place).1 / (inUnits n d place).2) := by
  obtain ⟨first, last⟩ := binaryOrder_bounds numerator denominator
  have unit : (0 : ℚ) < 2 ^ place := by positivity
  have whole := inUnits_eq n d place
  have filled := inUnits_pos n denominator place
  generalize inUnits n d place = parts at whole filled ⊢
  obtain ⟨p, q⟩ := parts
  have positive : (0 : ℚ) < q := Nat.cast_pos.mpr filled
  have value : (n : ℚ) / d = p / q * 2 ^ place := by rw [whole, div_mul_cancel₀ _ unit.ne']
  constructor
  · intro under
    have inside : (n : ℚ) / d < 2 * leastMantissa * 2 ^ place := by
      rw [twice_leastMantissa]
      refine last.trans_le (zpow_le_zpow_right₀ one_le_two ?_)
      omega
    rw [value] at inside
    have inside := lt_of_mul_lt_mul_right inside unit.le
    rw [div_lt_iff₀ positive] at inside
    exact Nat.div_lt_of_lt_mul (by rw [Nat.mul_comm]; exact_mod_cast inside)
  · intro above
    have inside : leastMantissa * 2 ^ place ≤ (n : ℚ) / d := by
      rw [leastMantissa_eq, ← zpow_add₀ two_ne_zero]
      refine le_trans (zpow_le_zpow_right₀ one_le_two ?_) first
      omega
    rw [value] at inside
    have inside := le_of_mul_le_mul_right inside unit
    rw [le_div_iff₀ positive] at inside
    exact (Nat.le_div_iff_mul_le filled).mpr (by exact_mod_cast inside)

/-- A rounded fraction is zero or in range. -/
theorem inRange_of_ofFraction {negative sign : Bool} (numerator : 0 < n) (denominator : 0 < d)
    (rounded : ofFraction negative n d = finite sign m e) : (m = 0 ∧ e = 0) ∨ InRange m e := by
  unfold ofFraction at rounded
  simp only at rounded
  generalize place : max (-1074) (binaryOrder n d - 52) = p at rounded
  obtain ⟨under, above⟩ := quotient_bounds numerator denominator p
  obtain ⟨floor, ceiling⟩ := roundEven_bounds (inUnits n d p).1 (inUnits n d p).2
  have under := under (by omega)
  split at rounded
  · obtain ⟨-, rfl, rfl⟩ := finite.inj rounded
    exact .inl ⟨rfl, rfl⟩
  · rename_i other
    refine .inr ?_
    split at rounded
    · split at rounded
      · cases rounded
      · rename_i small
        obtain ⟨-, rfl, rfl⟩ := finite.inj rounded
        exact ⟨show 0 < leastMantissa by decide, show leastMantissa < 2 * leastMantissa by decide,
          by omega, not_lt.mp small, .inl (Nat.le_refl _)⟩
    · split at rounded
      · cases rounded
      · rename_i short small
        obtain ⟨-, rfl, rfl⟩ := finite.inj rounded
        refine ⟨Nat.pos_of_ne_zero other, by omega, by omega, not_lt.mp small, ?_⟩
        by_cases more : p = -1074
        · exact .inr more
        · exact .inl ((above (by omega)).trans floor)

theorem two_zpow_le : (2 : ℚ) ^ (1075 : Int) ≤ 10 ^ (340 : Int) := by
  calc (2 : ℚ) ^ (215 * 5 : Int) = (2 ^ 215) ^ 5 := by rw [zpow_mul]; rfl
    _ ≤ (10 ^ 68) ^ 5 := pow_le_pow_left₀ (by positivity) (by norm_num) 5
    _ = 10 ^ (68 * 5 : Int) := by rw [zpow_mul]; rfl

/-- The numbers in range are far from the bounds where the size alone decides. -/
theorem RoundsTo.within {x : ℚ} (rounds : RoundsTo x m e) (range : InRange m e) :
    (10 : ℚ) ^ (-340 : Int) ≤ x ∧ x < 10 ^ (340 : Int) := by
  constructor
  · refine le_trans ?_ rounds.low
    have one : (1 : ℚ) ≤ m := by exact_mod_cast range.filled
    have half := (halfBelow_bounds m e).2
    calc (10 : ℚ) ^ (-340 : Int) = (10 ^ (340 : Int))⁻¹ := zpow_neg 10 340
      _ ≤ (2 ^ (1075 : Int))⁻¹ := inv_anti₀ (by positivity) two_zpow_le
      _ = 2 ^ (-1075 : Int) := (zpow_neg 2 1075).symm
      _ ≤ 2 ^ (e - 1) := zpow_le_zpow_right₀ one_le_two (by have := range.least; omega)
      _ = 1 / 2 * 2 ^ e := by rw [zpow_sub_one₀ two_ne_zero]; ring
      _ ≤ (m - halfBelow m e) * 2 ^ e := by
        gcongr
        linarith
  · refine (rounds.lt range).trans_le ?_
    calc (2 : ℚ) ^ (e + 53) ≤ (2 : ℚ) ^ (1075 : Int) :=
          zpow_le_zpow_right₀ one_le_two (by have := range.most; omega)
      _ ≤ 10 ^ (340 : Int) := two_zpow_le

/-- A decimal number of not too many digits is rounded to the nearest number. -/
theorem ofDecimal_eq {digits : Nat} {exponent : Int} (range : InRange m e) (filled : 0 < digits)
    (few : digits < 2 ^ 200) (rounds : RoundsTo (digits * 10 ^ exponent) m e) (negative : Bool) :
    ofDecimal negative digits exponent = finite negative m e := by
  obtain ⟨low, high⟩ := rounds.within range
  have ten : (10 : ℚ) ≠ 0 := by norm_num
  have size : Nat.log2 digits < 200 := (Nat.log2_lt filled.ne').mpr few
  have above : exponent < 340 := by
    refine (zpow_lt_zpow_iff_right₀ (show (1 : ℚ) < 10 by norm_num)).mp (lt_of_le_of_lt ?_ high)
    have one : (1 : ℚ) ≤ digits := by exact_mod_cast filled
    have unit : (0 : ℚ) < 10 ^ exponent := by positivity
    nlinarith
  have under : -400 ≤ exponent := by
    have less : (digits : ℚ) < 10 ^ (61 : Int) := by
      refine lt_of_lt_of_le (show (digits : ℚ) < 2 ^ 200 by exact_mod_cast few) (by norm_num)
    have unit : (0 : ℚ) < 10 ^ exponent := by positivity
    have bound : (10 : ℚ) ^ (-340 : Int) < 10 ^ (61 + exponent) := by
      rw [zpow_add₀ ten]
      exact low.trans_lt (by gcongr)
    have := (zpow_lt_zpow_iff_right₀ (show (1 : ℚ) < 10 by norm_num)).mp bound
    omega
  have fraction := scaled_eq digits (show 0 < 10 by decide) exponent
  have denominator := scaled_pos digits (show 0 < 10 by decide) exponent
  have numerator : 0 < (scaled digits 10 exponent).1 := by
    unfold scaled
    split
    · exact Nat.mul_pos filled (Nat.pow_pos (by decide))
    · exact filled
  have near :
      RoundsTo (((scaled digits 10 exponent).1 : ℚ) / (scaled digits 10 exponent).2) m e := by
    rw [fraction]
    exact_mod_cast rounds
  have rounded := ofFraction_eq range numerator denominator near negative
  unfold ofDecimal
  have guard : ¬ (digits = 0 || decide
      ((Nat.log2 digits : Int) * 30103 / 100000 + exponent < -400)) = true := by
    simp only [Bool.or_eq_true, decide_eq_true_eq, not_or]
    exact ⟨filled.ne', by omega⟩
  simp only
  rw [if_neg guard, if_neg (by omega)]
  exact rounded

/-- A number that is read from decimal digits is zero or in range. -/
theorem inRange_of_ofDecimal {digits : Nat} {exponent : Int} {negative sign : Bool}
    (read : ofDecimal negative digits exponent = finite sign m e) :
    (m = 0 ∧ e = 0) ∨ InRange m e := by
  unfold ofDecimal at read
  simp only at read
  split at read
  · obtain ⟨-, rfl, rfl⟩ := finite.inj read
    exact .inl ⟨rfl, rfl⟩
  · rename_i near
    split at read
    · cases read
    · have filled : digits ≠ 0 := by
        rintro rfl
        exact near rfl
      refine inRange_of_ofFraction ?_ (scaled_pos digits (show 0 < 10 by decide) exponent) read
      unfold scaled
      split
      · exact Nat.mul_pos (Nat.pos_of_ne_zero filled) (Nat.pow_pos (by decide))
      · exact Nat.pos_of_ne_zero filled

theorem sign_of_ofFraction {numerator denominator : Nat} {negative sign : Bool}
    (rounded : ofFraction negative numerator denominator = finite sign m e) : negative = sign := by
  unfold ofFraction at rounded
  simp only at rounded
  split at rounded
  · exact (finite.inj rounded).1
  · split at rounded
    · split at rounded
      · cases rounded
      · exact (finite.inj rounded).1
    · split at rounded
      · cases rounded
      · exact (finite.inj rounded).1

/-- A number has the sign that it is read with. -/
theorem sign_of_ofDecimal {digits : Nat} {exponent : Int} {negative sign : Bool}
    (read : ofDecimal negative digits exponent = finite sign m e) : negative = sign := by
  unfold ofDecimal at read
  simp only at read
  split at read
  · exact (finite.inj read).1
  · split at read
    · cases read
    · exact sign_of_ofFraction read

end Phrasebook.Binary64
