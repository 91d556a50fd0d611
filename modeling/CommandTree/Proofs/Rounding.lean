import CommandTree.Proofs.Numerals
import Mathlib.Algebra.Order.Field.Power
import Mathlib.Algebra.Order.Field.Rat
import Mathlib.Tactic.FieldSimp
import Mathlib.Tactic.Linarith
import Mathlib.Tactic.Positivity
import Mathlib.Tactic.Ring

/-!
# Rounded digits

The digits that a floating point number is written with are those of the nearest number with as many
of them, and of two such numbers those of the even one (`IsNearest`). This holds of so many places
after the point (`Decimal.fixed_spec`) and of so many significant digits (`Decimal.rounded_spec`).
The point stands where the number is at least a tenth and less than one (`Decimal.pointOf_spec`).
-/

namespace CommandTree

/-- The whole number is the one nearest to a number, and the even one of two. -/
def IsNearest (n : Nat) (x : ℚ) : Prop :=
  |(n : ℚ) - x| ≤ 1 / 2 ∧ (|(n : ℚ) - x| = 1 / 2 → n % 2 = 0)

/-- A quotient halfway between two whole numbers is rounded to the even one. -/
theorem even_roundDiv {num den : Nat} (h : 0 < den)
    (tie : 2 * (roundDiv num den * den) = 2 * num + den ∨
      2 * num = 2 * (roundDiv num den * den) + den) : roundDiv num den % 2 = 0 := by
  have split := div_mul_add_mod num den
  have next := succ_div_mul num den
  have less := Nat.mod_lt num h
  unfold roundDiv at tie ⊢
  dsimp only at tie ⊢
  by_cases low : 2 * (num % den) < den
  · rw [if_pos low] at tie
    omega
  by_cases high : den < 2 * (num % den)
  · rw [if_neg low, if_pos high] at tie
    omega
  rw [if_neg low, if_neg high]
  by_cases even : num / den % 2 = 0
  · rw [if_pos even]
    exact even
  · rw [if_neg even]
    omega

theorem isNearest_roundDiv (num : Nat) {den : Nat} (h : 0 < den) :
    IsNearest (roundDiv num den) (num / den) := by
  have positive : (0 : ℚ) < den := Nat.cast_pos.2 h
  have high : 2 * ((roundDiv num den : ℚ) * den) ≤ 2 * num + den := by
    exact_mod_cast roundDiv_le num den h
  have low : 2 * (num : ℚ) ≤ 2 * (roundDiv num den * den) + den := by
    exact_mod_cast le_roundDiv num den h
  have even := @even_roundDiv num den h
  generalize roundDiv num den = n at *
  have distance : |(n : ℚ) - num / den| = |(n : ℚ) * den - num| / den := by
    have quotient : (n : ℚ) - num / den = (n * den - num) / den := by
      field_simp
    rw [quotient, abs_div, abs_of_pos positive]
  constructor
  · rw [distance, div_le_div_iff₀ positive two_pos]
    have near : |(n : ℚ) * den - num| ≤ den / 2 := abs_le.2 ⟨by linarith, by linarith⟩
    linarith
  · intro tie
    rw [distance, div_eq_div_iff positive.ne' two_ne_zero] at tie
    apply even
    rcases abs_cases ((n : ℚ) * den - num) with ⟨same, -⟩ | ⟨same, -⟩
    · left
      have equal : 2 * ((n : ℚ) * den) = 2 * num + den := by linarith
      exact_mod_cast equal
    · right
      have equal : 2 * (num : ℚ) = 2 * (n * den) + den := by linarith
      exact_mod_cast equal

namespace IsNearest

variable {n k : Nat} {x : ℚ}

theorem le_of_le (h : IsNearest n x) (least : (k : ℚ) ≤ x) : k ≤ n := by
  have near := (abs_le.1 h.1).1
  have above : (k : ℚ) < n + 1 := by linarith
  have succ : k < n + 1 := by exact_mod_cast above
  omega

theorem le_of_lt (h : IsNearest n x) (greatest : x < k) : n ≤ k := by
  have near := (abs_le.1 h.1).2
  have below : (n : ℚ) < k + 1 := by linarith
  have succ : n < k + 1 := by exact_mod_cast below
  omega

end IsNearest

namespace Binary64

theorem ratio_spec (m : Nat) (e : Int) :
    0 < (ratio m e).2 ∧ ((ratio m e).1 : ℚ) / (ratio m e).2 = m * 2 ^ e := by
  unfold ratio
  by_cases whole : 0 ≤ e
  · rw [if_pos whole]
    refine ⟨Nat.one_pos, ?_⟩
    obtain ⟨k, rfl⟩ := Int.eq_ofNat_of_zero_le whole
    simp [twoTo]
  · rw [if_neg whole]
    refine ⟨Nat.pow_pos Nat.two_pos, ?_⟩
    obtain ⟨k, rfl⟩ : ∃ k : Nat, e = -k := ⟨(-e).toNat, by omega⟩
    simp [twoTo, div_eq_mul_inv]

end Binary64

namespace Decimal

/-- What digits denote without a point. -/
def Digits.whole (d : Digits) : Nat := Nat.ofDigitChars 10 d.digits 0

theorem cast_tenTo (k : Nat) : ((tenTo k : Nat) : ℚ) = 10 ^ (k : Int) := by
  simp [tenTo]

theorem digitCount_spec {n : Nat} (h : 0 < n) :
    0 < digitCount n ∧ tenTo (digitCount n - 1) ≤ n ∧ n < tenTo (digitCount n) := by
  have positive : 0 < digitCount n := Nat.length_toDigits_pos
  refine ⟨positive, ?_, ?_⟩
  · by_cases single : digitCount n = 1
    · rw [single]
      exact h
    · by_contra less
      have fits := (Nat.length_toDigits_le_iff (b := 10) (n := n) (by decide)
        (by omega : 0 < digitCount n - 1)).2 (Nat.lt_of_not_le less)
      unfold digitCount at *
      omega
  · exact (Nat.length_toDigits_le_iff (by decide) positive).1 (Nat.le_refl _)

/-- Moving the point multiplies a quotient by a power of ten. -/
theorem scaled_spec (num : Nat) {den : Nat} (h : 0 < den) (places : Int) :
    0 < (scaled num den places).2 ∧
      ((scaled num den places).1 : ℚ) / (scaled num den places).2 = num / den * 10 ^ places := by
  unfold scaled
  by_cases right : 0 ≤ places
  · rw [if_pos right]
    refine ⟨h, ?_⟩
    obtain ⟨k, rfl⟩ := Int.eq_ofNat_of_zero_le right
    simp [tenTo]
    ring
  · rw [if_neg right]
    refine ⟨Nat.mul_pos h (Nat.pow_pos (by decide)), ?_⟩
    obtain ⟨k, rfl⟩ : ∃ k : Nat, places = -k := ⟨(-places).toNat, by omega⟩
    simp [tenTo]
    field_simp

/-- A number is less than a power of ten as the comparison of products says. -/
theorem below_iff {num den : Nat} (h : 0 < den) (p : Int) :
    (if 0 ≤ p then num < den * tenTo p.toNat else num * tenTo (-p).toNat < den) ↔
      (num : ℚ) / den < 10 ^ p := by
  have positive : (0 : ℚ) < den := Nat.cast_pos.2 h
  rw [div_lt_iff₀ positive]
  by_cases right : 0 ≤ p
  · rw [if_pos right]
    obtain ⟨k, rfl⟩ := Int.eq_ofNat_of_zero_le right
    rw [← cast_tenTo, ← Nat.cast_mul, Nat.cast_lt, Nat.mul_comm]
    rfl
  · rw [if_neg right]
    obtain ⟨k, rfl⟩ : ∃ k : Nat, p = -k := ⟨(-p).toNat, by omega⟩
    have power : (0 : ℚ) < 10 ^ (k : Int) := by positivity
    rw [zpow_neg, mul_comm _ (den : ℚ), ← div_eq_mul_inv, lt_div_iff₀ power, ← cast_tenTo,
      ← Nat.cast_mul, Nat.cast_lt, Int.neg_neg]
    rfl

/-- The point stands where the number is at least a tenth and less than one. -/
theorem pointOf_spec {num den : Nat} (hn : 0 < num) (hd : 0 < den) :
    (10 : ℚ) ^ (pointOf num den - 1) ≤ num / den ∧ (num : ℚ) / den < 10 ^ pointOf num den := by
  have positive : (0 : ℚ) < den := Nat.cast_pos.2 hd
  have bounds {n : Nat} (h : 0 < n) :
      (10 : ℚ) ^ ((digitCount n : Int) - 1) ≤ n ∧ (n : ℚ) < 10 ^ (digitCount n : Int) := by
    obtain ⟨filled, low, high⟩ := digitCount_spec h
    have pred : ((digitCount n : Int) - 1) = (digitCount n - 1 : Nat) := by omega
    rw [pred, ← cast_tenTo, ← cast_tenTo]
    exact ⟨Nat.cast_le.2 low, Nat.cast_lt.2 high⟩
  obtain ⟨numLow, numHigh⟩ := bounds hn
  obtain ⟨denLow, denHigh⟩ := bounds hd
  have low : (10 : ℚ) ^ ((digitCount num : Int) - digitCount den - 1) ≤ num / den := by
    rw [le_div_iff₀ positive]
    calc (10 : ℚ) ^ ((digitCount num : Int) - digitCount den - 1) * den
        ≤ 10 ^ ((digitCount num : Int) - digitCount den - 1) * 10 ^ (digitCount den : Int) := by
          gcongr
      _ = 10 ^ ((digitCount num : Int) - 1) := by
          rw [← zpow_add₀ (by norm_num)]
          congr 1
          omega
      _ ≤ num := numLow
  have high : (num : ℚ) / den < 10 ^ ((digitCount num : Int) - digitCount den + 1) := by
    rw [div_lt_iff₀ positive]
    calc (num : ℚ) < 10 ^ (digitCount num : Int) := numHigh
      _ = 10 ^ ((digitCount num : Int) - digitCount den + 1) *
          10 ^ ((digitCount den : Int) - 1) := by
          rw [← zpow_add₀ (by norm_num)]
          congr 1
          omega
      _ ≤ 10 ^ ((digitCount num : Int) - digitCount den + 1) * den := by
          gcongr
  unfold pointOf
  dsimp only
  by_cases below : (num : ℚ) / den < 10 ^ ((digitCount num : Int) - digitCount den)
  · rw [if_pos ((below_iff hd _).2 below)]
    exact ⟨low, below⟩
  · rw [if_neg (fun less => below ((below_iff hd _).1 less)), Int.add_sub_cancel]
    exact ⟨not_lt.1 below, high⟩

/-- The digits of a number rounded to so many: there are as many, the first one is not zero, and no
other number with as many digits is nearer. -/
structure Digits.IsRounded (d : Digits) (count : Nat) (x : ℚ) : Prop where
  isDigit : ∀ c ∈ d.digits, c.isDigit = true
  length_eq : d.digits.length = count
  filled : tenTo (count - 1) ≤ d.whole
  nearest : IsNearest d.whole (x * 10 ^ (count - d.point))

theorem length_toDigits {n count : Nat} (h : 0 < count) (low : tenTo (count - 1) ≤ n)
    (high : n < tenTo count) : (Nat.toDigits 10 n).length = count := by
  have most := (Nat.length_toDigits_le_iff (b := 10) (by decide) h).2 high
  have least : ¬ (Nat.toDigits 10 n).length ≤ count - 1 := by
    intro short
    have positive : 0 < (Nat.toDigits 10 n).length := Nat.length_toDigits_pos
    have less := (Nat.length_toDigits_le_iff (b := 10) (by decide) (by omega)).1 short
    exact absurd low (Nat.not_le_of_lt less)
  omega

/-- The digits of a power of ten but the last one denote a tenth of it. -/
theorem take_toDigits_tenTo (k : Nat) :
    (Nat.toDigits 10 (tenTo (k + 1))).length = k + 2 ∧
      Nat.ofDigitChars 10 ((Nat.toDigits 10 (tenTo (k + 1))).take (k + 1)) 0 = tenTo k := by
  have power : tenTo (k + 1) = 10 * tenTo k := Nat.pow_succ'
  have positive : 0 < tenTo k := Nat.pow_pos (by decide)
  have length : (Nat.toDigits 10 (tenTo k)).length = k + 1 := by
    apply length_toDigits (Nat.succ_pos k)
    · exact Nat.le_refl _
    · rw [power]
      omega
  have split := Nat.toDigits_append_toDigits (b := 10) (n := tenTo k) (d := 0) (by decide) positive
    (by decide)
  rw [Nat.add_zero, ← power, Nat.toDigits_zero] at split
  rw [← split, ← length, List.take_left, List.length_append]
  refine ⟨?_, Nat.ofDigitChars_ten_toDigits⟩
  rw [length]
  rfl

/-- What is rounded up to a power of ten is nearest to the tenth of it with a digit less. -/
theorem isNearest_tenth {k : Nat} {x : ℚ} (h : IsNearest (tenTo (k + 1)) x)
    (less : x < (tenTo (k + 1) : Nat)) : IsNearest (tenTo k) (x / 10) := by
  have near := (abs_le.1 h.1).2
  have power : ((tenTo (k + 1) : Nat) : ℚ) = 10 * (tenTo k : Nat) := by
    have power : tenTo (k + 1) = 10 * tenTo k := Nat.pow_succ'
    exact_mod_cast power
  rw [power] at near less
  have distance : |((tenTo k : Nat) : ℚ) - x / 10| < 1 / 2 :=
    abs_lt.2 ⟨by linarith, by linarith⟩
  exact ⟨distance.le, fun tie => absurd tie distance.ne⟩

/-- A number less than one and at least a tenth has as many digits as it is moved by. -/
theorem count_bounds {x : ℚ} {point : Int} (low : (10 : ℚ) ^ (point - 1) ≤ x)
    (high : x < 10 ^ point) (k : Nat) :
    (tenTo k : Nat) ≤ x * 10 ^ (((k + 1 : Nat) : Int) - point) ∧
      x * 10 ^ (((k + 1 : Nat) : Int) - point) < (tenTo (k + 1) : Nat) := by
  have positive : (0 : ℚ) < 10 ^ (((k + 1 : Nat) : Int) - point) := by positivity
  rw [cast_tenTo, cast_tenTo]
  constructor
  · calc (10 : ℚ) ^ (k : Int) = 10 ^ (point - 1) * 10 ^ (((k + 1 : Nat) : Int) - point) := by
          rw [← zpow_add₀ (by norm_num)]
          congr 1
          omega
      _ ≤ _ := by gcongr
  · calc x * 10 ^ (((k + 1 : Nat) : Int) - point)
        < 10 ^ point * 10 ^ (((k + 1 : Nat) : Int) - point) := by gcongr
      _ = _ := by
          rw [← zpow_add₀ (by norm_num)]
          congr 1
          omega

/-- The digits of a positive number, rounded to one or more. -/
theorem rounded_spec {m : Nat} (e : Int) (count : Nat) (hm : 0 < m) :
    (rounded m e (count + 1)).IsRounded (count + 1) (m * 2 ^ e) := by
  obtain ⟨denPositive, quotient⟩ := Binary64.ratio_spec m e
  have numPositive : 0 < (Binary64.ratio m e).1 := by
    rw [Nat.pos_iff_ne_zero]
    intro zero
    have filled : (m : ℚ) * 2 ^ e ≠ 0 := by positivity
    rw [zero, Nat.cast_zero, zero_div] at quotient
    exact filled quotient.symm
  unfold rounded
  generalize Binary64.ratio m e = ratio at *
  obtain ⟨num, den⟩ := ratio
  dsimp only at *
  rw [← quotient]
  obtain ⟨low, high⟩ := pointOf_spec numPositive denPositive
  obtain ⟨least, greatest⟩ := count_bounds low high count
  obtain ⟨positive, scale⟩ := scaled_spec num denPositive ((count + 1 : Nat) - pointOf num den)
  generalize scaled num den ((count + 1 : Nat) - pointOf num den) = fraction at *
  obtain ⟨n, d⟩ := fraction
  dsimp only at *
  have nearest := isNearest_roundDiv n positive
  rw [scale] at nearest
  generalize roundDiv n d = q at *
  have above := nearest.le_of_le least
  have below := nearest.le_of_lt greatest
  have isDigit : ∀ c ∈ Nat.toDigits 10 q, c.isDigit = true := by
    intro c mem
    exact Nat.isDigit_of_mem_toDigits (by decide) (by decide) mem
  -- what is rounded up to a power of ten has a digit more, and its last zero is cut off
  by_cases carries : q = tenTo (count + 1)
  · obtain ⟨length, whole⟩ := take_toDigits_tenTo count
    rw [← carries] at length whole
    refine ⟨fun c mem => isDigit c (List.mem_of_mem_take mem), ?_, ?_, ?_⟩
    · rw [List.length_take]
      omega
    · rw [Digits.whole, whole]
      exact Nat.le_refl _
    · rw [carries] at nearest
      have tenth := isNearest_tenth nearest greatest
      have moved : (num : ℚ) / den * 10 ^ (((count + 1 : Nat) : Int) - pointOf num den) / 10 =
          num / den * 10 ^ (((count + 1 : Nat) : Int) - (pointOf num den +
            (Nat.toDigits 10 q).length - (count + 1 : Nat))) := by
        rw [div_eq_mul_inv _ (10 : ℚ), mul_assoc, ← zpow_sub_one₀ (by norm_num), length]
        congr 2
        omega
      rw [Digits.whole, whole, ← moved]
      exact tenth
  · have length : (Nat.toDigits 10 q).length = count + 1 :=
      length_toDigits (Nat.succ_pos count) above (Nat.lt_of_le_of_ne below carries)
    have value : Nat.ofDigitChars 10 (Nat.toDigits 10 q) 0 = q := Nat.ofDigitChars_ten_toDigits
    rw [List.take_of_length_le (by omega), length]
    refine ⟨isDigit, length, ?_, ?_⟩
    · rw [Digits.whole, value]
      exact above
    · rw [Digits.whole, value, Int.add_sub_cancel]
      exact nearest

/-- The digits of a number rounded to so many places after the point. -/
theorem fixed_spec (m : Nat) (e : Int) (places : Nat) :
    (∀ c ∈ (fixed m e places).digits, c.isDigit = true) ∧
      places < (fixed m e places).digits.length ∧
      (fixed m e places).point = (fixed m e places).digits.length - places ∧
      IsNearest (fixed m e places).whole (m * 2 ^ e * 10 ^ places) := by
  obtain ⟨positive, quotient⟩ := Binary64.ratio_spec m e
  unfold fixed Digits.whole
  generalize Binary64.ratio m e = ratio at *
  obtain ⟨num, den⟩ := ratio
  dsimp only at *
  have nearest := isNearest_roundDiv (num * tenTo places) positive
  generalize roundDiv (num * tenTo places) den = q at *
  refine ⟨?_, ?_, rfl, ?_⟩
  · rw [List.forall_mem_append]
    constructor
    · intro c mem
      rw [List.eq_of_mem_replicate mem]
      rfl
    · intro c mem
      exact Nat.isDigit_of_mem_toDigits (by decide) (by decide) mem
  · rw [List.length_append, List.length_replicate]
    omega
  · have value : Nat.ofDigitChars 10 (Nat.toDigits 10 q) 0 = q := Nat.ofDigitChars_ten_toDigits
    rw [Nat.ofDigitChars_append, Nat.ofDigitChars_replicate_zero, Nat.mul_zero, value, ← quotient,
      div_mul_eq_mul_div]
    have power : ((tenTo places : Nat) : ℚ) = 10 ^ places := Nat.cast_pow 10 places
    rw [Nat.cast_mul, power] at nearest
    exact nearest

end Decimal

end CommandTree
