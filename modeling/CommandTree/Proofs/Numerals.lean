import CommandTree.TokenType.Integer

/-!
# Numerals of whole numbers

A whole number is read back from the numeral it is written as (`whole?_toString`), and compared
exactly with the bounds of an integer type, in whatever form these were given (`less_of_int?`).
-/

namespace CommandTree

namespace Numeral

/-- A sign in front of digits, which may be absent. -/
def IsSign (cs : List Char) : Prop := cs = [] ∨ cs = ['+'] ∨ cs = ['-']

theorem isDigit_eq (c : Char) : isDigit c = c.isDigit := by
  simp only [isDigit, Char.isDigit, Char.le_def, ge_iff_le]

theorem ofDigits_eq (ds : List Char) : ofDigits ds = Nat.ofDigitChars 10 ds 0 := by
  rw [Nat.ofDigitChars_eq_foldl]
  rfl

theorem all_isDigit_iff {ds : List Char} :
    ds.all isDigit = true ↔ ∀ c ∈ ds, c.isDigit = true := by
  simp only [List.all_eq_true, isDigit_eq]

theorem isDigit_of_mem_takeWhile {c : Char} {cs : List Char} (h : c ∈ cs.takeWhile isDigit) :
    c.isDigit = true := by
  rw [← isDigit_eq]
  exact List.all_eq_true.1 (List.all_takeWhile (p := isDigit)) c h

/-- The zeros in front of a text. -/
theorem takeWhile_zero (cs : List Char) :
    ∃ zeros, cs.takeWhile (· == '0') = List.replicate zeros '0' := by
  refine ⟨(cs.takeWhile (· == '0')).length, ?_⟩
  rw [List.eq_replicate_iff]
  refine ⟨rfl, ?_⟩
  intro c mem
  have zero := List.all_eq_true.1 (List.all_takeWhile (p := (· == '0'))) c mem
  exact beq_iff_eq.1 zero

theorem ofDigits_toDigits (n : Nat) : ofDigits (Nat.toDigits 10 n) = n := by
  have h : Nat.ofDigitChars 10 (Nat.toDigits 10 n) 0 = n := Nat.ofDigitChars_ten_toDigits
  rwa [Nat.ofDigitChars_eq_foldl] at h

theorem all_isDigit_toDigits (n : Nat) : (Nat.toDigits 10 n).all isDigit = true := by
  rw [List.all_eq_true]
  intro c hc
  rw [isDigit_eq]
  exact Nat.isDigit_of_mem_toDigits (by decide) (by decide) hc

/-- Digits start with no sign. -/
theorem sign_of_digits {ds : List Char} (digits : ds.all isDigit = true) :
    sign ds = (false, ds) := by
  unfold sign
  split
  · simp [isDigit] at digits
  · simp [isDigit] at digits
  · rfl

/-- The numeral that a whole number is written as. -/
def ofInt (n : Int) : Whole := ⟨n < 0, Nat.toDigits 10 n.natAbs⟩

theorem value_ofInt (n : Int) : (ofInt n).value = n := by
  simp only [ofInt, Whole.value, ofDigits_toDigits, Binary64.signed, decide_eq_true_eq]
  split <;> omega

theorem toList_toString (n : Int) :
    (toString n).toList =
      if n < 0 then '-' :: Nat.toDigits 10 n.natAbs else Nat.toDigits 10 n.natAbs := by
  rw [Int.toString_eq_repr, Int.repr_eq_if]
  by_cases h : n < 0
  · have abs : (-n).toNat = n.natAbs := by omega
    rw [if_pos h, if_neg (by omega), abs, String.toList_append, Nat.toList_repr]
    rfl
  · have abs : n.toNat = n.natAbs := by omega
    rw [if_neg h, if_pos (by omega), abs, Nat.toList_repr]

/-- A whole number is read back from its numeral. -/
theorem whole?_toString (n : Int) : whole? (toString n).toList = some (ofInt n) := by
  have digits := all_isDigit_toDigits n.natAbs
  have filled : (Nat.toDigits 10 n.natAbs).isEmpty = false := by
    simp [Nat.toDigits_ne_nil]
  rw [toList_toString]
  by_cases h : n < 0
  · simp [whole?, h, sign, filled, digits, ofInt]
  · simp [whole?, h, sign_of_digits digits, filled, digits, ofInt]

/-- A number of 32 bits has ten digits at most. -/
theorem length_digits_ofInt {n : Int} (least : leastInt ≤ n) (greatest : n ≤ greatestInt) :
    (ofInt n).digits.length ≤ 10 := by
  rw [ofInt, Nat.length_toDigits_le_iff (by decide) (by decide)]
  unfold leastInt at least
  unfold greatestInt at greatest
  omega

theorem length_significant_le (w : Whole) : w.significant.length ≤ w.digits.length :=
  (List.dropWhile_sublist _).length_le

end Numeral

theorem Binary64.order?_ofWhole (a b : Int) :
    (ofWhole a).order? (ofWhole b) = some (compare a b) := by
  have signed_natAbs : ∀ n : Int, signed (n < 0) n.natAbs = n := by
    intro n
    simp only [signed, decide_eq_true_eq]
    split <;> omega
  simp [ofWhole, order?, inUnits, twoTo, signed_natAbs]

namespace Value

theorem number?_of_int? {v : Value} {a : Int} (h : v.int? = some a) :
    v.number? = some (.ofWhole a) := by
  cases v with
  | int | code | outcome => cases h; rfl
  | _ => cases h

/-- Whole numbers are compared by their size, whatever they are given as. -/
theorem less_of_int? {v w : Value} {a b : Int} (hv : v.int? = some a) (hw : w.int? = some b) :
    v.less w = .ok (decide (a < b)) := by
  have numbers : ∀ x y, v.number? = some x → w.number? = some y →
      v.less w = .ok (x.order? y == some .lt) := by
    intro x y hx hy
    cases v with
    | int | code | outcome => simp only [less, hx, hy]
    | _ => cases hv
  rw [numbers _ _ (number?_of_int? hv) (number?_of_int? hw), Binary64.order?_ofWhole]
  by_cases h : a < b <;> simp [h, Int.compare_eq_lt]

end Value

end CommandTree
