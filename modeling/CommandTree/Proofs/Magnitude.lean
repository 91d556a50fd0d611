import CommandTree.Proofs.Verdicts

/-!
# Sizes of numerals

An integer type looks at a numeral twice: it counts the significant digits, and what is left is
converted and compared with 32 bits and with the bounds. A number of 32 bits has ten significant
digits at most (`IntegerType.length_significant_of_fits`), so without a check the answer depends on
the number alone (`IntegerType.parse_of_spells`), and the four answers tell the four standings of a
number apart (`IntegerType.Standing.attempt_inj`).

The conversion has a limit of its own, which counts zeros in front too. They are not significant, so
a numeral can pass the first look and be too long for the second (`Numeral.IsOverlong`). Nothing
else raises an error.
-/

namespace CommandTree

namespace Numeral

/-- The text is an optional sign and one digit or more, which denote the number. -/
def Spells (cs : List Char) (n : Int) : Prop :=
  ∃ sign ds, cs = sign ++ ds ∧ IsSign sign ∧ ds ≠ [] ∧ (∀ c ∈ ds, c.isDigit = true) ∧
    n = if sign = ['-'] then -(Nat.ofDigitChars 10 ds 0 : Int) else Nat.ofDigitChars 10 ds 0

theorem sign_split (cs : List Char) :
    ∃ front, IsSign front ∧ cs = front ++ (sign cs).2 ∧ (sign cs).1 = decide (front = ['-']) := by
  unfold sign
  split
  · exact ⟨['+'], .inr (.inl rfl), rfl, rfl⟩
  · exact ⟨['-'], .inr (.inr rfl), rfl, rfl⟩
  · exact ⟨[], .inl rfl, rfl, rfl⟩

theorem sign_append {front ds : List Char} (h : IsSign front)
    (digits : ∀ c ∈ ds, c.isDigit = true) : sign (front ++ ds) = (decide (front = ['-']), ds) := by
  rcases h with rfl | rfl | rfl
  · exact sign_of_digits (all_isDigit_iff.2 digits)
  · rfl
  · rfl

/-- The numerals are the texts that consist of a sign, which may be absent, and digits. -/
theorem whole?_eq_some_iff {cs : List Char} {w : Whole} :
    whole? cs = some w ↔
      ∃ front, cs = front ++ w.digits ∧ IsSign front ∧ w.digits ≠ [] ∧
        (∀ c ∈ w.digits, c.isDigit = true) ∧ w.negative = decide (front = ['-']) := by
  constructor
  · intro h
    obtain ⟨front, isSign, split, negative⟩ := sign_split cs
    unfold whole? at h
    dsimp only at h
    split at h
    case isTrue digits =>
      cases h
      rw [Bool.and_eq_true, all_isDigit_iff] at digits
      exact ⟨front, split, isSign, by simpa using digits.1, digits.2, negative⟩
    case isFalse => cases h
  · rintro ⟨front, rfl, isSign, filled, digits, negative⟩
    have taken : (!w.digits.isEmpty && w.digits.all isDigit) = true := by
      rw [Bool.and_eq_true, all_isDigit_iff]
      exact ⟨by simpa using filled, digits⟩
    unfold whole?
    rw [sign_append isSign digits]
    dsimp only
    rw [if_pos taken, ← negative]

theorem spells_iff {cs : List Char} {n : Int} :
    Spells cs n ↔ ∃ w, whole? cs = some w ∧ w.value = n := by
  simp only [whole?_eq_some_iff]
  constructor
  · rintro ⟨front, ds, split, isSign, filled, digits, rfl⟩
    refine ⟨⟨decide (front = ['-']), ds⟩, ⟨front, split, isSign, filled, digits, rfl⟩, ?_⟩
    simp [Whole.value, Binary64.signed, ofDigits_eq]
  · rintro ⟨w, ⟨front, split, isSign, filled, digits, negative⟩, rfl⟩
    refine ⟨front, w.digits, split, isSign, filled, digits, ?_⟩
    simp [Whole.value, Binary64.signed, ofDigits_eq, negative]

/-! ## Significant digits -/

/-- The digits of a numeral are zeros and those from the first that is not zero on. -/
theorem Whole.digits_eq (w : Whole) :
    ∃ zeros, w.digits = List.replicate zeros '0' ++ w.significant := by
  obtain ⟨zeros, taken⟩ := takeWhile_zero w.digits
  refine ⟨zeros, ?_⟩
  rw [← taken]
  exact List.takeWhile_append_dropWhile.symm

theorem Whole.natAbs_value (w : Whole) :
    w.value.natAbs = Nat.ofDigitChars 10 w.significant 0 := by
  obtain ⟨zeros, split⟩ := w.digits_eq
  have abs : w.value.natAbs = Nat.ofDigitChars 10 w.digits 0 := by
    rw [← ofDigits_eq, value, Binary64.signed]
    split <;> omega
  rw [abs, split, Nat.ofDigitChars_append, Nat.ofDigitChars_replicate_zero, Nat.mul_zero]

theorem one_le_of_isDigit {d : Char} (digit : d.isDigit = true) (h : d ≠ '0') :
    1 ≤ d.toNat - '0'.toNat := by
  have least : '0'.toNat ≤ d.toNat := by
    rw [Char.isDigit, Bool.and_eq_true, decide_eq_true_eq] at digit
    exact digit.1
  have other : d.toNat ≠ '0'.toNat := by
    intro same
    exact h (Char.toNat_inj.1 same)
  omega

/-- A number is at least the power of ten of its significant digits but the first one. -/
theorem Whole.pow_le_value {w : Whole} (digits : ∀ c ∈ w.digits, c.isDigit = true)
    (h : w.significant ≠ []) : tenTo (w.significant.length - 1) ≤ w.value.natAbs := by
  rw [w.natAbs_value]
  have sub : w.significant.Sublist w.digits := List.dropWhile_sublist _
  have head := List.head?_dropWhile_not (· == '0') w.digits
  rw [← significant] at head
  cases shape : w.significant with
  | nil => exact absurd shape h
  | cons d ds =>
    rw [shape] at sub head
    have first : 1 ≤ d.toNat - '0'.toNat := by
      apply one_le_of_isDigit (digits d (sub.mem List.mem_cons_self))
      rintro rfl
      cases head
    rw [Nat.ofDigitChars_cons, Nat.ofDigitChars_eq_ofDigitChars_zero, List.length_cons,
      Nat.add_sub_cancel]
    calc tenTo ds.length = 10 ^ ds.length * 1 := (Nat.mul_one _).symm
      _ ≤ 10 ^ ds.length * (10 * 0 + (d.toNat - '0'.toNat)) := Nat.mul_le_mul_left _ (by omega)
      _ ≤ _ := Nat.le_add_right _ _

end Numeral

namespace IntegerType

theorem fits_iff {n : Int} : fits n = true ↔ leastInt ≤ n ∧ n ≤ greatestInt := by
  rw [fits, Bool.and_eq_true, decide_eq_true_eq, decide_eq_true_eq]

/-- A number of 32 bits has ten significant digits at most. -/
theorem length_significant_of_fits {w : Numeral.Whole}
    (digits : ∀ c ∈ w.digits, c.isDigit = true) (fit : fits w.value = true) :
    w.significant.length ≤ 10 := by
  rw [fits_iff, leastInt, greatestInt] at fit
  apply Nat.le_of_not_lt
  intro long
  have filled : w.significant ≠ [] := by
    intro none
    rw [none] at long
    cases long
  have large := Numeral.Whole.pow_le_value digits filled
  have larger : tenTo 10 ≤ tenTo (w.significant.length - 1) := by
    apply Nat.pow_le_pow_right
    · decide
    · omega
  have beyond : tenTo 10 = 10000000000 := by rfl
  omega

/-! ## Types as they are declared -/

variable {host : Host} {given : IntegerFields} {t : IntegerType}

theorem int?_of_declareBound {name : String} {bound : Value}
    {n : { n : WholeNumber // leastInt ≤ n.number ∧ n.number ≤ greatestInt }}
    (h : declareBound name bound = .ok n) : bound.int? = some n.1.number := by
  unfold declareBound at h
  split at h
  case h_1 => cases h
  case h_2 m whole =>
    split at h
    case isFalse => cases h
    case isTrue bounded =>
      cases h
      unfold WholeNumber.ofValue? at whole
      split at whole
      case h_1 number =>
        cases whole
        exact number
      case h_2 => cases whole

/-- A type that was accepted has the bounds and the check that were given. -/
theorem of_declare (h : declare host given = .ok t) :
    given.least.int? = some t.least.number ∧ given.greatest.int? = some t.greatest.number ∧
      given.check.check? .integer = .ok t.check := by
  obtain ⟨least, low, h⟩ := Except.bind_eq_ok_iff.1 h
  obtain ⟨greatest, high, h⟩ := Except.bind_eq_ok_iff.1 h
  split at h
  case isFalse => cases h
  case isTrue =>
    obtain ⟨check, checked, h⟩ := Except.bind_eq_ok_iff.1 h
    obtain ⟨error, -, h⟩ := Except.bind_eq_ok_iff.1 h
    obtain ⟨ceiling, -, h⟩ := Except.bind_eq_ok_iff.1 h
    dsimp only at h
    split at h
    case isTrue => cases h
    case isFalse =>
      cases h
      exact ⟨int?_of_declareBound low, int?_of_declareBound high, checked⟩

/-! ## What becomes of a number -/

/-- Where a number stands to a type: beyond 32 bits, beyond one of the bounds, or between them. -/
inductive Standing where
  | unfit
  | below
  | above
  | within
  deriving DecidableEq, Repr

def standing (t : IntegerType) (n : Int) : Standing :=
  if n < leastInt ∨ greatestInt < n then .unfit
  else if n < t.least.number then .below
  else if t.greatest.number < n then .above
  else .within

/-- What a type without a check makes of a token that denotes a number. -/
def Standing.attempt (t : IntegerType) (token : String) (rest : List String) (n : Int) :
    Standing → Attempt
  | unfit => .reject (invalid token) (token :: rest)
  | below =>
    .reject s!"Integer {n} is less than the minimum value {t.least.number}" (token :: rest)
  | above =>
    .reject s!"Integer {n} is greater than the maximum value {t.greatest.number}" (token :: rest)
  | within => .accept (.int n) rest

variable {token : String} {rest : List String} {n : Int}

theorem standing_eq_iff :
    (t.standing n = .unfit ↔ n < leastInt ∨ greatestInt < n) ∧
    (t.standing n = .below ↔ leastInt ≤ n ∧ n < t.least.number) ∧
    (t.standing n = .above ↔ t.greatest.number < n ∧ n ≤ greatestInt) ∧
    (t.standing n = .within ↔ t.least.number ≤ n ∧ n ≤ t.greatest.number) := by
  have low := t.leastInt_le
  have high := t.le_greatestInt
  have crossed := t.least_le_greatest
  unfold standing
  split
  · simp only [reduceCtorEq, true_iff, false_iff]
    omega
  split
  · simp only [reduceCtorEq, true_iff, false_iff]
    omega
  split
  · simp only [reduceCtorEq, true_iff, false_iff]
    omega
  · simp only [reduceCtorEq, true_iff, false_iff]
    omega

/-- The attempts tell the standings apart: no two messages are the same. -/
theorem Standing.attempt_inj {s s' : Standing} :
    s.attempt t token rest n = s'.attempt t token rest n ↔ s = s' := by
  have invalid_ne_below : s!"Invalid integer: {token}".toList ≠
      s!"Integer {n} is less than the minimum value {t.least.number}".toList := by
    simp [toString]
  have invalid_ne_above : s!"Invalid integer: {token}".toList ≠
      s!"Integer {n} is greater than the maximum value {t.greatest.number}".toList := by
    simp [toString]
  have below_ne_above : s!"Integer {n} is less than the minimum value {t.least.number}".toList ≠
      s!"Integer {n} is greater than the maximum value {t.greatest.number}".toList := by
    simp [toString]
  have said {message message' : String} (other : message.toList ≠ message'.toList) :
      Attempt.reject message (token :: rest) ≠ .reject message' (token :: rest) := by
    intro same
    cases same
    exact other rfl
  have read (message : String) :
      Attempt.reject message (token :: rest) ≠ .accept (.int n) rest := by
    intro same
    cases same
  constructor
  · intro h
    cases s <;> cases s' <;> first | rfl | refine absurd h ?_
    case unfit.below => exact said invalid_ne_below
    case unfit.above => exact said invalid_ne_above
    case unfit.within => exact read _
    case below.unfit => exact said invalid_ne_below.symm
    case below.above => exact said below_ne_above
    case below.within => exact read _
    case above.unfit => exact said invalid_ne_above.symm
    case above.below => exact said below_ne_above.symm
    case above.within => exact read _
    case within.unfit => exact (read _).symm
    case within.below => exact (read _).symm
    case within.above => exact (read _).symm
  · rintro rfl
    rfl

/-- A number of 32 bits is refused without a check only if it is beyond a bound. -/
theorem parse_of_denotes_unchecked (unchecked : t.check = none) (denotes : Denotes token n)
    (fit : leastInt ≤ n ∧ n ≤ greatestInt) :
    t.parse (token :: rest) = (t.standing n).attempt t token rest n := by
  have fits : ¬ (n < leastInt ∨ greatestInt < n) := by omega
  rw [parse_of_denotes denotes, refusal_int, unchecked, standing, if_neg fits]
  by_cases below : n < t.least.number
  · have worded : (s!"Integer {n} is less than the minimum value {t.least.number}").isEmpty =
        false := by
      simp [toString]
    simp only [if_pos below, worded, Standing.attempt, Bool.false_eq_true, if_false]
  by_cases above : t.greatest.number < n
  · have worded : (s!"Integer {n} is greater than the maximum value {t.greatest.number}").isEmpty =
        false := by
      simp [toString]
    simp only [if_neg below, if_pos above, worded, Standing.attempt, Bool.false_eq_true, if_false]
  · rw [if_neg below, if_neg above, if_neg below, if_neg above]
    rfl

/-- A numeral that is not too long to be converted is dealt with as its number demands. -/
theorem parse_of_spells (unchecked : t.check = none) (short : token.length ≤ greatestDigitCount)
    (spells : Numeral.Spells token.toList n) :
    t.parse (token :: rest) = (t.standing n).attempt t token rest n := by
  obtain ⟨w, numeral, rfl⟩ := Numeral.spells_iff.1 spells
  obtain ⟨front, split, -, -, digits, -⟩ := Numeral.whole?_eq_some_iff.1 numeral
  have convertible : w.digits.length ≤ greatestDigitCount := by
    have lengths := congrArg List.length split
    rw [List.length_append, String.length_toList] at lengths
    omega
  by_cases fit : leastInt ≤ w.value ∧ w.value ≤ greatestInt
  · have fits := fits_iff.2 fit
    have few := length_significant_of_fits digits fits
    exact parse_of_denotes_unchecked unchecked ⟨w, numeral, few, convertible, fits, rfl⟩ fit
  · have unfit : fits w.value = false := by
      rw [Bool.eq_false_iff, Ne, fits_iff]
      exact fit
    have beyond : w.value < leastInt ∨ greatestInt < w.value := by omega
    have converted : ¬ greatestDigitCount < w.digits.length := by omega
    -- whether it has too many digits or not, a number beyond 32 bits is refused alike
    rw [standing, if_pos beyond]
    simp only [parse, numeral, if_neg converted, unfit, Bool.not_false, if_true, ite_self,
      Standing.attempt]

theorem parse_of_not_spells (h : ∀ n, ¬ Numeral.Spells token.toList n) :
    t.parse (token :: rest) = .reject (invalid token) (token :: rest) := by
  have none : Numeral.whole? token.toList = none := by
    rw [Option.eq_none_iff_forall_ne_some]
    intro w numeral
    exact h w.value (Numeral.spells_iff.2 ⟨w, numeral, rfl⟩)
  simp only [parse, none]

end IntegerType

namespace TokenType

/-- **Every token gets the answer that its number demands.** A numeral that is not too long to be
converted is read if its number is between the bounds that were declared; it is refused for one of
the bounds if the number has 32 bits and is beyond that bound, and as no integer if it has more. Any
other token is refused as no integer. Counting significant digits refuses no number of 32 bits, and
every number between the bounds is read from its own text. -/
theorem integers_are_classified {host : Host} {given : IntegerFields} {t : IntegerType}
    (declared : IntegerType.declare host given = .ok t) (unchecked : given.check = .nothing)
    {least greatest : Int} (low : given.least.int? = some least)
    (high : given.greatest.int? = some greatest) :
    (∀ token rest n, token.length ≤ greatestDigitCount → Numeral.Spells token.toList n →
      (t.parse (token :: rest) = .accept (.int n) rest ↔ least ≤ n ∧ n ≤ greatest) ∧
      (t.parse (token :: rest) =
          .reject s!"Integer {n} is less than the minimum value {least}" (token :: rest) ↔
        leastInt ≤ n ∧ n < least) ∧
      (t.parse (token :: rest) =
          .reject s!"Integer {n} is greater than the maximum value {greatest}" (token :: rest) ↔
        greatest < n ∧ n ≤ greatestInt) ∧
      (t.parse (token :: rest) = .reject s!"Invalid integer: {token}" (token :: rest) ↔
        n < leastInt ∨ greatestInt < n)) ∧
    (∀ token rest, (∀ n, ¬ Numeral.Spells token.toList n) →
      t.parse (token :: rest) = .reject s!"Invalid integer: {token}" (token :: rest)) ∧
    (∀ token w, Numeral.whole? (String.toList token) = some w →
      leastInt ≤ w.value ∧ w.value ≤ greatestInt → w.significant.length ≤ 10) ∧
    (∀ n rest, least ≤ n → n ≤ greatest →
      t.parse (toString n :: rest) = .accept (.int n) rest) := by
  obtain ⟨lowest, highest, check⟩ := IntegerType.of_declare declared
  rw [unchecked] at check
  rw [lowest] at low
  rw [highest] at high
  cases low
  cases high
  have free : t.check = none := (Except.ok.inj check).symm
  have classified (token : String) (rest : List String) (n : Int)
      (short : token.length ≤ greatestDigitCount) (spells : Numeral.Spells token.toList n)
      (s : IntegerType.Standing) :
      t.parse (token :: rest) = s.attempt t token rest n ↔ t.standing n = s := by
    rw [IntegerType.parse_of_spells free short spells]
    exact IntegerType.Standing.attempt_inj
  refine ⟨?_, ?_, ?_, ?_⟩
  · intro token rest n short spells
    have answer := classified token rest n short spells
    obtain ⟨unfit, below, above, within⟩ := IntegerType.standing_eq_iff (t := t) (n := n)
    exact ⟨(answer .within).trans within, (answer .below).trans below,
      (answer .above).trans above, (answer .unfit).trans unfit⟩
  · intro token rest none
    exact IntegerType.parse_of_not_spells none
  · intro token w numeral fit
    obtain ⟨-, -, -, -, digits, -⟩ := Numeral.whole?_eq_some_iff.1 numeral
    exact IntegerType.length_significant_of_fits digits (IntegerType.fits_iff.2 fit)
  · intro n rest low high
    have passes : Check.passes t.check (.int n) = .ok true := by rw [free]; rfl
    have alone := IntegerType.parse_numeral (IntegerType.mem_range.2 ⟨low, high⟩) passes
    have single := parse_cons (t := .integer t) trivial (toString n) rest
    rw [parse, alone] at single
    exact single

/-- Whole numbers from five below zero to five above, unchecked. -/
def small : IntegerType :=
  { gated refusal with
    least := ⟨-5, .int (-5), rfl⟩
    greatest := ⟨5, .int 5, rfl⟩
    check := none
    least_le_greatest := by decide
    leastInt_le := by decide
    le_greatestInt := by decide }

theorem small_declared :
    IntegerType.declare .plain
      { least := .int (-5), greatest := .int 5, error := .str "no" } = .ok small := by
  have wording : declareWording .plain .integer (.str "no") = .ok refusal :=
    declareWording_text .plain .integer refusal rfl
  simp only [IntegerType.declare, wording]
  rfl

/-- Zeros in front do not count, and one sign is enough. -/
theorem small_integers_are_classified :
    IntegerType.declare .plain
        { least := .int (-5), greatest := .int 5, error := .str "no" } = .ok small ∧
      small.parse ["-0000000000005"] = .accept (.int (-5)) [] ∧
      small.parse ["+6"] =
        .reject "Integer 6 is greater than the maximum value 5" ["+6"] ∧
      small.parse ["--5"] = .reject "Invalid integer: --5" ["--5"] ∧
      small.parse ["-3"] = .accept (.int (-3)) [] := by
  have low : (Value.int (-5)).int? = some (-5) := rfl
  have high : (Value.int 5).int? = some 5 := rfl
  obtain ⟨spelled, unspelled, -, shown⟩ := integers_are_classified small_declared rfl low high
  have padded : Numeral.Spells "-0000000000005".toList (-5) :=
    Numeral.spells_iff.2 ⟨⟨true, List.replicate 12 '0' ++ ['5']⟩, rfl, rfl⟩
  have six : Numeral.Spells "+6".toList 6 := Numeral.spells_iff.2 ⟨⟨false, ['6']⟩, rfl, rfl⟩
  have twice (n : Int) : ¬ Numeral.Spells "--5".toList n := by
    rw [Numeral.spells_iff]
    rintro ⟨w, numeral, -⟩
    have none : Numeral.whole? "--5".toList = none := by rfl
    rw [none] at numeral
    cases numeral
  refine ⟨small_declared, ?_, ?_, ?_, ?_⟩
  · exact (spelled "-0000000000005" [] (-5) (by decide) padded).1.2 (by decide)
  · exact (spelled "+6" [] 6 (by decide) six).2.2.1.2 (by decide)
  · exact unspelled "--5" [] twice
  · exact shown (-3) [] (by decide) (by decide)

end TokenType

/-! ## Numerals that are too long -/

namespace Numeral

/-- A numeral with at most ten digits after so many zeros that it is too long to be converted. -/
def IsOverlong (cs : List Char) : Prop :=
  ∃ front zeros ds, cs = front ++ (List.replicate zeros '0' ++ ds) ∧ IsSign front ∧
    (∀ c ∈ ds, c.isDigit = true) ∧ ds.length ≤ 10 ∧ greatestDigitCount < zeros + ds.length

theorem significant_replicate (negative : Bool) (zeros : Nat) (ds : List Char) :
    (Whole.mk negative (List.replicate zeros '0' ++ ds)).significant.length ≤ ds.length := by
  have zero : ∀ c ∈ List.replicate zeros '0', (c == '0') = true := by
    intro c mem
    rw [List.eq_of_mem_replicate mem]
    rfl
  rw [Whole.significant, List.dropWhile_append_of_pos zero]
  exact (List.dropWhile_sublist _).length_le

theorem isOverlong_iff {cs : List Char} :
    IsOverlong cs ↔ ∃ w, whole? cs = some w ∧ w.significant.length ≤ 10 ∧
      greatestDigitCount < w.digits.length := by
  simp only [whole?_eq_some_iff]
  constructor
  · rintro ⟨front, zeros, ds, rfl, isSign, digits, few, long⟩
    have length : (List.replicate zeros '0' ++ ds).length = zeros + ds.length := by simp
    refine ⟨⟨decide (front = ['-']), List.replicate zeros '0' ++ ds⟩,
      ⟨front, rfl, isSign, ?_, ?_, rfl⟩, ?_, ?_⟩
    · intro none
      dsimp only at none
      rw [none, List.length_nil] at length
      omega
    · rw [List.forall_mem_append]
      refine ⟨?_, digits⟩
      intro c mem
      rw [List.eq_of_mem_replicate mem]
      rfl
    · exact Nat.le_trans (significant_replicate _ zeros ds) few
    · rw [length]
      exact long
  · rintro ⟨w, ⟨front, split, isSign, -, digits, -⟩, few, long⟩
    obtain ⟨zeros, padded⟩ := w.digits_eq
    have sub : w.significant.Sublist w.digits := List.dropWhile_sublist _
    have length : w.digits.length = zeros + w.significant.length := by
      rw [padded, List.length_append, List.length_replicate]
    refine ⟨front, zeros, w.significant, ?_, isSign, ?_, few, ?_⟩
    · rw [← padded]
      exact split
    · intro c mem
      exact digits c (sub.mem mem)
    · omega

end Numeral

namespace IntegerType

variable {t : IntegerType} {token : String} {rest : List String}

theorem refusal_ok (unchecked : t.check = none) (n : Int) :
    ∃ refused, t.refusal (.int n) = .ok refused := by
  rw [refusal_int, unchecked]
  split
  · exact ⟨_, rfl⟩
  split
  · exact ⟨_, rfl⟩
  · exact ⟨none, rfl⟩

theorem parse_of_isOverlong (h : Numeral.IsOverlong token.toList) :
    t.parse (token :: rest) = .raise .tooManyDigits (token :: rest) := by
  obtain ⟨w, numeral, few, long⟩ := Numeral.isOverlong_iff.1 h
  have few : ¬ 10 < w.significant.length := by omega
  simp only [parse, numeral, if_neg few, if_pos long]

theorem parse_of_not_isOverlong (unchecked : t.check = none)
    (h : ¬ Numeral.IsOverlong token.toList) (e : Error) :
    (t.parse (token :: rest)).answer ≠ .error e := by
  intro raised
  cases numeral : Numeral.whole? token.toList with
  | none =>
    simp only [parse, numeral] at raised
    cases raised
  | some w =>
    simp only [parse, numeral] at raised
    split at raised
    case isTrue => cases raised
    case isFalse few =>
    split at raised
    case isTrue long => exact h (Numeral.isOverlong_iff.2 ⟨w, numeral, by omega, long⟩)
    case isFalse =>
    split at raised
    case isTrue => cases raised
    case isFalse =>
      obtain ⟨refused, answered⟩ := refusal_ok unchecked w.value
      rw [answered] at raised
      cases refused with
      | none => cases raised
      | some message =>
        dsimp only at raised
        split at raised <;> cases raised

end IntegerType

namespace TokenType

/-- **Only a numeral that is too long to be converted raises an error.** A type without a check
raises an error precisely on those with at most ten digits after their zeros and more than 4300
digits in all; and any other tokens it reads or refuses. -/
theorem integers_raise_on_overlong_numerals (t : IntegerType) (unchecked : t.check = none) :
    (∀ tokens e, (t.parse tokens).answer = .error e ↔
      e = .tooManyDigits ∧ ∃ token rest, tokens = token :: rest ∧
        Numeral.IsOverlong token.toList) ∧
    (∀ tokens, (∀ token rest, tokens = token :: rest → ¬ Numeral.IsOverlong token.toList) →
      (∃ value, (t.parse tokens).answer = .ok (.ok value)) ∨
        ∃ message, (t.parse tokens).answer = .ok (.err message)) := by
  have raises (tokens : List String) (e : Error) : (t.parse tokens).answer = .error e ↔
      e = .tooManyDigits ∧ ∃ token rest, tokens = token :: rest ∧
        Numeral.IsOverlong token.toList := by
    constructor
    · intro raised
      cases tokens with
      | nil => cases raised
      | cons token rest =>
        by_cases long : Numeral.IsOverlong token.toList
        · rw [IntegerType.parse_of_isOverlong long] at raised
          cases raised
          exact ⟨rfl, token, rest, rfl, long⟩
        · exact absurd raised (IntegerType.parse_of_not_isOverlong unchecked long e)
    · rintro ⟨rfl, token, rest, rfl, long⟩
      rw [IntegerType.parse_of_isOverlong long]
      rfl
  refine ⟨raises, ?_⟩
  intro tokens short
  have treated := treats (t := .integer t) trivial tokens
  cases treated with
  | takes _ _ reads =>
    rw [parse] at reads
    exact .inl ⟨_, congrArg Attempt.answer reads⟩
  | refuses refused =>
    rw [parse] at refused
    exact .inr ⟨_, congrArg Attempt.answer refused⟩
  | raises raised =>
    obtain ⟨-, token, rest, same, long⟩ := (raises tokens _).1 (congrArg Attempt.answer raised)
    exact absurd long (short token rest same)

theorem short_numeral_raises_nothing :
    small.check = none ∧ ∀ e, (small.parse ["007"]).answer ≠ .error e := by
  refine ⟨rfl, ?_⟩
  intro e raised
  obtain ⟨raises, -⟩ := integers_raise_on_overlong_numerals small rfl
  obtain ⟨-, token, rest, same, long⟩ := (raises ["007"] e).1 raised
  cases same
  obtain ⟨w, numeral, -, long⟩ := Numeral.isOverlong_iff.1 long
  cases numeral
  exact absurd long (by decide)

/-- So many zeros cannot be converted. -/
theorem zeros_raise :
    IntegerType.declare .plain
        { least := .int (-5), greatest := .int 5, error := .str "no" } = .ok small ∧
      small.parse [String.ofList (List.replicate 4301 '0')] =
        .raise .tooManyDigits [String.ofList (List.replicate 4301 '0')] := by
  refine ⟨small_declared, IntegerType.parse_of_isOverlong ?_⟩
  rw [String.toList_ofList]
  refine ⟨[], 4301, [], ?_, .inl rfl, nofun, by decide, by decide⟩
  rw [List.nil_append, List.append_nil]

end TokenType

end CommandTree
