import CommandTree.Proofs.Rounding

/-!
# Decimals as they are laid out

Digits and the place of the point denote a number (`Decimal.Digits.value`), and either layout
spells it: digits before and after a point (`Decimal.IsPlain`), or a digit, others after a point and
a power of ten (`Decimal.IsScaled`). Leaving out the zeros at the end changes the digits but not the
number (`Decimal.value_trim`).
-/

namespace CommandTree

namespace Decimal

/-- What digits with a point before, among or after them denote. -/
def Digits.value (d : Digits) : ℚ := d.whole * 10 ^ (d.point - d.digits.length)

/-- The digits after the point; the point is left out with none of them unless it is kept. -/
def fraction (keepPoint : Bool) (part : List Char) : List Char :=
  if part.isEmpty && !keepPoint then [] else '.' :: part

/-- The text is digits before and after a point, which denote the number. -/
def IsPlain (keepPoint : Bool) (part : List Char) (x : ℚ) (cs : List Char) : Prop :=
  ∃ whole, cs = whole ++ fraction keepPoint part ∧ whole ≠ [] ∧
    (∀ c ∈ whole ++ part, c.isDigit = true) ∧
    x = Nat.ofDigitChars 10 (whole ++ part) 0 * 10 ^ (-part.length : Int)

/-- The text is a digit, others after a point and the power of ten with which they denote the
number. -/
def IsScaled (keepPoint : Bool) (mark : Char) (part : List Char) (power : Int) (x : ℚ)
    (cs : List Char) : Prop :=
  ∃ first exponent,
    cs = first :: fraction keepPoint part ++
      mark :: (if power < 0 then '-' else '+') :: exponent ∧
    (∀ c ∈ first :: part, c.isDigit = true) ∧ (∀ c ∈ exponent, c.isDigit = true) ∧
    2 ≤ exponent.length ∧ Nat.ofDigitChars 10 exponent 0 = power.natAbs ∧
    x = Nat.ofDigitChars 10 (first :: part) 0 * 10 ^ (power - part.length)

theorem ne_blank_of_isDigit {c : Char} (h : c.isDigit = true) : c ≠ ' ' := by
  rintro rfl
  cases h

theorem ne_blank_of_mem_fraction {keepPoint : Bool} {part : List Char}
    (digits : ∀ c ∈ part, c.isDigit = true) : ∀ c ∈ fraction keepPoint part, c ≠ ' ' := by
  intro c mem
  unfold fraction at mem
  split at mem
  · cases mem
  · rcases List.mem_cons.1 mem with rfl | mem
    · decide
    · exact ne_blank_of_isDigit (digits c mem)

theorem IsPlain.ne_blank {keepPoint : Bool} {part cs : List Char} {x : ℚ}
    (h : IsPlain keepPoint part x cs) : ∀ c ∈ cs, c ≠ ' ' := by
  obtain ⟨whole, rfl, -, digits, -⟩ := h
  rw [List.forall_mem_append] at digits ⊢
  exact ⟨fun c mem => ne_blank_of_isDigit (digits.1 c mem), ne_blank_of_mem_fraction digits.2⟩

theorem IsScaled.ne_blank {keepPoint : Bool} {mark : Char} {part cs : List Char} {power : Int}
    {x : ℚ} (h : IsScaled keepPoint mark part power x cs) (marked : mark ≠ ' ') :
    ∀ c ∈ cs, c ≠ ' ' := by
  obtain ⟨first, exponent, rfl, digits, powers, -⟩ := h
  have sign : (if power < 0 then '-' else '+') ≠ ' ' := by
    split <;> decide
  rw [List.forall_mem_cons] at digits
  rw [List.forall_mem_append, List.forall_mem_cons, List.forall_mem_cons, List.forall_mem_cons]
  refine ⟨⟨ne_blank_of_isDigit digits.1, ne_blank_of_mem_fraction digits.2⟩, marked, sign, ?_⟩
  intro c mem
  exact ne_blank_of_isDigit (powers c mem)

/-- The digits after the point where a number is written without an exponent. -/
def Digits.part (d : Digits) : List Char :=
  List.replicate (-d.point).toNat '0' ++ d.digits.drop d.point.toNat

theorem isDigit_of_mem_replicate {k : Nat} {c : Char} (h : c ∈ List.replicate k '0') :
    c.isDigit = true := by
  rw [List.eq_of_mem_replicate h]
  rfl

theorem positional_isPlain {d : Digits} (digits : ∀ c ∈ d.digits, c.isDigit = true)
    (keepPoint : Bool) : IsPlain keepPoint d.part d.value (positional d keepPoint) := by
  unfold positional
  dsimp only
  by_cases before : d.point ≤ 0
  · -- a zero stands for the digits before the point
    have none : d.point.toNat = 0 := by omega
    rw [none, List.take_zero, Nat.zero_sub, List.replicate_zero, List.append_nil,
      List.isEmpty_nil, if_pos rfl, List.drop_zero]
    have part : d.part = List.replicate (-d.point).toNat '0' ++ d.digits := by
      rw [Digits.part, none, List.drop_zero]
    refine ⟨['0'], ?_, List.cons_ne_nil _ _, ?_, ?_⟩
    · rw [part]
      rfl
    · rw [part]
      intro c mem
      rcases List.mem_append.1 mem with mem | mem
      · rw [List.mem_singleton.1 mem]
        rfl
      · rcases List.mem_append.1 mem with mem | mem
        · exact isDigit_of_mem_replicate mem
        · exact digits c mem
    · have zeros : ['0'] ++ d.part = List.replicate ((-d.point).toNat + 1) '0' ++ d.digits := by
        rw [part, List.replicate_succ]
        rfl
      rw [zeros, Nat.ofDigitChars_append, Nat.ofDigitChars_replicate_zero, Nat.mul_zero]
      have places : d.point - d.digits.length = (-d.part.length : Int) := by
        rw [part, List.length_append, List.length_replicate]
        omega
      rw [Digits.value, places]
      rfl
  · -- zeros stand for digits that are missing before the point
    have right : (-d.point).toNat = 0 := by omega
    rw [right, List.replicate_zero, List.nil_append]
    have part : d.part = d.digits.drop d.point.toNat := by
      rw [Digits.part, right]
      rfl
    rw [← part]
    have taken : (d.digits.take d.point.toNat).length = min d.point.toNat d.digits.length :=
      List.length_take
    generalize blanks : d.point.toNat - (d.digits.take d.point.toNat).length = zeros
    have filled : d.digits.take d.point.toNat ++ List.replicate zeros '0' ≠ [] := by
      intro empty
      have length := congrArg List.length empty
      rw [List.length_append, List.length_replicate, List.length_nil] at length
      omega
    rw [List.isEmpty_eq_false_iff.2 filled, if_neg Bool.false_ne_true]
    refine ⟨_, rfl, filled, ?_, ?_⟩
    · intro c mem
      rw [part] at mem
      rcases List.mem_append.1 mem with mem | mem
      · rcases List.mem_append.1 mem with mem | mem
        · exact digits c (List.mem_of_mem_take mem)
        · exact isDigit_of_mem_replicate mem
      · exact digits c (List.mem_of_mem_drop mem)
    · by_cases within : d.point.toNat ≤ d.digits.length
      · have none : zeros = 0 := by omega
        have places : d.point - d.digits.length = (-d.part.length : Int) := by
          rw [part, List.length_drop]
          omega
        rw [none, List.replicate_zero, List.append_nil, part, List.take_append_drop, ← part,
          Digits.value, places]
        rfl
      · have all : d.digits.take d.point.toNat = d.digits := List.take_of_length_le (by omega)
        have nothing : d.part = [] := by
          rw [part]
          exact List.drop_eq_nil_of_le (by omega)
        have places : d.point - d.digits.length = zeros := by
          rw [all] at blanks
          omega
        rw [nothing, all, List.append_nil, Nat.ofDigitChars_append, Nat.ofDigitChars_replicate_zero,
          Digits.value, places]
        simp [Digits.whole]
        ring

theorem scientific_isScaled {d : Digits} (digits : ∀ c ∈ d.digits, c.isDigit = true)
    (filled : d.digits ≠ []) (keepPoint : Bool) (mark : Char) :
    IsScaled keepPoint mark (d.digits.drop 1) (d.point - 1) d.value
      (scientific d keepPoint mark) := by
  obtain ⟨ds, point⟩ := d
  cases ds with
  | nil => exact absurd rfl filled
  | cons first part =>
    have single : decide ((first :: part).length ≤ 1) = part.isEmpty := by
      cases part with
      | nil => rfl
      | cons => simp
    have exponent : ∀ c ∈ List.replicate (2 - (Nat.toDigits 10 (point - 1).natAbs).length) '0' ++
        Nat.toDigits 10 (point - 1).natAbs, c.isDigit = true := by
      intro c mem
      rcases List.mem_append.1 mem with mem | mem
      · exact isDigit_of_mem_replicate mem
      · exact Nat.isDigit_of_mem_toDigits (by decide) (by decide) mem
    refine ⟨first, _, ?_, digits, exponent, ?_, ?_, ?_⟩
    · unfold scientific
      dsimp only
      rw [single]
      rfl
    · rw [List.length_append, List.length_replicate]
      omega
    · rw [Nat.ofDigitChars_append, Nat.ofDigitChars_replicate_zero, Nat.mul_zero]
      exact Nat.ofDigitChars_ten_toDigits
    · have places : point - (first :: part).length = point - 1 - (part.length : Int) := by
        rw [List.length_cons]
        omega
      unfold Digits.value
      dsimp only
      rw [places]
      rfl

/-- Digits are what is left without the zeros at their end, and those. -/
theorem exists_trim (ds : List Char) : ∃ zeros, ds = trim ds ++ List.replicate zeros '0' := by
  obtain ⟨zeros, taken⟩ := Numeral.takeWhile_zero ds.reverse
  refine ⟨zeros, ?_⟩
  have split := List.takeWhile_append_dropWhile (p := (· == '0')) (l := ds.reverse)
  rw [taken] at split
  have reversed := congrArg List.reverse split
  rw [List.reverse_append, List.reverse_reverse, List.reverse_replicate] at reversed
  exact reversed.symm

theorem trim_ne_nil {ds : List Char} (h : 0 < Nat.ofDigitChars 10 ds 0) : trim ds ≠ [] := by
  intro none
  obtain ⟨zeros, split⟩ := exists_trim ds
  rw [none, List.nil_append] at split
  rw [split, Nat.ofDigitChars_replicate_zero, Nat.mul_zero] at h
  exact Nat.lt_irrefl 0 h

theorem getLast?_trim (ds : List Char) : (trim ds).getLast? ≠ some '0' := by
  intro zero
  have head := List.head?_dropWhile_not (· == '0') ds.reverse
  rw [trim, List.getLast?_reverse] at zero
  rw [zero] at head
  cases head

theorem value_trim (ds : List Char) (point : Int) :
    (Digits.mk (trim ds) point).value = (Digits.mk ds point).value := by
  obtain ⟨zeros, split⟩ := exists_trim ds
  have whole : Nat.ofDigitChars 10 ds 0 = 10 ^ zeros * Nat.ofDigitChars 10 (trim ds) 0 := by
    conv_lhs => rw [split]
    rw [Nat.ofDigitChars_append, Nat.ofDigitChars_replicate_zero]
  have length : ds.length = (trim ds).length + zeros := by
    conv_lhs => rw [split]
    rw [List.length_append, List.length_replicate]
  unfold Digits.value Digits.whole
  dsimp only
  rw [whole, length]
  push_cast
  rw [mul_comm _ ((Nat.ofDigitChars 10 (trim ds) 0 : Nat) : ℚ), mul_assoc, ← zpow_natCast,
    ← zpow_add₀ (by norm_num)]
  congr 2
  omega

theorem whole_lt {ds : List Char} (digits : ∀ c ∈ ds, c.isDigit = true) :
    Nat.ofDigitChars 10 ds 0 < tenTo ds.length := by
  induction ds with
  | nil => exact Nat.one_pos
  | cons c ds ih =>
    rw [List.forall_mem_cons] at digits
    have less := ih digits.2
    have digit : c.toNat - '0'.toNat < 10 := by
      have bounds := digits.1
      rw [Char.isDigit, Bool.and_eq_true, decide_eq_true_eq, decide_eq_true_eq] at bounds
      have greatest : c.toNat ≤ '9'.toNat := bounds.2
      have nine : '9'.toNat = 57 := by rfl
      have zero : '0'.toNat = 48 := by rfl
      omega
    have power : tenTo (ds.length + 1) = tenTo ds.length * 10 := Nat.pow_succ 10 ds.length
    rw [Nat.ofDigitChars_cons, Nat.ofDigitChars_eq_ofDigitChars_zero, List.length_cons, power]
    have most : 10 ^ ds.length * (10 * 0 + (c.toNat - '0'.toNat)) ≤ tenTo ds.length * 9 :=
      Nat.mul_le_mul_left _ (by omega)
    omega

/-- The number is the one nearest to another that has so many digits, of which the first counts so
many powers of ten. Zero has the power of one. -/
def IsRoundedTo (count : Nat) (power : Int) (x r : ℚ) : Prop :=
  ∃ n : Nat, r = n * 10 ^ (power + 1 - count) ∧ IsNearest n (x * 10 ^ (count - (power + 1))) ∧
    (x = 0 ∧ power = 0 ∨ tenTo (count - 1) ≤ n ∧ n < tenTo count)

/-- The digits of a number, of which zero has only zeros. -/
def significant (m : Nat) (e : Int) (count : Nat) : Digits :=
  if m = 0 then ⟨List.replicate count '0', 1⟩ else rounded m e count

theorem significant_spec (m : Nat) (e : Int) (k : Nat) :
    (∀ c ∈ (significant m e (k + 1)).digits, c.isDigit = true) ∧
      (significant m e (k + 1)).digits.length = k + 1 ∧
      IsRoundedTo (k + 1) ((significant m e (k + 1)).point - 1) (m * 2 ^ e)
        (significant m e (k + 1)).value := by
  unfold significant
  by_cases zero : m = 0
  · rw [if_pos zero]
    refine ⟨fun c mem => isDigit_of_mem_replicate mem, List.length_replicate, 0, ?_, ?_, .inl ?_⟩
    · simp [Digits.value, Digits.whole]
    · rw [zero]
      simp [IsNearest]
    · rw [zero]
      simp
  · rw [if_neg zero]
    have spec := rounded_spec e k (Nat.pos_of_ne_zero zero)
    generalize rounded m e (k + 1) = d at *
    have point : d.point - 1 + 1 = d.point := Int.sub_add_cancel _ _
    refine ⟨spec.isDigit, spec.length_eq, d.whole, ?_, ?_, .inr ⟨spec.filled, ?_⟩⟩
    · rw [Digits.value, spec.length_eq, point]
    · rw [point]
      exact spec.nearest
    · have less := whole_lt spec.isDigit
      rw [spec.length_eq] at less
      exact less

theorem getLast?_drop_ne {ds : List Char} (last : ds.getLast? ≠ some '0') (k : Nat) :
    (ds.drop k).getLast? ≠ some '0' := by
  rw [List.getLast?_drop]
  split
  · nofun
  · exact last

theorem getLast?_part {d : Digits} (filled : d.digits ≠ [] ∨ 0 ≤ d.point)
    (last : d.digits.getLast? ≠ some '0') : d.part.getLast? ≠ some '0' := by
  unfold Digits.part
  by_cases rest : d.digits.drop d.point.toNat = []
  · have nothing : (-d.point).toNat = 0 := by
      rcases filled with filled | right
      · by_contra left
        have none : d.point.toNat = 0 := by omega
        rw [none, List.drop_zero] at rest
        exact filled rest
      · omega
    rw [rest, nothing]
    nofun
  · rw [List.getLast?_append_of_ne_nil _ rest]
    exact getLast?_drop_ne last _

/-- Digits are laid out with an exponent if the point would stand far from them. -/
theorem exists_laid_out {d : Digits} (digits : ∀ c ∈ d.digits, c.isDigit = true) (count : Nat)
    (filled : d.digits ≠ [] ∨ 0 ≤ d.point ∧ d.point ≤ count) (keepPoint : Bool) (mark : Char) :
    ∃ part, (d.digits.getLast? ≠ some '0' → part.getLast? ≠ some '0') ∧
      if -5 < d.point - 1 ∧ d.point - 1 < count then
        IsPlain keepPoint part d.value
          (if -4 < d.point ∧ d.point ≤ count then positional d keepPoint
            else scientific d keepPoint mark)
      else
        IsScaled keepPoint mark part (d.point - 1) d.value
          (if -4 < d.point ∧ d.point ≤ count then positional d keepPoint
            else scientific d keepPoint mark) := by
  by_cases near : -4 < d.point ∧ d.point ≤ count
  · have near' : -5 < d.point - 1 ∧ d.point - 1 < count := by omega
    refine ⟨d.part, fun last => getLast?_part ?_ last, ?_⟩
    · exact filled.imp_right And.left
    · rw [if_pos near, if_pos near']
      exact positional_isPlain digits keepPoint
  · have far : ¬ (-5 < d.point - 1 ∧ d.point - 1 < count) := by omega
    have some : d.digits ≠ [] := by
      rcases filled with filled | right
      · exact filled
      · omega
    refine ⟨d.digits.drop 1, fun last => getLast?_drop_ne last 1, ?_⟩
    rw [if_neg near, if_neg far]
    exact scientific_isScaled digits some keepPoint mark

/-- Digits are kept as they are, or without the zeros at their end. -/
theorem kept_spec (m : Nat) (e : Int) (k : Nat) (keeps : Bool) :
    ∃ kept : Digits,
      (if keeps then significant m e (k + 1)
        else ⟨trim (significant m e (k + 1)).digits, (significant m e (k + 1)).point⟩) = kept ∧
      kept.point = (significant m e (k + 1)).point ∧
      kept.value = (significant m e (k + 1)).value ∧
      (∀ c ∈ kept.digits, c.isDigit = true) ∧ (kept.digits ≠ [] ∨ kept.point = 1) ∧
      (keeps = false → kept.digits.getLast? ≠ some '0') := by
  obtain ⟨digits, length, -⟩ := significant_spec m e k
  have filled : trim (significant m e (k + 1)).digits ≠ [] ∨
      (significant m e (k + 1)).point = 1 := by
    by_cases zero : m = 0
    · right
      rw [significant, if_pos zero]
    · left
      have least := (rounded_spec e k (Nat.pos_of_ne_zero zero)).filled
      have positive : 0 < tenTo k := Nat.pow_pos (by decide)
      rw [significant, if_neg zero]
      apply trim_ne_nil
      exact Nat.lt_of_lt_of_le positive least
  generalize significant m e (k + 1) = d at *
  cases keeps with
  | true =>
    have some : d.digits ≠ [] := by
      rw [← List.length_pos_iff, length]
      exact Nat.succ_pos k
    refine ⟨d, rfl, rfl, rfl, digits, .inl some, ?_⟩
    intro drops
    cases drops
  | false =>
    refine ⟨⟨trim d.digits, d.point⟩, rfl, rfl, value_trim d.digits d.point, ?_, filled,
      fun _ => getLast?_trim d.digits⟩
    intro c mem
    obtain ⟨zeros, split⟩ := exists_trim d.digits
    apply digits
    rw [split]
    exact List.mem_append_left _ mem

end Decimal

end CommandTree
