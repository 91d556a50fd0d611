import CommandTree.Proofs.Layout
import CommandTree.Proofs.Verdicts

/-!
# Texts at a place

Whatever is written at a place of a template is filled up with blanks to the width of the place
(`Place.exists_pad_of_render`). At a place for whole numbers it spells the number, in the base of
the place and with as many digits as the place asks for (`Place.spellsWhole_of_render`). At a place
for decimals it spells the number rounded to the digits that the place asks for, with a point among
them or with an exponent (`Place.spellsDecimal_of_render`).
-/

namespace CommandTree

/-! ## Digits in a base -/

namespace Numeral

/-- What a digit counts in a base up to sixteen, whether it is a capital or not. -/
def digitOf (c : Char) : Nat :=
  if c.isDigit then c.toNat - 48 else if c.isUpper then c.toNat - 55 else c.toNat - 87

/-- The number that digits denote in a base. -/
def valueIn (base : Nat) (ds : List Char) : Nat :=
  ds.foldl (fun n c => base * n + digitOf c) 0

theorem digitOf_digitChar {d : Nat} (h : d < 16) :
    digitOf d.digitChar = d ∧ digitOf d.digitChar.toUpper = d := by
  revert d
  decide

theorem valueIn_append_singleton (base : Nat) (ds : List Char) (c : Char) :
    valueIn base (ds ++ [c]) = base * valueIn base ds + digitOf c := by
  simp [valueIn]

theorem valueIn_toDigits {base : Nat} (low : 1 < base) (high : base ≤ 16) (n : Nat) :
    valueIn base (Nat.toDigits base n) = n ∧
      valueIn base ((Nat.toDigits base n).map Char.toUpper) = n := by
  induction n using Nat.base_induction base low with
  | single m below =>
    have digit := digitOf_digitChar (Nat.lt_of_lt_of_le below high)
    rw [Nat.toDigits_of_lt_base below]
    simpa [valueIn] using digit
  | digit m k below positive ih =>
    have digit := digitOf_digitChar (Nat.lt_of_lt_of_le below high)
    rw [← Nat.toDigits_append_toDigits low positive below, Nat.toDigits_of_lt_base below,
      List.map_append, List.map_singleton, valueIn_append_singleton, valueIn_append_singleton,
      ih.1, ih.2, digit.1, digit.2]
    exact ⟨rfl, rfl⟩

theorem exists_of_mem_toDigits {base : Nat} (low : 1 < base) {n : Nat} {c : Char}
    (h : c ∈ Nat.toDigits base n) : ∃ d < base, c = d.digitChar := by
  induction n using Nat.base_induction base low with
  | single m below =>
    rw [Nat.toDigits_of_lt_base below] at h
    exact ⟨m, below, List.mem_singleton.1 h⟩
  | digit m k below positive ih =>
    rw [← Nat.toDigits_append_toDigits low positive below, Nat.toDigits_of_lt_base below,
      List.mem_append] at h
    rcases h with h | h
    · exact ih h
    · exact ⟨k, below, List.mem_singleton.1 h⟩

theorem valueIn_zeros (base zeros : Nat) (ds : List Char) :
    valueIn base (List.replicate zeros '0' ++ ds) = valueIn base ds := by
  induction zeros with
  | zero => rfl
  | succ zeros ih =>
    rw [← ih, List.replicate_succ]
    simp [valueIn, digitOf]

end Numeral

namespace Form

/-- The base in which whole numbers are written. -/
def base : Form → Nat
  | octal => 8
  | hexadecimal _ => 16
  | _ => 10

/-- What marks the base of digits on demand. -/
def mark : Form → List Char
  | octal => ['0', 'o']
  | hexadecimal isUpper => ['0', if isUpper then 'X' else 'x']
  | _ => []

theorem base_bounds (form : Form) : 1 < form.base ∧ form.base ≤ 16 := by
  cases form <;> simp [base]

/-- The form writes numbers with a point. -/
def hasPoint : Form → Bool
  | scientific _ | fixed _ | general _ => true
  | _ => false

end Form

namespace Place

/-- Blanks aside, the text is a sign, the mark of the base if it is asked for, and digits in the
base of the place, at least as many as the precision says, which denote the number. -/
def SpellsWhole (p : Place) (n : Int) (written : List Char) : Prop :=
  ∃ front ds,
    written.filter (· != ' ') = front ++ (if p.isAlternate then p.form.mark else []) ++ ds ∧
    Numeral.IsSign front ∧ (front = ['-'] ↔ n < 0) ∧
    (∀ c ∈ ds, ∃ d < p.form.base,
      c = if p.form.isUpper then d.digitChar.toUpper else d.digitChar) ∧
    p.precision.getD 0 ≤ ds.length ∧ Numeral.valueIn p.form.base ds = n.natAbs

variable {p : Place}

theorem filter_pad (cs : List Char) : (p.pad cs).filter (· != ' ') = cs.filter (· != ' ') := by
  have blanks (k : Nat) : (List.replicate k ' ').filter (· != ' ') = [] := by simp
  unfold pad
  split
  · rw [List.filter_append, blanks, List.append_nil]
  · rw [List.filter_append, blanks, List.nil_append]

theorem filter_sign (negative : Bool) :
    Numeral.IsSign ((p.sign negative).filter (· != ' ')) ∧
      ((p.sign negative).filter (· != ' ') = ['-'] ↔ negative = true) := by
  unfold sign Numeral.IsSign
  cases negative <;> cases p.showsPlus <;> cases p.showsBlank <;> decide

/-- Every text at a place is filled up to the width. -/
theorem exists_pad_of_render {v : Value} {written : List Char} (h : p.render v = .ok written) :
    ∃ content, written = p.pad content := by
  unfold render at h
  split at h
  case h_1 isQuoted _ =>
    cases isQuoted
    all_goals
      obtain ⟨_, -, h⟩ := Except.bind_eq_ok_iff.1 h
      exact ⟨_, (Except.ok.inj h).symm⟩
  case h_5 =>
    obtain ⟨n, -, h⟩ := Except.bind_eq_ok_iff.1 h
    obtain ⟨c, -, h⟩ := Except.bind_eq_ok_iff.1 h
    exact ⟨[c], (Except.ok.inj h).symm⟩
  all_goals
    obtain ⟨_, -, h⟩ := Except.bind_eq_ok_iff.1 h
    exact ⟨_, (Except.ok.inj h).symm⟩

/-- The digits of a whole number in the base of a place, as many as the precision says. -/
def digitsOf (p : Place) (n : Nat) : List Char :=
  let ds := Text.digitsIn p.form.base (p.precision.getD 0) n
  if p.form.isUpper then ds.map Char.toUpper else ds

theorem digitsOf_eq (p : Place) (n : Nat) :
    ∃ zeros, p.digitsOf n = List.replicate zeros '0' ++
        (if p.form.isUpper then (Nat.toDigits p.form.base n).map Char.toUpper
          else Nat.toDigits p.form.base n) ∧
      p.precision.getD 0 ≤ (p.digitsOf n).length := by
  refine ⟨p.precision.getD 0 - (Nat.toDigits p.form.base n).length, ?_, ?_⟩
  · unfold digitsOf Text.digitsIn
    have zero : '0'.toUpper = '0' := by decide
    dsimp only
    split
    · rw [List.map_append, List.map_replicate, zero]
    · rfl
  · unfold digitsOf Text.digitsIn
    dsimp only
    split
    · simp only [List.length_map, List.length_append, List.length_replicate]
      omega
    · simp only [List.length_append, List.length_replicate]
      omega

theorem digit_of_mem_digitsOf {n : Nat} {c : Char} (h : c ∈ p.digitsOf n) :
    ∃ d < p.form.base, c = if p.form.isUpper then d.digitChar.toUpper else d.digitChar := by
  obtain ⟨low, -⟩ := p.form.base_bounds
  obtain ⟨zeros, split, -⟩ := p.digitsOf_eq n
  rw [split, List.mem_append] at h
  rcases h with zero | digit
  · rw [List.eq_of_mem_replicate zero]
    refine ⟨0, by omega, ?_⟩
    split <;> decide
  · cases isUpper : p.form.isUpper with
    | true =>
      rw [isUpper, if_pos rfl, List.mem_map] at digit
      obtain ⟨c, mem, rfl⟩ := digit
      obtain ⟨d, below, rfl⟩ := Numeral.exists_of_mem_toDigits low mem
      exact ⟨d, below, rfl⟩
    | false =>
      rw [isUpper, if_neg Bool.false_ne_true] at digit
      exact Numeral.exists_of_mem_toDigits low digit

theorem valueIn_digitsOf (p : Place) (n : Nat) :
    Numeral.valueIn p.form.base (p.digitsOf n) = n := by
  obtain ⟨low, high⟩ := p.form.base_bounds
  obtain ⟨zeros, split, -⟩ := p.digitsOf_eq n
  have value := Numeral.valueIn_toDigits low high n
  rw [split, Numeral.valueIn_zeros]
  split
  · exact value.2
  · exact value.1

/-- Digits are no blanks, in any base. -/
theorem filter_digits {base : Nat} {isUpper : Bool} (high : base ≤ 16) {ds : List Char}
    (h : ∀ c ∈ ds, ∃ d < base, c = if isUpper then d.digitChar.toUpper else d.digitChar) :
    ds.filter (· != ' ') = ds := by
  have inked : ∀ d < 16, d.digitChar.toUpper ≠ ' ' ∧ d.digitChar ≠ ' ' := by decide
  rw [List.filter_eq_self]
  intro c mem
  obtain ⟨d, below, rfl⟩ := h c mem
  have ink := inked d (Nat.lt_of_lt_of_le below high)
  cases isUpper
  · simp [ink.2]
  · simp [ink.1]

/-- Zeros up to the width are digits like the others. -/
theorem exists_zeros_of_number (p : Place) (u : Unsigned) :
    ∃ zeros, p.number u =
      p.pad (p.sign u.negative ++ u.mark ++ (List.replicate zeros '0' ++ u.body)) := by
  unfold number
  dsimp only
  cases p.fillsZeros && !p.isLeft with
  | true => exact ⟨_, by rw [if_pos rfl, List.append_assoc]⟩
  | false => exact ⟨0, by simp⟩

/-- A whole number is spelled at a place for one. -/
theorem spellsWhole_number (p : Place) (n : Int) {u : Unsigned}
    (negative : u.negative = decide (n < 0))
    (mark : u.mark = if p.isAlternate then p.form.mark else [])
    (body : u.body = p.digitsOf n.natAbs) : p.SpellsWhole n (p.number u) := by
  obtain ⟨low, high⟩ := p.form.base_bounds
  obtain ⟨signed, minus⟩ := p.filter_sign u.negative
  obtain ⟨zeros, padded⟩ := p.exists_zeros_of_number u
  have digits : ∀ c ∈ List.replicate zeros '0' ++ u.body, ∃ d < p.form.base,
      c = if p.form.isUpper then d.digitChar.toUpper else d.digitChar := by
    rw [List.forall_mem_append, body]
    refine ⟨?_, fun c mem => digit_of_mem_digitsOf mem⟩
    intro c mem
    rw [List.eq_of_mem_replicate mem]
    refine ⟨0, by omega, ?_⟩
    split <;> decide
  have markInked : u.mark.filter (· != ' ') = u.mark := by
    rw [mark]
    cases p.isAlternate with
    | false => rfl
    | true =>
      cases p.form with
      | hexadecimal isUpper => cases isUpper <;> rfl
      | _ => rfl
  refine ⟨(p.sign u.negative).filter (· != ' '), List.replicate zeros '0' ++ u.body, ?_, signed, ?_,
    digits, ?_, ?_⟩
  · rw [padded, filter_pad, List.filter_append, List.filter_append, markInked,
      filter_digits high digits, mark]
  · rw [minus, negative, decide_eq_true_eq]
  · obtain ⟨-, -, precise⟩ := p.digitsOf_eq n.natAbs
    rw [List.length_append, body]
    omega
  · rw [Numeral.valueIn_zeros, body, valueIn_digitsOf]

theorem truncated_of_whole {v : Value} {n : Int} (h : whole v = .ok n) : truncated v = .ok n := by
  cases v with
  | float => cases h
  | _ => exact h

/-- What is written at a place for whole numbers spells the number. -/
theorem spellsWhole_of_render {v : Value} {n : Int} {written : List Char}
    (isWhole : p.form.isWhole = true) (number : truncated v = .ok n)
    (h : p.render v = .ok written) : p.SpellsWhole n written := by
  have same {m : Int} (other : whole v = .ok m) : m = n :=
    Except.ok.inj ((truncated_of_whole other).symm.trans number)
  unfold render at h
  cases form : p.form with
  | shown | scientific | fixed | general | character =>
    rw [form] at isWhole
    cases isWhole
  | decimal =>
    rw [form] at h
    obtain ⟨m, other, h⟩ := Except.bind_eq_ok_iff.1 h
    rw [number] at other
    cases other
    cases h
    apply spellsWhole_number
    · rfl
    · simp [wholeBody, form, Form.mark]
    · simp [wholeBody, digitsOf, form, Form.base, Form.isUpper]
  | octal =>
    rw [form] at h
    obtain ⟨m, other, h⟩ := Except.bind_eq_ok_iff.1 h
    obtain rfl := same other
    cases h
    apply spellsWhole_number
    · rfl
    · simp [wholeBody, form, Form.mark]
    · simp [wholeBody, digitsOf, form, Form.base, Form.isUpper]
  | hexadecimal isUpper =>
    rw [form] at h
    obtain ⟨m, other, h⟩ := Except.bind_eq_ok_iff.1 h
    obtain rfl := same other
    cases h
    apply spellsWhole_number
    · rfl
    · simp [wholeBody, form, Form.mark]
    · simp [wholeBody, digitsOf, form, Form.base, Form.isUpper]

/-! ## Decimals -/

/-- The text is that of a number that is not negative, rounded as the place asks for: to so many
digits after the point, or to so many significant ones. Unless it is asked for all of them, the
general form has no more digits than a number can have, and no zeros at the end; it has an exponent
for numbers below a ten-thousandth and for those with more digits before the point than it may
have. -/
def SpellsMagnitude (p : Place) (x : ℚ) (cs : List Char) : Prop :=
  let precision := p.precision.getD 6
  let mark := if p.form.isUpper then 'E' else 'e'
  match p.form with
  | .scientific _ =>
    ∃ part power r, Decimal.IsScaled p.isAlternate mark part power r cs ∧
      part.length + 1 = scientificCount precision ∧
      Decimal.IsRoundedTo (part.length + 1) power x r
  | .general _ =>
    let count := max precision 1
    ∃ (part : List Char) (power : Int) (r : ℚ), (p.isAlternate = false → part.getLast? ≠ some '0') ∧
      (if -5 < power ∧ power < count then Decimal.IsPlain p.isAlternate part r cs
        else Decimal.IsScaled p.isAlternate mark part power r cs) ∧
      Decimal.IsRoundedTo (if p.isAlternate then count else min count Decimal.greatestCount)
        power x r
  | _ =>
    ∃ (part : List Char) (n : Nat),
      Decimal.IsPlain p.isAlternate part (n * 10 ^ (-(precision : Int))) cs ∧
      part.length = precision ∧ IsNearest n (x * 10 ^ precision)

theorem scientificCount_eq (precision : Nat) : ∃ k, scientificCount precision = k + 1 := by
  unfold scientificCount
  by_cases greatest : precision = greatestPrecision
  · exact ⟨0, by rw [if_pos greatest]⟩
  · exact ⟨precision, by rw [if_neg greatest]⟩

theorem finiteBody_fixed {isUpper : Bool} (form : p.form = .fixed isUpper) (m : Nat) (e : Int) :
    p.SpellsMagnitude (m * 2 ^ e) (p.finiteBody m e) := by
  have body : p.finiteBody m e =
      Decimal.positional (Decimal.fixed m e (p.precision.getD 6)) p.isAlternate := by
    unfold finiteBody
    rw [form]
  rw [SpellsMagnitude, form, body]
  dsimp only
  obtain ⟨digits, longer, point, nearest⟩ := Decimal.fixed_spec m e (p.precision.getD 6)
  generalize Decimal.fixed m e (p.precision.getD 6) = d at *
  have value : d.value = d.whole * 10 ^ (-(p.precision.getD 6 : Int)) := by
    rw [Decimal.Digits.value, point]
    congr 2
    omega
  have part : d.part.length = p.precision.getD 6 := by
    rw [Decimal.Digits.part, List.length_append, List.length_replicate, List.length_drop]
    omega
  refine ⟨d.part, d.whole, ?_, part, nearest⟩
  rw [← value]
  exact Decimal.positional_isPlain digits p.isAlternate

theorem finiteBody_scientific {isUpper : Bool} (form : p.form = .scientific isUpper) (m : Nat)
    (e : Int) : p.SpellsMagnitude (m * 2 ^ e) (p.finiteBody m e) := by
  obtain ⟨k, count⟩ := scientificCount_eq (p.precision.getD 6)
  have body : p.finiteBody m e = Decimal.scientific (Decimal.significant m e (k + 1))
      p.isAlternate (if p.form.isUpper then 'E' else 'e') := by
    unfold finiteBody
    rw [form]
    dsimp only
    rw [count]
    rfl
  rw [SpellsMagnitude, body, form, count]
  dsimp only
  obtain ⟨digits, length, rounded⟩ := Decimal.significant_spec m e k
  generalize Decimal.significant m e (k + 1) = d at *
  have filled : d.digits ≠ [] := by
    rw [← List.length_pos_iff, length]
    exact Nat.succ_pos k
  have part : (d.digits.drop 1).length + 1 = k + 1 := by
    rw [List.length_drop, length]
    rfl
  refine ⟨_, _, _, Decimal.scientific_isScaled digits filled _ _, part, ?_⟩
  rw [part]
  exact rounded

theorem finiteBody_general {isUpper : Bool} (form : p.form = .general isUpper) (m : Nat)
    (e : Int) : p.SpellsMagnitude (m * 2 ^ e) (p.finiteBody m e) := by
  obtain ⟨k, count⟩ : ∃ k, (if p.isAlternate then max (p.precision.getD 6) 1
      else min (max (p.precision.getD 6) 1) Decimal.greatestCount) = k + 1 := by
    apply Nat.exists_eq_add_one.2
    split
    · omega
    · rw [Decimal.greatestCount]
      omega
  obtain ⟨kept, same, point, value, digits, filled, last⟩ := Decimal.kept_spec m e k p.isAlternate
  obtain ⟨-, -, rounded⟩ := Decimal.significant_spec m e k
  have body : p.finiteBody m e =
      if -4 < kept.point ∧ kept.point ≤ (max (p.precision.getD 6) 1 : Nat) then
        Decimal.positional kept p.isAlternate
      else Decimal.scientific kept p.isAlternate (if p.form.isUpper then 'E' else 'e') := by
    rw [point, ← same]
    unfold finiteBody
    rw [form]
    dsimp only
    rw [count]
    rfl
  rw [SpellsMagnitude, body, form]
  dsimp only
  rw [count]
  rw [← point, ← value] at rounded
  have near : kept.digits ≠ [] ∨
      0 ≤ kept.point ∧ kept.point ≤ (max (p.precision.getD 6) 1 : Nat) := by
    rcases filled with filled | one
    · exact .inl filled
    · right
      omega
  obtain ⟨part, trimmed, laid⟩ := Decimal.exists_laid_out digits _ near p.isAlternate
    (if (Form.general isUpper).isUpper then 'E' else 'e')
  exact ⟨part, kept.point - 1, kept.value, fun plain => trimmed (last plain), laid, rounded⟩

theorem finiteBody_spells (h : p.form.hasPoint = true) (m : Nat) (e : Int) :
    p.SpellsMagnitude (m * 2 ^ e) (p.finiteBody m e) := by
  cases form : p.form with
  | shown | decimal | octal | hexadecimal | character =>
    rw [form] at h
    cases h
  | fixed => exact finiteBody_fixed form m e
  | scientific => exact finiteBody_scientific form m e
  | general => exact finiteBody_general form m e

/-- The text is a sign, zeros that fill it up and the text of the number without its sign. -/
def SpellsDecimal (p : Place) (negative : Bool) (x : ℚ) (written : List Char) : Prop :=
  ∃ front zeros body,
    written.filter (· != ' ') = front ++ (List.replicate zeros '0' ++ body) ∧
    Numeral.IsSign front ∧ (front = ['-'] ↔ negative = true) ∧ p.SpellsMagnitude x body

theorem ne_blank_of_spellsMagnitude {x : ℚ} {cs : List Char} (h : p.SpellsMagnitude x cs) :
    ∀ c ∈ cs, c ≠ ' ' := by
  have mark : (if p.form.isUpper then 'E' else 'e') ≠ ' ' := by
    split <;> decide
  unfold SpellsMagnitude at h
  dsimp only at h
  split at h
  case h_1 =>
    obtain ⟨part, power, r, isScaled, -⟩ := h
    exact isScaled.ne_blank mark
  case h_2 =>
    obtain ⟨part, power, r, -, laid, -⟩ := h
    split at laid
    · exact laid.ne_blank
    · exact laid.ne_blank mark
  case h_3 =>
    obtain ⟨part, n, isPlain, -⟩ := h
    exact isPlain.ne_blank

theorem spellsDecimal_of_render {v : Value} {negative : Bool} {m : Nat} {e : Int}
    {written : List Char} (hasPoint : p.form.hasPoint = true)
    (number : v.toBinary64 = .ok (.finite negative m e)) (h : p.render v = .ok written) :
    p.SpellsDecimal negative (m * 2 ^ e) written := by
  have body := finiteBody_spells hasPoint m e
  have inked := ne_blank_of_spellsMagnitude body
  have same : written = p.number (p.floatBody (.finite negative m e)) := by
    unfold render at h
    cases form : p.form with
    | shown | decimal | octal | hexadecimal | character =>
      rw [form] at hasPoint
      cases hasPoint
    | fixed | scientific | general =>
      rw [form] at h
      dsimp only at h
      rw [number] at h
      exact (Except.ok.inj h).symm
  obtain ⟨zeros, padded⟩ := p.exists_zeros_of_number (p.floatBody (.finite negative m e))
  obtain ⟨signed, minus⟩ := p.filter_sign negative
  refine ⟨(p.sign negative).filter (· != ' '), zeros, p.finiteBody m e, ?_, signed, minus, body⟩
  rw [same, padded, filter_pad]
  simp only [floatBody, List.append_nil, List.filter_append]
  congr 2
  · simp
  · rw [List.filter_eq_self]
    intro c mem
    simpa using inked c mem

/-! ## Any value -/

theorem shown_of_render {v : Value} {isQuoted : Bool} {written : List Char}
    (shown : p.form = .shown isQuoted) (h : p.render v = .ok written) :
    ∃ text, (if isQuoted then .ok v.shown else v.display) = .ok text ∧
      written = p.pad (text.toList.take (p.precision.getD text.length)) := by
  unfold render at h
  rw [shown] at h
  cases isQuoted
  all_goals
    obtain ⟨text, displayed, h⟩ := Except.bind_eq_ok_iff.1 h
    refine ⟨text, displayed, ?_⟩
    cases precision : p.precision with
    | none =>
      rw [precision] at h
      rw [Option.getD_none, ← String.length_toList, List.take_length]
      exact (Except.ok.inj h).symm
    | some n =>
      rw [precision] at h
      exact (Except.ok.inj h).symm

/-- The character with a number is the one that has the number. -/
theorem characterOf_eq_ok_iff {n : Int} {c : Char} :
    characterOf n = .ok c ↔ (c.toNat : Int) = n := by
  unfold characterOf
  constructor
  · intro h
    by_cases point : n < 0 ∨ 0x110000 ≤ n
    · rw [if_pos point] at h
      cases h
    rw [if_neg point] at h
    by_cases valid : n.toNat.isValidChar
    · rw [dif_pos valid] at h
      have natural : (n.toNat : Int) = n := Int.toNat_of_nonneg (by omega)
      rw [← Except.ok.inj h]
      exact natural
    · rw [dif_neg valid] at h
      cases h
  · rintro rfl
    have valid : c.toNat.isValidChar := c.valid
    have point : ¬ ((c.toNat : Int) < 0 ∨ 0x110000 ≤ (c.toNat : Int)) := by
      unfold Nat.isValidChar at valid
      omega
    rw [if_neg point]
    exact dif_pos valid

theorem character_of_render {v : Value} {n : Int} {written : List Char}
    (character : p.form = .character) (number : truncated v = .ok n)
    (h : p.render v = .ok written) : ∃ c : Char, (c.toNat : Int) = n ∧ written = p.pad [c] := by
  unfold render at h
  rw [character] at h
  obtain ⟨m, other, h⟩ := Except.bind_eq_ok_iff.1 h
  obtain rfl : m = n := Except.ok.inj ((truncated_of_whole other).symm.trans number)
  obtain ⟨c, found, h⟩ := Except.bind_eq_ok_iff.1 h
  exact ⟨c, characterOf_eq_ok_iff.1 found, (Except.ok.inj h).symm⟩

/-- What printing a value at a place comes to: a text of at least the width, which is the text of
the value cut to the precision, the number in the base of the place, the decimal as it is rounded
and laid out there, or the character. -/
structure Prints (p : Place) (v : Value) (written : List Char) : Prop where
  rendered : p.render v = .ok written
  filled : ∃ content blanks, blanks = p.width - content.length ∧
    written = if p.isLeft then content ++ List.replicate blanks ' '
      else List.replicate blanks ' ' ++ content
  shown : ∀ isQuoted, p.form = .shown isQuoted →
    ∃ text, (if isQuoted then .ok v.shown else v.display) = .ok text ∧
      written = p.pad (text.toList.take (p.precision.getD text.length))
  whole : p.form.isWhole = true → ∀ n, truncated v = .ok n → p.SpellsWhole n written
  decimal : p.form.hasPoint = true → ∀ negative m e,
    v.toBinary64 = .ok (.finite negative m e) → p.SpellsDecimal negative (m * 2 ^ e) written
  character : p.form = .character → ∀ n, truncated v = .ok n →
    ∃ c : Char, (c.toNat : Int) = n ∧ written = p.pad [c]

theorem prints_of_render {v : Value} {written : List Char} (h : p.render v = .ok written) :
    p.Prints v written where
  rendered := h
  filled := by
    obtain ⟨content, rfl⟩ := exists_pad_of_render h
    exact ⟨content, p.width - content.length, rfl, rfl⟩
  shown := fun _ shown => shown_of_render shown h
  whole := fun isWhole _ number => spellsWhole_of_render isWhole number h
  decimal := fun hasPoint _ _ _ number => spellsDecimal_of_render hasPoint number h
  character := fun character _ number => character_of_render character number h

end Place

end CommandTree
