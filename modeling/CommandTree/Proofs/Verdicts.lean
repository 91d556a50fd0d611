import CommandTree.Proofs.Spelling

/-!
# Verdicts of a check

A number type reads a number that is in its range and passes its check. What the check refuses is
answered with a message, and a decimal type leaves it at that. An integer type reads the number all
the same if the message is empty; and a message is empty for all numbers or for none, which can be
told from its wording (`Wording.render_int_eq_empty_iff`).
-/

namespace CommandTree

theorem Except.bind_eq_ok_iff {ε α β : Type} {x : Except ε α} {f : α → Except ε β} {b : β} :
    x >>= f = .ok b ↔ ∃ a, x = .ok a ∧ f a = .ok b := by
  cases x with
  | error e => exact iff_of_false nofun (by rintro ⟨a, h, -⟩; cases h)
  | ok a =>
    constructor
    · exact fun h => ⟨a, rfl, h⟩
    · rintro ⟨a', h, h'⟩
      cases h
      exact h'

/-! ## Empty messages -/

namespace Place

variable {p : Place}

/-- Nothing is written at the place: a text is cut to nothing there and not filled up. -/
def IsEmpty (p : Place) : Prop :=
  (∃ isQuoted, p.form = .shown isQuoted) ∧ p.precision = some 0 ∧ p.width = 0

theorem pad_eq_nil {cs : List Char} : p.pad cs = [] ↔ cs = [] ∧ p.width = 0 := by
  simp only [pad]
  split
  · simp only [List.append_eq_nil_iff, List.replicate_eq_nil_iff]
    constructor
    · rintro ⟨rfl, h⟩
      exact ⟨rfl, h⟩
    · rintro ⟨rfl, h⟩
      exact ⟨rfl, h⟩
  · simp only [List.append_eq_nil_iff, List.replicate_eq_nil_iff]
    constructor
    · rintro ⟨h, rfl⟩
      exact ⟨rfl, h⟩
    · rintro ⟨rfl, h⟩
      exact ⟨h, rfl⟩

theorem number_ne_nil {u : Unsigned} (h : u.body ≠ []) : p.number u ≠ [] := by
  intro none
  have parts := (pad_eq_nil.1 none).1
  exact h (List.append_eq_nil_iff.1 parts).2

theorem digitsIn_ne_nil (base width n : Nat) : Text.digitsIn base width n ≠ [] := by
  intro none
  exact Nat.toDigits_ne_nil (List.append_eq_nil_iff.1 none).2

theorem wholeBody_ne_nil (n : Int) (base : Nat) (isUpper : Bool) (letter : Char) :
    (p.wholeBody n base isUpper letter).body ≠ [] := by
  cases isUpper with
  | false => exact digitsIn_ne_nil _ _ _
  | true =>
    intro none
    exact digitsIn_ne_nil _ _ _ (List.map_eq_nil_iff.1 none)

theorem positional_ne_nil (form : Decimal.Digits) (keepPoint : Bool) :
    Decimal.positional form keepPoint ≠ [] := by
  intro none
  have whole := (List.append_eq_nil_iff.1 none).1
  split at whole
  case isTrue => cases whole
  case isFalse some => exact some (by rw [whole]; rfl)

theorem scientific_ne_nil (form : Decimal.Digits) (keepPoint : Bool) (mark : Char) :
    Decimal.scientific form keepPoint mark ≠ [] := by
  intro none
  cases (List.append_eq_nil_iff.1 none).2

theorem finiteBody_ne_nil (mantissa : Nat) (exponent : Int) :
    p.finiteBody mantissa exponent ≠ [] := by
  have either {c : Prop} [Decidable c] {cs ds : List Char} (hc : cs ≠ []) (hd : ds ≠ []) :
      (if c then cs else ds) ≠ [] := by
    split
    · exact hc
    · exact hd
  unfold finiteBody
  cases p.form with
  | scientific => exact scientific_ne_nil _ _ _
  | general => exact either (positional_ne_nil _ _) (scientific_ne_nil _ _ _)
  | _ => exact positional_ne_nil _ _

theorem floatBody_ne_nil (x : Binary64) : (p.floatBody x).body ≠ [] := by
  cases x with
  | finite negative m e => exact finiteBody_ne_nil m e
  | nan =>
    simp only [floatBody]
    split <;> simp
  | infinite negative =>
    simp only [floatBody]
    split <;> simp

/-- Only a text can be cut to nothing. -/
theorem isShown_of_render {v : Value} (h : p.render v = .ok []) :
    ∃ isQuoted, p.form = .shown isQuoted := by
  have filled {α : Type} {x : Except Error α} {f : α → List Char} (some : ∀ a, f a ≠ []) :
      (do return f (← x)) ≠ (.ok [] : Except Error (List Char)) := by
    intro none
    obtain ⟨a, -, same⟩ := Except.bind_eq_ok_iff.1 none
    exact some a (Except.ok.inj same)
  unfold render at h
  split at h
  case h_1 isQuoted shown => exact ⟨isQuoted, shown⟩
  case h_2 => exact absurd h (filled fun n => number_ne_nil (wholeBody_ne_nil n _ _ _))
  case h_3 => exact absurd h (filled fun n => number_ne_nil (wholeBody_ne_nil n _ _ _))
  case h_4 => exact absurd h (filled fun n => number_ne_nil (wholeBody_ne_nil n _ _ _))
  case h_5 =>
    obtain ⟨n, -, h⟩ := Except.bind_eq_ok_iff.1 h
    exact absurd h (filled fun c none => List.cons_ne_nil c [] (pad_eq_nil.1 none).1)
  case h_6 => exact absurd h (filled fun x => number_ne_nil (floatBody_ne_nil x))

theorem toString_ne_nil (n : Int) : (toString n).toList ≠ [] := by
  rw [Numeral.toList_toString]
  split
  · nofun
  · exact Nat.toDigits_ne_nil

theorem render_int_of_shown {isQuoted : Bool} (shown : p.form = .shown isQuoted) (n : Int) :
    p.render (.int n) = .ok (p.pad (match p.precision with
      | some count => (toString n).toList.take count
      | none => (toString n).toList)) := by
  unfold render
  rw [shown]
  cases isQuoted <;> rfl

theorem render_int_eq_nil_iff {n : Int} : p.render (.int n) = .ok [] ↔ p.IsEmpty := by
  constructor
  · intro h
    obtain ⟨isQuoted, shown⟩ := isShown_of_render h
    rw [render_int_of_shown shown, Except.ok.injEq, pad_eq_nil] at h
    obtain ⟨cut, narrow⟩ := h
    refine ⟨⟨isQuoted, shown⟩, ?_, narrow⟩
    cases hp : p.precision with
    | none =>
      rw [hp] at cut
      exact absurd cut (toString_ne_nil n)
    | some count =>
      rw [hp] at cut
      rcases List.take_eq_nil_iff.1 cut with rfl | none
      · rfl
      · exact absurd none (toString_ne_nil n)
  · rintro ⟨⟨isQuoted, shown⟩, cut, narrow⟩
    rw [render_int_of_shown shown, cut]
    exact congrArg Except.ok (pad_eq_nil.2 ⟨List.take_zero, narrow⟩)

end Place

/-- The wording says nothing: it is empty, or consists of places at which nothing is written. -/
def Wording.IsBlank (w : Wording) : Prop :=
  ∀ piece ∈ w.template.pieces, ∃ p, piece = .place p ∧ p.IsEmpty

theorem Template.renderPieces_int_eq_nil_iff {n : Int} {pieces : List Piece} :
    renderPieces (.int n) pieces = .ok [] ↔
      ∀ piece ∈ pieces, ∃ p, piece = .place p ∧ p.IsEmpty := by
  induction pieces with
  | nil => simp [renderPieces]
  | cons piece rest ih =>
    rw [List.forall_mem_cons, ← ih]
    cases piece with
    | literal c =>
      simp only [renderPieces, Except.bind_eq_ok_iff]
      constructor
      · rintro ⟨cs, -, h⟩
        cases h
      · rintro ⟨⟨p, h, -⟩, -⟩
        cases h
    | place p =>
      simp only [renderPieces, Except.bind_eq_ok_iff]
      constructor
      · rintro ⟨cs, first, ds, later, h⟩
        obtain ⟨rfl, rfl⟩ := List.append_eq_nil_iff.1 (Except.ok.inj h)
        exact ⟨⟨p, rfl, Place.render_int_eq_nil_iff.1 first⟩, later⟩
      · rintro ⟨⟨p', same, empty⟩, later⟩
        cases same
        exact ⟨[], Place.render_int_eq_nil_iff.2 empty, [], later, rfl⟩

/-- A message is empty for all whole numbers or for none of them. -/
theorem Wording.render_int_eq_empty_iff {w : Wording} {n : Int} :
    w.render (.int n) = .ok "" ↔ w.IsBlank := by
  rw [IsBlank, ← Template.renderPieces_int_eq_nil_iff (n := n), render, Template.render,
    Except.bind_eq_ok_iff]
  constructor
  · rintro ⟨cs, h, empty⟩
    rw [String.ofList_eq_empty_iff.1 (Except.ok.inj empty)] at h
    exact h
  · exact fun h => ⟨[], h, rfl⟩

/-- What a built-in type does not read it refuses, if it answers at all, and leaves it. -/
theorem TokenType.Treats.refused {t : TokenType} {tokens : List String} (h : t.Treats tokens)
    (unread : ∀ value, (t.parse tokens).answer ≠ .ok (.ok value)) {answer : Answer}
    (answers : (t.parse tokens).answer = .ok answer) :
    (∃ message, answer = .err message) ∧ (t.parse tokens).rest = tokens := by
  cases h with
  | takes _ _ reads => exact absurd (congrArg Attempt.answer reads) (unread _)
  | refuses h =>
    rw [h] at answers ⊢
    cases answers
    exact ⟨⟨_, rfl⟩, rfl⟩
  | raises h =>
    rw [h] at answers
    cases answers

/-! ## Whole numbers -/

namespace IntegerType

variable {t : IntegerType} {token : String} {n : Int} {value : Value}

/-- The token is a numeral of a number of 32 bits, with no more digits than are converted. -/
def Denotes (token : String) (n : Int) : Prop :=
  ∃ w, Numeral.whole? token.toList = some w ∧ w.significant.length ≤ 10 ∧
    w.digits.length ≤ greatestDigitCount ∧ fits w.value = true ∧ w.value = n

/-- The number passes the check, or is refused without a word. -/
def Admits (t : IntegerType) (n : Int) : Prop :=
  Check.passes t.check (.int n) = .ok true ∨
    Check.passes t.check (.int n) = .ok false ∧ t.error.IsBlank

theorem parse_of_denotes (denotes : Denotes token n) (rest : List String) :
    t.parse (token :: rest) =
      match t.refusal (.int n) with
      | .error e => .raise e (token :: rest)
      | .ok none => .accept (.int n) rest
      | .ok (some message) =>
        if message.isEmpty then .accept (.int n) rest else .reject message (token :: rest) := by
  obtain ⟨w, numeral, few, short, fit, rfl⟩ := denotes
  have few : ¬ 10 < w.significant.length := by omega
  have short : ¬ greatestDigitCount < w.digits.length := by omega
  cases refused : t.refusal (.int w.value) with
  | error e => simp [parse, numeral, few, short, fit, refused]
  | ok message => cases message <;> simp [parse, numeral, few, short, fit, refused]

theorem denotes_of_read {tokens : List String}
    (read : (t.parse tokens).answer = .ok (.ok value)) :
    ∃ token rest n, tokens = token :: rest ∧ Denotes token n := by
  cases tokens with
  | nil => cases read
  | cons token rest =>
    cases numeral : Numeral.whole? token.toList with
    | none =>
      simp only [parse, numeral] at read
      cases read
    | some w =>
      simp only [parse, numeral] at read
      split at read
      case isTrue => cases read
      case isFalse few =>
      split at read
      case isTrue => cases read
      case isFalse short =>
      split at read
      case isTrue => cases read
      case isFalse fit =>
        exact ⟨token, rest, w.value, rfl, w, numeral, by omega, by omega, by simpa using fit, rfl⟩

/-- A number is read if it is not refused, or with an empty message. -/
theorem read_iff_refusal (denotes : Denotes token n) (rest : List String) :
    (t.parse (token :: rest)).answer = .ok (.ok value) ↔
      value = .int n ∧ (t.refusal (.int n) = .ok none ∨ t.refusal (.int n) = .ok (some "")) := by
  rw [parse_of_denotes denotes]
  have accepted : (Attempt.accept (.int n) rest).answer = .ok (.ok value) ↔ value = .int n := by
    constructor
    · intro read
      cases read
      rfl
    · rintro rfl
      rfl
  cases t.refusal (.int n) with
  | error e => exact iff_of_false nofun (by rintro ⟨-, h | h⟩ <;> cases h)
  | ok refused =>
    cases refused with
    | none => exact accepted.trans (and_iff_left (Or.inl rfl)).symm
    | some message =>
      dsimp only
      split
      case isTrue empty =>
        rw [String.isEmpty_iff] at empty
        exact accepted.trans (and_iff_left (Or.inr (by rw [empty]))).symm
      case isFalse worded =>
        rw [String.isEmpty_iff] at worded
        refine iff_of_false nofun ?_
        rintro ⟨-, h | h⟩
        · cases h
        · exact worded (Option.some.inj (Except.ok.inj h))

theorem refusal_spares_iff :
    (t.refusal (.int n) = .ok none ∨ t.refusal (.int n) = .ok (some "")) ↔
      (t.least.number ≤ n ∧ n ≤ t.greatest.number) ∧ t.Admits n := by
  rw [refusal_int]
  by_cases less : n < t.least.number
  · rw [if_pos less]
    have worded : s!"Integer {n} is less than the minimum value {t.least.number}" ≠ "" := by
      simp [toString]
    simp only [Except.ok.injEq, Option.some.injEq, reduceCtorEq, worded, false_or, false_iff]
    omega
  by_cases greater : t.greatest.number < n
  · rw [if_neg less, if_pos greater]
    have worded : s!"Integer {n} is greater than the maximum value {t.greatest.number}" ≠ "" := by
      simp [toString]
    simp only [Except.ok.injEq, Option.some.injEq, reduceCtorEq, worded, false_or, false_iff]
    omega
  · rw [if_neg less, if_neg greater, and_iff_right (by omega : _ ∧ _), Admits,
      ← Wording.render_int_eq_empty_iff (n := n)]
    cases Check.passes t.check (.int n) with
    | error e => simp [bind, Except.bind]
    | ok passes =>
      cases passes with
      | true => simp [bind, Except.bind, pure, Except.pure]
      | false =>
        cases t.error.render (.int n) with
        | error e => simp [bind, Except.bind]
        | ok message => simp [bind, Except.bind, pure, Except.pure]

/-- What an integer type reads, exactly. -/
theorem read_iff {tokens : List String} :
    (t.parse tokens).answer = .ok (.ok value) ↔
      ∃ token rest n, tokens = token :: rest ∧ Denotes token n ∧ value = .int n ∧
        (t.least.number ≤ n ∧ n ≤ t.greatest.number) ∧ t.Admits n := by
  constructor
  · intro read
    obtain ⟨token, rest, n, rfl, denotes⟩ := denotes_of_read read
    rw [read_iff_refusal denotes, refusal_spares_iff] at read
    exact ⟨token, rest, n, rfl, denotes, read⟩
  · rintro ⟨token, rest, n, rfl, denotes, read⟩
    rw [read_iff_refusal denotes, refusal_spares_iff]
    exact read

theorem Denotes.unique {n' : Int} (h : Denotes token n) (h' : Denotes token n') : n = n' := by
  obtain ⟨w, numeral, -, -, -, rfl⟩ := h
  obtain ⟨w', numeral', -, -, -, rfl⟩ := h'
  cases numeral.symm.trans numeral'
  rfl

/-- A number that the check refuses with a word is refused. -/
theorem unread_of_refused (denotes : Denotes token n)
    (refused : Check.passes t.check (.int n) = .ok false) (worded : ¬ t.error.IsBlank)
    (rest : List String) : (t.parse (token :: rest)).answer ≠ .ok (.ok value) := by
  intro read
  obtain ⟨token', rest', n', same, denotes', -, -, admits⟩ := read_iff.1 read
  cases same
  obtain rfl := denotes.unique denotes'
  rcases admits with passes | ⟨-, blank⟩
  · rw [refused] at passes
    cases passes
  · exact worded blank

end IntegerType

/-! ## Decimals -/

namespace Binary64

/-- Numbers other than the one that is none are ordered, and the other way round the other way. -/
theorem order?_swap {x y : Binary64} (hx : x ≠ .nan) (hy : y ≠ .nan) :
    ∃ order, x.order? y = some order ∧ y.order? x = some order.swap := by
  cases x with
  | nan => exact absurd rfl hx
  | infinite negative =>
    cases y with
    | nan => exact absurd rfl hy
    | infinite negative' => cases negative <;> cases negative' <;> exact ⟨_, rfl, rfl⟩
    | finite => cases negative <;> exact ⟨_, rfl, rfl⟩
  | finite negative m e =>
    cases y with
    | nan => exact absurd rfl hy
    | infinite negative' => cases negative' <;> exact ⟨_, rfl, rfl⟩
    | finite negative' m' e' =>
      refine ⟨_, rfl, ?_⟩
      rw [order?, Int.min_comm, Int.compare_swap]

end Binary64

namespace Value

/-- Of two numbers the first one is not the greater one. -/
def AtMost (v w : Value) : Prop := v.numberOrder? w = some .lt ∨ v.numberOrder? w = some .eq

/-- A number that has a place in the order of numbers. -/
def IsPlaced (v : Value) : Prop := ∃ x, v.number? = some x ∧ x ≠ .nan

variable {x : Binary64} {bound : Value}

theorem number?_float (x : Binary64) : (float x).number? = some x := rfl

theorem less_float (hb : bound.IsPlaced) :
    ∃ y, bound.number? = some y ∧ y ≠ .nan ∧
      (float x).less bound = .ok (x.order? y == some .lt) ∧
      bound.less (float x) = .ok (y.order? x == some .lt) := by
  obtain ⟨y, number, placed⟩ := hb
  refine ⟨y, number, placed, ?_, ?_⟩
  · simp only [less, number?_float, number]
  · cases bound with
    | bool | int | float | code | outcome => simp only [less, number, number?_float]
    | _ => cases number

/-- A number is not less than a bound if the bound is at most the number. -/
theorem float_less_eq_false_iff (hx : x ≠ .nan) (hb : bound.IsPlaced) :
    (float x).less bound = .ok false ↔ bound.AtMost (float x) := by
  obtain ⟨y, number, placed, less, -⟩ := less_float (x := x) hb
  obtain ⟨order, there, back⟩ := Binary64.order?_swap hx placed
  simp only [less, there, AtMost, numberOrder?, number, number?_float, back]
  cases order <;> simp

theorem less_float_eq_false_iff (hx : x ≠ .nan) (hb : bound.IsPlaced) :
    bound.less (float x) = .ok false ↔ (float x).AtMost bound := by
  obtain ⟨y, number, placed, -, less⟩ := less_float (x := x) hb
  obtain ⟨order, there, back⟩ := Binary64.order?_swap hx placed
  simp only [less, there, AtMost, numberOrder?, number, number?_float, back]
  cases order <;> simp

end Value

namespace DecimalType

variable {t : DecimalType} {token : String} {x : Binary64} {value : Value}

/-- The token is a decimal that is not too large for a floating point number. -/
def Denotes (token : String) (x : Binary64) : Prop :=
  ∃ d, Numeral.decimal? token.toList = some d ∧ d.value = x ∧ x.isFinite = true

theorem Denotes.ne_nan (h : Denotes token x) : x ≠ .nan := by
  obtain ⟨-, -, -, finite⟩ := h
  rintro rfl
  cases finite

theorem isPlaced_of_declareBound {name : String} {given bound : Value}
    (h : declareBound name given = .ok bound) : bound.IsPlaced := by
  have placed (number : ∃ y, given.number? = some y ∧ y ≠ .nan)
      (h : (do let _ ← given.toBinary64; return given) = .ok bound) : bound.IsPlaced := by
    obtain ⟨-, -, same⟩ := Except.bind_eq_ok_iff.1 h
    cases same
    exact number
  cases given with
  | int n => exact placed ⟨_, rfl, nofun⟩ h
  | code c => exact placed ⟨_, rfl, nofun⟩ h
  | outcome o => exact placed ⟨_, rfl, nofun⟩ h
  | float y =>
    cases y with
    | nan => cases h
    | infinite negative => exact placed ⟨_, rfl, nofun⟩ h
    | finite negative m e => exact placed ⟨_, rfl, nofun⟩ h
  | _ => cases h

/-- The bounds of a type that was accepted have a place among the numbers. -/
theorem isPlaced_of_declare {host : Host} {given : DecimalFields} (h : declare host given = .ok t) :
    t.least.IsPlaced ∧ t.greatest.IsPlaced := by
  obtain ⟨least, low, h⟩ := Except.bind_eq_ok_iff.1 h
  obtain ⟨greatest, high, h⟩ := Except.bind_eq_ok_iff.1 h
  obtain ⟨crossed, -, h⟩ := Except.bind_eq_ok_iff.1 h
  cases crossed with
  | true => cases h
  | false =>
    obtain ⟨check, -, h⟩ := Except.bind_eq_ok_iff.1 h
    obtain ⟨error, -, h⟩ := Except.bind_eq_ok_iff.1 h
    cases h
    exact ⟨isPlaced_of_declareBound low, isPlaced_of_declareBound high⟩

theorem refusal_eq_none_iff (hx : x ≠ .nan) (low : t.least.IsPlaced)
    (high : t.greatest.IsPlaced) :
    t.refusal x = .ok none ↔ (t.least.AtMost (.float x) ∧ (Value.float x).AtMost t.greatest) ∧
      Check.passes t.check (.float x) = .ok true := by
  rw [← Value.float_less_eq_false_iff hx low, ← Value.less_float_eq_false_iff hx high]
  unfold refusal
  simp only [Except.bind_eq_ok_iff]
  constructor
  · rintro ⟨less, low, h⟩
    cases less with
    | true =>
      obtain ⟨bound, -, h⟩ := Except.bind_eq_ok_iff.1 h
      cases h
    | false =>
      obtain ⟨greater, high, h⟩ := Except.bind_eq_ok_iff.1 h
      cases greater with
      | true =>
        obtain ⟨bound, -, h⟩ := Except.bind_eq_ok_iff.1 h
        cases h
      | false =>
        obtain ⟨passes, passed, h⟩ := Except.bind_eq_ok_iff.1 h
        cases passes with
        | true => exact ⟨⟨low, high⟩, passed⟩
        | false =>
          obtain ⟨message, -, h⟩ := Except.bind_eq_ok_iff.1 h
          cases h
  · rintro ⟨⟨low, high⟩, passed⟩
    refine ⟨false, low, ?_⟩
    rw [high, passed]
    rfl

theorem parse_of_denotes (denotes : Denotes token x) (rest : List String) :
    t.parse (token :: rest) =
      match t.refusal x with
      | .error e => .raise e (token :: rest)
      | .ok none => .accept (.float x) rest
      | .ok (some message) => .reject message (token :: rest) := by
  obtain ⟨d, decimal, rfl, finite⟩ := denotes
  cases refused : t.refusal d.value with
  | error e => simp [parse, decimal, finite, refused]
  | ok message => cases message <;> simp [parse, decimal, finite, refused]

theorem denotes_of_read {tokens : List String}
    (read : (t.parse tokens).answer = .ok (.ok value)) :
    ∃ token rest x, tokens = token :: rest ∧ Denotes token x := by
  cases tokens with
  | nil => cases read
  | cons token rest =>
    cases decimal : Numeral.decimal? token.toList with
    | none =>
      simp only [parse, decimal] at read
      cases read
    | some d =>
      simp only [parse, decimal] at read
      split at read
      case isTrue => cases read
      case isFalse finite =>
        exact ⟨token, rest, d.value, rfl, d, decimal, rfl, by simpa using finite⟩

theorem read_iff_refusal (denotes : Denotes token x) (rest : List String) :
    (t.parse (token :: rest)).answer = .ok (.ok value) ↔
      value = .float x ∧ t.refusal x = .ok none := by
  rw [parse_of_denotes denotes]
  cases t.refusal x with
  | error e => exact iff_of_false nofun (by rintro ⟨-, h⟩; cases h)
  | ok refused =>
    cases refused with
    | none =>
      constructor
      · intro read
        cases read
        exact ⟨rfl, rfl⟩
      · rintro ⟨rfl, -⟩
        rfl
    | some message => exact iff_of_false nofun (by rintro ⟨-, h⟩; cases h)

/-- What a decimal type reads, exactly. -/
theorem read_iff (low : t.least.IsPlaced) (high : t.greatest.IsPlaced) {tokens : List String} :
    (t.parse tokens).answer = .ok (.ok value) ↔
      ∃ token rest x, tokens = token :: rest ∧ Denotes token x ∧ value = .float x ∧
        (t.least.AtMost (.float x) ∧ (Value.float x).AtMost t.greatest) ∧
        Check.passes t.check (.float x) = .ok true := by
  constructor
  · intro read
    obtain ⟨token, rest, x, rfl, denotes⟩ := denotes_of_read read
    rw [read_iff_refusal denotes, refusal_eq_none_iff denotes.ne_nan low high] at read
    exact ⟨token, rest, x, rfl, denotes, read⟩
  · rintro ⟨token, rest, x, rfl, denotes, read⟩
    rw [read_iff_refusal denotes, refusal_eq_none_iff denotes.ne_nan low high]
    exact read

theorem Denotes.unique {x' : Binary64} (h : Denotes token x) (h' : Denotes token x') : x = x' := by
  obtain ⟨d, decimal, rfl, -⟩ := h
  obtain ⟨d', decimal', rfl, -⟩ := h'
  cases decimal.symm.trans decimal'
  rfl

end DecimalType

namespace TokenType

/-- **What a check refuses is not read, unless it is refused without a word.** An integer type reads
exactly the numbers in its range that pass its check, and those that the check refuses with an empty
message; what is refused with a message is left where it was. A decimal type that was accepted
reads exactly the numbers in its range that pass its check, and leaves what the check refuses. -/
theorem refused_numbers_are_not_read (t : IntegerType) (host : Host) (given : DecimalFields)
    (d : DecimalType) (declared : DecimalType.declare host given = .ok d) :
    (∀ tokens value, (t.parse tokens).answer = .ok (.ok value) ↔
      ∃ token rest n, tokens = token :: rest ∧ IntegerType.Denotes token n ∧ value = .int n ∧
        (t.least.number ≤ n ∧ n ≤ t.greatest.number) ∧
        (Check.passes t.check (.int n) = .ok true ∨
          Check.passes t.check (.int n) = .ok false ∧ t.error.IsBlank)) ∧
    (∀ token rest n, IntegerType.Denotes token n → Check.passes t.check (.int n) = .ok false →
      ¬ t.error.IsBlank → ∀ answer, (t.parse (token :: rest)).answer = .ok answer →
        (∃ message, answer = .err message) ∧ (t.parse (token :: rest)).rest = token :: rest) ∧
    (∀ tokens value, (d.parse tokens).answer = .ok (.ok value) ↔
      ∃ token rest x, tokens = token :: rest ∧ DecimalType.Denotes token x ∧ value = .float x ∧
        (d.least.AtMost (.float x) ∧ (Value.float x).AtMost d.greatest) ∧
        Check.passes d.check (.float x) = .ok true) ∧
    (∀ token rest x, DecimalType.Denotes token x → Check.passes d.check (.float x) = .ok false →
      ∀ answer, (d.parse (token :: rest)).answer = .ok answer →
        (∃ message, answer = .err message) ∧ (d.parse (token :: rest)).rest = token :: rest) := by
  obtain ⟨low, high⟩ := DecimalType.isPlaced_of_declare declared
  refine ⟨fun tokens value => IntegerType.read_iff, ?_,
    fun tokens value => DecimalType.read_iff low high, ?_⟩
  · intro token rest n denotes refused worded answer answers
    have treated := treats (t := .integer t) trivial (token :: rest)
    refine treated.refused (fun value => ?_) answers
    exact IntegerType.unread_of_refused denotes refused worded rest
  · intro token rest x denotes refused answer answers
    have treated := treats (t := .decimal d) trivial (token :: rest)
    refine treated.refused (fun value read => ?_) answers
    obtain ⟨token', rest', x', same, denotes', -, -, passes⟩ :=
      (DecimalType.read_iff low high).1 read
    cases same
    obtain rfl := denotes.unique denotes'
    rw [refused] at passes
    cases passes

theorem declareWording_text (host : Host) (owner : Owner) (w : Wording)
    (room : w.room = host.room) : declareWording host owner (.str w.text) = .ok w := by
  obtain ⟨text, template, _, same⟩ := w
  obtain rfl : _ = host.room := room
  have read : Wording.ofString host.room text = .ok ⟨text, template, host.room, same⟩ := by
    unfold Wording.ofString
    split
    case h_1 template' h =>
      cases same.symm.trans h
      rfl
    case h_2 flaw h => cases same.symm.trans h
  simp only [declareWording, read]

/-- A check that lets nothing pass. -/
def closedGate : Check := ⟨.object "Predicate" "<predicate>", fun _ => .ok false⟩

def silence : Wording := ⟨"", ⟨[]⟩, Host.plain.room, by cbv⟩

def refusal : Wording := ⟨"no", ⟨[.literal 'n', .literal 'o']⟩, Host.plain.room, by cbv⟩

/-- Any number of 32 bits, none of which passes. -/
def gated (error : Wording) : IntegerType where
  least := ⟨leastInt, .int leastInt, rfl⟩
  greatest := ⟨greatestInt, .int greatestInt, rfl⟩
  check := some closedGate
  error := error
  suggests := false
  ceiling := ⟨1024, .int 1024, rfl⟩
  least_le_greatest := by decide
  leastInt_le := Int.le_refl _
  le_greatestInt := Int.le_refl _

/-- Any finite number, none of which passes. -/
def gatedDecimal : DecimalType :=
  ⟨.float (.infinite true), .float (.infinite false), some closedGate, refusal⟩

theorem gatedDecimal_declared :
    DecimalType.declare .plain { check := .callable closedGate, error := .str "no" } =
      .ok gatedDecimal := by
  have wording : declareWording .plain .float (.str "no") = .ok refusal :=
    declareWording_text .plain .float refusal rfl
  simp only [DecimalType.declare, wording]
  rfl

/-- A word in place of silence makes the check final. -/
theorem closed_gate_is_final :
    (IntegerType.Denotes "5" 5 ∧ ¬ (gated refusal).error.IsBlank ∧
      ((gated refusal).parse ["5"]).rest = ["5"]) ∧
    DecimalType.declare .plain { check := .callable closedGate, error := .str "no" } =
        .ok gatedDecimal ∧
      (gatedDecimal.parse ["5"]).rest = ["5"] := by
  obtain ⟨-, wholeRefused, -, decimalRefused⟩ :=
    refused_numbers_are_not_read (gated refusal) .plain _ gatedDecimal gatedDecimal_declared
  have whole : IntegerType.Denotes "5" 5 :=
    ⟨⟨false, ['5']⟩, by decide, by decide, by decide, by decide, by decide⟩
  have decimal : DecimalType.Denotes "5" (.finite false 5629499534213120 (-50)) :=
    ⟨⟨false, ['5'], [], 0⟩, by decide, by decide, rfl⟩
  have worded : ¬ (gated refusal).error.IsBlank := by
    intro blank
    obtain ⟨p, same, -⟩ := blank (.literal 'n') List.mem_cons_self
    cases same
  refine ⟨⟨whole, worded, ?_⟩, gatedDecimal_declared, ?_⟩
  · exact (wholeRefused "5" [] 5 whole rfl worded (.err "no") rfl).2
  · exact (decimalRefused "5" [] _ decimal rfl (.err "no") rfl).2

/-- What is refused in silence is read. -/
theorem silent_refusal_is_not_final :
    ∃ t, IntegerType.declare .plain { check := .callable closedGate, error := .str "" } = .ok t ∧
      Check.passes t.check (.int 5) = .ok false ∧ t.parse ["5"] = .accept (.int 5) [] := by
  have wording : declareWording .plain .integer (.str "") = .ok silence :=
    declareWording_text .plain .integer silence rfl
  refine ⟨gated silence, ?_, rfl, rfl⟩
  simp only [IntegerType.declare, wording]
  rfl

end TokenType

end CommandTree
