import CommandTree.Proofs.Printing
import Mathlib.Logic.Basic

/-!
# Wordings

What a type says of a number that its check refuses. The text of a wording spells its template
(`Wording.spells`), and at its place the number is written as the form of the place has it
(`Place.Prints`), so a message is known from the text alone (`Wording.Says`).

A wording is tried with zero when it is declared, and that is not enough: the character of a number
needs a code point (`Wording.TakesWhole`), and base eight, base sixteen and characters need whole
numbers (`Wording.TakesDecimals`). These are the only ways in which a wording fails later.
-/

namespace CommandTree

/-! ## Places as they are spelled -/

namespace Place

/-- The characters that spell a place: flags, a width, a precision after a point, a size that has no
effect, and the letter of a form. -/
def IsSpelled (p : Place) (cs : List Char) : Prop :=
  ∃ flags width precision size letter,
    cs = flags ++ width ++ precision ++ size ++ [letter] ∧
    (∀ c ∈ flags, c ∈ ['-', '+', ' ', '#', '0']) ∧
    (p.isLeft ↔ '-' ∈ flags) ∧ (p.showsPlus ↔ '+' ∈ flags) ∧ (p.showsBlank ↔ ' ' ∈ flags) ∧
    (p.isAlternate ↔ '#' ∈ flags) ∧ (p.fillsZeros ↔ '0' ∈ flags) ∧
    (∀ c ∈ width, c.isDigit = true) ∧ p.width = Nat.ofDigitChars 10 width 0 ∧
    (precision = [] ∧ p.precision = none ∨
      ∃ ds, precision = '.' :: ds ∧ (∀ c ∈ ds, c.isDigit = true) ∧
        p.precision = some (Nat.ofDigitChars 10 ds 0)) ∧
    (size = [] ∨ ∃ c ∈ ['h', 'l', 'L'], size = [c]) ∧
    Form.ofLetter? letter = some p.form

/-- A text is what a test takes from its front, and what is left without it. -/
theorem takeWhile_append_drop (test : Char → Bool) (cs : List Char) :
    cs.takeWhile test ++ cs.drop (cs.takeWhile test).length = cs :=
  List.prefix_iff_eq_append.1 (List.takeWhile_prefix test)

theorem precisionOf_spec (cs : List Char) :
    ∃ spelled, spelled ++ cs.drop (precisionOf cs).2 = cs ∧ spelled.length = (precisionOf cs).2 ∧
      (spelled = [] ∧ (precisionOf cs).1 = none ∨
        ∃ ds, spelled = '.' :: ds ∧ (∀ c ∈ ds, c.isDigit = true) ∧
          (precisionOf cs).1 = some (Nat.ofDigitChars 10 ds 0)) := by
  unfold precisionOf
  split
  case h_1 rest =>
    have split := takeWhile_append_drop Numeral.isDigit rest
    refine ⟨'.' :: rest.takeWhile Numeral.isDigit, ?_, rfl, .inr ⟨_, rfl, ?_, ?_⟩⟩
    · rw [List.drop_succ_cons, List.cons_append, split]
    · intro c mem
      exact Numeral.isDigit_of_mem_takeWhile mem
    · exact congrArg some (Numeral.ofDigits_eq _)
  case h_2 => exact ⟨[], rfl, rfl, .inl ⟨rfl, rfl⟩⟩

theorem size_spec (cs : List Char) :
    ∃ spelled, spelled ++ cs.drop (if cs.head?.any isSize then 1 else 0) = cs ∧
      spelled.length = (if cs.head?.any isSize then 1 else 0) ∧
      (spelled = [] ∨ ∃ c ∈ ['h', 'l', 'L'], spelled = [c]) := by
  cases cs with
  | nil => exact ⟨[], rfl, rfl, .inl rfl⟩
  | cons c rest =>
    by_cases size : isSize c = true
    · have mem : c ∈ ['h', 'l', 'L'] := List.contains_iff_mem.1 size
      exact ⟨[c], by simp [size], by simp [size], .inr ⟨c, mem, rfl⟩⟩
    · exact ⟨[], by simp [size], by simp [size], .inl rfl⟩

/-- What is read after a percent sign spells the place. -/
theorem isSpelled_of_read? {cs : List Char} {p : Place} {used : Nat}
    (h : read? cs = some (p, used)) :
    ∃ spelled, spelled ++ cs.drop used = cs ∧ p.IsSpelled spelled := by
  unfold read? at h
  dsimp only at h
  split at h
  case isTrue => cases h
  case isFalse =>
    obtain ⟨letter, found, h⟩ := Option.bind_eq_some_iff.1 h
    obtain ⟨form, known, h⟩ := Option.bind_eq_some_iff.1 h
    rw [Option.pure_def, Option.some.injEq, Prod.mk.injEq] at h
    obtain ⟨rfl, rfl⟩ := h
    -- the parts are split off one by one, and each is spelled by what it took from the text
    have flagged : ∀ c ∈ cs.takeWhile isFlag, c ∈ ['-', '+', ' ', '#', '0'] := by
      intro c mem
      exact List.contains_iff_mem.1 (List.all_eq_true.1 List.all_takeWhile c mem)
    have flagsSplit := takeWhile_append_drop isFlag cs
    generalize cs.takeWhile isFlag = flags at *
    generalize cs.drop flags.length = afterFlags at *
    have digits : ∀ c ∈ afterFlags.takeWhile Numeral.isDigit, c.isDigit = true :=
      fun c mem => Numeral.isDigit_of_mem_takeWhile mem
    have widthSplit := takeWhile_append_drop Numeral.isDigit afterFlags
    generalize afterFlags.takeWhile Numeral.isDigit = width at *
    generalize afterFlags.drop width.length = afterWidth at *
    obtain ⟨precision, precisionSplit, precisionLength, shape⟩ := precisionOf_spec afterWidth
    generalize afterWidth.drop (precisionOf afterWidth).2 = afterPrecision at *
    obtain ⟨size, sizeSplit, sizeLength, sized⟩ := size_spec afterPrecision
    generalize afterPrecision.drop (if afterPrecision.head?.any isSize then 1 else 0) = tail at *
    obtain ⟨rest, rfl⟩ := List.head?_eq_some_iff.1 found
    refine ⟨flags ++ width ++ precision ++ size ++ [letter], ?_,
      flags, width, precision, size, letter, rfl, flagged, ?_, ?_, ?_, ?_, ?_, digits, ?_, shape,
      sized, known⟩
    · have whole : flags ++ width ++ precision ++ size ++ [letter] ++ rest = cs := by
        rw [← flagsSplit, ← widthSplit, ← precisionSplit, ← sizeSplit]
        simp
      have length : (flags ++ width ++ precision ++ size ++ [letter]).length =
          flags.length + width.length + (precisionOf afterWidth).2 +
            (if afterPrecision.head?.any isSize then 1 else 0) + 1 := by
        rw [← precisionLength, ← sizeLength]
        simp only [List.length_append, List.length_singleton]
      rw [← length, ← whole, List.drop_left]
    · simp
    · simp
    · simp
    · simp
    · simp
    · exact Numeral.ofDigits_eq width

end Place

/-! ## Templates as they are spelled -/

namespace Template

/-- A text with its percent signs written twice. -/
def escaped (cs : List Char) : List Char := cs.flatMap fun c => if c = '%' then ['%', '%'] else [c]

theorem escaped_cons (c : Char) (cs : List Char) :
    escaped (c :: cs) = escaped [c] ++ escaped cs := by
  simp [escaped]

theorem escaped_of_ne {c : Char} (h : c ≠ '%') : escaped [c] = [c] := by
  simp [escaped, h]

/-- The text spells the pieces: characters, of which percent signs are written twice, and a place
among them if there may be one. -/
def Spells (hasPlace : Bool) (cs : List Char) (pieces : List Piece) : Prop :=
  (∃ said : List Char, cs = escaped said ∧ pieces = said.map .literal) ∨
    hasPlace = false ∧ ∃ (before : List Char) (p : Place) (spelled after : List Char),
      cs = escaped before ++ '%' :: (spelled ++ escaped after) ∧ p.IsSpelled spelled ∧
        pieces = before.map .literal ++ .place p :: after.map .literal

theorem Spells.literal {hasPlace : Bool} {cs : List Char} {pieces : List Piece}
    (h : Spells hasPlace cs pieces) (c : Char) :
    Spells hasPlace (escaped [c] ++ cs) (.literal c :: pieces) := by
  rcases h with ⟨said, rfl, rfl⟩ | ⟨free, before, p, spelled, after, rfl, place, rfl⟩
  · exact .inl ⟨c :: said, (escaped_cons c said).symm, rfl⟩
  · refine .inr ⟨free, c :: before, p, spelled, after, ?_, place, rfl⟩
    rw [escaped_cons c before, List.append_assoc]

theorem Spells.place {cs spelled : List Char} {pieces : List Piece} {p : Place}
    (h : Spells true cs pieces) (place : p.IsSpelled spelled) :
    Spells false ('%' :: (spelled ++ cs)) (.place p :: pieces) := by
  rcases h with ⟨said, rfl, rfl⟩ | ⟨free, -⟩
  · exact .inr ⟨rfl, [], p, spelled, said, rfl, place, rfl⟩
  · cases free

/-- A text that is taken as a template spells its pieces. -/
theorem spells_of_piecesOf {room : Nat} {hasPlace : Bool} {cs : List Char} {pieces : List Piece}
    (h : piecesOf room hasPlace cs = .ok pieces) : Spells hasPlace cs pieces := by
  fun_induction piecesOf room hasPlace cs generalizing pieces with
  | case1 =>
    cases h
    exact .inl ⟨[], rfl, rfl⟩
  | case2 hasPlace rest ih =>
    obtain ⟨later, read, h⟩ := Except.bind_eq_ok_iff.1 h
    cases h
    exact (ih read).literal '%'
  | case3 => cases h
  | case4 => cases h
  | case5 hasPlace rest p used place free flaw _ ih =>
    obtain ⟨later, read, h⟩ := Except.bind_eq_ok_iff.1 h
    cases h
    obtain ⟨spelled, split, isSpelled⟩ := Place.isSpelled_of_read? place
    have spells := (ih read).place isSpelled
    rw [split] at spells
    rw [Bool.eq_false_iff.2 free]
    exact spells
  | case6 => cases h
  | case7 hasPlace c rest _ other ih =>
    obtain ⟨later, read, h⟩ := Except.bind_eq_ok_iff.1 h
    cases h
    have spells := (ih read).literal c
    rw [escaped_of_ne other] at spells
    exact spells

end Template

/-- The text of a wording spells its template. -/
theorem Wording.spells (w : Wording) :
    Template.Spells false w.text.toList w.template.pieces := by
  obtain ⟨pieces, read, same⟩ := Except.bind_eq_ok_iff.1 w.template_eq
  rw [← Except.ok.inj same]
  exact Template.spells_of_piecesOf read

/-! ## What can be written at a place -/

theorem Binary64.lastBit_le {num : Nat} (h : num < twoTo 32) (filled : num ≠ 0) :
    lastBit num 1 ≤ 0 := by
  have bits : num.log2 < 32 := (Nat.log2_lt filled).2 h
  have one : Nat.log2 1 = 0 := by decide
  unfold lastBit
  rw [one]
  dsimp only
  split <;> omega

/-- Numbers of 32 bits are not too large for floating point. -/
theorem Binary64.ofRatio_ne_infinite {negative negative' : Bool} {num : Nat} (h : num < twoTo 32) :
    ofRatio negative num 1 ≠ .infinite negative' := by
  unfold ofRatio
  split
  case isTrue => nofun
  case isFalse filled =>
    have small := lastBit_le h filled
    dsimp only
    generalize lastBit num 1 = e at small
    generalize (if 0 ≤ e then roundDiv num (1 * twoTo e.toNat)
      else roundDiv (num * twoTo (-e).toNat) 1) = m
    by_cases carries : m = twoTo 53
    · simp only [if_pos carries]
      split
      · nofun
      · rw [if_neg (by omega)]
        nofun
    · simp only [if_neg carries]
      split
      · nofun
      · rw [if_neg (by omega)]
        nofun

theorem Value.toBinary64_int {n : Int} (h : leastInt ≤ n ∧ n ≤ greatestInt) :
    ∃ x, (Value.int n).toBinary64 = .ok x := by
  have bits : n.natAbs < twoTo 32 := by
    have all : twoTo 32 = 4294967296 := by rfl
    rw [leastInt, greatestInt] at h
    omega
  simp only [toBinary64, number?, Binary64.ofWhole]
  split
  case h_1 infinite => exact absurd infinite (Binary64.ofRatio_ne_infinite bits)
  case h_2 => exact ⟨_, rfl⟩

namespace Place

variable {p : Place} {n : Int} {x : Binary64}

/-- The number of half a pair that stands for one character where texts are coded in 16 bits. -/
def IsSurrogate (n : Int) : Prop := 0xD800 ≤ n ∧ n < 0xE000

/-- A character needs a code point. Surrogates are code points too, but nothing is said of them
here: they are no characters, so no text of this theory has one in it. -/
def TakesWhole (p : Place) (n : Int) : Prop :=
  p.form = .character → (0 ≤ n ∧ n < 0x110000) ∧ ¬ IsSurrogate n

/-- Characters and digits in base eight or sixteen need a number that is written as a whole one. -/
def TakesDecimals (p : Place) : Prop :=
  p.form ≠ .octal ∧ (∀ isUpper, p.form ≠ .hexadecimal isUpper) ∧ p.form ≠ .character

theorem exists_characterOf (point : 0 ≤ n ∧ n < 0x110000) (other : ¬ IsSurrogate n) :
    ∃ c, characterOf n = .ok c := by
  have valid : n.toNat.isValidChar := by
    unfold IsSurrogate at other
    unfold Nat.isValidChar
    omega
  have natural : (n.toNat : Int) = n := Int.toNat_of_nonneg point.1
  exact ⟨Char.ofNatAux n.toNat valid, characterOf_eq_ok_iff.2 natural⟩

theorem render_of_takesWhole (h : p.TakesWhole n) (bits : leastInt ≤ n ∧ n ≤ greatestInt) :
    ∃ written, p.render (.int n) = .ok written := by
  unfold render
  split
  case h_1 isQuoted _ => cases isQuoted <;> exact ⟨_, rfl⟩
  case h_2 => exact ⟨_, rfl⟩
  case h_3 => exact ⟨_, rfl⟩
  case h_4 => exact ⟨_, rfl⟩
  case h_5 character =>
    have whole : whole (.int n) = .ok n := rfl
    obtain ⟨point, other⟩ := h character
    obtain ⟨c, found⟩ := exists_characterOf point other
    rw [whole]
    refine ⟨p.pad [c], ?_⟩
    exact Except.bind_eq_ok_iff.2 ⟨n, rfl, Except.bind_eq_ok_iff.2 ⟨c, found, rfl⟩⟩
  case h_6 =>
    obtain ⟨x, converted⟩ := Value.toBinary64_int bits
    rw [converted]
    exact ⟨_, rfl⟩

theorem render_of_not_takesWhole (h : ¬ p.TakesWhole n) (other : ¬ IsSurrogate n) :
    p.render (.int n) = .error .characterRange := by
  rw [TakesWhole, Classical.not_imp] at h
  obtain ⟨character, h⟩ := h
  have outside : n < 0 ∨ 0x110000 ≤ n := by
    by_contra inside
    exact h ⟨by omega, other⟩
  have none : characterOf n = .error .characterRange := if_pos outside
  have whole : whole (.int n) = .ok n := rfl
  unfold render
  rw [character]
  dsimp only
  rw [whole]
  simp only [bind, Except.bind, none]

theorem render_of_takesDecimals (h : p.TakesDecimals) (finite : x.isFinite = true) :
    ∃ written, p.render (.float x) = .ok written := by
  obtain ⟨octal, hexadecimal, character⟩ := h
  unfold render
  split
  case h_1 isQuoted _ => cases isQuoted <;> exact ⟨_, rfl⟩
  case h_2 =>
    cases x with
    | finite => exact ⟨_, rfl⟩
    | nan | infinite => cases finite
  case h_3 same => exact absurd same octal
  case h_4 isUpper same => exact absurd same (hexadecimal isUpper)
  case h_5 same => exact absurd same character
  case h_6 => exact ⟨_, rfl⟩

theorem render_of_not_takesDecimals (h : ¬ p.TakesDecimals) :
    p.render (.float x) = .error .unsupported := by
  have whole : whole (.float x) = .error .unsupported := rfl
  simp only [TakesDecimals, ne_eq, not_and_or, not_forall, not_not] at h
  unfold render
  rcases h with octal | ⟨isUpper, hexadecimal⟩ | character
  · rw [octal]
    dsimp only
    rw [whole]
    rfl
  · rw [hexadecimal]
    dsimp only
    rw [whole]
    rfl
  · rw [character]
    dsimp only
    rw [whole]
    rfl

end Place

/-! ## Messages -/

namespace Template

theorem renderPieces_literals (v : Value) (said : List Char) :
    renderPieces v (said.map .literal) = .ok said := by
  induction said with
  | nil => rfl
  | cons c said ih =>
    rw [List.map_cons, renderPieces, ih]
    rfl

theorem renderPieces_place (v : Value) (before after : List Char) (p : Place) :
    renderPieces v (before.map .literal ++ .place p :: after.map .literal) =
      (p.render v).map fun written => before ++ written ++ after := by
  induction before with
  | nil =>
    rw [List.map_nil, List.nil_append, renderPieces, renderPieces_literals]
    cases p.render v <;> rfl
  | cons c before ih =>
    rw [List.map_cons, List.cons_append, renderPieces, ih]
    cases p.render v <;> rfl

end Template

namespace Wording

variable {w : Wording} {v : Value} {n : Int} {x : Binary64}

/-- What a wording makes of a value. Without a place it is the text itself, where percent signs were
written twice; else the text of the value stands in the place. -/
def Says (w : Wording) (v : Value) (message : String) : Prop :=
  w.text.toList = Template.escaped message.toList ∨
    ∃ (before : List Char) (p : Place) (spelled after written : List Char),
      w.text.toList = Template.escaped before ++ '%' :: (spelled ++ Template.escaped after) ∧
        p.IsSpelled spelled ∧ p.Prints v written ∧
        message.toList = before ++ written ++ after

/-- The whole number can be written at the place of the wording, if there is one. -/
def TakesWhole (w : Wording) (n : Int) : Prop :=
  ∀ p, Piece.place p ∈ w.template.pieces → p.TakesWhole n

/-- Decimals can be written at the place of the wording, if there is one. -/
def TakesDecimals (w : Wording) : Prop :=
  ∀ p, Piece.place p ∈ w.template.pieces → p.TakesDecimals

theorem render_of_pieces {before after : List Char} {p : Place}
    (h : w.template.pieces = before.map .literal ++ .place p :: after.map .literal) (v : Value) :
    w.render v = (p.render v).map fun written => String.ofList (before ++ written ++ after) := by
  rw [render, Template.render, h, Template.renderPieces_place]
  cases p.render v <;> rfl

/-- A wording fails if the value cannot be written at its place. -/
theorem render_of_refused {p : Place} {e : Error} (mem : Piece.place p ∈ w.template.pieces)
    (refused : p.render v = .error e) : w.render v = .error e := by
  rcases w.spells with ⟨said, -, pieces⟩ | ⟨-, before, q, spelled, after, -, -, pieces⟩
  · rw [pieces] at mem
    obtain ⟨c, -, literal⟩ := List.mem_map.1 mem
    cases literal
  · have same : p = q := by
      rw [pieces] at mem
      simpa using mem
    rw [render_of_pieces pieces, ← same, refused]
    rfl

/-- A wording succeeds if the value can be written at its place or there is none. -/
theorem renders_of_places
    (h : ∀ p, Piece.place p ∈ w.template.pieces → ∃ written, p.render v = .ok written) :
    ∃ message, w.render v = .ok message ∧ w.Says v message := by
  rcases w.spells with ⟨said, text, pieces⟩ | ⟨-, before, p, spelled, after, text, place, pieces⟩
  · refine ⟨String.ofList said, ?_, .inl ?_⟩
    · rw [render, Template.render, pieces, Template.renderPieces_literals]
      rfl
    · rw [String.toList_ofList]
      exact text
  · have mem : Piece.place p ∈ w.template.pieces := by
      rw [pieces]
      exact List.mem_append_right _ List.mem_cons_self
    obtain ⟨written, rendered⟩ := h p mem
    refine ⟨String.ofList (before ++ written ++ after), ?_,
      .inr ⟨before, p, spelled, after, written, text, place,
        Place.prints_of_render rendered, ?_⟩⟩
    · rw [render_of_pieces pieces, rendered]
      rfl
    · rw [String.toList_ofList]

theorem renders_of_takesWhole (takes : w.TakesWhole n)
    (bits : leastInt ≤ n ∧ n ≤ greatestInt) :
    ∃ message, w.render (.int n) = .ok message ∧ w.Says (.int n) message := by
  apply renders_of_places
  intro p mem
  exact Place.render_of_takesWhole (takes p mem) bits

theorem render_of_not_takesWhole (h : ¬ w.TakesWhole n) (other : ¬ Place.IsSurrogate n) :
    w.render (.int n) = .error .characterRange := by
  rw [TakesWhole, not_forall] at h
  obtain ⟨p, h⟩ := h
  rw [Classical.not_imp] at h
  exact render_of_refused h.1 (Place.render_of_not_takesWhole h.2 other)

theorem renders_of_takesDecimals (takes : w.TakesDecimals) (finite : x.isFinite = true) :
    ∃ message, w.render (.float x) = .ok message ∧ w.Says (.float x) message := by
  apply renders_of_places
  intro p mem
  exact Place.render_of_takesDecimals (takes p mem) finite

theorem render_of_not_takesDecimals (h : ¬ w.TakesDecimals) :
    w.render (.float x) = .error .unsupported := by
  rw [TakesDecimals, not_forall] at h
  obtain ⟨p, h⟩ := h
  rw [Classical.not_imp] at h
  exact render_of_refused h.1 (Place.render_of_not_takesDecimals h.2)

theorem takesWhole_zero (w : Wording) : w.TakesWhole 0 := by
  intro p _ _
  exact ⟨by decide, by simp [Place.IsSurrogate]⟩

end Wording

/-! ## Messages of types -/

theorem IntegerType.parse_of_refused {t : IntegerType} {token : String} {n : Int}
    (low : t.least.number ≤ n) (high : n ≤ t.greatest.number)
    (refused : Check.passes t.check (.int n) = .ok false) (denotes : Denotes token n)
    (rest : List String) :
    t.parse (token :: rest) =
      match t.error.render (.int n) with
      | .error e => .raise e (token :: rest)
      | .ok message =>
        if message.isEmpty then .accept (.int n) rest else .reject message (token :: rest) := by
  have refusal : t.refusal (.int n) = (t.error.render (.int n)).map some := by
    rw [refusal_int, if_neg (by omega), if_neg (by omega), refused]
    cases t.error.render (.int n) <;> rfl
  rw [parse_of_denotes denotes, refusal]
  cases t.error.render (.int n) <;> rfl

theorem DecimalType.parse_of_refused {t : DecimalType} {token : String} {x : Binary64}
    (least : t.least.IsPlaced) (greatest : t.greatest.IsPlaced)
    (low : t.least.AtMost (.float x)) (high : (Value.float x).AtMost t.greatest)
    (refused : Check.passes t.check (.float x) = .ok false) (denotes : Denotes token x)
    (rest : List String) :
    t.parse (token :: rest) =
      match t.error.render (.float x) with
      | .error e => .raise e (token :: rest)
      | .ok message => .reject message (token :: rest) := by
  have below := (Value.float_less_eq_false_iff denotes.ne_nan least).2 low
  have above := (Value.less_float_eq_false_iff denotes.ne_nan greatest).2 high
  have refusal : t.refusal x = (t.error.render (.float x)).map some := by
    unfold refusal
    dsimp only
    rw [below, above, refused]
    cases t.error.render (.float x) <;> rfl
  rw [parse_of_denotes denotes, refusal]
  cases t.error.render (.float x) <;> rfl

namespace TokenType

/-- **A wording that was accepted fails only where its place takes other numbers.** Any wording can
be given zero, with which it is tried. Given a number that the check of an integer type refuses it
fails exactly if it asks for the character of what is no code point, surrogates left out, and given
one that the check of a decimal type refuses, exactly if it asks for a character or for digits in
base eight or sixteen. Otherwise it says its own text with the text of the number in its place, if
it has one; and that is the message of the token. -/
theorem accepted_wordings_are_rendered (t : IntegerType) {host : Host} {given : DecimalFields}
    {d : DecimalType} (declared : DecimalType.declare host given = .ok d) :
    (∀ w : Wording, ∃ message, w.render (.int 0) = .ok message) ∧
    (∀ n, t.least.number ≤ n → n ≤ t.greatest.number →
      Check.passes t.check (.int n) = .ok false →
      (t.error.TakesWhole n →
        ∃ message, t.error.render (.int n) = .ok message ∧ t.error.Says (.int n) message ∧
          ∀ token rest, IntegerType.Denotes token n → t.parse (token :: rest) =
            if message.isEmpty then .accept (.int n) rest
            else .reject message (token :: rest)) ∧
      (¬ t.error.TakesWhole n → ¬ Place.IsSurrogate n →
        t.error.render (.int n) = .error .characterRange ∧
          ∀ token rest, IntegerType.Denotes token n →
            t.parse (token :: rest) = .raise .characterRange (token :: rest))) ∧
    (∀ x, x.isFinite = true → d.least.AtMost (.float x) → (Value.float x).AtMost d.greatest →
      Check.passes d.check (.float x) = .ok false →
      (d.error.TakesDecimals →
        ∃ message, d.error.render (.float x) = .ok message ∧ d.error.Says (.float x) message ∧
          ∀ token rest, DecimalType.Denotes token x →
            d.parse (token :: rest) = .reject message (token :: rest)) ∧
      (¬ d.error.TakesDecimals →
        d.error.render (.float x) = .error .unsupported ∧
          ∀ token rest, DecimalType.Denotes token x →
            d.parse (token :: rest) = .raise .unsupported (token :: rest))) := by
  refine ⟨?_, ?_, ?_⟩
  · intro w
    obtain ⟨message, rendered, -⟩ := w.renders_of_takesWhole w.takesWhole_zero (by decide)
    exact ⟨message, rendered⟩
  · intro n low high refused
    have bits : leastInt ≤ n ∧ n ≤ greatestInt :=
      ⟨Int.le_trans t.leastInt_le low, Int.le_trans high t.le_greatestInt⟩
    constructor
    · intro takes
      obtain ⟨message, rendered, said⟩ := t.error.renders_of_takesWhole takes bits
      refine ⟨message, rendered, said, ?_⟩
      intro token rest denotes
      rw [IntegerType.parse_of_refused low high refused denotes, rendered]
    · intro fails other
      have failed := t.error.render_of_not_takesWhole fails other
      refine ⟨failed, ?_⟩
      intro token rest denotes
      rw [IntegerType.parse_of_refused low high refused denotes, failed]
  · obtain ⟨least, greatest⟩ := DecimalType.isPlaced_of_declare declared
    intro x finite low high refused
    constructor
    · intro takes
      obtain ⟨message, rendered, said⟩ := d.error.renders_of_takesDecimals takes finite
      refine ⟨message, rendered, said, ?_⟩
      intro token rest denotes
      rw [DecimalType.parse_of_refused least greatest low high refused denotes, rendered]
    · intro fails
      have failed := d.error.render_of_not_takesDecimals (x := x) fails
      refine ⟨failed, ?_⟩
      intro token rest denotes
      rw [DecimalType.parse_of_refused least greatest low high refused denotes, failed]

theorem declare_gated (w : Wording) (room : w.room = Host.plain.room) :
    IntegerType.declare .plain { check := .callable closedGate, error := .str w.text } =
      .ok (gated w) := by
  simp only [IntegerType.declare, declareWording_text .plain .integer w room]
  rfl

/-- Any finite number, none of which passes, with words of its own. -/
def closedDecimal (error : Wording) : DecimalType := { gatedDecimal with error }

theorem declare_closedDecimal (w : Wording) (room : w.room = Host.plain.room) :
    DecimalType.declare .plain { check := .callable closedGate, error := .str w.text } =
      .ok (closedDecimal w) := by
  simp only [DecimalType.declare, declareWording_text .plain .float w room]
  rfl

/-- The place that a form asks for, without flags. -/
def plainPlace (form : Form) : Place := ⟨false, false, false, false, false, 0, none, form⟩

/-- A place alone. -/
def bare (letter : Char) (form : Form)
    (read : Place.read? [letter] = some (plainPlace form, 1)) : Wording :=
  ⟨String.ofList ['%', letter], ⟨[.place (plainPlace form)]⟩, Host.plain.room, by
    have flaw : (plainPlace form).flaw? Host.plain.room = none := by
      cases form <;> rfl
    have other : letter ≠ '%' := by
      rintro rfl
      have none : Place.read? ['%'] = none := by decide
      rw [none] at read
      cases read
    simp [Template.ofString, Template.piecesOf, read, flaw, other]⟩

/-- A number as a whole one. -/
def numbered : Wording := bare 'd' .decimal rfl

/-- A check that lets nothing pass has the last word with whole numbers and with decimals. -/
theorem refused_numbers_are_named :
    DecimalType.declare .plain { check := .callable closedGate, error := .str "%d" } =
      .ok (closedDecimal numbered) ∧
    (gated numbered).parse ["-7"] = .reject "-7" ["-7"] ∧
    (closedDecimal numbered).parse ["1.5"] = .reject "1" ["1.5"] := by
  have declared := declare_closedDecimal numbered rfl
  obtain ⟨-, whole, decimal⟩ := accepted_wordings_are_rendered (gated numbered) declared
  have takesWhole : numbered.TakesWhole (-7) := by
    intro p mem isCharacter
    obtain rfl := Piece.place.inj (List.mem_singleton.1 mem)
    cases isCharacter
  have takesDecimals : numbered.TakesDecimals := by
    intro p mem
    obtain rfl := Piece.place.inj (List.mem_singleton.1 mem)
    exact ⟨nofun, nofun, nofun⟩
  have denotesWhole : IntegerType.Denotes "-7" (-7) :=
    ⟨⟨true, ['7']⟩, by decide, by decide, by decide, by decide, by decide⟩
  have denotesDecimal : DecimalType.Denotes "1.5" (.finite false 6755399441055744 (-52)) :=
    ⟨⟨false, ['1'], ['5'], 0⟩, by decide, by decide, rfl⟩
  refine ⟨declared, ?_, ?_⟩
  · obtain ⟨message, rendered, -, parsed⟩ :=
      (whole (-7) (by decide) (by decide) rfl).1 takesWhole
    have same : message = "-7" := (Except.ok.inj rendered).symm
    rw [parsed "-7" [] denotesWhole, same]
    rfl
  · obtain ⟨message, rendered, -, parsed⟩ :=
      (decimal (.finite false 6755399441055744 (-52)) rfl (.inl rfl) (.inl rfl) rfl).1 takesDecimals
    have same : message = "1" := (Except.ok.inj rendered).symm
    rw [parsed "1.5" [] denotesDecimal, same]

/-- The character of a number. -/
def coded : Wording := bare 'c' .character rfl

/-- A number in base sixteen. -/
def inBaseSixteen : Wording := bare 'x' (.hexadecimal false) rfl

/-- What can be written of zero cannot be written of every number. -/
theorem accepted_wordings_can_fail :
    (IntegerType.declare .plain { check := .callable closedGate, error := .str "%c" } =
        .ok (gated coded) ∧
      (gated coded).parse ["-1"] = .raise .characterRange ["-1"]) ∧
    DecimalType.declare .plain { check := .callable closedGate, error := .str "%x" } =
        .ok (closedDecimal inBaseSixteen) ∧
      (closedDecimal inBaseSixteen).parse ["1.5"] = .raise .unsupported ["1.5"] :=
  ⟨⟨declare_gated coded rfl, rfl⟩, declare_closedDecimal inBaseSixteen rfl, rfl⟩

end TokenType

end CommandTree
