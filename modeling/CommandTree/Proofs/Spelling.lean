import CommandTree.Proofs.Consumption
import CommandTree.Proofs.Numerals

/-!
# What is offered and what is read

A built-in type that takes a single token offers texts that it reads (`parse_of_offered`). The other
way round, it offers the spelling of a value for everything that a token of this value starts with
(`offered_of_parse`): words that match go on to match when both are cut short, since case folding
goes character by character.
-/

namespace CommandTree

namespace Text

theorem key_prefix {ignoresCase : Bool} {typed token : String} (h : typed.toList <+: token.toList) :
    key ignoresCase typed <+: key ignoresCase token := by
  obtain ⟨rest, hr⟩ := h
  cases ignoresCase with
  | false => exact ⟨rest, hr⟩
  | true =>
    refine ⟨foldList rest, ?_⟩
    simp only [key, if_true, ← foldList_append, hr]

/-- What continues a token continues whatever the token starts with, -/
theorem continues_of_start {ignoresCase : Bool} {typed longer word : String}
    (start : typed.toList <+: longer.toList) (h : continues ignoresCase longer word = true) :
    continues ignoresCase typed word = true := by
  have keys : key ignoresCase typed <+: key ignoresCase longer := key_prefix start
  rw [continues_iff] at h ⊢
  exact keys.trans h

/-- and so does a word that matches the token. -/
theorem continues_of_sameWord {ignoresCase : Bool} {typed token word : String}
    (h : typed.toList <+: token.toList) (same : sameWord ignoresCase token word = true) :
    continues ignoresCase typed word = true := by
  rw [sameWord, beq_iff_eq] at same
  have whole : key ignoresCase token <+: key ignoresCase word := same ▸ List.prefix_refl _
  exact continues_of_start h (continues_iff.2 whole)

end Text

theorem Literal.parse_text (l : Literal) : l.parse [l.text] = .accept (.str l.text) [] := by
  simp [Literal.parse, accepts, Text.sameWord_self]

theorem Choice.find?_some {c : Choice} {token choice : String} (h : c.find? token = some choice) :
    choice ∈ c.choices ∧ Text.sameWord c.ignoresCase choice token = true := by
  rw [Choice.find?] at h
  have matched := List.find?_some h
  exact ⟨List.mem_of_find?_eq_some h, matched⟩

theorem Choice.find?_isSome {c : Choice} {choice : String} (h : choice ∈ c.choices) :
    (c.find? choice).isSome = true := by
  rw [Choice.find?, List.find?_isSome]
  exact ⟨choice, h, Text.sameWord_self _ _⟩

/-- The two words for truth values. -/
def truthWord (b : Bool) : String := if b then "true" else "false"

theorem truthValue?_truthWord (b : Bool) : truthValue? (truthWord b) = some b := by
  cases b <;> decide

theorem sameWord_of_truthValue? {token : String} {b : Bool} (h : truthValue? token = some b) :
    Text.sameWord true token (truthWord b) = true := by
  unfold truthValue? at h
  split at h
  · cases h
    assumption
  · split at h
    · cases h
      assumption
    · cases h

namespace IntegerType

variable {t : IntegerType} {n : Int}

theorem mem_range : n ∈ t.range ↔ t.least.number ≤ n ∧ n ≤ t.greatest.number := by
  simp only [range, List.mem_map, List.mem_range]
  constructor
  · rintro ⟨i, hi, rfl⟩
    omega
  · rintro ⟨low, high⟩
    exact ⟨(n - t.least.number).toNat, by omega, by omega⟩

/-- The size of a number is looked at before the check. -/
theorem refusal_int (t : IntegerType) (n : Int) :
    t.refusal (.int n) =
      if n < t.least.number then
        .ok (some s!"Integer {n} is less than the minimum value {t.least.number}")
      else if t.greatest.number < n then
        .ok (some s!"Integer {n} is greater than the maximum value {t.greatest.number}")
      else do
        if ← Check.passes t.check (.int n) then return none
        return some (← t.error.render (.int n)) := by
  have low := Value.less_of_int? (v := .int n) rfl t.least.int?_form
  have high := Value.less_of_int? (w := .int n) t.greatest.int?_form rfl
  have number : Place.truncated (.int n) = .ok n := rfl
  unfold refusal
  rw [low, high, number]
  by_cases less : n < t.least.number
  · simp [less, bind, Except.bind, pure, Except.pure]
  by_cases greater : t.greatest.number < n
  · simp [less, greater, bind, Except.bind, pure, Except.pure]
  · simp [less, greater, bind, Except.bind]

/-- A number that passes the check is refused only for its size, and never without a word. -/
theorem refusal_of_passes (passes : Check.passes t.check (.int n) = .ok true) :
    (t.refusal (.int n) = .ok none ∧ n ∈ t.range) ∨
      ∃ message, t.refusal (.int n) = .ok (some message) ∧ message.isEmpty = false := by
  rw [refusal_int, passes, mem_range]
  by_cases less : n < t.least.number
  · exact Or.inr ⟨_, by rw [if_pos less], by simp [toString]⟩
  by_cases greater : t.greatest.number < n
  · exact Or.inr ⟨_, by rw [if_neg less, if_pos greater], by simp [toString]⟩
  · exact Or.inl ⟨by rw [if_neg less, if_neg greater]; rfl, by omega⟩

theorem parse_numeral (inRange : n ∈ t.range) (passes : Check.passes t.check (.int n) = .ok true) :
    t.parse [toString n] = .accept (.int n) [] := by
  have bounds := mem_range.1 inRange
  have least : leastInt ≤ n := Int.le_trans t.leastInt_le bounds.1
  have greatest : n ≤ greatestInt := Int.le_trans bounds.2 t.le_greatestInt
  have digits := Numeral.length_digits_ofInt least greatest
  have significant := Numeral.length_significant_le (Numeral.ofInt n)
  have accepted : t.refusal (.int n) = .ok none := by
    obtain ⟨h, -⟩ | ⟨message, h, -⟩ := refusal_of_passes passes
    · exact h
    · rw [refusal_int, if_neg (by omega), if_neg (by omega), passes] at h
      cases h
  have few : ¬ 10 < (Numeral.ofInt n).significant.length := by omega
  have short : ¬ greatestDigitCount < (Numeral.ofInt n).digits.length := by
    unfold greatestDigitCount
    omega
  have fit : (!fits n) = false := by simp [fits, least, greatest]
  simp only [parse, Numeral.whole?_toString, if_neg few, if_neg short, Numeral.value_ofInt, fit,
    Bool.false_eq_true, if_false, accepted]

/-- A numeral is not read unless its number is in the range, since no size is refused silently. -/
theorem mem_range_of_parse (passes : Check.passes t.check (.int n) = .ok true) {value : Value}
    (read : t.parse [toString n] = .accept value []) : n ∈ t.range := by
  obtain ⟨-, inRange⟩ | ⟨message, refused, worded⟩ := refusal_of_passes passes
  · exact inRange
  · have left : (t.parse [toString n]).rest = [toString n] := by
      simp only [parse, Numeral.whole?_toString, Numeral.value_ofInt, refused, worded,
        Bool.false_eq_true, if_false]
      repeat' split
      all_goals rfl
    rw [read] at left
    cases left

theorem offerAmong_error_iff {typed : String} {ns : List Int} :
    (t.offerAmong (.str typed) ns).error = none ↔
      ∀ n ∈ ns, ∀ e, Check.passes t.check (.int n) ≠ .error e := by
  induction ns with
  | nil => simp [offerAmong, Offer.nothing]
  | cons n more ih =>
    rw [List.forall_mem_cons, ← ih, offerAmong]
    cases h : Check.passes t.check (.int n) with
    | error e => simp [Offer.raise]
    | ok passes =>
      cases passes with
      | false => simp
      | true =>
        cases Text.continues false typed (toString n) <;> simp [Offer.push]

theorem mem_offerAmong {typed text : String} {ns : List Int}
    (calm : (t.offerAmong (.str typed) ns).error = none) :
    text ∈ (t.offerAmong (.str typed) ns).texts ↔
      ∃ n ∈ ns, Check.passes t.check (.int n) = .ok true ∧
        Text.continues false typed (toString n) = true ∧ toString n = text := by
  induction ns with
  | nil => simp [offerAmong, Offer.nothing]
  | cons n more ih =>
    have calmly := (List.forall_mem_cons.1 (offerAmong_error_iff.1 calm)).2
    simp only [List.mem_cons, or_and_right, exists_or, exists_eq_left,
      ← ih (offerAmong_error_iff.2 calmly), offerAmong]
    cases h : Check.passes t.check (.int n) with
    | error e => simp [offerAmong, h, Offer.raise] at calm
    | ok passes =>
      cases passes with
      | false => simp
      | true =>
        cases Text.continues false typed (toString n) <;> simp [Offer.push, eq_comm]

end IntegerType

namespace TokenType

variable {t : TokenType} {c : Context} {typed : String}

/-- Where a type offers numbers one by one, its check raises no error on any of them. -/
def OffersCalmly : TokenType → Prop
  | integer t => t.suggests = true → ∀ n ∈ t.range, ∀ e, Check.passes t.check (.int n) ≠ .error e
  | _ => True

theorem offer_error_iff (builtIn : t.IsBuiltIn) (h : c.typed = .str typed) :
    (t.offer c).error = none ↔ t.OffersCalmly := by
  cases t with
  | custom => exact builtIn.elim
  | integer t =>
    simp only [offer, IntegerType.offer, OffersCalmly, h]
    cases t.suggests with
    | false => simp [Offer.nothing]
    | true => simp only [if_true, IntegerType.offerAmong_error_iff, true_implies]
  | literal | choice | truthValue =>
    simp [offer, OffersCalmly, Literal.offer, Choice.offer, offerTruthValues, h,
      Offer.continuations, Offer.ofTexts]
  | decimal | word | phrase | rest => simp [offer, OffersCalmly, Offer.nothing]

/-- Which of the numbers, or of the words, a type offers. -/
theorem mem_offer_integer {t : IntegerType} {text : String} (h : c.typed = .str typed)
    (calm : ((integer t).offer c).error = none) :
    text ∈ ((integer t).offer c).texts ↔
      t.suggests = true ∧ ∃ n ∈ t.range, Check.passes t.check (.int n) = .ok true ∧
        Text.continues false typed (toString n) = true ∧ toString n = text := by
  simp only [offer, IntegerType.offer, h] at calm ⊢
  cases hs : t.suggests with
  | false => simp [Offer.nothing]
  | true =>
    simp only [hs, if_true] at calm
    simp [IntegerType.mem_offerAmong calm]

theorem mem_continuations {ignoresCase : Bool} {candidates : List String} {text : String} :
    text ∈ (Offer.continuations ignoresCase candidates (.str typed)).texts ↔
      text ∈ candidates ∧ Text.continues ignoresCase typed text = true := by
  simp [Offer.continuations, Offer.ofTexts, Text.continuations]

/-- **What is offered is read.** -/
theorem parse_of_offered (builtIn : t.IsBuiltIn) (h : c.typed = .str typed)
    (calm : (t.offer c).error = none) {text : String} (offered : text ∈ (t.offer c).texts) :
    ∃ value, t.parse [text] = .accept value [] := by
  cases t with
  | custom => exact builtIn.elim
  | decimal | word | phrase | rest => cases offered
  | literal l =>
    simp only [offer, Literal.offer, h, mem_continuations, List.mem_singleton] at offered
    obtain ⟨rfl, -⟩ := offered
    exact ⟨_, l.parse_text⟩
  | choice c =>
    simp only [offer, Choice.offer, h, mem_continuations] at offered
    obtain ⟨choice, found⟩ := Option.isSome_iff_exists.1 (Choice.find?_isSome offered.1)
    exact ⟨.str choice, by simp [parse, Choice.parse, found]⟩
  | truthValue =>
    simp only [offer, offerTruthValues, h, mem_continuations] at offered
    obtain ⟨b, rfl⟩ : ∃ b, text = truthWord b := by
      simpa [truthWord, or_comm] using offered.1
    exact ⟨.bool b, by simp [parse, parseTruthValue, truthValue?_truthWord]⟩
  | integer t =>
    rw [mem_offer_integer h calm] at offered
    obtain ⟨-, n, inRange, passes, -, rfl⟩ := offered
    exact ⟨.int n, IntegerType.parse_numeral inRange passes⟩

/-- The spelling of a value that a type has read from a token. An integer type has one only for a
number that it would offer, typed as it is offered. -/
inductive Spells (token : String) : TokenType → Value → String → Prop where
  | literal (l : Literal) : Spells token (.literal l) (.str l.text) l.text
  | choice (c : Choice) (choice : String) : Spells token (.choice c) (.str choice) choice
  | truthValue (b : Bool) : Spells token .truthValue (.bool b) (truthWord b)
  | integer (t : IntegerType) (n : Int) : t.suggests = true →
      Check.passes t.check (.int n) = .ok true → token = toString n →
      Spells token (.integer t) (.int n) (toString n)

/-- **What is read is offered** for everything that the token starts with. -/
theorem offered_of_parse {token text : String} {value : Value}
    (read : t.parse [token] = .accept value []) (spelled : Spells token t value text)
    (start : typed.toList <+: token.toList) (h : c.typed = .str typed)
    (calm : (t.offer c).error = none) : text ∈ (t.offer c).texts := by
  cases spelled with
  | literal l =>
    have same : l.accepts token = true := by
      cases hs : l.accepts token with
      | true => rfl
      | false => simp [parse, Literal.parse, hs, Attempt.accept, Attempt.reject] at read
    simp only [offer, Literal.offer, h, mem_continuations, List.mem_singleton, true_and]
    exact Text.continues_of_sameWord start same
  | choice c =>
    have found : c.find? token = some text := by
      cases hf : c.find? token with
      | none => simp [parse, Choice.parse, hf, Attempt.accept, Attempt.reject] at read
      | some other => simpa [parse, Choice.parse, hf, Attempt.accept] using read
    obtain ⟨mem, same⟩ := Choice.find?_some found
    simp only [offer, Choice.offer, h, mem_continuations]
    refine ⟨mem, Text.continues_of_sameWord start ?_⟩
    rw [Text.sameWord, beq_iff_eq] at same ⊢
    exact same.symm
  | truthValue b =>
    have found : truthValue? token = some b := by
      cases hf : truthValue? token with
      | none => simp [parse, parseTruthValue, hf, Attempt.accept, Attempt.reject] at read
      | some other => simpa [parse, parseTruthValue, hf, Attempt.accept] using read
    simp only [offer, offerTruthValues, h, mem_continuations]
    exact ⟨by cases b <;> simp [truthWord], Text.continues_of_sameWord start
      (sameWord_of_truthValue? found)⟩
  | integer t n suggests passes canonical =>
    subst canonical
    rw [mem_offer_integer h calm]
    refine ⟨suggests, n, IntegerType.mem_range_of_parse passes read, passes, ?_, rfl⟩
    exact Text.continues_of_sameWord start (Text.sameWord_self _ _)

end TokenType

end CommandTree
