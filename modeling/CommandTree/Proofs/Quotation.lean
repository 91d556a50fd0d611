import CommandTree.Proofs.Splitting
import CommandTree.TokenType
import Mathlib.Data.List.Basic

/-!
# Quoted texts in lines

A text between double quotation marks is read back from a line as it was, and the tokens after it
are left (`quoted_texts_are_read_back`). A text is its first word and others with a space in front
of each (`exists_spaced`). The marks go to the first and the last of them (`words_inMarks`); those
in between are tokens of the line since no two spaces meet, and none but the last closes the phrase
since no mark stands before a space (`IsQuotable.within`).
-/

namespace CommandTree

namespace Text

/-- A text that can stand between quotation marks in a line: its only blanks are single spaces, and
none of them follows a quotation mark. -/
structure IsQuotable (cs : List Char) : Prop where
  blank_eq_space : ∀ c ∈ cs, isBlank c = true → c = ' '
  single : ¬ [' ', ' '] <:+: cs
  open_mark : ¬ [doubleMark, ' '] <:+: cs

/-- A text between quotation marks. -/
def inMarks (cs : List Char) : List Char := doubleMark :: cs ++ [doubleMark]

/-- Words with a space in front of each. -/
def spaced (ws : List (List Char)) : List Char := ws.flatMap fun w => ' ' :: w

theorem spaced_cons (w : List Char) (ws : List (List Char)) :
    spaced (w :: ws) = ' ' :: w ++ spaced ws := by
  simp [spaced]

theorem spaced_append (us ws : List (List Char)) : spaced (us ++ ws) = spaced us ++ spaced ws := by
  simp [spaced]

/-- Every text is a first word and others with a space in front of each, some of them empty. -/
theorem exists_spaced (cs : List Char) :
    ∃ first more, cs = first ++ spaced more ∧ ∀ w ∈ first :: more, ' ' ∉ w := by
  induction cs with
  | nil => exact ⟨[], [], rfl, by simp⟩
  | cons c cs ih =>
    obtain ⟨first, more, rfl, free⟩ := ih
    by_cases space : c = ' '
    · refine ⟨[], first :: more, ?_, ?_⟩
      · rw [space, spaced_cons]
        rfl
      · intro w mem
        rcases List.mem_cons.1 mem with rfl | mem
        · exact List.not_mem_nil
        · exact free w mem
    · refine ⟨c :: first, more, rfl, ?_⟩
      rw [List.forall_mem_cons] at free ⊢
      refine ⟨?_, free.2⟩
      intro mem
      rcases List.mem_cons.1 mem with same | mem
      · exact space same.symm
      · exact free.1 mem

theorem toList_joined_cons (s : String) (ss : List String) :
    (joined (s :: ss)).toList = s.toList ++ spaced (ss.map String.toList) := by
  have each (w : List Char) (ws : List (List Char)) :
      [' '].intercalate (w :: ws) = w ++ spaced ws := by
    induction ws generalizing w with
    | nil => simp [spaced]
    | cons v ws ih =>
      rw [List.intercalate_cons_cons, ih, spaced_cons]
      simp
  have space : " ".toList = [' '] := rfl
  rw [joined, String.toList_intercalate, List.map_cons, space, each]

/-! ## Words between marks -/

/-- The words of spaced texts are those of each. -/
theorem words_spaced (w : List Char) (ws : List (List Char)) :
    words (w ++ spaced ws) = words w ++ ws.flatMap words := by
  have blank : isBlank ' ' = true := by decide
  induction ws generalizing w with
  | nil => simp [spaced]
  | cons v ws ih =>
    have split : w ++ spaced (v :: ws) = w ++ ' ' :: (v ++ spaced ws) := by
      rw [spaced_cons]
      rfl
    rw [split, words_append_blank blank, ih, List.flatMap_cons]

theorem flatMap_words {ws : List (List Char)}
    (h : ∀ w ∈ ws, w ≠ [] ∧ ∀ c ∈ w, isBlank c = false) : ws.flatMap words = ws := by
  induction ws with
  | nil => rfl
  | cons w ws ih =>
    rw [List.forall_mem_cons] at h
    rw [List.flatMap_cons, words_of_no_blank h.1.1 h.1.2, ih h.2]
    rfl

/-- A word without blanks has none with a mark before or after it. -/
theorem marked_unbroken {w : List Char} (h : ∀ c ∈ w, isBlank c = false) :
    (∀ c ∈ doubleMark :: w, isBlank c = false) ∧ ∀ c ∈ w ++ [doubleMark], isBlank c = false := by
  have mark : isBlank doubleMark = false := by decide
  rw [List.forall_mem_cons, List.forall_mem_append, List.forall_mem_singleton]
  exact ⟨⟨mark, h⟩, h, mark⟩

/-- A single word stays one between the marks. -/
theorem words_inMarks_single {w : List Char} (h : ∀ c ∈ w, isBlank c = false) :
    words (inMarks w) = [inMarks w] := by
  have unbroken := (marked_unbroken (marked_unbroken h).1).2
  exact words_of_no_blank (List.cons_ne_nil _ _) unbroken

/-- The marks go to the first and the last of several words. -/
theorem words_inMarks {first last : List Char} {middle : List (List Char)}
    (whole : ∀ w ∈ first :: (middle ++ [last]), ∀ c ∈ w, isBlank c = false)
    (filled : ∀ w ∈ middle, w ≠ []) :
    words (inMarks (first ++ spaced (middle ++ [last]))) =
      (doubleMark :: first) :: (middle ++ [last ++ [doubleMark]]) := by
  rw [List.forall_mem_cons, List.forall_mem_append, List.forall_mem_singleton] at whole
  obtain ⟨wholeFirst, wholeMiddle, wholeLast⟩ := whole
  have opening : words (doubleMark :: first) = [doubleMark :: first] :=
    words_of_no_blank (List.cons_ne_nil _ _) (marked_unbroken wholeFirst).1
  have others : (middle ++ [last ++ [doubleMark]]).flatMap words =
      middle ++ [last ++ [doubleMark]] := by
    apply flatMap_words
    rw [List.forall_mem_append, List.forall_mem_singleton]
    refine ⟨?_, by simp, (marked_unbroken wholeLast).2⟩
    intro w mem
    exact ⟨filled w mem, wholeMiddle w mem⟩
  have split : inMarks (first ++ spaced (middle ++ [last])) =
      doubleMark :: first ++ spaced (middle ++ [last ++ [doubleMark]]) := by
    simp [inMarks, spaced]
  rw [split, words_spaced, opening, others]
  rfl

/-- The tokens of a quoted text before other words. -/
theorem tokens_quoted {text : String} {rest : List String} (h : ∀ s ∈ rest, isWord s = true) :
    tokens ("\"" ++ text ++ "\" " ++ joined rest) =
      (words (inMarks text.toList)).map String.ofList ++ rest := by
  have split : "\"" ++ text ++ "\" " ++ joined rest =
      joined [String.ofList (inMarks text.toList), joined rest] := by
    rw [← String.toList_inj, toList_joined_cons]
    simp [inMarks, spaced, doubleMark]
  have right : tokens (joined rest) = rest := by
    rw [tokens_joined, flatMap_tokens h]
  rw [split, tokens_joined, List.flatMap_cons, List.flatMap_cons, List.flatMap_nil, right,
    List.append_nil, tokens, String.toList_ofList]

end Text

/-! ## Where a phrase is closed -/

theorem closed?_mark (cs : List Char) : closed? (cs ++ [Text.doubleMark]) = some cs := by
  simp [closed?]

theorem ends_of_closed? {w : List Char} (h : closed? w ≠ none) :
    ∃ body, w = body ++ [Text.doubleMark] := by
  unfold closed? at h
  split at h
  case isTrue last => exact ⟨w.dropLast, (List.dropLast_append_getLast? _ last).symm⟩
  case isFalse => exact absurd rfl h

/-- A phrase is closed by the first token that ends in a mark. -/
theorem untilClosed?_marked {ws : List (List Char)} (h : ∀ w ∈ ws, closed? w = none)
    (last : List Char) (rest : List String) :
    untilClosed? (ws.map String.ofList ++ String.ofList (last ++ [Text.doubleMark]) :: rest) =
      some ((ws ++ [last]).map String.ofList, rest) := by
  induction ws with
  | nil => simp [untilClosed?, closed?_mark]
  | cons w ws ih =>
    rw [List.forall_mem_cons] at h
    have later := ih h.2
    simp only [List.map_cons, List.cons_append, untilClosed?, String.toList_ofList, h.1, later,
      Option.map_some]

theorem parsePhrase_single (w : List Char) (rest : List String) :
    parsePhrase (String.ofList (Text.inMarks w) :: rest) =
      .accept (.str (String.ofList w)) rest := by
  have filled : (String.ofList (Text.inMarks w)).isEmpty = false := by
    simp [Text.inMarks]
  have opens : opened? (String.ofList (Text.inMarks w)).toList = some (w ++ [Text.doubleMark]) := by
    simp [Text.inMarks, opened?]
  simp only [parsePhrase, filled, Bool.false_eq_true, if_false, opens, closed?_mark]

theorem parsePhrase_several {first last : List Char} {middle : List (List Char)}
    (opening : closed? first = none) (between : ∀ w ∈ middle, closed? w = none)
    (rest : List String) :
    parsePhrase (((Text.doubleMark :: first) :: (middle ++ [last ++ [Text.doubleMark]])).map
        String.ofList ++ rest) =
      .accept (.str (joined ((first :: (middle ++ [last])).map String.ofList))) rest := by
  have filled : (String.ofList (Text.doubleMark :: first)).isEmpty = false := by
    simp [String.ofList_eq_empty_iff]
  have opens : opened? (String.ofList (Text.doubleMark :: first)).toList = some first := by
    simp [opened?]
  have closes := untilClosed?_marked between last rest
  simp only [List.map_cons, List.map_append, List.map_nil, List.cons_append, List.append_assoc,
    List.nil_append] at closes ⊢
  simp only [parsePhrase, filled, Bool.false_eq_true, if_false, opens, opening, closes]

namespace Text.IsQuotable

variable {cs w : List Char}

theorem unbroken (h : IsQuotable cs) (free : ' ' ∉ w) (part : ∀ c ∈ w, c ∈ cs) :
    ∀ c ∈ w, isBlank c = false := by
  intro c mem
  cases blank : isBlank c with
  | false => rfl
  | true =>
    have space := h.blank_eq_space c (part c mem) blank
    rw [space] at mem
    exact absurd mem free

/-- A word that a space follows ends in no mark. -/
theorem closed?_eq_none {before after : List Char}
    (h : IsQuotable (before ++ w ++ ' ' :: after)) : closed? w = none := by
  by_contra closes
  obtain ⟨body, rfl⟩ := ends_of_closed? closes
  apply h.open_mark
  exact ⟨before ++ body, after, by simp⟩

/-- A word between two spaces is not empty. -/
theorem ne_nil {before after : List Char}
    (h : IsQuotable (before ++ ' ' :: w ++ ' ' :: after)) : w ≠ [] := by
  rintro rfl
  apply h.single
  exact ⟨before, after, by simp⟩

/-- Only the last of several words may end in a mark, and those in between are not empty. -/
theorem within {first last : List Char} {middle : List (List Char)}
    (h : IsQuotable (first ++ spaced (middle ++ [last]))) :
    closed? first = none ∧ ∀ w ∈ middle, w ≠ [] ∧ closed? w = none := by
  have spaceFirst (ws : List (List Char)) : ∃ after, spaced (ws ++ [last]) = ' ' :: after := by
    cases ws with
    | nil => exact ⟨_, spaced_cons last []⟩
    | cons w ws => exact ⟨_, spaced_cons w _⟩
  constructor
  · obtain ⟨after, split⟩ := spaceFirst middle
    have followed : IsQuotable ([] ++ first ++ ' ' :: after) := by
      rw [split] at h
      exact h
    exact followed.closed?_eq_none
  · intro w mem
    obtain ⟨us, vs, rfl⟩ := List.append_of_mem mem
    obtain ⟨after, split⟩ := spaceFirst vs
    have between : IsQuotable (first ++ spaced us ++ ' ' :: w ++ ' ' :: after) := by
      rw [List.append_assoc, List.cons_append, spaced_append, spaced_cons, split] at h
      simpa using h
    have followed : IsQuotable ((first ++ spaced us ++ [' ']) ++ w ++ ' ' :: after) := by
      simpa using between
    exact ⟨between.ne_nil, followed.closed?_eq_none⟩

end Text.IsQuotable

namespace TokenType

/-- **A quoted text is read back from a line.** A phrase in quotation marks at the start of a line
is the text between the marks, and all tokens after it are left. -/
theorem quoted_texts_are_read_back (text : String) (rest : List String)
    (quotable : Text.IsQuotable text.toList) (isWord : ∀ s ∈ rest, Text.isWord s = true) :
    phrase.parse (Text.tokens ("\"" ++ text ++ "\" " ++ joined rest)) =
      .accept (.str text) rest := by
  obtain ⟨first, more, split, free⟩ := Text.exists_spaced text.toList
  have whole : ∀ w ∈ first :: more, ∀ c ∈ w, Text.isBlank c = false := by
    intro w mem
    apply quotable.unbroken (free w mem)
    intro c inWord
    rw [split, List.mem_append, Text.spaced, List.mem_flatMap]
    rcases List.mem_cons.1 mem with rfl | mem
    · exact .inl inWord
    · exact .inr ⟨w, mem, List.mem_cons_of_mem _ inWord⟩
  rw [Text.tokens_quoted isWord, parse]
  rcases List.eq_nil_or_concat' more with rfl | ⟨middle, last, rfl⟩
  · have same : text.toList = first := by
      rw [split]
      exact List.append_nil first
    rw [same, Text.words_inMarks_single (whole first List.mem_cons_self), List.map_singleton,
      List.singleton_append, parsePhrase_single, ← same, String.ofList_toList]
  · rw [split] at quotable
    obtain ⟨opening, between⟩ := quotable.within
    have filled : ∀ w ∈ middle, w ≠ [] := fun w mem => (between w mem).1
    have unclosed : ∀ w ∈ middle, closed? w = none := fun w mem => (between w mem).2
    have same : joined ((first :: (middle ++ [last])).map String.ofList) = text := by
      rw [← String.toList_inj, List.map_cons, Text.toList_joined_cons, split]
      simp
    rw [split, Text.words_inMarks whole filled, parsePhrase_several opening unclosed, same]

/-- The opening mark stands alone here, and the closing one follows another mark. -/
theorem spaced_quotation_is_read_back :
    Text.IsQuotable " go \"now\"".toList ∧ (∀ s ∈ ["and", "then"], Text.isWord s = true) ∧
      phrase.parse (Text.tokens ("\"" ++ " go \"now\"" ++ "\" " ++ joined ["and", "then"])) =
        .accept (.str " go \"now\"") ["and", "then"] := by
  have quotable : Text.IsQuotable " go \"now\"".toList := by
    have chars : " go \"now\"".toList =
        [' ', 'g', 'o', ' ', Text.doubleMark, 'n', 'o', 'w', Text.doubleMark] := by
      rfl
    rw [chars]
    refine ⟨?_, by decide, by decide⟩
    intro c mem blank
    have blanks : [' ', 'g', 'o', ' ', Text.doubleMark, 'n', 'o', 'w', Text.doubleMark].filter
        Text.isBlank = [' ', ' '] := by rfl
    have among := List.mem_filter.2 ⟨mem, blank⟩
    rw [blanks] at among
    simpa using among
  have words : ∀ s ∈ ["and", "then"], Text.isWord s = true := by decide
  exact ⟨quotable, words, quoted_texts_are_read_back " go \"now\"" ["and", "then"] quotable words⟩

end TokenType

end CommandTree
