import CommandTree.Proofs.Spelling
import CommandTree.Proofs.Verdicts
import Mathlib.Data.List.Nodup
import Mathlib.Data.List.Perm.Basic
import Mathlib.Data.Set.List

/-!
# Choosing

A choice reads a token as the word that the token matches, and no token matches two of its words
(`Choice.eq_of_matches`), since what words are told apart by when they are declared is what tokens
are compared by. So the order in which the words are tried decides nothing
(`choices_are_unambiguous`).
-/

namespace CommandTree

namespace Text

/-- Two words match: they are equal, or their case folds are where case is ignored. -/
def Matches (ignoresCase : Bool) (s t : String) : Prop :=
  s = t ∨ ignoresCase = true ∧ fold s = fold t

theorem sameWord_iff_matches {ignoresCase : Bool} {s t : String} :
    sameWord ignoresCase s t = true ↔ Matches ignoresCase s t := by
  rw [sameWord, beq_iff_eq, Matches]
  cases ignoresCase with
  | false => simp [String.toList_inj]
  | true =>
    simp only [key, fold, if_true, String.ofList_inj, true_and]
    exact ⟨Or.inr, fun h => h.elim (fun same => by rw [same]) id⟩

end Text

namespace Choice

variable {c : Choice} {token choice : String}

/-- The first words of a choice make a choice of their own. -/
def front (c : Choice) (n : Nat) : Choice :=
  ⟨c.choices.take n, c.ignoresCase, fun w mem => c.words w (List.mem_of_mem_take mem),
    c.distinct.sublist ((List.take_sublist n c.choices).map _)⟩

theorem eq_of_choices {c d : Choice} (choices : c.choices = d.choices)
    (ignoresCase : c.ignoresCase = d.ignoresCase) : c = d := by
  obtain ⟨_, _, _, _⟩ := c
  obtain ⟨_, _, _, _⟩ := d
  cases choices
  cases ignoresCase
  rfl

/-! ## Declaring -/

theorem add_ok_iff {c d : Choice} {value : Value} :
    c.add value = .ok d ↔
      ∃ s, value = .str s ∧ d.choices = c.choices ++ [s] ∧ d.ignoresCase = c.ignoresCase := by
  constructor
  · intro added
    unfold add at added
    split at added
    case h_2 => cases added
    case h_1 s =>
      repeat' split at added
      all_goals cases added
      exact ⟨s, rfl, rfl, rfl⟩
  · rintro ⟨s, rfl, choices, ignoresCase⟩
    have word : Text.isWord s = true := d.words s (by simp [choices])
    have apart : Text.key c.ignoresCase s ∉ c.choices.map (Text.key c.ignoresCase) := by
      have distinct := d.distinct
      rw [choices, ignoresCase, List.map_append, List.nodup_append] at distinct
      intro mem
      exact distinct.2.2 _ mem _ (List.mem_singleton_self _) rfl
    simp only [add, word, apart, dif_pos, dif_neg, not_false_eq_true, Except.ok.injEq]
    exact eq_of_choices choices.symm ignoresCase.symm

theorem foldlM_add_ok_iff {c d : Choice} {given : List Value} :
    given.foldlM add c = .ok d ↔
      ∃ ss, given = Value.strings ss ∧ d.choices = c.choices ++ ss ∧
        d.ignoresCase = c.ignoresCase := by
  induction given generalizing c with
  | nil =>
    constructor
    · rintro ⟨⟩
      exact ⟨[], rfl, (List.append_nil _).symm, rfl⟩
    · rintro ⟨ss, none, choices, ignoresCase⟩
      obtain rfl : ss = [] := List.map_eq_nil_iff.1 none.symm
      rw [List.append_nil] at choices
      exact congrArg Except.ok (eq_of_choices choices.symm ignoresCase.symm)
  | cons value more ih =>
    rw [List.foldlM_cons, Except.bind_eq_ok_iff]
    constructor
    · rintro ⟨b, added, rest⟩
      obtain ⟨s, rfl, choices, ignoresCase⟩ := add_ok_iff.1 added
      obtain ⟨ss, rfl, choices', ignoresCase'⟩ := ih.1 rest
      exact ⟨s :: ss, rfl, by simp [choices', choices], ignoresCase'.trans ignoresCase⟩
    · rintro ⟨ss, given, choices, ignoresCase⟩
      obtain ⟨s, ss, rfl⟩ : ∃ s more, ss = s :: more := by
        cases ss with
        | nil => cases given
        | cons s ss => exact ⟨s, ss, rfl⟩
      obtain ⟨rfl, rfl⟩ := List.cons.inj given
      let b := d.front (c.choices.length + 1)
      have first : b.choices = c.choices ++ [s] := by
        simp [b, front, choices, List.take_append, List.take_of_length_le]
      refine ⟨b, add_ok_iff.2 ⟨s, rfl, first, ignoresCase⟩, ih.2 ⟨ss, rfl, ?_, rfl⟩⟩
      rw [first, choices, List.append_assoc, List.singleton_append]

/-- A choice is declared from its words, and there has to be one. -/
theorem declare_ok_iff {given : List Value} {ignoresCase : Value} :
    declare given ignoresCase = .ok c ↔
      given ≠ [] ∧ given = Value.strings c.choices ∧ c.ignoresCase = ignoresCase.isTrue := by
  cases given with
  | nil => simp [declare]
  | cons value more =>
    rw [declare, List.isEmpty_cons, if_neg Bool.false_ne_true, foldlM_add_ok_iff]
    constructor
    · rintro ⟨ss, same, choices, ignoresCase⟩
      obtain rfl : c.choices = ss := choices
      exact ⟨nofun, same, ignoresCase⟩
    · rintro ⟨-, same, ignoresCase⟩
      exact ⟨c.choices, same, rfl, ignoresCase⟩

/-- The same words in another order are a choice as well. -/
theorem declare_perm {given given' : List Value} {ignoresCase : Value}
    (declared : declare given ignoresCase = .ok c) (perm : given'.Perm given) :
    ∃ d, declare given' ignoresCase = .ok d ∧ d.choices.Perm c.choices ∧
      d.ignoresCase = c.ignoresCase := by
  obtain ⟨some, rfl, ignores⟩ := declare_ok_iff.1 declared
  have strings : given' ∈ Set.range (List.map Value.str) := by
    rw [Set.range_list_map]
    intro v mem
    obtain ⟨s, -, same⟩ := List.mem_map.1 (perm.mem_iff.1 mem)
    exact ⟨s, same⟩
  obtain ⟨words, rfl⟩ := strings
  have shuffled : words.Perm c.choices :=
    (List.map_perm_map_iff fun _ _ same => Value.str.inj same).1 perm
  let d : Choice := ⟨words, c.ignoresCase, fun w mem => c.words w (shuffled.mem_iff.1 mem),
    (shuffled.map _).nodup_iff.2 c.distinct⟩
  have some' : words.map Value.str ≠ [] := fun none => some (List.perm_nil.1 (none ▸ perm.symm))
  exact ⟨d, declare_ok_iff.2 ⟨some', rfl, ignores⟩, shuffled, rfl⟩

/-! ## Reading -/

/-- No two words of a choice match the same token. -/
theorem eq_of_matches {v w : String} (hv : v ∈ c.choices) (hw : w ∈ c.choices)
    (h : Text.Matches c.ignoresCase v token) (h' : Text.Matches c.ignoresCase w token) : v = w := by
  rw [← Text.sameWord_iff_matches, Text.sameWord, beq_iff_eq] at h h'
  exact List.inj_on_of_nodup_map c.distinct hv hw (h.trans h'.symm)

theorem find?_eq_some_iff :
    c.find? token = some choice ↔ choice ∈ c.choices ∧ Text.Matches c.ignoresCase choice token := by
  constructor
  · intro found
    obtain ⟨mem, same⟩ := find?_some found
    exact ⟨mem, Text.sameWord_iff_matches.1 same⟩
  · rintro ⟨mem, same⟩
    cases found : c.find? token with
    | none =>
      have none := List.find?_eq_none.1 found choice mem
      exact absurd (Text.sameWord_iff_matches.2 same) none
    | some other =>
      obtain ⟨mem', same'⟩ := find?_some found
      rw [eq_of_matches mem' mem (Text.sameWord_iff_matches.1 same') same]

/-- Which word a token is read as does not depend on the order of the words. -/
theorem find?_perm {d : Choice} (perm : d.choices.Perm c.choices)
    (ignoresCase : d.ignoresCase = c.ignoresCase) (token : String) :
    d.find? token = c.find? token := by
  refine Option.ext fun choice => ?_
  rw [find?_eq_some_iff, find?_eq_some_iff, perm.mem_iff, ignoresCase]

theorem parse_perm {d : Choice} (perm : d.choices.Perm c.choices)
    (ignoresCase : d.ignoresCase = c.ignoresCase) (tokens : List String) :
    d.parse tokens = c.parse tokens := by
  cases tokens with
  | nil => rfl
  | cons token left => rw [parse, parse, find?_perm perm ignoresCase]

theorem parse_cons_ok_iff {left : List String} {value : Value} :
    (c.parse (token :: left)).answer = .ok (.ok value) ↔
      ∃ choice, value = .str choice ∧ c.find? token = some choice := by
  rw [parse]
  cases c.find? token with
  | none => simp [Attempt.reject]
  | some choice => simp [Attempt.accept, eq_comm]

/-- **Choices are unambiguous.** A choice that is declared reads a token as one of its words exactly
if the token is this word, or has the same case fold where case is ignored. At most one of the words
stands for a token, so the words can be declared in any order and read the same tokens, with the
same results. Every word stands for itself. -/
theorem choices_are_unambiguous (given : List Value) (ignoresCase : Value) (c : Choice)
    (declared : declare given ignoresCase = .ok c) :
    let stands (v : Value) (token : String) :=
      ∃ word, v = .str word ∧ Text.Matches ignoresCase.isTrue word token
    (∀ token left value, (c.parse (token :: left)).answer = .ok (.ok value) ↔
      value ∈ given ∧ stands value token) ∧
    (∀ token, given.Pairwise fun v w => ¬ (stands v token ∧ stands w token)) ∧
    (∀ given', given'.Perm given → ∃ d, declare given' ignoresCase = .ok d ∧
      ∀ tokens, d.parse tokens = c.parse tokens) ∧
    ∀ word, .str word ∈ given → ∀ left, c.parse (word :: left) = .accept (.str word) left := by
  intro stands
  obtain ⟨-, rfl, ignores⟩ := declare_ok_iff.1 declared
  refine ⟨?reads, ?single, ?shuffled, ?itself⟩
  case reads =>
    intro token left value
    rw [parse_cons_ok_iff]
    constructor
    · rintro ⟨word, rfl, found⟩
      obtain ⟨mem, same⟩ := find?_eq_some_iff.1 found
      exact ⟨List.mem_map_of_mem mem, word, rfl, ignores ▸ same⟩
    · rintro ⟨mem, word, rfl, same⟩
      exact ⟨word, rfl, find?_eq_some_iff.2 ⟨by simpa [Value.strings] using mem, ignores ▸ same⟩⟩
  case single =>
    intro token
    rw [Value.strings, List.pairwise_map]
    have distinct : c.choices.Nodup := c.distinct.of_map _
    refine distinct.imp_of_mem fun {v w} hv hw different => ?_
    rintro ⟨⟨_, ⟨⟩, matched⟩, ⟨_, ⟨⟩, matched'⟩⟩
    exact different (eq_of_matches hv hw (ignores ▸ matched) (ignores ▸ matched'))
  case shuffled =>
    intro given' perm
    obtain ⟨d, declared', shuffled, same⟩ := declare_perm declared perm
    exact ⟨d, declared', parse_perm shuffled same⟩
  case itself =>
    intro word mem left
    have own : c.find? word = some word :=
      find?_eq_some_iff.2 ⟨by simpa [Value.strings] using mem, Or.inl rfl⟩
    rw [parse, own]

/-- A street is told from a square by its name, also in capitals, where it is a letter longer. -/
theorem street_is_chosen : ∃ c, declare [.str "Platz", .str "Straße"] (.bool true) = .ok c ∧
    (c.parse ["STRASSE", "links"]).answer = .ok (.ok (.str "Straße")) ∧
    ∃ d, declare [.str "Straße", .str "Platz"] (.bool true) = .ok d ∧
      d.parse ["STRASSE", "links"] = c.parse ["STRASSE", "links"] := by
  let c : Choice := ⟨["Platz", "Straße"], true, by decide +kernel, by decide +kernel⟩
  have declared : declare [.str "Platz", .str "Straße"] (.bool true) = .ok c :=
    declare_ok_iff.2 ⟨nofun, rfl, rfl⟩
  obtain ⟨reads, -, shuffled, -⟩ := choices_are_unambiguous _ _ c declared
  have folded : Text.fold "Straße" = Text.fold "STRASSE" := by decide +kernel
  obtain ⟨d, declared', same⟩ := shuffled [.str "Straße", .str "Platz"] (.swap _ _ _)
  exact ⟨c, declared, (reads _ _ _).2 ⟨by simp, "Straße", rfl, Or.inr ⟨rfl, folded⟩⟩, d, declared',
    same _⟩

end Choice

end CommandTree
