import CommandTree.Text.Line
import CommandTree.TokenType.Phrase
import Mathlib.Data.List.DropRight

/-!
# Splitting lines

A line that is put together from texts falls into the words of these texts, so one put together
from words falls into just these (`tokens_joined`, `flatMap_tokens`). The token that is being typed
is what the line holds after its last blank (`typedTokens_eq`); another one in its place leaves the
tokens before it as they are (`tokens_finished_append`). A line of which at most one token has been
typed is blank but for that token (`completed_typed`).
-/

namespace CommandTree.Text

theorem isWord_iff {s : String} :
    isWord s = true ↔ s.toList ≠ [] ∧ ∀ c ∈ s.toList, isBlank c = false := by
  simp [isWord]

/-! ## Words -/

theorem extend_append {c : Char} {ends : Bool} {ws : List (List Char)}
    (h : ends = true ∨ ws ≠ []) (vs : List (List Char)) :
    extend c ends (ws ++ vs) = extend c ends ws ++ vs := by
  cases ws with
  | nil =>
    rcases h with rfl | h
    · cases vs <;> rfl
    · exact absurd rfl h
  | cons w more =>
    cases ends <;> rfl

theorem words_cons_of_blank {c : Char} (h : isBlank c = true) (cs : List Char) :
    words (c :: cs) = words cs := by
  rw [words, if_pos h]

theorem words_cons {c : Char} (h : isBlank c = false) (cs : List Char) :
    words (c :: cs) = extend c (cs.head?.all isBlank) (words cs) := by
  rw [words, h]
  rfl

theorem extend_ne_nil (c : Char) (ends : Bool) (ws : List (List Char)) :
    extend c ends ws ≠ [] := by
  cases ws <;> cases ends <;> simp [extend]

theorem words_eq_nil_iff {cs : List Char} : words cs = [] ↔ ∀ c ∈ cs, isBlank c = true := by
  induction cs with
  | nil => simp [words]
  | cons c cs ih =>
    cases h : isBlank c with
    | true => simp [words_cons_of_blank h, ih, h]
    | false => simp [words_cons h, extend_ne_nil, h]

/-- A blank ends the word before it. -/
theorem words_append_blank {b : Char} (hb : isBlank b = true) (cs ds : List Char) :
    words (cs ++ b :: ds) = words cs ++ words ds := by
  induction cs with
  | nil => exact words_cons_of_blank hb ds
  | cons c cs ih =>
    cases hc : isBlank c with
    | true => rw [List.cons_append, words_cons_of_blank hc, words_cons_of_blank hc, ih]
    | false =>
      have ends : (cs ++ b :: ds).head?.all isBlank = cs.head?.all isBlank := by
        cases cs <;> simp [hb]
      -- `c` is a word of its own, or there is one that it goes in front of
      have apart : cs.head?.all isBlank = true ∨ words cs ≠ [] := by
        cases cs with
        | nil => exact .inl rfl
        | cons d cs =>
          cases hd : isBlank d with
          | true => exact .inl (by simp [hd])
          | false => exact .inr (by rw [words_cons hd]; exact extend_ne_nil d _ _)
      rw [List.cons_append, words_cons hc, words_cons hc, ends, ih, extend_append apart]

theorem words_append_of_blank {bs : List Char} (h : ∀ b ∈ bs, isBlank b = true) (cs : List Char) :
    words (bs ++ cs) = words cs := by
  induction bs with
  | nil => rfl
  | cons b bs ih =>
    rw [List.forall_mem_cons] at h
    rw [List.cons_append, words_cons_of_blank h.1, ih h.2]

theorem words_of_no_blank {cs : List Char} (inked : cs ≠ []) (h : ∀ c ∈ cs, isBlank c = false) :
    words cs = [cs] := by
  induction cs with
  | nil => exact absurd rfl inked
  | cons c cs ih =>
    rw [List.forall_mem_cons] at h
    rw [words_cons h.1]
    cases cs with
    | nil => rfl
    | cons d cs =>
      have ends : ((d :: cs).head?.all isBlank) = false := by simp [h.2 d List.mem_cons_self]
      rw [ih (List.cons_ne_nil d cs) h.2, ends]
      rfl

/-! ## Tokens -/

theorem tokens_of_isWord {s : String} (h : isWord s = true) : tokens s = [s] := by
  obtain ⟨inked, unbroken⟩ := isWord_iff.1 h
  rw [tokens, words_of_no_blank inked unbroken]
  simp

theorem tokens_eq_nil_iff {s : String} : tokens s = [] ↔ ∀ c ∈ s.toList, isBlank c = true := by
  rw [tokens, List.map_eq_nil_iff, words_eq_nil_iff]

theorem isWord_of_mem_tokens {s t : String} (h : t ∈ tokens s) : isWord t = true := by
  obtain ⟨w, hw, rfl⟩ := List.mem_map.1 h
  rw [isWord_iff, String.toList_ofList]
  exact isWord_of_mem_words hw

theorem flatMap_tokens {ss : List String} (h : ∀ s ∈ ss, isWord s = true) :
    ss.flatMap tokens = ss := by
  induction ss with
  | nil => rfl
  | cons s ss ih =>
    rw [List.forall_mem_cons] at h
    rw [List.flatMap_cons, tokens_of_isWord h.1, ih h.2]
    rfl

/-- Joined texts fall into the words of each. -/
theorem tokens_joined (ss : List String) : tokens (joined ss) = ss.flatMap tokens := by
  have blank : isBlank ' ' = true := by decide
  have each : words ([' '].intercalate (ss.map String.toList)) =
      (ss.map String.toList).flatMap words := by
    generalize ss.map String.toList = css
    induction css with
    | nil => rfl
    | cons cs css ih =>
      cases css with
      | nil => simp
      | cons ds css =>
        rw [List.intercalate_cons_cons, List.append_assoc, List.singleton_append,
          words_append_blank blank, ih]
        rfl
  rw [tokens, joined, String.toList_intercalate]
  have sep : " ".toList = [' '] := rfl
  rw [sep, each, List.flatMap_map, List.map_flatMap]
  rfl

/-! ## The token being typed -/

/-- The longest end of a line without a blank. -/
structure IsUnbrokenEnd (line s : String) : Prop where
  suffix : s.toList <:+ line.toList
  unbroken : ∀ c ∈ s.toList, isBlank c = false
  longest : ∀ t : String, t.toList <:+ line.toList → (∀ c ∈ t.toList, isBlank c = false) →
    t.toList <:+ s.toList

/-- The end of a line that a token is being typed at. -/
def unfinished (line : String) : String :=
  String.ofList (line.toList.rtakeWhile fun c => !isBlank c)

/-- The line without the token being typed. -/
def finished (line : String) : String :=
  String.ofList (line.toList.rdropWhile fun c => !isBlank c)

theorem finished_append_unfinished (line : String) : finished line ++ unfinished line = line := by
  rw [← String.toList_inj, String.toList_append, finished, unfinished, String.toList_ofList,
    String.toList_ofList, List.rdropWhile_append_rtakeWhile]

theorem isUnbrokenEnd_unfinished (line : String) : IsUnbrokenEnd line (unfinished line) := by
  constructor
  case suffix =>
    rw [unfinished, String.toList_ofList]
    exact List.rtakeWhile_suffix ..
  case unbroken =>
    intro c mem
    rw [unfinished, String.toList_ofList] at mem
    simpa using List.mem_rtakeWhile_imp mem
  case longest =>
    rintro t ⟨before, split⟩ unbroken
    have all : ∀ c ∈ t.toList.reverse, (!isBlank c) = true := by simpa using unbroken
    rw [unfinished, String.toList_ofList, ← split, List.rtakeWhile, List.reverse_append,
      List.takeWhile_append_of_pos all, List.reverse_append, List.reverse_reverse]
    exact List.suffix_append _ _

/-- What is finished of a line is nothing, or ends in a blank. -/
theorem finished_closed (line : String) :
    (finished line).toList = [] ∨
      ∃ cs b, (finished line).toList = cs ++ [b] ∧ isBlank b = true := by
  rw [finished, String.toList_ofList]
  by_cases nothing : line.toList.rdropWhile (fun c => !isBlank c) = []
  · exact .inl nothing
  · have last := List.rdropWhile_last_not (fun c => !isBlank c) line.toList nothing
    exact .inr ⟨_, _, (List.dropLast_append_getLast nothing).symm, by simpa using last⟩

theorem tokens_finished_append (line s : String) :
    tokens (finished line ++ s) = tokens (finished line) ++ tokens s := by
  have split : words (finished line ++ s).toList =
      words (finished line).toList ++ words s.toList := by
    rw [String.toList_append]
    obtain nothing | ⟨cs, b, closed, blank⟩ := finished_closed line
    · rw [nothing]
      rfl
    · rw [closed, List.append_assoc, List.singleton_append, words_append_blank blank,
        words_append_blank blank]
      simp [words]
  rw [tokens, split, List.map_append]
  rfl

theorem endsOpen_iff {line : String} : endsOpen line = true ↔ unfinished line = "" := by
  rw [← String.toList_inj, unfinished, String.toList_ofList, String.toList_empty,
    List.rtakeWhile_eq_nil_iff, endsOpen]
  by_cases empty : line.toList = []
  · simp [empty]
  · simp [empty, List.getLast?_eq_some_getLast empty]

/-- The tokens of a line being typed are those of what is finished and the one being typed. -/
theorem typedTokens_eq (line : String) :
    typedTokens line = tokens (finished line) ++ [unfinished line] := by
  have split := tokens_finished_append line (unfinished line)
  rw [finished_append_unfinished] at split
  rw [typedTokens, split, List.append_assoc]
  cases ends : endsOpen line with
  | true =>
    rw [endsOpen_iff.1 ends]
    rfl
  | false =>
    have inked : (unfinished line).toList ≠ [] := by
      intro nothing
      have opened := endsOpen_iff.2 (String.toList_inj.1 nothing)
      cases opened.symm.trans ends
    rw [tokens_of_isWord (isWord_iff.2 ⟨inked, (isUnbrokenEnd_unfinished line).unbroken⟩)]
    rfl

/-! ## Lines of one token -/

/-- The line with a token put in the place of the one that has been typed. -/
def completed (line token : String) : String :=
  String.ofList (line.toList.takeWhile isBlank) ++ token

theorem tokens_completed (line : String) {token : String} (h : isWord token = true) :
    tokens (completed line token) = [token] := by
  have lead : ∀ b ∈ line.toList.takeWhile isBlank, isBlank b = true :=
    fun b mem => List.mem_takeWhile_imp mem
  rw [tokens, completed, String.toList_append, String.toList_ofList, words_append_of_blank lead]
  exact tokens_of_isWord h

/-- A line of which at most one token has been typed holds nothing besides that token. -/
theorem completed_typed {line : String} (h : (typedTokens line).length ≤ 1) :
    completed line (String.join (typedTokens line)) = line := by
  have none : tokens (finished line) = [] := by
    rw [typedTokens_eq] at h
    exact List.eq_nil_of_length_eq_zero (by simpa using h)
  have blank : ∀ c ∈ (finished line).toList, isBlank c = true := tokens_eq_nil_iff.1 none
  have unbroken : (unfinished line).toList.takeWhile isBlank = [] := by
    rw [List.takeWhile_eq_nil_iff]
    intro inked
    rw [(isUnbrokenEnd_unfinished line).unbroken _ (List.get_mem _ _)]
    exact Bool.false_ne_true
  have lead : line.toList.takeWhile isBlank = (finished line).toList := by
    conv_lhs => rw [← finished_append_unfinished line]
    rw [String.toList_append, List.takeWhile_append_of_pos blank, unbroken, List.append_nil]
  have typed : String.join (typedTokens line) = unfinished line := by
    rw [typedTokens_eq, none]
    simp
  rw [completed, lead, String.ofList_toList, typed, finished_append_unfinished]

end CommandTree.Text
