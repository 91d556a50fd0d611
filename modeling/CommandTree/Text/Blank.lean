/-!
# Blank characters and words

A blank character separates words: the ASCII controls from tab to carriage return and from file
separator to unit separator, the space, and the spaces and line separators of Unicode. A word is a
non-empty text without blanks.
-/

namespace CommandTree.Text

/-- Blank characters are what separates the words of a line. -/
def isBlank (c : Char) : Bool :=
  let n := c.toNat
  (9 ≤ n && n ≤ 13) || (28 ≤ n && n ≤ 32) || n == 0x85 || n == 0xA0 || n == 0x1680 ||
    (0x2000 ≤ n && n ≤ 0x200A) || n == 0x2028 || n == 0x2029 || n == 0x202F || n == 0x205F ||
    n == 0x3000

/-- A single non-empty word. -/
def isWord (s : String) : Bool :=
  !s.toList.isEmpty && !s.toList.any isBlank

/-- A text that holds something besides blanks. -/
def hasInk (s : String) : Bool :=
  s.toList.any fun c => !isBlank c

/-- Puts a character in front of the first word, or makes it a word of its own if it ends there. -/
def extend (c : Char) (ends : Bool) : List (List Char) → List (List Char)
  | [] => [[c]]
  | w :: more => if ends then [c] :: w :: more else (c :: w) :: more

/-- The maximal blank-free stretches of a line, in order. -/
def words : List Char → List (List Char)
  | [] => []
  | c :: rest =>
    if isBlank c then words rest else extend c (rest.head?.all isBlank) (words rest)

theorem mem_extend {c : Char} {ends : Bool} {ws : List (List Char)} {w : List Char}
    (h : w ∈ extend c ends ws) : w = [c] ∨ w ∈ ws ∨ ∃ v ∈ ws, w = c :: v := by
  cases ws with
  | nil => simp [extend] at h; simp [h]
  | cons v more =>
    cases ends <;> simp only [extend, Bool.false_eq_true, if_true, if_false, List.mem_cons] at h
    · rcases h with rfl | h
      · exact .inr (.inr ⟨v, by simp, rfl⟩)
      · exact .inr (.inl (by simp [h]))
    · rcases h with rfl | h
      · exact .inl rfl
      · exact .inr (.inl (by simpa using h))

/-- Words are not empty and hold no blank. -/
theorem isWord_of_mem_words {cs w : List Char} (h : w ∈ words cs) :
    w ≠ [] ∧ ∀ c ∈ w, isBlank c = false := by
  induction cs generalizing w with
  | nil => simp [words] at h
  | cons c rest ih =>
    rw [words] at h
    by_cases hc : isBlank c = true
    · exact ih (by simpa [hc] using h)
    · rw [if_neg hc] at h
      have hb : isBlank c = false := by simpa using hc
      rcases mem_extend h with rfl | h | ⟨v, hv, rfl⟩
      · simp [hb]
      · exact ih h
      · refine ⟨by simp, fun d hd => ?_⟩
        rcases List.mem_cons.1 hd with rfl | hd
        · exact hb
        · exact (ih hv).2 d hd

end CommandTree.Text
