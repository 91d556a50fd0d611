import CommandTree.Selection

/-!
# Gates and choices

What the two loops inside a walk come to, stated without the loops: a node admits a context if all
of its requirements hold there, and the child that is chosen is the first one that reads the tokens,
every earlier one having refused these same tokens.
-/

namespace CommandTree

namespace Requirement

theorem result_firstUnmet_cons (c : Context) (r : Requirement) (rest : List Requirement) :
    (firstUnmet c (r :: rest)).result =
      match (r.test c).result with
      | .error e => .error e
      | .ok true => (firstUnmet c rest).result
      | .ok false => .ok (some r) := by
  simp only [firstUnmet, bind, Reply.andThen]
  cases (r.test c).result with
  | error e => rfl
  | ok b => cases b <;> rfl

theorem firstUnmet_none_iff {c : Context} {rs : List Requirement} :
    (firstUnmet c rs).result = .ok none ↔ ∀ r ∈ rs, (r.test c).result = .ok true := by
  induction rs with
  | nil => simp [firstUnmet]
  | cons r rest ih =>
    rw [result_firstUnmet_cons, List.forall_mem_cons, ← ih]
    cases (r.test c).result with
    | error e => simp
    | ok b => cases b <;> simp

theorem firstUnmet_some {c : Context} {rs : List Requirement} {unmet : Requirement}
    (h : (firstUnmet c rs).result = .ok (some unmet)) :
    unmet ∈ rs ∧ (unmet.test c).result = .ok false := by
  induction rs with
  | nil => cases h
  | cons r rest ih =>
    rw [result_firstUnmet_cons] at h
    cases hr : (r.test c).result with
    | error e => simp [hr] at h
    | ok b =>
      cases b with
      | false =>
        simp only [hr, Except.ok.injEq, Option.some.injEq] at h
        exact h ▸ ⟨List.mem_cons_self, hr⟩
      | true =>
        have later := ih (by simpa [hr] using h)
        exact ⟨List.mem_cons_of_mem r later.1, later.2⟩

theorem firstUnmet_error {c : Context} {rs : List Requirement} {e : Error}
    (h : (firstUnmet c rs).result = .error e) : ∃ r ∈ rs, (r.test c).result = .error e := by
  induction rs with
  | nil => cases h
  | cons r rest ih =>
    rw [result_firstUnmet_cons] at h
    cases hr : (r.test c).result with
    | error e' =>
      simp only [hr, Except.error.injEq] at h
      exact ⟨r, List.mem_cons_self, h ▸ hr⟩
    | ok b =>
      cases b with
      | false => simp [hr] at h
      | true =>
        obtain ⟨r', hm, he⟩ := ih (by simpa [hr] using h)
        exact ⟨r', List.mem_cons_of_mem r hm, he⟩

/-- Which gate closes depends on nothing but what the gates answer. -/
theorem firstUnmet_congr {c d : Context} {rs : List Requirement}
    (h : ∀ r ∈ rs, (r.test c).result = (r.test d).result) :
    (firstUnmet c rs).result = (firstUnmet d rs).result := by
  induction rs with
  | nil => rfl
  | cons r rest ih =>
    rw [List.forall_mem_cons] at h
    rw [result_firstUnmet_cons, result_firstUnmet_cons, h.1, ih h.2]

/-- The same of what they report besides. -/
theorem firstUnmet_eq {c d : Context} {rs : List Requirement}
    (h : ∀ r ∈ rs, r.test c = r.test d) : firstUnmet c rs = firstUnmet d rs := by
  induction rs with
  | nil => rfl
  | cons r rest ih =>
    rw [List.forall_mem_cons] at h
    rw [firstUnmet, firstUnmet, h.1, ih h.2]

end Requirement

/-- All requirements of the node hold. -/
def Node.Admits (n : Node) (c : Context) : Prop :=
  ∀ r ∈ n.requirements, (r.test c).result = .ok true

theorem Node.admits_of_nil {n : Node} {c : Context} (h : n.requirements = []) : n.Admits c := by
  simp [Node.Admits, h]

/-- A child that read tokens, with what it read and left. -/
structure Reading where
  child : Node
  value : Value
  rest : List String

/-- The tokens are read with a value. -/
def Reads (tokens : List String) (r : Reading) : Prop :=
  (r.child.type.parse tokens).answer = .ok (.ok r.value) ∧ (r.child.type.parse tokens).rest = r.rest

/-- The tokens are refused with a message. -/
def Refuses (tokens : List String) (child : Node) : Prop :=
  ∃ message, (child.type.parse tokens).answer = .ok (.err message)

/-- The first child in the order of declaration that reads the tokens. -/
def FirstToRead (children : List Node) (tokens : List String) (r : Reading) : Prop :=
  ∃ before after, children = before ++ r.child :: after ∧
    (∀ sibling ∈ before, Refuses tokens sibling) ∧ Reads tokens r

theorem FirstToRead.mem {children : List Node} {tokens : List String} {r : Reading}
    (h : FirstToRead children tokens r) : r.child ∈ children := by
  obtain ⟨before, after, rfl, -, -⟩ := h
  simp

theorem not_firstToRead_nil {tokens : List String} {r : Reading} :
    ¬ FirstToRead [] tokens r := fun h => List.not_mem_nil h.mem

theorem firstToRead_cons {child : Node} {more : List Node} {tokens : List String} {r : Reading} :
    FirstToRead (child :: more) tokens r ↔
      (r.child = child ∧ Reads tokens r) ∨ (Refuses tokens child ∧ FirstToRead more tokens r) := by
  constructor
  · rintro ⟨before, after, hc, refused, reads⟩
    cases before with
    | nil =>
      obtain ⟨rfl, -⟩ := List.cons.inj hc
      exact Or.inl ⟨rfl, reads⟩
    | cons sibling before =>
      obtain ⟨rfl, rfl⟩ := List.cons.inj hc
      rw [List.forall_mem_cons] at refused
      exact Or.inr ⟨refused.1, before, after, rfl, refused.2, reads⟩
  · rintro (⟨rfl, reads⟩ | ⟨refused, before, after, rfl, earlier, reads⟩)
    · exact ⟨[], more, rfl, by simp, reads⟩
    · exact ⟨child :: before, after, rfl, List.forall_mem_cons.2 ⟨refused, earlier⟩, reads⟩

/-- A child raised an error, or answered what is no result. -/
def Breaks (tokens : List String) (child : Node) (e : Error) : Prop :=
  (child.type.parse tokens).answer = .error e ∨
    ∃ value, (child.type.parse tokens).answer = .ok (.other value) ∧
      e = .noResult child.type.shown value

namespace Selection

/-- What was chosen, or the message if nothing was. -/
def reading {children : List Node} : Selection children → Except String Reading
  | chosen child _ value rest => .ok ⟨child, value, rest⟩
  | exhausted message _ => .error message

@[simp] theorem reading_later {child : Node} {children : List Node} (s : Selection children) :
    (s.later : Selection (child :: children)).reading = s.reading := by
  cases s <;> rfl

end Selection

/-- Whatever a child has made of the tokens, they are as they were before. -/
@[simp] theorem restore_eq (before tokens : List String) : restore before tokens = before := by
  unfold restore
  split
  case isTrue same => exact same
  case isFalse => exact List.nil_append before

/-- So they are where all children have refused them. -/
theorem select_exhausted {tokens : List String} {last message : String} {children : List Node}
    {rest : List String}
    (h : (select tokens last children).result = .ok (.exhausted message rest)) : rest = tokens := by
  induction children generalizing last with
  | nil =>
    cases h
    rfl
  | cons child more ih =>
    rw [select] at h
    cases answer : (child.type.parse tokens).answer with
    | error e => simp [answer] at h
    | ok a =>
      cases a with
      | ok value | other value => simp [answer] at h
      | err refusal =>
        simp only [answer, restore_eq] at h
        cases later : (select tokens refusal more).result with
        | error e => simp [later, Except.map] at h
        | ok selection =>
          cases selection with
          | chosen c mem value left => simp [later, Except.map, Selection.later] at h
          | exhausted refusal' left =>
            simp only [later, Except.map, Selection.later, Except.ok.injEq,
              Selection.exhausted.injEq] at h
            obtain ⟨rfl, rfl⟩ := h
            exact ih later

/-- The outcome of a selection, apart from where the chosen child stands. -/
def choose (tokens : List String) (last : String) (children : List Node) :
    Except Error (Except String Reading) :=
  (select tokens last children).result.map Selection.reading

variable {tokens : List String} {last : String}

theorem choose_nil :
    choose tokens last [] = .ok (.error (if last.isEmpty then unknownOrIncomplete else last)) := rfl

theorem choose_cons (child : Node) (more : List Node) :
    choose tokens last (child :: more) =
      match (child.type.parse tokens).answer with
      | .error e => .error e
      | .ok (.ok value) => .ok (.ok ⟨child, value, (child.type.parse tokens).rest⟩)
      | .ok (.err message) => choose tokens message more
      | .ok (.other value) => .error (.noResult child.type.shown value) := by
  unfold choose
  rw [select]
  cases (child.type.parse tokens).answer with
  | error e => rfl
  | ok answer =>
    cases answer with
    | ok value => rfl
    | other value => rfl
    | err message =>
      cases h : (select tokens message more).result <;> simp [h, Except.map]

theorem choose_reading_iff {children : List Node} {r : Reading} :
    choose tokens last children = .ok (.ok r) ↔ FirstToRead children tokens r := by
  induction children generalizing last with
  | nil => simp [choose_nil, not_firstToRead_nil]
  | cons child more ih =>
    rw [choose_cons, firstToRead_cons]
    cases ha : (child.type.parse tokens).answer with
    | error e => simp +contextual [Refuses, Reads, ha]
    | ok answer =>
      cases answer with
      | ok value =>
        simp only [Except.ok.injEq, Refuses, ha, reduceCtorEq, exists_false, false_and, or_false]
        constructor
        · rintro rfl
          exact ⟨rfl, ha, rfl⟩
        · rintro ⟨rfl, hv, hr⟩
          rw [ha] at hv
          cases hv
          rw [hr]
      | err message =>
        have refused : Refuses tokens child := ⟨message, ha⟩
        simp only [ih, refused, true_and]
        constructor
        · exact Or.inr
        · rintro (⟨rfl, hv, -⟩ | first)
          · simp [ha] at hv
          · exact first
      | other value => simp +contextual [Refuses, Reads, ha]

/-- Nothing is chosen only if every child refused the tokens. -/
theorem choose_refused {children : List Node} {message : String}
    (h : choose tokens last children = .ok (.error message)) :
    ∀ child ∈ children, Refuses tokens child := by
  induction children generalizing last with
  | nil => simp
  | cons child more ih =>
    rw [choose_cons] at h
    cases ha : (child.type.parse tokens).answer with
    | error e => simp [ha] at h
    | ok answer =>
      cases answer with
      | ok value => simp [ha] at h
      | other value => simp [ha] at h
      | err refusal =>
        rw [List.forall_mem_cons]
        exact ⟨⟨refusal, ha⟩, ih (by simpa [ha] using h)⟩

/-- If every child refuses them, nothing is chosen. -/
theorem choose_of_refused (last : String) {children : List Node}
    (refused : ∀ child ∈ children, Refuses tokens child) :
    ∃ message, choose tokens last children = .ok (.error message) := by
  induction children generalizing last with
  | nil => exact ⟨_, choose_nil⟩
  | cons child more ih =>
    rw [List.forall_mem_cons] at refused
    obtain ⟨message, answer⟩ := refused.1
    obtain ⟨final, choice⟩ := ih message refused.2
    rw [choose_cons, answer]
    exact ⟨final, choice⟩

theorem choose_error {children : List Node} {e : Error}
    (h : choose tokens last children = .error e) : ∃ child ∈ children, Breaks tokens child e := by
  induction children generalizing last with
  | nil => cases h
  | cons child more ih =>
    rw [choose_cons] at h
    cases ha : (child.type.parse tokens).answer with
    | error e' =>
      simp only [ha, Except.error.injEq] at h
      exact ⟨child, List.mem_cons_self, Or.inl (h ▸ ha)⟩
    | ok answer =>
      cases answer with
      | ok value => simp [ha] at h
      | other value =>
        simp only [ha, Except.error.injEq] at h
        exact ⟨child, List.mem_cons_self, Or.inr ⟨value, ha, h.symm⟩⟩
      | err refusal =>
        obtain ⟨c, hm, hb⟩ := ih (by simpa [ha] using h)
        exact ⟨c, List.mem_cons_of_mem child hm, hb⟩

end CommandTree
