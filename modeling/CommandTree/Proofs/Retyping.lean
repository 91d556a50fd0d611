import CommandTree.Proofs.Agreement
import CommandTree.Proofs.Consumption
import CommandTree.Proofs.Trail

/-!
# Retyping the last token

Two calls of a command whose tokens differ in the last one only, where no type is a phrase or comes
from a host, and no requirement asks how the arguments are spelled or what the call is for. A rest
takes the last token with all before it; the other types take a single token and look at no other.
So the two walks read the same until the last token is next (`Twins.follow`), whether each of them
executes or completes.
-/

namespace CommandTree

/-- The same call up to the spelling of its arguments, with the same bound so far. -/
structure Context.Akin (c d : Context) : Prop where
  sender : c.sender = d.sender
  label : c.label = d.label
  count : c.args.length = d.args.length
  arguments : c.arguments = d.arguments

theorem Context.Akin.symm {c d : Context} (h : c.Akin d) : d.Akin c :=
  ⟨h.sender.symm, h.label.symm, h.count.symm, h.arguments.symm⟩

theorem Context.Akin.trans {c d e : Context} (h : c.Akin d) (h' : d.Akin e) : c.Akin e :=
  ⟨h.sender.trans h'.sender, h.label.trans h'.label, h.count.trans h'.count,
    h.arguments.trans h'.arguments⟩

theorem Context.Akin.bind {c d : Context} (h : c.Akin d) (name : String) (value : Value) :
    (c.bind name value).Akin (d.bind name value) :=
  ⟨h.sender, h.label, h.count, by simp only [Context.bind, h.arguments]⟩

theorem Context.Agrees.akin {c d : Context} (h : c.Agrees d) : c.Akin d :=
  ⟨h.sender, h.label, congrArg List.length h.args, h.arguments⟩

/-- Whether the requirement is met depends on the sender, the label, the number of arguments and
what is bound by then; not on how the arguments are spelled, nor on what the call is for. -/
def Requirement.IgnoresSpelling (r : Requirement) : Prop :=
  ∀ c d : Context, c.Akin d → (r.test c).result = (r.test d).result

theorem Requirement.IgnoresSpelling.ignoresStage {r : Requirement} (h : r.IgnoresSpelling) :
    r.IgnoresStage := fun c d agrees => h c d agrees.akin

/-- Of the conditions that are written down, only one asks what the call is for, and none asks how
the arguments are spelled. -/
theorem Condition.ignoresSpelling_test {condition : Condition} (message : Value)
    (name : Option String) (id : Option Value) (h : ∀ expected, condition ≠ .completing expected) :
    Requirement.IgnoresSpelling ⟨message, name, condition.test id⟩ := by
  intro c d akin
  rw [result_test, result_test]
  cases condition with
  | completing expected => exact absurd rfl (h expected)
  | _ => simp only [holds, Context.item, Context.get?, akin.arguments, akin.label, akin.count]

theorem Node.Admits.of_akin {n : Node} {c d : Context} (admits : n.Admits c)
    (blind : ∀ r ∈ n.requirements, r.IgnoresSpelling) (h : c.Akin d) : n.Admits d := by
  intro r hr
  rw [← blind r hr c d h]
  exact admits r hr

/-- What the child would have read, had the last token been this one. -/
def Reading.retyped (token : String) (r : Reading) : Reading :=
  { r with rest := r.rest.dropLast ++ [token] }

@[simp] theorem bindingsOf_retyped (token : String) (rs : List Reading) :
    bindingsOf (rs.map (Reading.retyped token)) = bindingsOf rs := by
  simp only [bindingsOf, List.map_map]
  rfl

@[simp] theorem Node.after_retyped (n : Node) (token : String) (rs : List Reading) :
    n.after (rs.map (Reading.retyped token)) = n.after rs := by
  induction rs generalizing n with
  | nil => rfl
  | cons r rs ih => exact ih r.child

/-- A built-in type other than a phrase. -/
def TokenType.IsPhraseless (t : TokenType) : Prop := t.IsBuiltIn ∧ t ≠ .phrase

namespace TokenType

variable {t : TokenType}

theorem IsSingle.isPhraseless (single : t.IsSingle) : t.IsPhraseless := by
  refine ⟨single.isBuiltIn, ?_⟩
  rintro rfl
  exact single

/-- It takes a single token, or all of them. -/
theorem IsPhraseless.single_or_rest (phraseless : t.IsPhraseless) : t.IsSingle ∨ t = .rest := by
  obtain ⟨builtIn, other⟩ := phraseless
  cases t with
  | phrase => exact absurd rfl other
  | rest => exact Or.inr rfl
  | custom => exact builtIn.elim
  | _ => exact Or.inl trivial

end TokenType

section Single

variable {children : List Node} {token : String} {left : List String} {r : Reading}

theorem refuses_cons {child : Node} (single : child.type.IsSingle) (other : List String)
    (h : Refuses (token :: left) child) : Refuses (token :: other) child := by
  obtain ⟨message, h⟩ := h
  rw [TokenType.parse_cons single] at h
  exact ⟨message, by rwa [TokenType.parse_cons single]⟩

theorem reads_cons (single : r.child.type.IsSingle) (h : Reads (token :: left) r) :
    r.child.type.parse [token] = .accept r.value [] ∧ r.rest = left := by
  obtain ⟨read, rest⟩ := h
  rw [TokenType.parse_cons single] at read rest
  obtain ⟨value, h⟩ | ⟨message, h⟩ | ⟨e, h⟩ := TokenType.parse_one single token
  · rw [h] at read rest ⊢
    cases read
    exact ⟨rfl, rest.symm⟩
  · rw [h] at read
    cases read
  · rw [h] at read
    cases read

/-- A rest refuses no token, -/
theorem isSingle_of_refuses {child : Node} (phraseless : child.type.IsPhraseless)
    (refused : Refuses (token :: left) child) : child.type.IsSingle := by
  obtain single | rest := phraseless.single_or_rest
  · exact single
  · obtain ⟨message, refused⟩ := refused
    rw [rest] at refused
    cases refused

/-- and leaves none. -/
theorem isSingle_of_reads (phraseless : r.child.type.IsPhraseless)
    (reads : Reads (token :: left) r) (stays : r.rest ≠ []) : r.child.type.IsSingle := by
  obtain single | rest := phraseless.single_or_rest
  · exact single
  · obtain ⟨-, left⟩ := reads
    rw [rest] at left
    exact absurd left.symm stays

/-- Which child is the first to read, and leaves any tokens, does not depend on those after the
first. -/
theorem FirstToRead.reseat (phraseless : ∀ child ∈ children, child.type.IsPhraseless)
    (h : FirstToRead children (token :: left) r) (stays : r.rest ≠ []) :
    r.rest = left ∧ ∀ other, FirstToRead children (token :: other) { r with rest := other } := by
  have mem := h.mem
  obtain ⟨before, after, hc, refused, reads⟩ := h
  have singleChild := isSingle_of_reads (phraseless r.child mem) reads stays
  obtain ⟨accepts, rest⟩ := reads_cons singleChild reads
  refine ⟨rest, fun other => ⟨before, after, hc, fun sibling hs => ?_, ?_⟩⟩
  · have mem : sibling ∈ children := hc ▸ List.mem_append_left _ hs
    have singleSibling := isSingle_of_refuses (phraseless sibling mem) (refused sibling hs)
    exact refuses_cons singleSibling other (refused sibling hs)
  · unfold Reads
    rw [TokenType.parse_cons singleChild, accepts]
    exact ⟨rfl, rfl⟩

theorem FirstToRead.parse_eq (single : ∀ child ∈ children, child.type.IsSingle)
    (h : FirstToRead children (token :: left) r) :
    r.child.type.parse [token] = .accept r.value [] ∧ r.rest = left := by
  have mem := h.mem
  obtain ⟨-, -, -, -, reads⟩ := h
  exact reads_cons (single r.child mem) reads

end Single

/-- Every type in the tree takes a single token. -/
def Node.IsSingleTree (root : Node) : Prop := ∀ n, root.Within n → n.type.IsSingle

/-- Every type in the tree is built in, and none is a phrase. -/
def Node.IsPhraseless (root : Node) : Prop := ∀ n, root.Within n → n.type.IsPhraseless

/-- No requirement in the tree asks how the arguments are spelled or what the call is for. -/
def Node.IgnoresSpelling (root : Node) : Prop :=
  ∀ n, root.Within n → ∀ r ∈ n.requirements, r.IgnoresSpelling

theorem Node.IsSingleTree.isPhraseless {root : Node} (single : root.IsSingleTree) :
    root.IsPhraseless := fun n h => (single n h).isPhraseless

theorem Node.IsSingleTree.children {root n : Node} (single : root.IsSingleTree)
    (inside : root.Within n) : ∀ child ∈ n.children, child.type.IsSingle :=
  fun child hc => single child (.child inside hc)

theorem Node.IsPhraseless.tellsUsages {root : Node} (phraseless : root.IsPhraseless) :
    root.TellsUsages := tellsUsages_of_builtIn fun n h => (phraseless n h).1

theorem Node.IsSingleTree.tellsUsages {root : Node} (single : root.IsSingleTree) :
    root.TellsUsages := single.isPhraseless.tellsUsages

namespace Walk

variable {mode : Mode} {root : Node} {s t : State} {rs more : List Reading} {ending : Ending}
  {typed other : String} {left : List String}

/-- Two walks at the same node that have the same tokens before them, but for the last one. -/
structure Twins (typed other : String) (left : List String) (s t : State) : Prop where
  node : s.place.node = t.place.node
  akin : s.context.Akin t.context
  tokens : s.place.tokens = left ++ [typed]
  otherTokens : t.place.tokens = left ++ [other]

/-- As long as tokens stay, twins choose the same child, and are twins again. -/
theorem Twins.onward {r : Reading} (phraseless : root.IsPhraseless) (blind : root.IgnoresSpelling)
    (twins : Twins typed other left s t) (inside : root.Within s.place.node)
    (takes : Takes mode root s (.onward r)) (stays : r.rest ≠ []) :
    ∃ left', (∀ mode' : Mode, Takes mode' root t (.onward (r.retyped other))) ∧
      Twins typed other left' (s.read r) (t.read (r.retyped other)) := by
  obtain ⟨admits, -, first, -⟩ := Takes.onward_iff.1 takes
  have children : ∀ child ∈ s.place.node.children, child.type.IsPhraseless :=
    fun child hc => phraseless child (.child inside hc)
  rw [twins.tokens] at first
  cases left with
  | nil => exact absurd (first.reseat children stays).1 stays
  | cons token left =>
    rw [List.cons_append] at first
    obtain ⟨rest, again⟩ := first.reseat children stays
    have retyped : r.retyped other = { r with rest := left ++ [other] } := by
      simp only [Reading.retyped, rest, List.dropLast_concat]
    refine ⟨left, fun mode' => Takes.onward_iff.2 ⟨?_, ?_, ?_, ?_⟩, ?_⟩
    · rw [← twins.node]
      exact admits.of_akin (blind _ inside) twins.akin
    · rw [twins.otherTokens]
      cases mode' <;> simp [Mode.reserve]
    · rw [← twins.node, twins.otherTokens, List.cons_append, retyped]
      exact again _
    · rw [← twins.node]
      exact fun _ => (phraseless _ inside).1.usage _
    · rw [retyped]
      exact ⟨rfl, twins.akin.bind _ _, rest, rfl⟩

/-- Twins read the same as long as tokens stay, and are twins then. From there on, each goes its own
way. -/
theorem Twins.follow (phraseless : root.IsPhraseless) (blind : root.IgnoresSpelling)
    (twins : Twins typed other left s t) (inside : root.Within s.place.node)
    (stays : leftBy s.place.tokens rs ≠ []) (trail : Trail mode root s (rs ++ more) ending) :
    ∃ left', Twins typed other left' (s.readAll rs) (t.readAll (rs.map (.retyped other))) ∧
      ∀ mode' more' ending', Trail mode' root (t.readAll (rs.map (.retyped other))) more' ending' →
        Trail mode' root t (rs.map (.retyped other) ++ more') ending' := by
  induction rs generalizing left s t with
  | nil => exact ⟨left, twins, fun _ _ _ later => later⟩
  | cons r rs ih =>
    obtain ⟨takes, rest⟩ := Trail.cons_iff.1 trail
    have mem := takes.mem_of_onward
    -- Where no token stays, a walk does not go on, so none would stay at the end either.
    have stay : r.rest ≠ [] := by
      intro spent
      cases rs with
      | nil => exact stays spent
      | cons next rs =>
        obtain ⟨further, -⟩ := Trail.cons_iff.1 rest
        have enough := (Takes.onward_iff.1 further).2.1
        rw [State.tokens_read, spent] at enough
        cases enough
    obtain ⟨left', onward, twins'⟩ := twins.onward phraseless blind inside takes stay
    obtain ⟨last, final, replay⟩ := ih twins' (.child inside mem) stays rest
    exact ⟨last, final, fun mode' more' ending' later =>
      .onward (onward mode') (replay mode' more' ending' later)⟩

end Walk

end CommandTree
