import CommandTree.TokenType

/-!
# Consumption

What a built-in type does with the tokens it is given, said once for all of them (`treats`). It
takes some of them from the front, as many as its arity says, or it leaves them all; and what it
reads does not depend on the tokens that it leaves. A type that takes a single token looks at no
other (`parse_cons`). A phrase looks as far as the token that closes it (`untilClosed?_some`). Only
a rest looks at everything.
-/

namespace CommandTree

/-- The tokens that a type of some arity may take, and those that it may leave. -/
inductive Allows : Except Error Value → List String → List String → Prop where
  | one (token : String) (left : List String) : Allows (.ok (.int 1)) [token] left
  | several (token : String) (more left : List String) :
      Allows (.ok (.str "+")) (token :: more) left
  | all (token : String) (more : List String) : Allows (.ok (.str "*")) (token :: more) []

/-- The same attempt on tokens that go on with these, none of which it looks at. -/
def Attempt.before (a : Attempt) (more : List String) : Attempt := { a with rest := a.rest ++ more }

/-- A phrase is closed by the same token, whatever comes after it. -/
theorem untilClosed?_some {tokens words left : List String}
    (h : untilClosed? tokens = some (words, left)) :
    ∃ taken, tokens = taken ++ left ∧
      ∀ more, untilClosed? (taken ++ more) = some (words, more) := by
  induction tokens generalizing words with
  | nil => cases h
  | cons token rest ih =>
    cases hc : closed? token.toList with
    | some last =>
      simp only [untilClosed?, hc, Option.some.injEq, Prod.mk.injEq] at h
      obtain ⟨rfl, rfl⟩ := h
      exact ⟨[token], rfl, fun more => by simp [untilClosed?, hc]⟩
    | none =>
      simp only [untilClosed?, hc, Option.map_eq_some_iff] at h
      obtain ⟨⟨later, left'⟩, found, same⟩ := h
      obtain ⟨rfl, rfl⟩ := Prod.mk.inj same
      obtain ⟨taken, rfl, closes⟩ := ih found
      exact ⟨token :: taken, rfl, fun more => by simp [untilClosed?, hc, closes]⟩

namespace TokenType

/-- A type that does not come from a host. -/
def IsBuiltIn : TokenType → Prop
  | custom _ => False
  | _ => True

/-- A built-in type that takes a single token. -/
def IsSingle : TokenType → Prop
  | phrase | rest | custom _ => False
  | _ => True

variable {t : TokenType} {tokens : List String}

theorem IsSingle.isBuiltIn (single : t.IsSingle) : t.IsBuiltIn := by
  cases t with
  | phrase | rest | custom => exact single.elim
  | _ => trivial

theorem IsSingle.arity (single : t.IsSingle) : t.arity = .ok (.int 1) := by
  cases t with
  | phrase | rest | custom => exact single.elim
  | _ => rfl

/-- A built-in type can say how many tokens it takes. -/
theorem IsBuiltIn.usage (builtIn : t.IsBuiltIn) (name : String) :
    ∃ usage, t.usage name = .ok usage := by
  cases t with
  | custom => exact builtIn.elim
  | _ => exact ⟨_, rfl⟩

theorem isSingle_of_arity (builtIn : t.IsBuiltIn) (one : t.arity = .ok (.int 1)) : t.IsSingle := by
  cases t with
  | phrase | rest => cases one
  | custom => exact builtIn
  | _ => trivial

/-- A type that takes a single token looks at no other. -/
theorem parse_cons (single : t.IsSingle) (token : String) (left : List String) :
    t.parse (token :: left) = (t.parse [token]).before left := by
  cases t with
  | phrase | rest | custom => exact single.elim
  | literal | choice | truthValue | word | integer | decimal =>
    simp only [parse, Literal.parse, Choice.parse, parseTruthValue, parseWord, IntegerType.parse,
      DecimalType.parse]
    repeat' split
    all_goals rfl

/-- What a type makes of tokens: it takes some from the front, and would take the same before any
others unless it is a rest; or it leaves them all. -/
inductive Treats (t : TokenType) (tokens : List String) : Prop where
  | takes {taken left : List String} {value : Value} : tokens = taken ++ left →
      Allows t.arity taken left → t.parse tokens = .accept value left →
      (t ≠ .rest → ∀ more, t.parse (taken ++ more) = .accept value more) → Treats t tokens
  | refuses {message : String} : t.parse tokens = .reject message tokens → Treats t tokens
  | raises {e : Error} : t.parse tokens = .raise e tokens → Treats t tokens

/-- A type that takes a single token takes it alone, or it leaves it. -/
theorem parse_one (single : t.IsSingle) (token : String) :
    (∃ value, t.parse [token] = .accept value []) ∨
      (∃ message, t.parse [token] = .reject message [token]) ∨
        ∃ e, t.parse [token] = .raise e [token] := by
  cases t with
  | phrase | rest | custom => exact single.elim
  | literal | choice | truthValue | word | integer | decimal =>
    simp only [parse, Literal.parse, Choice.parse, parseTruthValue, parseWord, IntegerType.parse,
      DecimalType.parse]
    repeat' split
    all_goals
      first
      | exact Or.inl ⟨_, rfl⟩
      | exact Or.inr (Or.inl ⟨_, rfl⟩)
      | exact Or.inr (Or.inr ⟨_, rfl⟩)

theorem treats_single (single : t.IsSingle) (token : String) (left : List String) :
    t.Treats (token :: left) := by
  obtain ⟨value, h⟩ | ⟨message, h⟩ | ⟨e, h⟩ := parse_one single token
  · have reads : ∀ more, t.parse ([token] ++ more) = .accept value more := by
      intro more
      rw [List.singleton_append, parse_cons single, h]
      rfl
    exact .takes rfl (single.arity ▸ .one token left) (reads left) fun _ => reads
  · have refused : t.parse (token :: left) = .reject message (token :: left) := by
      rw [parse_cons single, h]
      rfl
    exact .refuses refused
  · have raised : t.parse (token :: left) = .raise e (token :: left) := by
      rw [parse_cons single, h]
      rfl
    exact .raises raised

theorem treats_phrase (token : String) (left : List String) :
    phrase.Treats (token :: left) := by
  by_cases blank : token.isEmpty = true
  · have refused : phrase.parse (token :: left) = .reject "Expected text" (token :: left) := by
      simp [parse, parsePhrase, blank]
    exact .refuses refused
  cases opens : opened? token.toList with
  | none =>
    have reads : ∀ more, phrase.parse ([token] ++ more) = .accept (.str token) more := by
      intro more
      simp [parse, parsePhrase, blank, opens]
    exact .takes rfl (.several token [] left) (reads left) fun _ => reads
  | some first =>
    cases closes : closed? first with
    | some whole =>
      have reads : ∀ more, phrase.parse ([token] ++ more) =
          .accept (.str (String.ofList whole)) more := by
        intro more
        simp [parse, parsePhrase, blank, opens, closes]
      exact .takes rfl (.several token [] left) (reads left) fun _ => reads
    | none =>
      cases found : untilClosed? left with
      | none =>
        have refused : phrase.parse (token :: left) =
            .reject "Unterminated quoted string" (token :: left) := by
          simp [parse, parsePhrase, blank, opens, closes, found]
        exact .refuses refused
      | some words =>
        obtain ⟨taken, rfl, again⟩ := untilClosed?_some found
        have reads : ∀ more, phrase.parse (token :: taken ++ more) =
            .accept (.str (joined (String.ofList first :: words.1))) more := by
          intro more
          simp [parse, parsePhrase, blank, opens, closes, again]
        exact .takes rfl (.several token taken _) (reads _) fun _ => reads

theorem refuses_nil (builtIn : t.IsBuiltIn) : ∃ message, t.parse [] = .reject message [] := by
  cases t with
  | custom => exact builtIn.elim
  | _ => exact ⟨_, rfl⟩

theorem treats (builtIn : t.IsBuiltIn) (tokens : List String) : t.Treats tokens := by
  cases tokens with
  | nil =>
    obtain ⟨message, h⟩ := refuses_nil builtIn
    exact .refuses h
  | cons token left =>
    cases t with
    | custom => exact builtIn.elim
    | phrase => exact treats_phrase token left
    | rest => exact .takes (List.append_nil _).symm (.all token left) rfl fun h => absurd rfl h
    | literal | choice | truthValue | word | integer | decimal =>
      refine treats_single ?_ token left
      trivial

theorem Treats.rest_of_err (h : t.Treats tokens) {message : String}
    (refused : (t.parse tokens).answer = .ok (.err message)) : (t.parse tokens).rest = tokens := by
  cases h with
  | takes _ _ reads => rw [reads] at refused; cases refused
  | refuses h => rw [h]; rfl
  | raises h => rw [h] at refused; cases refused

theorem Treats.taken_of_ok (h : t.Treats tokens) {value : Value}
    (read : (t.parse tokens).answer = .ok (.ok value)) :
    ∃ taken, tokens = taken ++ (t.parse tokens).rest ∧
      Allows t.arity taken (t.parse tokens).rest ∧
      (t ≠ .rest → ∀ more, t.parse (taken ++ more) = .accept value more) := by
  cases h with
  | takes split allowed reads again =>
    rw [reads] at read ⊢
    cases read
    exact ⟨_, split, allowed, again⟩
  | refuses h | raises h => rw [h] at read; cases read

/-- **Built-in types take tokens from the front only.** A type that refuses tokens leaves them as
they were. One that reads takes tokens from the front, as many as its arity says, and leaves the
others as they were. No tokens at all are refused. Unless it is a rest, a type reads the same from
the tokens that it took whatever comes after them; and one that takes a single token refuses it
whatever comes after it. -/
theorem built_in_types_take_from_the_front (t : TokenType) (builtIn : t.IsBuiltIn) :
    (∀ tokens message, (t.parse tokens).answer = .ok (.err message) →
      (t.parse tokens).rest = tokens) ∧
    (∀ tokens value, (t.parse tokens).answer = .ok (.ok value) →
      ∃ taken, tokens = taken ++ (t.parse tokens).rest ∧
        Allows t.arity taken (t.parse tokens).rest) ∧
    (∃ message, (t.parse []).answer = .ok (.err message)) ∧
    (t ≠ .rest → ∀ taken left value, (t.parse (taken ++ left)).answer = .ok (.ok value) →
      (t.parse (taken ++ left)).rest = left → ∀ more,
        (t.parse (taken ++ more)).answer = .ok (.ok value) ∧
          (t.parse (taken ++ more)).rest = more) ∧
    (t.arity = .ok (.int 1) → ∀ token left message,
      (t.parse (token :: left)).answer = .ok (.err message) →
      ∀ more, (t.parse (token :: more)).answer = .ok (.err message)) := by
  refine ⟨?_, ?_, ?_, ?_, ?_⟩
  · exact fun tokens message refused => (treats builtIn tokens).rest_of_err refused
  · intro tokens value read
    obtain ⟨taken, split, allowed, -⟩ := (treats builtIn tokens).taken_of_ok read
    exact ⟨taken, split, allowed⟩
  · obtain ⟨message, h⟩ := refuses_nil builtIn
    exact ⟨message, congrArg Attempt.answer h⟩
  · intro notRest taken left value read rest more
    obtain ⟨taken', split, -, again⟩ := (treats builtIn _).taken_of_ok read
    rw [rest] at split
    obtain rfl := List.append_cancel_right split
    rw [again notRest more]
    exact ⟨rfl, rfl⟩
  · intro one token left message refused more
    have single := isSingle_of_arity builtIn one
    rw [parse_cons single] at refused ⊢
    exact refused

/-- A phrase of two tokens is read alike before one token and before none. -/
theorem quoted_phrase_takes_from_the_front :
    phrase.IsBuiltIn ∧
      (∃ taken, ["\"no", "way\"", "out"] = taken ++ ["out"] ∧
        Allows (.ok (.str "+")) taken ["out"]) ∧
      (phrase.parse ["\"no", "way\""]).answer = .ok (.ok (.str "no way")) := by
  obtain ⟨-, front, -, again, -⟩ := built_in_types_take_from_the_front phrase trivial
  have read : phrase.parse ["\"no", "way\"", "out"] = .accept (.str "no way") ["out"] := by
    rfl
  have taken := front ["\"no", "way\"", "out"] (.str "no way") (congrArg Attempt.answer read)
  have alone := again (by simp) ["\"no", "way\""] ["out"] (.str "no way")
    (congrArg Attempt.answer read) (congrArg Attempt.rest read) []
  rw [read] at taken
  exact ⟨trivial, taken, alone.1⟩

end TokenType

end CommandTree
