import CommandTree.Text.Blank
import CommandTree.TokenType.Attempt

/-!
# Choices and truth values

A choice is one word of a list of words, no two of which match each other, so at most one of them
matches a token (`Choice.distinct`). It reads as it was declared. A truth value is one of two words
in any case.
-/

namespace CommandTree

structure Choice where
  choices : List String
  ignoresCase : Bool
  words : ∀ c ∈ choices, Text.isWord c = true
  distinct : (choices.map (Text.key ignoresCase)).Nodup

namespace Choice

/-- The choice of nothing. -/
def none (ignoresCase : Bool) : Choice := ⟨[], ignoresCase, by simp, by simp⟩

/-- One more choice at the end. -/
def add (c : Choice) (choice : Value) : Except Error Choice :=
  match choice with
  | .str s =>
    if hw : Text.isWord s = true then
      if hk : Text.key c.ignoresCase s ∈ c.choices.map (Text.key c.ignoresCase) then
        .error .choiceRepeated
      else
        .ok ⟨c.choices ++ [s], c.ignoresCase,
          by
            intro w h
            rcases List.mem_append.1 h with h | h
            · exact c.words w h
            · exact List.mem_singleton.1 h ▸ hw,
          by
            rw [List.map_append, List.nodup_append]
            refine ⟨c.distinct, by simp, ?_⟩
            intro a ha b hb hab
            simp only [List.map_cons, List.map_nil, List.mem_singleton] at hb
            exact hk (hb ▸ hab ▸ ha)⟩
    else .error .choiceNotWord
  | _ => .error .choiceNotString

def declare (choices : List Value) (ignoresCase : Value) : Except Error Choice :=
  if choices.isEmpty then .error .noChoice
  else choices.foldlM add (none ignoresCase.isTrue)

/-- The choice that a token matches. -/
def find? (c : Choice) (token : String) : Option String :=
  c.choices.find? fun choice => Text.sameWord c.ignoresCase choice token

def parse (c : Choice) : List String → Attempt
  | [] => .reject "Expected choice" []
  | token :: rest =>
    match c.find? token with
    | some choice => .accept (.str choice) rest
    | Option.none => .reject s!"Invalid choice: {token}" (token :: rest)

def offer (c : Choice) (typed : Value) : Offer :=
  .continuations c.ignoresCase c.choices typed

def fields (c : Choice) : List (String × Value) :=
  [("choices", .tuple (Value.strings c.choices)), ("ignorecase", .bool c.ignoresCase)]

end Choice

/-- The truth value that a token stands for. -/
def truthValue? (token : String) : Option Bool :=
  if Text.sameWord true token "true" then some true
  else if Text.sameWord true token "false" then some false
  else none

def parseTruthValue : List String → Attempt
  | [] => .reject "Expected boolean" []
  | token :: rest =>
    match truthValue? token with
    | some b => .accept (.bool b) rest
    | none => .reject s!"Invalid boolean: {token}" (token :: rest)

def offerTruthValues (typed : Value) : Offer :=
  .continuations true ["true", "false"] typed

end CommandTree
