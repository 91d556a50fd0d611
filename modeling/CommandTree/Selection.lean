import CommandTree.Node

/-!
# Selection

The children of a node try the remaining tokens in the order of declaration, and the first one that
reads them is chosen. All of them are handed the same tokens, which each may change, so what a child
has changed is restored when it refuses. If all refuse, the message of the last one counts.
-/

namespace CommandTree

/-- The child chosen among several, with what it read and left, or why all of them refused and the
tokens as they are after that. -/
inductive Selection (children : List Node) where
  | chosen (child : Node) (mem : child ∈ children) (value : Value) (rest : List String)
  | exhausted (message : String) (rest : List String)

namespace Selection

def later {child : Node} {children : List Node} : Selection children → Selection (child :: children)
  | chosen c mem value rest => chosen c (List.mem_cons_of_mem _ mem) value rest
  | exhausted message rest => exhausted message rest

end Selection

/-- What a refusal is reported with when it comes without a message. -/
def unknownOrIncomplete : String := "Unknown or incomplete command"

/-- The tokens after a refusal: if they are not what they were before it, they are cleared and
filled up again. -/
def restore (before tokens : List String) : List String :=
  if tokens = before then tokens
  else
    let cleared : List String := []
    cleared ++ before

/-- The record that a child changed the tokens although it refused them. -/
def restoring (child : Node) (tokens : List String) (attempt : Attempt) : List Event :=
  if attempt.rest = tokens then [] else [.log (.restoring child.type.shown)]

/-- The first child that reads the tokens; `last` is the message of the child before these. -/
def select (tokens : List String) (last : String) :
    (children : List Node) → Reply (Selection children)
  | [] => pure (.exhausted (if last.isEmpty then unknownOrIncomplete else last) tokens)
  | child :: more =>
    let attempt := child.type.parse tokens
    match attempt.answer with
    | .error e => ⟨attempt.events, .error e⟩
    | .ok (.ok value) =>
      ⟨attempt.events, .ok (.chosen child List.mem_cons_self value attempt.rest)⟩
    | .ok (.err message) =>
      let next := select (restore tokens attempt.rest) message more
      ⟨attempt.events ++ restoring child tokens attempt ++ next.events,
        next.result.map Selection.later⟩
    | .ok (.other value) => ⟨attempt.events, .error (.noResult child.type.shown value)⟩

end CommandTree
