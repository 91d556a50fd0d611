import CommandTree.Fault.Raising
import CommandTree.Node.Usages
import CommandTree.Selection

/-!
# Walks

A walk reads tokens from the root of a tree down. At each node it tests the requirements first. An
execution runs the executor where no token is left; a completion stops where one token is left, and
the children contribute what they offer for it. Otherwise the first child that reads the tokens is
chosen, its value is bound under its name, and the walk goes on there, never back. A walk that
cannot go on halts with a fault, which the failure handler is told.
-/

namespace CommandTree

/-- What a walk is for. -/
inductive Mode where
  | execution
  | completion
  deriving DecidableEq, Repr

/-- How far a walk has come: the node, the position of its next token, and the tokens that are
left. -/
structure Position where
  node : Node
  index : Int
  tokens : List String

/-- The context of a walk that has halted on a fault. -/
def Context.haltedOn (context : Context) (fault : Fault) : Context :=
  { context with fault := some fault }.setOutcome .failed

namespace Walk

def requirementFault (root : Node) (place : Position) (message : Value) : Except Error Fault :=
  Fault.declare .requirementFailure message
    [("command", .str root.name), ("node", .str place.node.name), ("index", .int place.index)]

/-- The first usage line from a node on, behind the usages of the nodes above it. -/
def hint (path : List String) (n : Node) : Except Error Value := do
  return match ← n.usages.first with
    | none => .null
    | some usage => .str ("usage: " ++ joined (path ++ [usage]))

def incompleteFault (root : Node) (place : Position) (hint : Value) : Fault :=
  .make .incompleteCommand (some "Incomplete command")
    [("command", .str root.name), ("index", .int place.index), ("hint", hint)]

/-- The kind of fault where all children refuse: with a single child, its token is at fault. -/
def exhaustedKind (n : Node) : FaultKind :=
  if n.children.length = 1 then .parseError else .dispatchExhausted

def exhaustedFault (root : Node) (place : Position) (message token : String)
    (hints : Bindings Value) : Fault :=
  .make (exhaustedKind place.node) (some message)
    ([("command", .str root.name), ("index", .int place.index), ("token", .str token)] ++ hints)

/-- The first of the tokens that are left. -/
def nextToken : List String → Except Error String
  | token :: _ => .ok token
  | [] => .error .noItem

/-- Stores a fault and tells the handler its message. -/
def halt (failure : Option Handler) (fault : Fault) (context : Context) : Run :=
  let halted := context.haltedOn fault
  let told : Run :=
    match failure with
    | some handler => handler halted fault.message
    | none => .done halted
  told.after [.log (.halting context.tokens fault)]

/-- Halts on a fault, once it has been put together. -/
def haltOn (failure : Option Handler) (fault : Except Error Fault) (context : Context) : Run :=
  (Reply.ofExcept fault).runWith context fun fault => halt failure fault context

/-- An execution whose executor has come to its end without setting an outcome is executed. -/
def settle (context : Context) : Context :=
  if context.outcome? = some .pending then context.setOutcome .executed else context

def execute (node : Node) (run : Executor) (context : Context) : Run :=
  ((run context).andThen fun c => .done (settle c)).after
    [.log (.executing node.name context.tokens)]

/-- What a child offers, if its requirements are met. -/
def contribute (child : Node) (context : Context) : Run :=
  (Requirement.firstUnmet context child.requirements).runWith context fun
    | some _ => .done context
    | none =>
      let offer := child.type.offer context
      ⟨context.suggestAll offer.texts, offer.events, offer.error⟩

def contributeAll (children : List Node) (context : Context) : Run :=
  children.foldl (fun run child => run.andThen (contribute child)) (.done context)

def complete (node : Node) (token : String) (context : Context) : Run :=
  (contributeAll node.children (context.setTyped (.str token))).andThen fun c =>
    ⟨c, [.log (.suggesting c.suggestions c.tokens)], none⟩

/-- The position in a chosen child. -/
def advance (context : Context) (child : Node) (rest : List String) : Position :=
  ⟨child, context.tokens.length - rest.length, rest⟩

/-- An execution from a position on. The usage of each node is noted down as it is left, since a
hint shows the whole way. -/
def dispatch (failure : Option Handler) (root : Node) (path : List String) (place : Position)
    (context : Context) : Run :=
  (Requirement.firstUnmet context place.node.requirements).runWith context fun
    | some unmet => haltOn failure (requirementFault root place unmet.message) context
    | none =>
      match place.tokens with
      | [] =>
        match place.node.executor with
        | some run => execute place.node run context
        | none => haltOn failure (incompleteFault root place <$> hint path place.node) context
      | token :: more =>
        (select (token :: more) "" place.node.children).runWith context fun
          | .chosen child _mem value rest =>
            let context := context.bind child.name value
            (Reply.ofExcept place.node.usage).runWith context fun usage =>
              dispatch failure root (path ++ [usage]) (advance context child rest) context
          | .exhausted message rest =>
            let fault := do
              let token ← nextToken rest
              let hint ← hint path place.node
              return exhaustedFault root place message token [("hint", hint)]
            haltOn failure fault context
termination_by place.node.count
decreasing_by exact Node.count_lt_of_mem _mem

/-- A completion from a position on. It stops at the last token, which is being typed, and gives no
hints. -/
def suggest (failure : Option Handler) (root : Node) (place : Position) (context : Context) : Run :=
  (Requirement.firstUnmet context place.node.requirements).runWith context fun
    | some unmet => haltOn failure (requirementFault root place unmet.message) context
    | none =>
      match place.tokens with
      | [] => .done context
      | [token] => complete place.node token context
      | token :: more =>
        (select (token :: more) "" place.node.children).runWith context fun
          | .chosen child _mem value rest =>
            let context := context.bind child.name value
            suggest failure root (advance context child rest) context
          | .exhausted message rest =>
            let fault := do
              let token ← nextToken rest
              return exhaustedFault root place message token []
            haltOn failure fault context
termination_by place.node.count
decreasing_by exact Node.count_lt_of_mem _mem

def start (root : Node) (tokens : List String) : Position := ⟨root, 1, tokens.drop 1⟩

end Walk

/-- Walks the tokens, of which the first is the label, from the root of a tree. -/
def walk (mode : Mode) (failure : Option Handler) (root : Node) (tokens : List String)
    (context : Context) : Run :=
  match mode with
  | .execution => Walk.dispatch failure root [] (Walk.start root tokens) context
  | .completion => Walk.suggest failure root (Walk.start root tokens) context

/-- A failure handler, which has to be callable if it is given. -/
def Handed.handler? (owner : Owner) : Handed Handler → Except Error (Option Handler)
  | .nothing => .ok none
  | .callable handler => .ok (some handler)
  | .other => .error (.unmet owner "failure" .callable)

end CommandTree
