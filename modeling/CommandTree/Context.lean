import CommandTree.Sender

/-!
# Contexts

The state of one call: who sent what, the arguments that have been bound so far, and the fault that
halted it. An execution has an outcome besides, a completion the token being typed and the texts
suggested for it, each of them once.
-/

namespace CommandTree

/-- What a call is for. -/
inductive Stage where
  | plain
  | execution (outcome : Outcome)
  | completion (typed : Value) (suggestions : List String)

namespace Stage

def owner : Stage → Owner
  | plain => .context
  | execution _ => .executionContext
  | completion .. => .suggestionContext

/-- An execution that has not ended. -/
def start : Stage := execution .pending

/-- A completion of nothing yet. -/
def blank : Stage := completion (.str "") []

end Stage

structure Context where
  sender : Option Sender
  label : String
  args : List String
  arguments : Bindings Value
  fault : Option Fault
  stage : Stage

namespace Context

/-- A fresh context. -/
def make (stage : Stage) (sender : Option Sender) (label : String) (args : List String) : Context :=
  ⟨sender, label, args, [], none, stage⟩

/-- The strings that a value goes through, if it goes through strings only and is no text itself. -/
def strings? (args : Value) : Option (List String) :=
  match args with
  | .str _ | .text _ => none
  | args => args.elements?.bind fun items => items.mapM Value.str?

/-- A fresh context for a label and arguments that are given as values. -/
def declare (stage : Stage) (sender : Option Sender) (label args : Value) : Except Error Context :=
  match label with
  | .str label =>
    match strings? args with
    | some args => .ok (make stage sender label args)
    | none => .error (.unmet stage.owner "args" .strings)
  | _ => .error (.unmet stage.owner "label" .string)

/-- The label and the arguments. -/
def tokens (c : Context) : List String := c.label :: c.args

def bind (c : Context) (name : String) (value : Value) : Context :=
  { c with arguments := c.arguments.set name value }

def get? (c : Context) (name : String) : Option Value := c.arguments.get? name

/-- The value that a name is bound to. -/
def item (c : Context) (name : String) : Except Error Value :=
  match c.get? name with
  | some v => .ok v
  | none => .error (.unbound name)

def outcome? (c : Context) : Option Outcome :=
  match c.stage with
  | .execution outcome => some outcome
  | _ => none

/-- Sets the outcome of an execution; other calls have none. -/
def setOutcome (c : Context) (outcome : Outcome) : Context :=
  match c.stage with
  | .execution _ => { c with stage := .execution outcome }
  | _ => c

def succeeded (c : Context) : Bool := c.outcome? == some .executed

def isCompletion (c : Context) : Bool :=
  match c.stage with
  | .completion .. => true
  | _ => false

/-- The token being typed; null when nothing is. -/
def typed (c : Context) : Value :=
  match c.stage with
  | .completion typed _ => typed
  | _ => .null

def suggestions (c : Context) : List String :=
  match c.stage with
  | .completion _ suggestions => suggestions
  | _ => []

/-- Sets the token being typed. -/
def setTyped (c : Context) (typed : Value) : Context :=
  match c.stage with
  | .completion _ suggestions => { c with stage := .completion typed suggestions }
  | _ => c

/-- Adds a suggestion, unless it was made already. -/
def suggest (c : Context) (text : String) : Context :=
  match c.stage with
  | .completion typed suggestions =>
    if text ∈ suggestions then c
    else { c with stage := .completion typed (suggestions ++ [text]) }
  | _ => c

def suggestAll (c : Context) (texts : List String) : Context := texts.foldl suggest c

/-- What a context shows, field by field. -/
def fields (c : Context) : List (String × String) :=
  [("sender", Sender.shown c.sender), ("label", Text.quote c.label),
    ("args", showStrings c.args),
    ("arguments", showMap false
      (c.arguments.map fun e => Text.quote e.1 ++ ": " ++ e.2.shown))] ++
  match c.stage with
  | .plain => []
  | .execution outcome => [("outcome", outcome.shown)]
  | .completion typed suggestions =>
    [("partial", typed.shown), ("suggestions", showStrings suggestions)]

def shown (c : Context) : String :=
  let body := commaSeparated (c.fields.map fun f => f.1 ++ "=" ++ f.2)
  s!"{c.stage.owner.name}({body})"

end Context

end CommandTree
