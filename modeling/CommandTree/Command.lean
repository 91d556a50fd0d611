import CommandTree.Walk

/-!
# Commands

A command is a tree under a name, with a handler for its failures. Every call walks the tree with a
context of its own. Two commands that are alike are told apart by their serial numbers.
-/

namespace CommandTree

structure Command where
  serial : Nat
  name : String
  root : Node
  failure : Option Handler

namespace Command

/-- A command out of parts of which some may not be what they have to be. -/
def declare (serial : Nat) (name : Value) (root : Option Node) (failure : Handed Handler) :
    Except Error Command := do
  let name ← match name with
    | .str s => if s.isEmpty then .error (.unmet .command "name" .nonEmptyString) else .ok s
    | _ => .error (.unmet .command "name" .nonEmptyString)
  let some root := root | throw (.unmet .command "root" .node)
  let failure ← failure.handler? .command
  return ⟨serial, name, root, failure⟩

def usages (c : Command) : Except Error (List String) := c.root.usages.all

def shown (c : Command) : Except Error String := do
  let usages ← c.usages
  return s!"Command({Text.quote c.name}, usages={showStrings usages})"

/-- The stage of a call at its start. -/
def stage : Mode → Stage
  | .execution => .start
  | .completion => .blank

/-- Executes the command, or completes the last of the arguments. -/
def run (mode : Mode) (c : Command) (sender : Option Sender) (label : String)
    (args : List String) : Run :=
  walk mode c.failure c.root (label :: args) (.make (stage mode) sender label args)

/-- The same for a label and arguments that are given as values. -/
def call (mode : Mode) (c : Command) (sender : Option Sender) (label args : Value) :
    Except Error Run :=
  match args with
  | .str _ => .error (.unmet .command "args" .stringsApart)
  | args =>
    match args.elements? with
    | none => .error .unsupported
    | some items => do
      let context ← Context.declare (stage mode) sender label (.tuple items)
      return run mode c sender context.label context.args

/-- What a run brings, looked up in the context it leaves. -/
def answer {α : Type} (run : Except Error Run) (look : Context → α) : Reply α :=
  match run with
  | .error e => .fail e
  | .ok run => ⟨run.events, match run.error with
    | some e => .error e
    | none => .ok (look run.context)⟩

/-- Whether the command was executed. -/
def onCommand (c : Command) (sender : Option Sender) (label args : Value) : Reply Bool :=
  answer (c.call .execution sender label args) Context.succeeded

/-- The suggestions for the last of the arguments. -/
def onTabComplete (c : Command) (sender : Option Sender) (label args : Value) :
    Reply (List String) :=
  answer (c.call .completion sender label args) Context.suggestions

end Command

end CommandTree
