import CommandTree.Command
import CommandTree.Text.Line

/-!
# The registry

The registry routes lines to commands. A command is reachable under its name and its aliases, whose
case does not matter; all labels differ. A registry is opened before it is used and dropped when it
is closed, which is for good.
-/

namespace CommandTree

/-- A label, by what it is found and how it is spelled, with its command. -/
structure Entry where
  key : String
  label : String
  command : Command

inductive Lifecycle where
  | new
  | opened
  | closed
  deriving DecidableEq, Repr

def Lifecycle.name : Lifecycle → String
  | new => "new"
  | opened => "open"
  | closed => "closed"

structure Registry where
  state : Lifecycle
  table : List Entry

namespace Registry

def fresh : Registry := ⟨.new, []⟩

def labelsOf (table : List Entry) : List String := table.map Entry.label

def shown (r : Registry) : String :=
  let labels := showList ((labelsOf r.table).map Text.quote)
  s!"Registry(state={Text.quote r.state.name}, labels={labels})"

/-- Opens a registry that has not been closed. -/
def opened (r : Registry) : Except Error Registry :=
  match r.state with
  | .closed => .error .reopened
  | _ => .ok { r with state := .opened }

/-- Drops all commands, for good. -/
def close (_ : Registry) : Registry := ⟨.closed, []⟩

def ensureOpen (r : Registry) : Except Error Unit :=
  match r.state with
  | .opened => .ok ()
  | .closed => .error .closed
  | .new => .error .notOpen

def find? (r : Registry) (label : String) : Option Entry :=
  r.table.find? fun e => e.key == Text.fold label

/-- Adds labels one after the other, each of which must be free. -/
def addLabels (command : Command) (table : List Entry) : List String → Except Error (List Entry)
  | [] => .ok table
  | label :: more =>
    let key := Text.fold label
    if table.any fun e => e.key == key then .error (.labelTaken label)
    else addLabels command (table ++ [⟨key, label, command⟩]) more

def alias? : Value → Option String
  | .str s => if Text.isWord s then some s else none
  | _ => none

/-- A registry after an operation that may have changed it, and what the operation replies. -/
abbrev Change (α : Type) := Registry × Reply α

/-- Makes a command reachable under its name and its aliases; if one of them is taken, under
none. -/
def register (r : Registry) (command : Option Command) (aliases : List Value) : Change Command :=
  match command with
  | none => (r, .fail .notACommand)
  | some command =>
    match aliases.mapM alias? with
    | none => (r, .fail .aliasNotWord)
    | some aliases =>
      let labels := command.name :: aliases
      match r.ensureOpen.bind fun _ => addLabels command r.table labels with
      | .error e => (r, .fail e)
      | .ok table =>
        ({ r with table := table }, ⟨[.log (.registered command.name labels)], .ok command⟩)

/-- The entry that a label given as a value leads to. -/
def lookup (r : Registry) (name : Value) : Except Error (Option Entry) := do
  r.ensureOpen
  match name with
  | .str s => return r.find? s
  | _ => throw .noAttribute

/-- Removes the command reachable under a label, with all of its labels. -/
def unregister (r : Registry) (name : Value) : Change Command :=
  match r.lookup name with
  | .error e => (r, .fail e)
  | .ok none => (r, .fail (.labelUnknown ((name.str?).getD "")))
  | .ok (some entry) =>
    let command := entry.command
    ({ r with table := r.table.filter fun e => e.command.serial != command.serial },
      ⟨[.log (.unregistered command.name)], .ok command⟩)

def get (r : Registry) (name : Value) : Except Error (Option Command) := do
  return (← r.lookup name).map Entry.command

def labels (r : Registry) : Except Error (List String) := do
  r.ensureOpen
  return labelsOf r.table

/-- Whether a value is a label; what is not a string is none. -/
def contains (r : Registry) (name : Value) : Except Error Bool :=
  match name with
  | .str _ => do return (← r.get name).isSome
  | _ => .ok false

/-- The commands of a table, each of them once. -/
def commandsOf (table : List Entry) : List Command :=
  table.foldl (fun seen e =>
    if seen.any fun c => c.serial == e.command.serial then seen else seen ++ [e.command]) []

def commands (r : Registry) : Except Error (List Command) := do
  r.ensureOpen
  return commandsOf r.table

def size (r : Registry) : Except Error Nat := do
  return (← r.commands).length

def unknownFault (label : String) : Fault :=
  Fault.make .unknownCommand (some s!"Unknown command: {label}")
    [("command", .str label), ("index", .int 0), ("token", .str label)]

/-- Runs the command registered under a label; the sender is told if there is none. -/
def dispatch (r : Registry) (label args : Value) (sender : Option Sender) : Reply Bool := do
  match ← Reply.ofExcept (r.get label) with
  | some command => command.onCommand sender label args
  | none =>
    let name := label.str?.getD ""
    let fault := unknownFault name
    Reply.report (.log (.unknownLabel name fault))
    Sender.send sender (.ofOption fault.message)
    return false

def suggest (r : Registry) (label args : Value) (sender : Option Sender) :
    Reply (List String) := do
  match ← Reply.ofExcept (r.get label) with
  | some command => command.onTabComplete sender label args
  | none => return []

/-- The tokens of a line that is given as a value. -/
def lineTokens (line : Value) (isTyped : Bool) : Except Error (List String) :=
  match line with
  | .str s => .ok (if isTyped then Text.typedTokens s else Text.tokens s)
  | _ => .error .lineNotString

def arguments (tokens : List String) : Value := .list (Value.strings tokens)

/-- Runs a line. A blank line does nothing. -/
def execute (r : Registry) (line : Value) (sender : Option Sender) : Reply Bool := do
  match ← Reply.ofExcept (lineTokens line false) with
  | [] => return false
  | label :: args => r.dispatch (.str label) (arguments args) sender

/-- Completes the last token of a line. While that is the label, labels are suggested. -/
def complete (r : Registry) (line : Value) (sender : Option Sender) : Reply (List String) := do
  match ← Reply.ofExcept (lineTokens line true) with
  | label :: arg :: args => r.suggest (.str label) (arguments (arg :: args)) sender
  | tokens =>
    let labels ← Reply.ofExcept r.labels
    return Text.continuations true (String.join tokens) labels

end Registry

end CommandTree
