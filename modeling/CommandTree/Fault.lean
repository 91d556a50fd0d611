import CommandTree.Value

/-!
# Faults

A fault is a message, which may be missing, with options that say where and why a walk halted. Code
and title are options too: those of the kind, unless others are given. A copy overrides options and
keeps the rest.
-/

namespace CommandTree

structure Fault where
  kind : FaultKind
  message : Option String
  options : Bindings Value

namespace Fault

/-- The options that every fault of a kind has. -/
def defaults (kind : FaultKind) : Bindings Value :=
  [("code", kind.code?.elim .null .code), ("title", .str kind.title)]

/-- A fault with the options given and the defaults of its kind. -/
def make (kind : FaultKind) (message : Option String) (given : Bindings Value) : Fault :=
  ⟨kind, message, (defaults kind).overlay given⟩

def option? (f : Fault) (name : String) : Option Value := f.options.get? name

/-- The option, or null when there is none of that name. -/
def option (f : Fault) (name : String) : Value := (f.option? name).getD .null

def code (f : Fault) : Value := f.option "code"
def title (f : Fault) : Value := f.option "title"

/-- What a fault says: its message, or its title when the message is missing or empty. -/
def headline (f : Fault) : Value :=
  match f.message with
  | some m => if m.isEmpty then f.title else .str m
  | none => f.title

/-- A copy of the fault with some options overridden. -/
def replace (f : Fault) (overrides : Bindings Value) : Fault :=
  make f.kind f.message (f.options.overlay overrides)

def toValue (f : Fault) : Value := .fault f.kind f.message f.options

/-- Whether the fault is of a kind or of a special case of it. -/
def isA (f : Fault) (kind : FaultKind) : Bool := f.kind.ancestors.contains kind

end Fault

end CommandTree
