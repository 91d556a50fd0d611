/-!
# Kinds and codes of faults

The taxonomy of faults. A parse error is also an exhausted dispatch, and every fault is a command
fault (`ancestors`). Codes are stable numbers; those of the traversal, of the gates and of the
routing lie in separate hundreds.
-/

namespace CommandTree

inductive FaultCode where
  | parseError
  | dispatchExhausted
  | incompleteCommand
  | requirementFailure
  | unknownCommand
  deriving DecidableEq, Repr

namespace FaultCode

def name : FaultCode → String
  | parseError => "PARSE_ERROR"
  | dispatchExhausted => "DISPATCH_EXHAUSTED"
  | incompleteCommand => "INCOMPLETE_COMMAND"
  | requirementFailure => "REQUIREMENT_FAILURE"
  | unknownCommand => "UNKNOWN_COMMAND"

def number : FaultCode → Int
  | parseError => 20101
  | dispatchExhausted => 20102
  | incompleteCommand => 20103
  | requirementFailure => 20201
  | unknownCommand => 20301

def all : List FaultCode :=
  [parseError, dispatchExhausted, incompleteCommand, requirementFailure, unknownCommand]

def ofName? (name : String) : Option FaultCode := all.find? fun c => c.name == name

theorem mem_all (c : FaultCode) : c ∈ all := by cases c <;> decide

@[simp] theorem ofName?_name (c : FaultCode) : ofName? c.name = some c := by cases c <;> decide

end FaultCode

inductive FaultKind where
  | commandFault
  | parseError
  | requirementFailure
  | dispatchExhausted
  | incompleteCommand
  | unknownCommand
  deriving DecidableEq, Repr

namespace FaultKind

def name : FaultKind → String
  | commandFault => "CommandFault"
  | parseError => "ParseError"
  | requirementFailure => "RequirementFailure"
  | dispatchExhausted => "DispatchExhausted"
  | incompleteCommand => "IncompleteCommand"
  | unknownCommand => "UnknownCommand"

/-- The code that faults of the kind have unless they are given another. -/
def code? : FaultKind → Option FaultCode
  | commandFault => none
  | parseError => some .parseError
  | requirementFailure => some .requirementFailure
  | dispatchExhausted => some .dispatchExhausted
  | incompleteCommand => some .incompleteCommand
  | unknownCommand => some .unknownCommand

/-- The title that faults of the kind have unless they are given another. -/
def title : FaultKind → String
  | commandFault => "command fault"
  | parseError => "invalid argument"
  | requirementFailure => "requirement not met"
  | dispatchExhausted => "no matching argument"
  | incompleteCommand => "incomplete command"
  | unknownCommand => "unknown command"

/-- The kind itself and those it is a special case of. -/
def ancestors : FaultKind → List FaultKind
  | commandFault => [commandFault]
  | parseError => [parseError, dispatchExhausted, commandFault]
  | kind => [kind, commandFault]

def all : List FaultKind :=
  [commandFault, parseError, requirementFailure, dispatchExhausted, incompleteCommand,
    unknownCommand]

def ofName? (name : String) : Option FaultKind := all.find? fun k => k.name == name

theorem mem_all (k : FaultKind) : k ∈ all := by cases k <;> decide

@[simp] theorem ofName?_name (k : FaultKind) : ofName? k.name = some k := by cases k <;> decide

end FaultKind

end CommandTree
