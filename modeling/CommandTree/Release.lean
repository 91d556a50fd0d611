/-!
# The release

What the library says about itself: its title and version, and the names it makes public.
-/

namespace CommandTree

structure Version where
  major : Nat
  minor : Nat
  micro : Nat
  level : String
  serial : Nat
  metadata : String
  deriving DecidableEq, Repr

namespace Release

def title : String := "argtree"
def version : Version := ⟨0, 0, 0, "final", 0, ""⟩

def versionText (v : Version) : String := s!"{v.major}.{v.minor}.{v.micro}"

/-- The public names in alphabetical order, capitals first. -/
def exports : List String :=
  ["ArgumentBuilder", "ArgumentNode", "ArgumentType", "Boolean", "Choice", "Command",
    "CommandBuilder", "CommandFault", "ConsoleSender", "Context", "DEFAULT_CEILING",
    "DispatchExhausted", "Dispatcher", "Err", "ExecutionContext", "FaultCode", "Float", "Greedy",
    "INT_MAX", "INT_MIN", "IncompleteCommand", "Integer", "Literal", "Ok", "Outcome",
    "ParseError", "Phrase", "Registry", "Requirement", "RequirementFailure", "Result", "Sender",
    "SuggestionContext", "UnknownCommand", "Word", "__author__", "__license__", "__path__",
    "__title__", "__version__", "argument", "autofail", "command", "getdoc", "literal",
    "permission", "strict", "trigger", "version_info"]

end Release

end CommandTree
