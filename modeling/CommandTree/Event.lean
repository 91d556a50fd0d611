import CommandTree.Fault
import CommandTree.Value.Shown

/-!
# Events

What happens while a command is run, other than changes to its context: records of the log, what is
printed to a console, and what the functions of a host report about themselves.
-/

namespace CommandTree

/-- A record of the log. The first four come from a walk, the others from the registry. -/
inductive LogRecord where
  | executing (node : String) (tokens : List String)
  | suggesting (suggestions tokens : List String)
  | halting (tokens : List String) (fault : Fault)
  | restoring (type : String)
  | registered (command : String) (labels : List String)
  | unregistered (command : String)
  | unknownLabel (label : String) (fault : Fault)

namespace LogRecord

def isFromWalk : LogRecord → Bool
  | executing .. | suggesting .. | halting .. | restoring _ => true
  | registered .. | unregistered _ | unknownLabel .. => false

/-- Only a type that does not keep its promise is worth a warning. -/
def isWarning : LogRecord → Bool
  | restoring _ => true
  | _ => false

def faultText (f : Fault) : String := f.headline.str?.getD ""

def text : LogRecord → String
  | executing node tokens => s!"executing {Text.quote node} for {showStrings tokens}"
  | suggesting suggestions tokens =>
    s!"suggesting {showStrings suggestions} for {showStrings tokens}"
  | halting tokens fault => s!"halting {showStrings tokens}: {faultText fault}"
  | restoring type => s!"{type} changed the tokens on a failed parse, restoring them"
  | registered command labels => s!"registered {Text.quote command} under {showStrings labels}"
  | unregistered command => s!"unregistered {Text.quote command}"
  | unknownLabel label fault => s!"no command for {Text.quote label}: {faultText fault}"

end LogRecord

inductive Event where
  | log (record : LogRecord)
  | print (console : String) (content : Printed)
  /-- A report of a function of the host. -/
  | note (tag : String) (details : List Value)

end CommandTree
