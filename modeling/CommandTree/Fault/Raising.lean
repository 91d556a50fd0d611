import CommandTree.Fault.Rendering
import CommandTree.Reply

/-!
# Raising faults

A fault is raised unless its option `shell` counts as true; then it is rendered to the error console
and nothing is raised.
-/

namespace CommandTree.Fault

/-- A fault whose message is given as a value; it has to be a string or null. -/
def declare (kind : FaultKind) (message : Value) (given : Bindings Value) : Except Error Fault :=
  match message.strOrNull? with
  | some message => .ok (make kind message given)
  | none => .error .faultMessage

/-- The name that no override can have, since it stands for the fault itself. -/
def reservedName : String := "self"

/-- A copy with overrides that come from a caller. -/
def replaced (f : Fault) (overrides : Bindings Value) : Except Error Fault :=
  if overrides.has reservedName then .error .unsupported else .ok (f.replace overrides)

def errorConsole : String := "stderr"

def raise (host : Host) (f : Fault) : Reply Unit :=
  if (f.option "shell").isTrue then do
    let content ← Reply.ofExcept (f.render host)
    Reply.report (.print errorConsole content)
  else Reply.fail (.fault f)

/-- Raises a copy of a fault with some options overridden. -/
def trigger (host : Host) (value : Value) (overrides : Bindings Value) : Reply Unit :=
  match value with
  | .fault kind message options => do
    let f ← Reply.ofExcept ((Fault.mk kind message options).replaced overrides)
    f.raise host
  | _ => Reply.fail .notTriggerable

end CommandTree.Fault
