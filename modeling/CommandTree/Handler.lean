import CommandTree.Fault.Raising
import CommandTree.Run

/-!
# Failure handlers

Two ways to deal with a fault that halted an execution: to send its message to the sender, or to
raise it. Both stay silent while something is being completed.
-/

namespace CommandTree

/-- Sends a message to the sender, unless there is none to send. -/
def forward (context : Context) (message : Value) : Reply Unit :=
  match message with
  | .null => pure ()
  | message => if context.isCompletion then pure () else Sender.send context.sender message

def autofail : Handler := fun context message =>
  (forward context (.ofOption message)).runWith context fun _ => .done context

/-- Raises the fault of the context. -/
def raiseFault (host : Host) (context : Context) : Reply Unit :=
  match context.fault with
  | some fault => if context.isCompletion then pure () else Fault.trigger host fault.toValue []
  | none => pure ()

def strict (host : Host) : Handler := fun context _ =>
  (raiseFault host context).runWith context fun _ => .done context

end CommandTree
