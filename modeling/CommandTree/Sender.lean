import CommandTree.Handed
import CommandTree.Reply

/-!
# Senders

A sender is whoever a command is run for. It can be sent messages and asked for permissions; some
senders lack one of the two or both, or have something in its place that cannot be called.
-/

namespace CommandTree

structure Sender where
  name : String
  /-- The way the sender is shown inside other values. -/
  form : String
  send? : Option (Value → Reply Unit)
  permits : Handed (String → Bool)

namespace Sender

/-- Sends a message to a sender that may be absent or not take any. -/
def send (sender : Option Sender) (message : Value) : Reply Unit :=
  match sender.bind Sender.send? with
  | some send => send message
  | none => Reply.fail .noAttribute

/-- What a sender answers when it is asked for a permission, if it can be asked. -/
def ask (sender : Option Sender) (permission : String) : Except Error Bool :=
  match sender.elim .nothing Sender.permits with
  | .callable permits => .ok (permits permission)
  | .nothing => .error .noAttribute
  | .other => .error .unsupported

/-- Whether a sender has a permission; one that cannot be asked has none. -/
def holds (sender : Option Sender) (permission : String) : Bool :=
  match ask sender permission with
  | .ok answer => answer
  | .error _ => false

def shown (sender : Option Sender) : String := sender.elim "None" Sender.form

/-- The name of a sender, in the text of a message. -/
def nameText (sender : Option Sender) : Except Error String :=
  match sender with
  | some s => .ok s.name
  | none => .error .noAttribute

end Sender

end CommandTree
