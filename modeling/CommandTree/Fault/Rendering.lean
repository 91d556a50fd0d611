import CommandTree.Host
import CommandTree.Text.Case

/-!
# Rendering faults

A fault is rendered as a header, which names command, code and title, its message and, if it has
one, its hint. Switches among its options change how that looks: `colorful` styles the parts and
`fancy` puts the header on a frame.
-/

namespace CommandTree

/-- The styles of the parts of a rendered fault. -/
def Host.palette (host : Host) : Bindings String :=
  Bindings.overlay
    [("prog-name", "bold #E6E6F0"), ("code", "bold #00E5FF"), ("error-title", "bold #FF4DA6"),
      ("error-message", "#C8C8D0"), ("hint-arrow", "#9CE19C dim"), ("hint", "italic #9CE19C")]
    host.styles

namespace Fault

/-- An option, or a default when there is none of that name. -/
def optionOr (f : Fault) (name : String) (default : Value) : Value := (f.option? name).getD default

def isColorful (f : Fault) : Bool := (f.optionOr "colorful" (.bool true)).isTrue
def isFancy (f : Fault) : Bool := (f.optionOr "fancy" (.bool false)).isTrue

/-- A part of the rendering in the style of that name. What counts as false is left empty, and a
text keeps the styles it has. -/
def part (f : Fault) (host : Host) (content : Value) (style : String) : Except Error Styled :=
  if !content.isTrue then .ok (.plainText "")
  else match content with
    | .text t => .ok t
    | content => do
      return .ofText (← content.display)
        (if f.isColorful then (host.palette.get? style).getD "" else "")

/-- The code as it is displayed: a question mark without one. An object of the host is asked for its
normal form; no other value has one. -/
def codeText (f : Fault) (host : Host) : Except Error Value :=
  if !f.code.isTrue then .ok (.str "?")
  else match f.code with
    | .code c => do return .str (← host.codeText c)
    | .object className form => host.answer "normalize" (.object className form)
    | _ => .error .noAttribute

/-- The title in title case. An object of the host is asked for its own. A fault has a title of its
own, which is nothing to call; any other value but a string has none. -/
def titleText (f : Fault) (host : Host) : Except Error Value :=
  match f.title with
  | .str s => .ok (.str (Text.title s))
  | .object className form => host.answer "title" (.object className form)
  | .fault .. => .error .unsupported
  | _ => .error .noAttribute

def header (f : Fault) (host : Host) : Except Error Styled := do
  let command ← f.part host (f.optionOr "command" (.str "command")) "prog-name"
  let code ← f.part host (← f.codeText host) "code"
  let title ← f.part host (← f.titleText host) "error-title"
  return .assemble [.plainText "[ ", command, .plainText " - ", code, .plainText " | ", title,
    .plainText " ]"]

/-- The message and, on a line of its own, the hint. -/
def body (f : Fault) (host : Host) : Except Error (List Styled) := do
  let message ← f.part host f.headline "error-message"
  if (f.option "hint").isTrue then
    let arrow ← f.part host (.str " → ") "hint-arrow"
    let hint ← f.part host (f.option "hint") "hint"
    return [message, .assemble [arrow, hint]]
  return [message]

def render (f : Fault) (host : Host) : Except Error Printed := do
  let header ← f.header host
  let body ← f.body host
  return if f.isFancy then .panel body header "left" else .group (header :: body)

end Fault

end CommandTree
