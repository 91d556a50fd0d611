/-!
# Styled text

A text with a style of its own and spans of other styles over parts of it. Positions count
characters. The controls that would move a terminal's cursor are dropped from every text.
-/

namespace CommandTree

structure Span where
  start : Nat
  stop : Nat
  style : String
  deriving DecidableEq, Repr

structure Styled where
  plain : String
  style : String
  spans : List Span
  deriving DecidableEq, Repr

/-- Bell, backspace, vertical tab, form feed and carriage return. -/
def movesCursor (c : Char) : Bool :=
  [7, 8, 11, 12, 13].contains c.toNat

def withoutControls (s : String) : String :=
  String.ofList (s.toList.filter fun c => !movesCursor c)

namespace Styled

def ofText (text : String) (style : String) : Styled :=
  ⟨withoutControls text, style, []⟩

def plainText (text : String) : Styled := ofText text ""

def isEmpty (t : Styled) : Bool := t.plain.isEmpty

/-- A span over the whole text for its own style, if it has one. -/
def ownSpan (t : Styled) : List Span :=
  if t.style.isEmpty then [] else [⟨0, t.plain.length, t.style⟩]

def shift (offset : Nat) (s : Span) : Span :=
  ⟨s.start + offset, s.stop + offset, s.style⟩

/-- Appends a text, whose own style becomes a span. Appending an empty text changes nothing. -/
def append (t u : Styled) : Styled :=
  if u.isEmpty then t
  else ⟨t.plain ++ u.plain, t.style, t.spans ++ (u.ownSpan ++ u.spans).map (shift t.plain.length)⟩

/-- The parts one after another in a text without a style of its own. -/
def assemble (parts : List Styled) : Styled :=
  parts.foldl append ⟨"", "", []⟩

end Styled

/-- What is printed: a text, texts below one another, or such a group in a frame with a title. -/
inductive Printed where
  | text (content : Styled)
  | group (lines : List Styled)
  | panel (lines : List Styled) (title : Styled) (align : String)
  deriving DecidableEq, Repr

end CommandTree
