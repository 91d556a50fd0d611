import CommandTree.Number.Decimal
import CommandTree.Text.Quoted
import CommandTree.Value

/-!
# Values as text

A value is shown inside other values with its strings quoted; on its own, a string is shown as it
is, and so is a styled text.
-/

namespace CommandTree

/-- Texts with commas between them. -/
def commaSeparated (parts : List String) : String := ", ".intercalate parts

def showFloat (x : Binary64) : String := Decimal.text Decimal.valueLayout x

def showBool (b : Bool) : String := if b then "True" else "False"

/-- A tuple of one element keeps a comma to tell it from a value in brackets. -/
def showTuple (parts : List String) : String :=
  match parts with
  | [part] => s!"({part},)"
  | parts => s!"({commaSeparated parts})"

def showStrings (ss : List String) : String := showTuple (ss.map Text.quote)

def showList (parts : List String) : String := s!"[{commaSeparated parts}]"

def inBraces (body : String) : String := "\x7b" ++ body ++ "\x7d"

def showMap (isSealed : Bool) (entries : List String) : String :=
  let body := inBraces (commaSeparated entries)
  if isSealed then s!"mappingproxy({body})" else body

def showSet (isSealed : Bool) (parts : List String) : String :=
  let body := if parts.isEmpty then "" else inBraces (commaSeparated parts)
  if isSealed then s!"frozenset({body})"
  else if parts.isEmpty then "set()" else body

def showSpan (s : Span) : String := s!"Span({s.start}, {s.stop}, {Text.quote s.style})"

def showStyled (t : Styled) : String :=
  s!"<text {Text.quote t.plain} {showList (t.spans.map showSpan)} {Text.quote t.style}>"

def FaultCode.shown (c : FaultCode) : String := s!"<FaultCode.{c.name}: {c.number}>"

def Outcome.shown (o : Outcome) : String := s!"<Outcome.{o.name}: {o.number}>"

def showOption : Option String → String
  | none => "None"
  | some s => Text.quote s

namespace Value

mutual

/-- A value as it is shown inside other values. -/
def shown : Value → String
  | null => "None"
  | bool b => showBool b
  | int n => toString n
  | float x => showFloat x
  | str s => Text.quote s
  | list items => showList (shownAll items)
  | tuple items => showTuple (shownAll items)
  | map isSealed entries => showMap isSealed (shownEntries entries)
  | set isSealed items => showSet isSealed (shownAll items)
  | code c => c.shown
  | outcome o => o.shown
  | text t => showStyled t
  | fault kind message _ => s!"{kind.name}({showOption message})"
  | ok value => s!"Ok({shown value})"
  | err message => s!"Err({Text.quote message})"
  | unset => "Unset"
  | object _ form => form

def shownAll : List Value → List String
  | [] => []
  | v :: rest => shown v :: shownAll rest

def shownEntries : List (Value × Value) → List String
  | [] => []
  | (k, v) :: rest => (shown k ++ ": " ++ shown v) :: shownEntries rest

end

/-- Names with values, as they are shown in a call. -/
def shownFields (fields : List (String × Value)) : String :=
  commaSeparated (fields.map fun f => s!"{f.1}={f.2.shown}")

end Value

end CommandTree
