import CommandTree.Bindings
import CommandTree.Fault.Kind
import CommandTree.Number.Binary64
import CommandTree.Outcome
import CommandTree.Styled

/-!
# Values

What an argument can be bound to, a fault can carry and a sender can be sent. Argument types and
hosts choose their values freely, so there is one type of values for all of them.
-/

namespace CommandTree

inductive Value where
  | null
  | bool (b : Bool)
  | int (n : Int)
  | float (x : Binary64)
  | str (s : String)
  | list (items : List Value)
  | tuple (items : List Value)
  /-- Keys with values in the order of insertion; a sealed one cannot be changed. -/
  | map (isSealed : Bool) (entries : List (Value × Value))
  | set (isSealed : Bool) (items : List Value)
  | code (code : FaultCode)
  | outcome (outcome : Outcome)
  | text (text : Styled)
  | fault (kind : FaultKind) (message : Option String) (options : List (String × Value))
  | ok (value : Value)
  | err (message : String)
  /-- The mark of a value that was not given. -/
  | unset
  /-- Anything else, by the name of its class and the way it is shown. -/
  | object (className : String) (form : String)

namespace Value

instance : Inhabited Value := ⟨null⟩

def str? : Value → Option String
  | str s => some s
  | _ => none

/-- A string, or null. -/
def strOrNull? : Value → Option (Option String)
  | null => some none
  | str s => some (some s)
  | _ => none

/-- A whole number that is not a truth value. -/
def int? : Value → Option Int
  | int n => some n
  | code c => some c.number
  | outcome o => some o.number
  | _ => none

/-- Whether a value counts as true: numbers but zero, and whatever is not empty. -/
def isTrue : Value → Bool
  | null => false
  | bool b => b
  | int n => n != 0
  | float x => !x.isZero
  | str s => !s.isEmpty
  | list items | tuple items => !items.isEmpty
  | map _ entries => !entries.isEmpty
  | set _ items => !items.isEmpty
  | code _ => true
  | outcome o => o.number != 0
  | text t => !t.isEmpty
  | fault .. => true
  | ok _ => true
  | err _ => false
  | unset => false
  | object .. => true

/-- What going through a value yields, if one can go through it; a string is taken apart into its
characters, and so is a text. -/
def elements? : Value → Option (List Value)
  | list items | tuple items => some items
  | set _ items => some items
  | map _ entries => some (entries.map Prod.fst)
  | str s => some (s.toList.map fun c => str (String.singleton c))
  | text t => some (t.plain.toList.map fun c => text (.plainText (String.singleton c)))
  | _ => none

/-- The name of the class of a value. -/
def className : Value → String
  | null => "NoneType"
  | bool _ => "bool"
  | int _ => "int"
  | float _ => "float"
  | str _ => "str"
  | list _ => "list"
  | tuple _ => "tuple"
  | map isSealed _ => if isSealed then "mappingproxy" else "dict"
  | set isSealed _ => if isSealed then "frozenset" else "set"
  | code _ => "FaultCode"
  | outcome _ => "Outcome"
  | text _ => "Text"
  | fault kind _ _ => kind.name
  | ok _ => "Ok"
  | err _ => "Err"
  | unset => "UnsetType"
  | object name _ => name

/-- A value that stands in for one which was not given. -/
def orElse (value fallback : Value) : Value :=
  match value with
  | unset => fallback
  | value => value

/-- A copy through which the contents of a container cannot be changed. -/
def snapshot : Value → Value
  | list items => tuple items
  | map _ entries => map true entries
  | set _ items => set true items
  | value => value

/-- The flags and marks of a value that counts as true or false. -/
def ofOption : Option String → Value
  | none => null
  | some s => str s

def strings (ss : List String) : List Value := ss.map str

end Value

end CommandTree
