import CommandTree.Requirement
import CommandTree.Value.Compare

/-!
# Conditions

Conditions that are written down as data: on a value, for the check of a type, and on a context, for
a requirement. Comparing values that cannot be compared fails, and so does ordering the value of a
name that is not bound. For equality such a name has the value null.
-/

namespace CommandTree

/-- A condition on a value. -/
inductive ValueCondition where
  | remainder (divisor result : Value)
  | below (bound : Value)
  | above (bound : Value)
  | different (other : Value)
  | constant (result : Value)
  | raising (message : String)

namespace ValueCondition

def holds (v : Value) : ValueCondition → Except Error Bool
  | remainder divisor result => do return (← v.modulo divisor).equal result
  | below bound => v.less bound
  | above bound => bound.less v
  | different other => .ok !(v.equal other)
  | constant result => .ok result.isTrue
  | raising message => .error (.host message)

def toCheck (c : ValueCondition) : Check :=
  ⟨.object "Predicate" "<predicate>", fun v => c.holds v⟩

end ValueCondition

/-- A condition on a context. -/
inductive Condition where
  | constant (result : Value)
  | below (name : String) (bound : Value)
  | above (name : String) (bound : Value)
  | equal (name : String) (other : Value)
  | isBound (name : String)
  | hasLabel (label : Value)
  | hasArgs (count : Value)
  | completing (expected : Bool)
  | raising (message : String)

namespace Condition

def holds (c : Context) : Condition → Except Error Bool
  | constant result => .ok result.isTrue
  | below name bound => do (← c.item name).less bound
  | above name bound => do bound.less (← c.item name)
  | equal name other => .ok (((c.get? name).getD .null).equal other)
  | isBound name => .ok (c.get? name).isSome
  | hasLabel label => .ok (label.equal (.str c.label))
  | hasArgs count => .ok (count.equal (.int c.args.length))
  | completing expected => .ok (c.isCompletion == expected)
  | raising message => .error (.host message)

/-- The test of a condition. If it has an id, its result is reported under that. -/
def test (condition : Condition) (id : Option Value) (context : Context) : Reply Bool :=
  match condition.holds context, id with
  | .ok b, some id => ⟨[.note "require" [id, .bool b]], .ok b⟩
  | result, _ => ⟨[], result⟩

end Condition

end CommandTree
