/-!
# Outcomes

How an execution ended: it is pending until an executor has run to its end or the walk has halted.
-/

namespace CommandTree

inductive Outcome where
  | pending
  | executed
  | failed
  deriving DecidableEq, Repr

namespace Outcome

def name : Outcome → String
  | pending => "PENDING"
  | executed => "EXECUTED"
  | failed => "FAILED"

def number : Outcome → Int
  | pending => 0
  | executed => 1
  | failed => 2

def all : List Outcome := [pending, executed, failed]

def ofName? (name : String) : Option Outcome := all.find? fun o => o.name == name

theorem mem_all (o : Outcome) : o ∈ all := by cases o <;> decide

@[simp] theorem ofName?_name (o : Outcome) : ofName? o.name = some o := by cases o <;> decide

end Outcome

end CommandTree
