import CommandTree.Requirement
import CommandTree.Run
import CommandTree.TokenType

/-!
# Nodes

A place in the grammar of a command: a name, a type of tokens, the requirements to go past it, what
to run if the command may end there, and the nodes that may follow, whose names differ. Two nodes
that are alike are told apart by their serial numbers.
-/

namespace CommandTree

inductive Node where
  | mk (serial : Nat) (name : String) (type : TokenType) (requirements : List Requirement)
    (executor : Option Executor) (children : List Node)

namespace Node

def serial : Node → Nat
  | mk serial .. => serial

def name : Node → String
  | mk _ name .. => name

def type : Node → TokenType
  | mk _ _ type .. => type

def requirements : Node → List Requirement
  | mk _ _ _ requirements .. => requirements

def executor : Node → Option Executor
  | mk _ _ _ _ executor _ => executor

def children : Node → List Node
  | mk _ _ _ _ _ children => children

def isExecutable (n : Node) : Bool := n.executor.isSome

mutual

/-- The number of nodes of a tree. -/
def count : Node → Nat
  | mk _ _ _ _ _ children => countAll children + 1

def countAll : List Node → Nat
  | [] => 0
  | c :: rest => count c + countAll rest

end

theorem count_eq (n : Node) : n.count = countAll n.children + 1 := by
  cases n
  rfl

theorem count_le_of_mem {child : Node} {nodes : List Node} (h : child ∈ nodes) :
    child.count ≤ countAll nodes := by
  induction nodes with
  | nil => simp at h
  | cons c rest ih =>
    rw [countAll]
    rcases List.mem_cons.1 h with rfl | h
    · omega
    · have := ih h
      omega

theorem count_lt_of_mem {child n : Node} (h : child ∈ n.children) : child.count < n.count := by
  have := count_le_of_mem h
  rw [count_eq n]
  omega

/-- The node's own part of a usage line. -/
def usage (n : Node) : Except Error String := n.type.usage n.name

/-- The children of that name; there is at most one. -/
def child (n : Node) (name : Value) : Except Error Node :=
  match n.children.find? fun c => name.equal (.str c.name) with
  | some c => .ok c
  | none => .error (.noChild name)

/-- A node out of parts of which some may not be what they have to be. -/
def assemble (serial : Nat) (name : Value) (type : Option TokenType)
    (requirements : List (Option Requirement)) (executor : Handed Executor)
    (children : List (Option Node)) : Except Error Node := do
  let name ← match name with
    | .str s => if Text.isWord s then .ok s else .error (.unmet .node "name" .word)
    | _ => .error (.unmet .node "name" .string)
  let some type := type | throw (.unmet .node "type" .argumentType)
  let some requirements := requirements.mapM id | throw (.unmet .node "requirements" .requirements)
  let executor ← match executor with
    | .nothing => .ok none
    | .callable run => .ok (some run)
    | .other => .error (.unmet .node "executor" .callable)
  let some children := children.mapM id | throw (.unmet .node "children" .nodes)
  if (children.map Node.name).Nodup then
    return mk serial name type requirements executor children
  else throw (.childNamesRepeated name)

def shown (n : Node) : String :=
  let names := showList (n.children.map fun c => Text.quote c.name)
  let count := n.requirements.length
  s!"ArgumentNode(name={Text.quote n.name}, type={n.type.shown}, requirements={count}, " ++
    s!"executable={showBool n.isExecutable}, children={names})"

end Node

end CommandTree
