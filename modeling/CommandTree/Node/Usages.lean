import CommandTree.Node
import CommandTree.TokenType.Phrase

/-!
# Usages

The usage lines of a node, one for every executable node below it or the node itself, depth first
and in the order of declaration. A stack of pending nodes, each with the way to it, is worked off
from the top. The lines come one by one, and end early if the usage of a node cannot be told.
-/

namespace CommandTree

/-- Lines that come one after another, and the error that ended them, if one did. -/
structure Listing where
  lines : List String
  error : Option Error

namespace Listing

def empty : Listing := ⟨[], none⟩

def fail (error : Error) : Listing := ⟨[], some error⟩

/-- One more line in front. -/
def push (line : String) (l : Listing) : Listing := ⟨line :: l.lines, l.error⟩

/-- The first line, if there is one. What would come after it is not asked for. -/
def first (l : Listing) : Except Error (Option String) :=
  match l.lines, l.error with
  | line :: _, _ => .ok (some line)
  | [], some e => .error e
  | [], none => .ok none

def all (l : Listing) : Except Error (List String) :=
  match l.error with
  | some e => .error e
  | none => .ok l.lines

end Listing

namespace Node

/-- Nodes that are still to be listed, each with the usages of the nodes above it. -/
abbrev Pending := List (Node × List String)

def countPending (pending : Pending) : Nat := countAll (pending.map Prod.fst)

theorem countAll_append (p q : List Node) : countAll (p ++ q) = countAll p + countAll q := by
  induction p with
  | nil => simp [countAll]
  | cons c rest ih => simp only [List.cons_append, countAll, ih]; omega

theorem countPending_expand (n : Node) (above path : List String) (pending : Pending) :
    countPending (n.children.map (fun c => (c, path)) ++ pending) <
      countPending ((n, above) :: pending) := by
  simp only [countPending, List.map_append, List.map_map, Function.comp_def, List.map_id',
    countAll_append, List.map_cons, countAll, count_eq n]
  omega

/-- The usage lines of all pending nodes. -/
def usagesOf : Pending → Listing
  | [] => .empty
  | (n, path) :: pending =>
    match n.usage with
    | .error e => .fail e
    | .ok usage =>
      let path := path ++ [usage]
      let rest := usagesOf (n.children.map (fun c => (c, path)) ++ pending)
      if n.isExecutable then rest.push (joined path) else rest
termination_by pending => countPending pending
decreasing_by exact countPending_expand _ _ _ _

/-- The usage lines of a node. -/
def usages (n : Node) : Listing := usagesOf [(n, [])]

end Node

end CommandTree
