import CommandTree.Proofs.Lockstep

/-!
# Trees with other parts

A tree in which other types of tokens and other executors stand in for those that are there. As long
as the types read the same (`Recast`), a walk takes the same turns in both trees (`Takes.recast`),
reads the same and comes to the same ending, up to the executor that is entered (`Trail.recast`).
What the stand-ins do besides is none of the walk's business.
-/

namespace CommandTree

/-- Types that stand in for others, which read the same values from the same tokens, offer the same
texts and are shown the same, and executors that stand in for others. -/
structure Recast where
  type : TokenType → TokenType
  executor : Executor → Executor
  shown : ∀ t, (type t).shown = t.shown
  usage : ∀ t name, (type t).usage name = t.usage name
  answer : ∀ t tokens, ((type t).parse tokens).answer = (t.parse tokens).answer
  rest : ∀ t tokens value, (t.parse tokens).answer = .ok (.ok value) →
    ((type t).parse tokens).rest = (t.parse tokens).rest
  offer : ∀ t c, (type t).offer c = t.offer c

variable (k : Recast)

namespace Node

mutual

/-- The same tree with stand-ins. -/
def recast (k : Recast) : Node → Node
  | mk serial name type requirements executor children =>
    mk serial name (k.type type) requirements (executor.map k.executor) (recastAll k children)

def recastAll (k : Recast) : List Node → List Node
  | [] => []
  | c :: rest => recast k c :: recastAll k rest

end

variable (n : Node)

theorem recastAll_eq_map (nodes : List Node) : recastAll k nodes = nodes.map (recast k) := by
  induction nodes with
  | nil => rfl
  | cons c rest ih => rw [recastAll, ih, List.map_cons]

@[simp] theorem name_recast : (n.recast k).name = n.name := by cases n; rfl

@[simp] theorem type_recast : (n.recast k).type = k.type n.type := by cases n; rfl

@[simp] theorem requirements_recast : (n.recast k).requirements = n.requirements := by cases n; rfl

@[simp] theorem executor_recast : (n.recast k).executor = n.executor.map k.executor := by
  cases n; rfl

@[simp] theorem children_recast : (n.recast k).children = n.children.map (recast k) := by
  cases n
  exact recastAll_eq_map k _

@[simp] theorem usage_recast : (n.recast k).usage = n.usage := by
  simp only [usage, type_recast, name_recast, k.usage]

@[simp] theorem hasUsage_recast : (n.recast k).HasUsage ↔ n.HasUsage := by
  simp [HasUsage]

@[simp] theorem isExecutable_recast : (n.recast k).isExecutable = n.isExecutable := by
  simp [isExecutable]

theorem usagesOf_recast (pending : Pending) :
    usagesOf (pending.map fun p => (p.1.recast k, p.2)) = usagesOf pending := by
  induction pending using usagesOf.induct with
  | case1 => simp [usagesOf]
  | case2 n above pending e untold =>
    rw [List.map_cons, usagesOf_cons, usagesOf_cons, usage_recast, untold]
  | case3 n above pending usage told path executable ih
  | case4 n above pending usage told path executable ih =>
    rw [List.map_append, List.map_map] at ih
    rw [List.map_cons, usagesOf_cons, usagesOf_cons, usage_recast, told]
    simp only [ownLine, isExecutable_recast, expand, children_recast, List.map_map]
    exact congrArg (Listing.ofLines _ ++ ·) ih

@[simp] theorem usages_recast : (n.recast k).usages = n.usages := usagesOf_recast k [(n, [])]

end Node

/-- What is read in a tree, read in the one with stand-ins. -/
def Reading.recast (k : Recast) (r : Reading) : Reading := { r with child := r.child.recast k }

@[simp] theorem bindingsOf_recast (rs : List Reading) :
    bindingsOf (rs.map (Reading.recast k)) = bindingsOf rs := by
  simp [bindingsOf, Reading.recast]

@[simp] theorem Context.bindAll_recast (c : Context) (rs : List Reading) :
    c.bindAll (rs.map (Reading.recast k)) = c.bindAll rs := by
  rw [bindAll, bindingsOf_recast]
  rfl

@[simp] theorem Node.after_recast (n : Node) (rs : List Reading) :
    (n.recast k).after (rs.map (Reading.recast k)) = (n.after rs).recast k := by
  induction rs generalizing n with
  | nil => rfl
  | cons r rs ih => exact ih r.child

section Selection

variable {tokens : List String} (children : List Node)

theorem tried_recast :
    tried tokens (children.map (Node.recast k)) =
      (tried tokens children).map (Node.recast k) := by
  induction children with
  | nil => rfl
  | cons child more ih =>
    simp only [List.map_cons, tried, Node.type_recast, k.answer, ih]
    split <;> rfl

theorem choose_recast (last : String) :
    choose tokens last (children.map (Node.recast k)) =
      (choose tokens last children).map (Except.map (Reading.recast k)) := by
  induction children generalizing last with
  | nil => rfl
  | cons child more ih =>
    simp only [List.map_cons, choose_cons, Node.type_recast, k.answer, k.shown]
    cases h : (child.type.parse tokens).answer with
    | error e => rfl
    | ok answer =>
      cases answer with
      | ok value =>
        simp only [k.rest _ _ _ h]
        rfl
      | err message => exact ih message
      | other value => rfl

theorem FirstToRead.recast {children : List Node} {r : Reading}
    (first : FirstToRead children tokens r) :
    FirstToRead (children.map (Node.recast k)) tokens (r.recast k) := by
  have chosen : choose tokens "" (children.map (Node.recast k)) = .ok (.ok (r.recast k)) := by
    rw [choose_recast, choose_reading_iff.2 first]
    rfl
  exact choose_reading_iff.1 chosen

end Selection

@[simp] theorem Node.admits_recast {n : Node} {c : Context} :
    (n.recast k).Admits c ↔ n.Admits c := by
  simp [Node.Admits]

/-- The same place in the tree with stand-ins. -/
def Position.recast (k : Recast) (place : Position) : Position :=
  { place with node := place.node.recast k }

section

variable (place : Position)

@[simp] theorem Position.node_recast : (place.recast k).node = place.node.recast k := rfl
@[simp] theorem Position.index_recast : (place.recast k).index = place.index := rfl
@[simp] theorem Position.tokens_recast : (place.recast k).tokens = place.tokens := rfl

end

namespace Walk

variable {mode : Mode} {root : Node} {s : State}

section Faults

variable (root : Node) (place : Position)

@[simp] theorem hint_recast (path : List String) (n : Node) :
    hint path (n.recast k) = hint path n := by
  simp [hint]

@[simp] theorem requirementFault_recast (message : Value) :
    requirementFault (root.recast k) (place.recast k) message =
      requirementFault root place message := by
  simp [requirementFault]

@[simp] theorem incompleteFault_recast (shown : Value) :
    incompleteFault (root.recast k) (place.recast k) shown = incompleteFault root place shown := by
  simp [incompleteFault]

@[simp] theorem exhaustedFault_recast (message token : String) (hints : Bindings Value) :
    exhaustedFault (root.recast k) (place.recast k) message token hints =
      exhaustedFault root place message token hints := by
  simp [exhaustedFault, exhaustedKind]

end Faults

/-- A walk at the same place of the tree with stand-ins. -/
def State.recast (k : Recast) (s : State) : State := { s with place := s.place.recast k }

@[simp] theorem State.place_recast (s : State) : (s.recast k).place = s.place.recast k := rfl
@[simp] theorem State.path_recast (s : State) : (s.recast k).path = s.path := rfl
@[simp] theorem State.context_recast (s : State) : (s.recast k).context = s.context := rfl

@[simp] theorem State.hints_recast (s : State) (mode : Mode) :
    (s.recast k).hints mode = s.hints mode := by
  cases mode <;> simp [hints]

theorem State.read_recast (s : State) (r : Reading) :
    (s.recast k).read (r.recast k) = (s.read r).recast k := by
  simp [read, recast, advance, Position.recast, Reading.recast]

/-- The same ending in the tree with stand-ins. -/
def Ending.recast (k : Recast) : Ending → Ending
  | entered run => entered (k.executor run)
  | offering token => offering token
  | idle => idle
  | halted fault => halted fault
  | raised e => raised e
  | lost r e => lost (r.recast k) e

/-- The same move in the tree with stand-ins. -/
def Move.recast (k : Recast) : Move → Move
  | onward r => onward (r.recast k)
  | finish ending => finish (ending.recast k)

/-- A turn in the tree with stand-ins does the same. -/
theorem Takes.recast {m : Move} (takes : Takes mode root s m) :
    Takes mode (root.recast k) (s.recast k) (m.recast k) := by
  cases takes with
  | untested h => exact .untested (by simpa using h)
  | unmet h declared => exact .unmet (by simpa using h) (by simpa using declared)
  | unworded h declared => exact .unworded (by simpa using h) (by simpa using declared)
  | entered admits hm ht hx => exact .entered (by simpa using admits) hm ht (by simp [hx])
  | incomplete admits hm ht hx hh =>
    rw [Move.recast, Ending.recast, ← incompleteFault_recast k]
    exact .incomplete (by simpa using admits) hm ht (by simp [hx]) (by simpa using hh)
  | unhinted admits hm ht hx hh =>
    exact .unhinted (by simpa using admits) hm ht (by simp [hx]) (by simpa using hh)
  | idle admits hm ht => exact .idle (by simpa using admits) hm ht
  | offering admits hm ht => exact .offering (by simpa using admits) hm ht
  | chosen admits hr first told =>
    exact .chosen (by simpa using admits) hr (by simpa using first.recast k) (by simpa using told)
  | lost admits hm hr first untold =>
    exact .lost (by simpa using admits) hm hr (by simpa using first.recast k)
      (by simpa using untold)
  | exhausted admits hr ht hc hh =>
    rw [Move.recast, Ending.recast, ← exhaustedFault_recast k]
    exact .exhausted (by simpa using admits) hr ht (by simp [choose_recast, hc, Except.map])
      (by simpa using hh)
  | @exhaustedUnhinted message _ admits hr hc hh =>
    have refused : choose s.place.tokens "" (s.place.node.children.map (Node.recast k)) =
        .ok (.error message) := by simp [choose_recast, hc, Except.map]
    exact .exhaustedUnhinted (by simpa using admits) hr (by simpa using refused) (by simpa using hh)
  | broken admits hr hc =>
    exact .broken (by simpa using admits) hr (by simp [choose_recast, hc, Except.map])

/-- So does the whole walk. -/
theorem Trail.recast {rs : List Reading} {ending : Ending} (trail : Trail mode root s rs ending) :
    Trail mode (root.recast k) (s.recast k) (rs.map (Reading.recast k)) (ending.recast k) := by
  induction trail with
  | finish takes => exact .finish (takes.recast k)
  | onward takes _ ih =>
    rw [← State.read_recast] at ih
    exact .onward (takes.recast k) ih

theorem contribute_recast (child : Node) : contribute (child.recast k) = contribute child := by
  funext c
  simp only [contribute, Node.requirements_recast, Node.type_recast, k.offer]

/-- Unless another executor is entered, an ending stands for the same. -/
theorem conclude_recast (failure : Option Handler) (n : Node) (c : Context) {ending : Ending}
    (same : ∀ run, ending = .entered run → k.executor run = run) :
    conclude failure (n.recast k) c (ending.recast k) = conclude failure n c ending := by
  cases ending with
  | entered run => simp only [Ending.recast, conclude, execute, Node.name_recast, same run rfl]
  | offering token =>
    simp only [Ending.recast, conclude, complete, contributeAll, Node.children_recast,
      List.foldl_map, contribute_recast]
  | idle | halted fault | raised e => rfl
  | lost r e => simp only [Ending.recast, conclude, Reading.recast, Node.name_recast]

theorem consulted_recast (mode : Mode) (s : State) :
    consulted mode (s.recast k) = (consulted mode s).map (Node.recast k) := by
  simp only [consulted, State.place_recast, State.context_recast, Position.node_recast,
    Position.tokens_recast, Node.requirements_recast, Node.children_recast, tried_recast]
  split
  · split <;> rfl
  · rfl

/-- What a turn reports comes from the same requirements, and from the stand-ins of the children
that are given the tokens. -/
theorem turn_events_recast (mode : Mode) (root : Node) (s : State) :
    (turn mode (root.recast k) (s.recast k)).events =
      (Requirement.firstUnmet s.context s.place.node.requirements).events ++
        (consulted mode s).flatMap fun child => trialEvents s.place.tokens (child.recast k) := by
  rw [turn_events, consulted_recast, List.flatMap_map, State.place_recast, State.context_recast,
    Position.node_recast, Position.tokens_recast, Node.requirements_recast]

end Walk

end CommandTree
