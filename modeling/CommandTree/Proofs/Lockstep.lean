import Mathlib.Data.List.Forall2
import CommandTree.Proofs.Trail

/-!
# Walks in lockstep

How two walks are compared, on two trees or for two calls: if every turn of the one is matched by a
turn of the other, the whole walk is (`Trail.keep_up`). What a turn reports comes from the
requirements of the node and from the children that are given the tokens (`turn_events`), and these
are all children up to the first one that does not refuse (`tried`).
-/

namespace CommandTree

/-- The children that are given the tokens. -/
def tried (tokens : List String) : List Node → List Node
  | [] => []
  | child :: more =>
    match (child.type.parse tokens).answer with
    | .ok (.err _) => child :: tried tokens more
    | _ => [child]

/-- What is reported of a child that is given the tokens. -/
def trialEvents (tokens : List String) (child : Node) : List Event :=
  let attempt := child.type.parse tokens
  match attempt.answer with
  | .ok (.err _) => attempt.events ++ restoring child tokens attempt
  | _ => attempt.events

/-- A selection reports what the children do that are given the tokens, and nothing else. -/
theorem select_events (tokens : List String) (last : String) (children : List Node) :
    (select tokens last children).events =
      (tried tokens children).flatMap (trialEvents tokens) := by
  induction children generalizing last with
  | nil => rfl
  | cons child more ih =>
    rw [select, tried]
    cases h : (child.type.parse tokens).answer with
    | error e => simp [trialEvents, h]
    | ok answer =>
      cases answer with
      | err message => simp [trialEvents, h, ih]
      | ok value | other value => simp [trialEvents, h]

namespace Walk

variable {mode : Mode} {root root' : Node} {s t : State}

/-- The children that are given the tokens in a turn. -/
def consulted (mode : Mode) (s : State) : List Node :=
  match (Requirement.firstUnmet s.context s.place.node.requirements).result with
  | .ok none =>
    if mode.reserve < s.place.tokens.length then tried s.place.tokens s.place.node.children else []
  | _ => []

theorem proceed_events :
    (proceed mode root s).events =
      if mode.reserve < s.place.tokens.length then
        (select s.place.tokens "" s.place.node.children).events
      else [] := by
  have selecting (tokens : List String) :
      (Turn.ofReply (select tokens "" s.place.node.children) fun selection =>
        ⟨[], pick mode root s selection.reading⟩).events =
      (select tokens "" s.place.node.children).events := by
    simp only [Turn.ofReply]
    cases (select tokens "" s.place.node.children).result <;> simp
  obtain ⟨⟨node, index, tokens⟩, path, context⟩ := s
  cases tokens with
  | nil =>
    cases mode with
    | execution =>
      simp only [proceed]
      cases node.executor <;> rfl
    | completion => rfl
  | cons token more =>
    cases mode with
    | execution => exact selecting (token :: more)
    | completion =>
      cases more with
      | nil => rfl
      | cons second more => exact selecting (token :: second :: more)

/-- A turn reports what the requirements do, and then what the children do that are given the
tokens. -/
theorem turn_events :
    (turn mode root s).events =
      (Requirement.firstUnmet s.context s.place.node.requirements).events ++
        (consulted mode s).flatMap (trialEvents s.place.tokens) := by
  simp only [turn, Turn.ofReply, consulted]
  cases h : (Requirement.firstUnmet s.context s.place.node.requirements).result with
  | error e => simp
  | ok unmet =>
    cases unmet with
    | some r => simp
    | none =>
      simp only [proceed_events, select_events]
      split <;> simp

/-- Every turn of a walk that comes to an ending is matched by a turn of another walk, which comes
to an ending of its own. The states of the two walks, what they read and what they report are
related. -/
structure KeepsUp (mode : Mode) (root root' : Node) (Same : State → State → Prop)
    (Alike : Reading → Reading → Prop) (Told : List Event → List Event → Prop)
    (ending ending' : Ending) : Prop where
  onward : ∀ {s t r}, Same s t → Takes mode root s (.onward r) →
    Told (turn mode root s).events (turn mode root' t).events ∧
      ∃ r', Takes mode root' t (.onward r') ∧ Alike r r' ∧ Same (s.read r) (t.read r')
  finish : ∀ {s t}, Same s t → Takes mode root s (.finish ending) →
    Told (turn mode root s).events (turn mode root' t).events ∧
      Takes mode root' t (.finish ending')
  append : ∀ {xs ys xs' ys'}, Told xs ys → Told xs' ys' → Told (xs ++ xs') (ys ++ ys')

variable {Same : State → State → Prop} {Alike : Reading → Reading → Prop}
  {Told : List Event → List Event → Prop} {ending ending' : Ending} {rs : List Reading}

/-- If every turn is matched, the walk is. -/
theorem Trail.keep_up (keeps : KeepsUp mode root root' Same Alike Told ending ending')
    (same : Same s t) (trail : Trail mode root s rs ending) :
    ∃ rs', Trail mode root' t rs' ending' ∧ List.Forall₂ Alike rs rs' ∧
      Same (s.readAll rs) (t.readAll rs') ∧
      Told (reported mode root s rs) (reported mode root' t rs') := by
  induction trail generalizing t with
  | finish takes =>
    obtain ⟨told, takes'⟩ := keeps.finish same takes
    exact ⟨[], .finish takes', .nil, same, told⟩
  | onward takes _ ih =>
    obtain ⟨told, r', takes', alike, next⟩ := keeps.onward same takes
    obtain ⟨rs', trail', all, last, later⟩ := ih keeps next
    exact ⟨r' :: rs', .onward takes' trail', .cons alike all, last, keeps.append told later⟩

end Walk

end CommandTree
