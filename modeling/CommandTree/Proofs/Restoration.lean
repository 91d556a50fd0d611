import CommandTree.Proofs.Consumption
import CommandTree.Proofs.Recasting

/-!
# Refused tokens

A type of a host may change the tokens that it refuses. That has no effect: a walk of the same tree
with types that leave such tokens alone (`Node.tamed`) gives the same tokens to the same children,
reads the same and comes to the same ending (`refused_tokens_are_restored`). All that is left of the
change is a warning in the log.
-/

namespace CommandTree

/-- The same attempt, which leaves the tokens if it refuses them. -/
def Attempt.restored (a : Attempt) (tokens : List String) : Attempt :=
  match a.answer with
  | .ok (.err _) => { a with rest := tokens }
  | _ => a

namespace Attempt

variable (a : Attempt) (tokens : List String)

@[simp] theorem events_restored : (a.restored tokens).events = a.events := by
  unfold restored
  split <;> rfl

@[simp] theorem answer_restored : (a.restored tokens).answer = a.answer := by
  unfold restored
  split <;> rfl

theorem rest_restored_of_err {message : String} (h : a.answer = .ok (.err message)) :
    (a.restored tokens).rest = tokens := by
  simp [restored, h]

theorem rest_restored_of_ok {value : Value} (h : a.answer = .ok (.ok value)) :
    (a.restored tokens).rest = a.rest := by
  simp [restored, h]

end Attempt

namespace TokenType

/-- The same type, which leaves the tokens that it refuses. -/
def tamed : TokenType → TokenType
  | custom t => custom { t with parse := fun tokens => (t.parse tokens).restored tokens }
  | t => t

variable {t : TokenType}

theorem IsBuiltIn.tamed_eq (builtIn : t.IsBuiltIn) : t.tamed = t := by
  cases t with
  | custom => exact builtIn.elim
  | _ => rfl

/-- A built-in type leaves the tokens that it refuses. -/
theorem IsBuiltIn.restored_parse (builtIn : t.IsBuiltIn) (tokens : List String) :
    (t.parse tokens).restored tokens = t.parse tokens := by
  cases treats builtIn tokens with
  | takes _ _ reads => rw [reads]; rfl
  | refuses h | raises h => rw [h]; rfl

@[simp] theorem parse_tamed (t : TokenType) (tokens : List String) :
    t.tamed.parse tokens = (t.parse tokens).restored tokens := by
  by_cases builtIn : t.IsBuiltIn
  · rw [builtIn.tamed_eq, builtIn.restored_parse]
  · cases t with
    | custom t => rfl
    | _ => exact absurd trivial builtIn

@[simp] theorem shown_tamed (t : TokenType) : t.tamed.shown = t.shown := by cases t <;> rfl

@[simp] theorem usage_tamed (t : TokenType) (name : String) :
    t.tamed.usage name = t.usage name := by
  cases t <;> rfl

@[simp] theorem offer_tamed (t : TokenType) (c : Context) : t.tamed.offer c = t.offer c := by
  cases t <;> rfl

end TokenType

/-- Types that leave the tokens they refuse, in place of those that do not. -/
def taming : Recast where
  type := TokenType.tamed
  executor := id
  shown := TokenType.shown_tamed
  usage := TokenType.usage_tamed
  answer := by simp
  rest := by
    intro t tokens value read
    rw [TokenType.parse_tamed, Attempt.rest_restored_of_ok _ _ read]
  offer := TokenType.offer_tamed

/-- The same tree, in which every type leaves the tokens that it refuses. -/
abbrev Node.tamed : Node → Node := Node.recast taming

@[simp] theorem Node.type_tamed (n : Node) : n.tamed.type = n.type.tamed := type_recast taming n

/-- What is read in a tree, read in the tamed one. -/
abbrev Reading.tamed : Reading → Reading := Reading.recast taming

/-- The second events are the first ones with warnings of restored tokens in between. -/
inductive AddsWarnings : List Event → List Event → Prop where
  | nil : AddsWarnings [] []
  | same {first second : List Event} (event : Event) :
      AddsWarnings first second → AddsWarnings (event :: first) (event :: second)
  | warning {first second : List Event} (type : String) :
      AddsWarnings first second → AddsWarnings first (.log (.restoring type) :: second)

namespace AddsWarnings

theorem refl (events : List Event) : AddsWarnings events events := by
  induction events with
  | nil => exact .nil
  | cons event events ih => exact .same event ih

theorem append {first second first' second' : List Event} (h : AddsWarnings first second)
    (h' : AddsWarnings first' second') : AddsWarnings (first ++ first') (second ++ second') := by
  induction h with
  | nil => exact h'
  | same event _ ih => exact .same event ih
  | warning type _ ih => exact .warning type ih

theorem flatMap {α : Type} {f g : α → List Event} (h : ∀ a, AddsWarnings (f a) (g a))
    (as : List α) : AddsWarnings (as.flatMap f) (as.flatMap g) := by
  induction as with
  | nil => exact .nil
  | cons a as ih =>
    rw [List.flatMap_cons, List.flatMap_cons]
    exact (h a).append ih

end AddsWarnings

/-- The children that a selection gives tokens to, each with those that it is given: the tokens as
they are after the refusals before it. -/
def handed (tokens : List String) : List Node → List (Node × List String)
  | [] => []
  | child :: more =>
    let attempt := child.type.parse tokens
    (child, tokens) ::
      match attempt.answer with
      | .ok (.err _) => handed (restore tokens attempt.rest) more
      | _ => []

/-- All of them are given the same tokens. -/
theorem handed_eq (tokens : List String) (children : List Node) :
    handed tokens children = (tried tokens children).map (·, tokens) := by
  induction children with
  | nil => rfl
  | cons child more ih =>
    simp only [handed, tried, restore_eq, ih]
    cases (child.type.parse tokens).answer with
    | error e => rfl
    | ok answer => cases answer <;> rfl

/-- The tamed child does the same, without a warning. -/
theorem trialEvents_tamed (tokens : List String) (child : Node) :
    AddsWarnings (trialEvents tokens child.tamed) (trialEvents tokens child) := by
  simp only [trialEvents, Node.type_tamed, TokenType.parse_tamed, Attempt.answer_restored,
    Attempt.events_restored]
  cases h : (child.type.parse tokens).answer with
  | error e => exact .refl _
  | ok answer =>
    cases answer with
    | ok value | other value => exact .refl _
    | err message =>
      have quiet : restoring child.tamed tokens ((child.type.parse tokens).restored tokens) = [] :=
        if_pos (Attempt.rest_restored_of_err _ _ h)
      have warned : AddsWarnings [] (restoring child tokens (child.type.parse tokens)) := by
        unfold restoring
        split
        · exact .nil
        · exact .warning _ .nil
      rw [quiet]
      exact (AddsWarnings.refl _).append warned

namespace Walk

variable {mode : Mode} {root : Node} {s : State}

/-- A walk at the same place of the tamed tree. -/
abbrev State.tamed : State → State := State.recast taming

theorem turn_events_tamed (mode : Mode) (root : Node) (s : State) :
    AddsWarnings (turn mode root.tamed s.tamed).events (turn mode root s).events := by
  rw [turn_events_recast, turn_events]
  exact (AddsWarnings.refl _).append (.flatMap (trialEvents_tamed s.place.tokens) _)

theorem reported_tamed (mode : Mode) (root : Node) (s : State) (rs : List Reading) :
    AddsWarnings (reported mode root.tamed s.tamed (rs.map Reading.tamed))
      (reported mode root s rs) := by
  induction rs generalizing s with
  | nil => exact turn_events_tamed mode root s
  | cons r rs ih =>
    rw [List.map_cons, reported, reported, State.read_recast]
    exact (turn_events_tamed mode root s).append (ih (s.read r))

/-- The children that are given tokens in a turn, each with the tokens that it is given. -/
def handedOver (mode : Mode) (s : State) : List (Node × List String) :=
  match (Requirement.firstUnmet s.context s.place.node.requirements).result with
  | .ok none =>
    if mode.reserve < s.place.tokens.length then handed s.place.tokens s.place.node.children else []
  | _ => []

theorem handedOver_eq (mode : Mode) (s : State) :
    handedOver mode s = (consulted mode s).map (·, s.place.tokens) := by
  unfold handedOver consulted
  rw [handed_eq]
  cases (Requirement.firstUnmet s.context s.place.node.requirements).result with
  | error e => rfl
  | ok unmet =>
    cases unmet with
    | some r => rfl
    | none =>
      dsimp only
      split <;> rfl

/-- Every child that a walk gives tokens to, each time with the tokens that it is given. -/
def consultations (mode : Mode) (s : State) : List Reading → List (Node × List String)
  | [] => handedOver mode s
  | r :: rs => handedOver mode s ++ consultations mode (s.read r) rs

theorem consultations_tamed (mode : Mode) (s : State) (rs : List Reading) :
    consultations mode s.tamed (rs.map Reading.tamed) =
      (consultations mode s rs).map (Prod.map Node.tamed id) := by
  have turn (s : State) :
      handedOver mode s.tamed = (handedOver mode s).map (Prod.map Node.tamed id) := by
    simp [handedOver_eq, consulted_recast]
  induction rs generalizing s with
  | nil => exact turn s
  | cons r rs ih =>
    rw [List.map_cons, consultations, consultations, turn, State.read_recast, ih, List.map_append]

/-- **What a type does to the tokens that it refuses has no effect.** If the types of a tree leave
these tokens as they were, the walk gives the same tokens to the same children, reads the same,
comes to the same ending and leaves the same context; only the warnings about restored tokens are
missing. -/
theorem refused_tokens_are_restored (mode : Mode) (failure : Option Handler) (root : Node)
    (tokens : List String) (c : Context) :
    let begun := State.atRoot root tokens c
    let begun' := State.atRoot root.tamed tokens c
    let walked := walk mode failure root tokens c
    let tamed := walk mode failure root.tamed tokens c
    tamed.context = walked.context ∧ tamed.error = walked.error ∧
      AddsWarnings tamed.events walked.events ∧
      ∃ rs ending, Trail mode root begun rs ending ∧
        Trail mode root.tamed begun' (rs.map Reading.tamed) (ending.recast taming) ∧
        consultations mode begun' (rs.map Reading.tamed) =
          (consultations mode begun rs).map (Prod.map Node.tamed id) ∧
        conclude failure (root.tamed.after (rs.map Reading.tamed))
            (c.bindAll (rs.map Reading.tamed)) (ending.recast taming) =
          conclude failure (root.after rs) (c.bindAll rs) ending := by
  intro begun begun' walked tamed
  obtain ⟨rs, ending, trail⟩ := Trail.exists_trail mode root begun
  have trail' : Trail mode root.tamed begun' (rs.map Reading.tamed) (ending.recast taming) :=
    trail.recast taming
  have concluded : conclude failure (root.tamed.after (rs.map Reading.tamed))
      (c.bindAll (rs.map Reading.tamed)) (ending.recast taming) =
        conclude failure (root.after rs) (c.bindAll rs) ending := by
    rw [Node.after_recast, Context.bindAll_recast]
    exact conclude_recast taming failure _ _ fun run _ => rfl
  have walked_eq : walked = (conclude failure (root.after rs) (c.bindAll rs) ending).after
      (reported mode root begun rs) := trail.walk_eq failure
  have tamed_eq : tamed = (conclude failure (root.after rs) (c.bindAll rs) ending).after
      (reported mode root.tamed begun' (rs.map Reading.tamed)) :=
    (trail'.walk_eq failure).trans (congrArg (Run.after _) concluded)
  rw [walked_eq, tamed_eq]
  exact ⟨rfl, rfl, (reported_tamed mode root begun rs).append (.refl _), rs, ending, trail, trail',
    consultations_tamed mode begun rs, concluded⟩

end Walk

end CommandTree
