import CommandTree.Proofs.Completion
import CommandTree.Proofs.Lockstep

/-!
# Growth of trees

The order of declaration is precedence: a tree may grow by children behind those that are there, at
any of its nodes, and what could be read before is read as before (`growth_is_conservative`). A walk
of the grown tree keeps up with that of the old one as long as the old children settle every turn,
that is, unless all of them refuse the tokens. Where a completion stops, the new children are asked
after the old ones, so what these suggest comes first.
-/

namespace CommandTree

/-- A tree with further nodes in it, each of them behind the children that its parent had. -/
inductive Node.Grows : Node → Node → Prop where
  | mk {serial serial' : Nat} {name : String} {type : TokenType}
      {requirements : List Requirement} {executor : Option Executor} {children : List Node}
      (kept added : List Node) : List.Forall₂ Node.Grows children kept →
      Node.Grows (.mk serial name type requirements executor children)
        (.mk serial' name type requirements executor (kept ++ added))

namespace Node

variable {n n' : Node}

theorem Grows.name_eq (grows : n.Grows n') : n'.name = n.name := by
  cases grows
  rfl

theorem Grows.type_eq (grows : n.Grows n') : n'.type = n.type := by
  cases grows
  rfl

theorem Grows.requirements_eq (grows : n.Grows n') : n'.requirements = n.requirements := by
  cases grows
  rfl

theorem Grows.executor_eq (grows : n.Grows n') : n'.executor = n.executor := by
  cases grows
  rfl

theorem Grows.usage_eq (grows : n.Grows n') : n'.usage = n.usage := by
  rw [usage, usage, grows.type_eq, grows.name_eq]

/-- The children of a node that an earlier state of it did not have. -/
def appended (n n' : Node) : List Node := n'.children.drop n.children.length

theorem Grows.children_eq (grows : n.Grows n') :
    ∃ kept, List.Forall₂ Node.Grows n.children kept ∧ n'.children = kept ++ n.appended n' := by
  cases grows with
  | mk kept added all =>
    refine ⟨kept, all, ?_⟩
    rw [appended, Node.children, Node.children, all.length_eq, List.drop_left]

end Node

/-- The same is read, by a child that may have grown. -/
structure Reading.Grows (r r' : Reading) : Prop where
  child : r.child.Grows r'.child
  value : r'.value = r.value
  rest : r'.rest = r.rest

theorem bindingsOf_grown {rs rs' : List Reading} (all : List.Forall₂ Reading.Grows rs rs') :
    bindingsOf rs' = bindingsOf rs := by
  induction all with
  | nil => rfl
  | cons grows _ ih =>
    rw [bindingsOf, bindingsOf, List.map_cons, List.map_cons, grows.child.name_eq, grows.value]
    exact congrArg _ ih

theorem Node.Grows.after {n n' : Node} {rs rs' : List Reading} (grows : n.Grows n')
    (all : List.Forall₂ Reading.Grows rs rs') : (n.after rs).Grows (n'.after rs') := by
  induction all generalizing n n' with
  | nil => exact grows
  | cons next _ ih => exact ih next.child

section Selection

variable {tokens : List String} {children kept : List Node} (added : List Node)

theorem Node.Grows.refuses {n n' : Node} (grows : n.Grows n') (refused : Refuses tokens n) :
    Refuses tokens n' := by
  rw [Refuses, grows.type_eq]
  exact refused

theorem Reading.Grows.reads {r r' : Reading} (grows : r.Grows r') (reads : Reads tokens r) :
    Reads tokens r' := by
  rw [Reads, grows.child.type_eq, grows.value, grows.rest]
  exact reads

theorem FirstToRead.grows {r : Reading} (all : List.Forall₂ Node.Grows children kept)
    (first : FirstToRead children tokens r) :
    ∃ r', r.Grows r' ∧ FirstToRead (kept ++ added) tokens r' := by
  induction all with
  | nil => exact absurd first not_firstToRead_nil
  | @cons child child' more more' grows _ ih =>
    obtain ⟨rfl, reads⟩ | ⟨refused, later⟩ := firstToRead_cons.1 first
    · have same : r.Grows ⟨child', r.value, r.rest⟩ := ⟨grows, rfl, rfl⟩
      exact ⟨_, same, firstToRead_cons.2 (Or.inl ⟨rfl, same.reads reads⟩)⟩
    · obtain ⟨r', same, first'⟩ := ih later
      exact ⟨r', same, firstToRead_cons.2 (Or.inr ⟨grows.refuses refused, first'⟩)⟩

theorem choose_error_grown {last : String} {e : Error}
    (all : List.Forall₂ Node.Grows children kept)
    (broken : choose tokens last children = .error e) :
    choose tokens last (kept ++ added) = .error e := by
  induction all generalizing last with
  | nil => cases broken
  | @cons child child' more more' grows _ ih =>
    rw [choose_cons] at broken
    rw [List.cons_append, choose_cons, grows.type_eq]
    cases answer : (child.type.parse tokens).answer with
    | error e' => simpa [answer] using broken
    | ok result =>
      cases result with
      | ok value => simp [answer] at broken
      | err message => exact ih (by simpa [answer] using broken)
      | other value => simpa [answer] using broken

theorem trialEvents_grown {n n' : Node} (grows : n.Grows n') (tokens : List String) :
    trialEvents tokens n' = trialEvents tokens n := by
  simp only [trialEvents, restoring, grows.type_eq]

/-- New children are given no tokens that the old ones settle. -/
theorem trials_grown (all : List.Forall₂ Node.Grows children kept)
    (settled : ¬ ∀ child ∈ children, Refuses tokens child) :
    (tried tokens (kept ++ added)).flatMap (trialEvents tokens) =
      (tried tokens children).flatMap (trialEvents tokens) := by
  induction all with
  | nil => simp at settled
  | @cons child child' more more' grows _ ih =>
    rw [List.cons_append, tried, tried, grows.type_eq]
    cases answer : (child.type.parse tokens).answer with
    | error e => simp [trialEvents_grown grows]
    | ok result =>
      cases result with
      | ok value | other value => simp [trialEvents_grown grows]
      | err message =>
        have later := ih fun refused =>
          settled (List.forall_mem_cons.2 ⟨⟨message, answer⟩, refused⟩)
        simp [trialEvents_grown grows, later]

end Selection

namespace Walk

variable {mode : Mode} {root root' : Node} {s t : State}

/-- The same turn of a walk in a grown tree. -/
structure Grown (s t : State) : Prop where
  node : s.place.node.Grows t.place.node
  index : t.place.index = s.place.index
  tokens : t.place.tokens = s.place.tokens
  context : t.context = s.context

theorem Grown.read {r r' : Reading} (grown : Grown s t) (grows : r.Grows r') :
    Grown (s.read r) (t.read r') := by
  have context : (t.read r').context = (s.read r).context := by
    rw [State.context_read, State.context_read, grown.context, grows.child.name_eq, grows.value]
  have call : (t.read r').context.tokens.length = (s.read r).context.tokens.length := by
    rw [context]
  refine ⟨grows.child, ?_, grows.rest, context⟩
  simp only [State.read, advance] at call ⊢
  rw [call, grows.rest]

theorem Grown.gates (grown : Grown s t) :
    Requirement.firstUnmet t.context t.place.node.requirements =
      Requirement.firstUnmet s.context s.place.node.requirements := by
  rw [grown.context, grown.node.requirements_eq]

theorem Grown.admits (grown : Grown s t) (admits : s.place.node.Admits s.context) :
    t.place.node.Admits t.context := by
  rw [Node.Admits, grown.node.requirements_eq, grown.context]
  exact admits

theorem Grown.requirementFault_eq (grown : Grown s t) (name : root'.name = root.name)
    (message : Value) :
    requirementFault root' t.place message = requirementFault root s.place message := by
  rw [requirementFault, requirementFault, name, grown.node.name_eq, grown.index]

theorem exhaustedKind_ne (n : Node) : exhaustedKind n ≠ .requirementFailure := by
  unfold exhaustedKind
  split <;> nofun

/-- An ending in which new children have no say. They can give an execution another hint, or one
where there was none, so an error of an execution is not among these. -/
def Ending.Stays (mode : Mode) : Ending → Prop
  | .halted fault => fault.kind = .requirementFailure
  | .raised _ | .lost .. => mode = .completion
  | .entered _ | .offering _ | .idle => True

def Move.Stays (mode : Mode) : Move → Prop
  | .onward _ => True
  | .finish ending => ending.Stays mode

/-- Unless a walk halts because all children refuse, one of them settles the turn. -/
theorem Takes.settled {m : Move} (takes : Takes mode root s m) (stays : m.Stays mode)
    (admits : s.place.node.Admits s.context) (left : mode.reserve < s.place.tokens.length) :
    ¬ ∀ child ∈ s.place.node.children, Refuses s.place.tokens child := by
  intro refused
  obtain ⟨message, choice⟩ := choose_of_refused "" refused
  obtain ⟨token, more, ht⟩ := List.exists_cons_of_length_pos (Nat.zero_lt_of_lt left)
  cases hinted : s.hints mode with
  | ok hints =>
    obtain rfl := takes.unique (.exhausted admits left ht choice hinted)
    exact exhaustedKind_ne s.place.node stays
  | error e =>
    obtain rfl := takes.unique (.exhaustedUnhinted admits left choice hinted)
    obtain rfl : mode = .completion := stays
    cases hinted

theorem Grown.events_eq {m : Move} (grown : Grown s t) (takes : Takes mode root s m)
    (stays : m.Stays mode) : (turn mode root s).events = (turn mode root' t).events := by
  obtain ⟨kept, all, children⟩ := grown.node.children_eq
  have trials : (consulted mode t).flatMap (trialEvents s.place.tokens) =
      (consulted mode s).flatMap (trialEvents s.place.tokens) := by
    simp only [consulted, grown.gates, grown.tokens, children]
    split
    case h_1 gates =>
      split
      case isTrue left =>
        have admits := Requirement.firstUnmet_none_iff.1 gates
        exact trials_grown _ all (takes.settled stays admits left)
      case isFalse => rfl
    case h_2 => rfl
  rw [turn_events, turn_events, grown.gates, grown.tokens, trials]

theorem Grown.finishes {ending : Ending} (grown : Grown s t) (name : root'.name = root.name)
    (takes : Takes mode root s (.finish ending)) (stays : ending.Stays mode) :
    Takes mode root' t (.finish ending) := by
  have gates := grown.gates
  have tokens := grown.tokens
  obtain ⟨kept, all, children⟩ := grown.node.children_eq
  cases takes with
  | untested h => exact .untested (by rwa [gates])
  | unmet h declared =>
    exact .unmet (by rwa [gates]) (by rwa [grown.requirementFault_eq name])
  | unworded h declared =>
    exact .unworded (by rwa [gates]) (by rwa [grown.requirementFault_eq name])
  | entered admits hm ht hx =>
    exact .entered (grown.admits admits) hm (tokens.trans ht) (grown.node.executor_eq.trans hx)
  | incomplete => cases stays
  | idle admits hm ht => exact .idle (grown.admits admits) hm (tokens.trans ht)
  | offering admits hm ht => exact .offering (grown.admits admits) hm (tokens.trans ht)
  | exhausted => exact absurd stays (exhaustedKind_ne s.place.node)
  | unhinted _ hm | lost _ hm => cases hm.symm.trans stays
  | exhaustedUnhinted _ _ _ hinted =>
    obtain rfl : mode = .completion := stays
    cases hinted
  | broken admits left choice =>
    refine .broken (grown.admits admits) (by rwa [tokens]) ?_
    rw [tokens, children]
    exact choose_error_grown _ all choice

/-- The walk of a grown tree keeps up, unless the old one halts at a token that is refused or
missing. -/
theorem keepsUp_grown (name : root'.name = root.name) {ending : Ending}
    (stays : ending.Stays mode) :
    KeepsUp mode root root' Grown Reading.Grows Eq ending ending where
  onward := by
    intro s t r grown takes
    obtain ⟨admits, left, first, told⟩ := Takes.onward_iff.1 takes
    obtain ⟨kept, all, children⟩ := grown.node.children_eq
    obtain ⟨r', grows, first'⟩ := first.grows (s.place.node.appended t.place.node) all
    have takes' : Takes mode root' t (.onward r') := by
      rw [Takes.onward_iff, grown.tokens, children, Node.HasUsage, grown.node.usage_eq]
      exact ⟨grown.admits admits, left, first', told⟩
    exact ⟨grown.events_eq takes trivial, r', takes', grows, grown.read grows⟩
  finish := by
    intro s t grown takes
    exact ⟨grown.events_eq takes stays, grown.finishes name takes stays⟩
  append := by
    rintro xs ys - - rfl rfl
    rfl

/-- Except for what is suggested, an ending stands for the same. -/
theorem conclude_grown {n n' : Node} (grows : n.Grows n') (failure : Option Handler) (c : Context)
    {ending : Ending} (unasked : ∀ token, ending ≠ .offering token) :
    conclude failure n' c ending = conclude failure n c ending := by
  cases ending with
  | entered run => simp only [conclude, execute, grows.name_eq]
  | offering token => exact absurd rfl (unasked token)
  | idle | halted fault | raised e | lost r e => rfl

theorem contributeAll_grown {children kept : List Node}
    (all : List.Forall₂ Node.Grows children kept) :
    contributeAll kept = contributeAll children := by
  induction all with
  | nil => rfl
  | @cons child child' more more' grows _ ih =>
    funext c
    have same : contribute child' = contribute child := by
      funext d
      rw [contribute, contribute, grows.requirements_eq, grows.type_eq]
    rw [contributeAll_cons, contributeAll_cons, same, ih]

end Walk

open Context (OnlySuggests)

namespace Command

open Walk

variable {c : Command} {root' : Node} {mode : Mode} {sender : Option Sender} {label : String}
  {args : List String} {rs : List Reading} {ending : Ending}

/-- Where a completion asks children that the command did not have before, none of them raises an
error, whatever has been suggested before. -/
def AsksCalmly (c grown : Command) (sender : Option Sender) (label : String)
    (args : List String) : Prop :=
  ∀ rs rs' typed, c.Stops sender label args rs typed → grown.Stops sender label args rs' typed →
    ∀ child ∈ (c.root.after rs).appended (grown.root.after rs'),
      ∀ d, OnlySuggests (asked sender label args rs' typed) d → child.OffersCalmly d

/-- A call of the grown command goes through the same nodes and comes to the same ending. -/
theorem grown_trail (grows : c.root.Grows root')
    (trail : Trail mode c.root (c.begun mode sender label args) rs ending)
    (stays : ending.Stays mode) :
    ∃ rs', List.Forall₂ Reading.Grows rs rs' ∧
      reached mode sender label args rs' = reached mode sender label args rs ∧
      Trail mode root' ({ c with root := root' }.begun mode sender label args) rs' ending ∧
      ((∀ token, ending ≠ .offering token) →
        { c with root := root' }.run mode sender label args = c.run mode sender label args) := by
  have begun : Grown (c.begun mode sender label args)
      ({ c with root := root' }.begun mode sender label args) := ⟨grows, rfl, rfl, rfl⟩
  obtain ⟨rs', trail', all, -, told⟩ :=
    trail.keep_up (keepsUp_grown grows.name_eq stays) begun
  have same : reached mode sender label args rs' = reached mode sender label args rs := by
    rw [reached, reached, Context.bindAll, Context.bindAll, bindingsOf_grown all]
  refine ⟨rs', all, same, trail', ?_⟩
  intro unasked
  rw [run_eq trail, run_eq (c := { c with root := root' }) trail', same, ← told,
    conclude_grown (grows.after all) _ _ unasked]

/-- The new children are asked after the old ones, unless these raise an error. -/
theorem contributeAll_grown_node {n n' : Node} (grows : n.Grows n') (d : Context) :
    contributeAll n'.children d =
      (contributeAll n.children d).andThen (contributeAll (n.appended n')) := by
  obtain ⟨kept, all, children⟩ := grows.children_eq
  rw [children, contributeAll_append, contributeAll_grown all]

theorem grown_suggestions {rs' : List Reading} {typed : String}
    (grows : (c.root.after rs).Grows (root'.after rs'))
    (same : reached .completion sender label args rs' = reached .completion sender label args rs)
    (stops : c.Stops sender label args rs typed)
    (stops' : { c with root := root' }.Stops sender label args rs' typed) :
    (c.run .completion sender label args).context.suggestions <+:
        ({ c with root := root' }.run .completion sender label args).context.suggestions ∧
      (c.AsksCalmly { c with root := root' } sender label args →
        ({ c with root := root' }.run .completion sender label args).error =
          (c.run .completion sender label args).error) := by
  have context : asked sender label args rs' typed = asked sender label args rs typed := by
    rw [asked, asked, same]
  obtain ⟨old, oldError⟩ := run_stopped stops
  obtain ⟨new, newError⟩ := run_stopped stops'
  rw [context, contributeAll_grown_node grows] at new newError
  rw [old, oldError, new, newError]
  have unsaid := contributeAll_context (c.root.after rs).children (asked sender label args rs typed)
  cases h : (contributeAll (c.root.after rs).children (asked sender label args rs typed)).error with
  | some e =>
    rw [Run.andThen_of_error h]
    exact ⟨List.prefix_refl _, fun _ => h⟩
  | none =>
    rw [Run.andThen_of_calm h]
    refine ⟨contributeAll_suggestions _ _, fun calm => ?_⟩
    refine contributeAll_calm fun child hc d said => ?_
    refine calm rs rs' typed stops stops' child hc d ?_
    rw [context]
    exact unsaid.trans said

/-- **Growth is conservative.** In a tree that has grown, an execution that entered an executor or
halted at a requirement goes through the same nodes, in the same context and with the same result,
whatever the new nodes are. A completion that did not halt on a fault still does not, what it
suggested comes first, and it raises an error only where it did before or a new child does. Whether
it halted can be told from the context it left, unless a handler changes that. -/
theorem growth_is_conservative (c : Command) {root' : Node} (grows : c.root.Grows root')
    (sender : Option Sender) (label : String) (args : List String) :
    let grown : Command := { c with root := root' }
    let executed := c.run .execution sender label args
    let completed := c.run .completion sender label args
    let executed' := grown.run .execution sender label args
    let completed' := grown.run .completion sender label args
    let handed := c.under .completion sender label args none
    (∀ rs run, c.Enters .execution sender label args rs run →
      ∃ rs', List.Forall₂ Reading.Grows rs rs' ∧
        reached .execution sender label args rs' = reached .execution sender label args rs ∧
        grown.Enters .execution sender label args rs' run ∧ executed' = executed) ∧
    (∀ rs fault, c.Halts .execution sender label args rs fault →
      fault.kind = .requirementFailure →
      ∃ rs', List.Forall₂ Reading.Grows rs rs' ∧
        reached .execution sender label args rs' = reached .execution sender label args rs ∧
        grown.Halts .execution sender label args rs' fault ∧ executed' = executed) ∧
    (handed.context.fault = none → completed'.context.fault = none ∧
      completed.context.suggestions <+: completed'.context.suggestions ∧
      (c.AsksCalmly grown sender label args → completed'.error = completed.error)) ∧
    (LeavesAlone c.failure → completed.context = handed.context) := by
  intro grown executed completed executed' completed' handed
  refine ⟨?_, ?_, ?_, context_of_alone⟩
  · intro rs run entered
    obtain ⟨rs', all, same, trail', equal⟩ := grown_trail grows entered trivial
    exact ⟨rs', all, same, trail', equal fun _ => nofun⟩
  · intro rs fault halts kind
    obtain ⟨rs', all, same, trail', equal⟩ := grown_trail grows halts kind
    exact ⟨rs', all, same, trail', equal fun _ => nofun⟩
  · intro unfaulted
    obtain ⟨rs, ending, trail⟩ :=
      Trail.exists_trail .completion c.root (c.begun .completion sender label args)
    have unhalted := unhalted_of_trail trail unfaulted
    have stays : ending.Stays .completion := by
      cases ending with
      | halted fault => exact absurd rfl (unhalted fault)
      | raised e | lost r e => rfl
      | entered run | offering token | idle => trivial
    obtain ⟨rs', all, same, trail', equal⟩ := grown_trail grows trail stays
    by_cases asked : ∃ token, ending = .offering token
    · obtain ⟨token, rfl⟩ := asked
      obtain ⟨first, error⟩ := grown_suggestions (grows.after all) same trail trail'
      exact ⟨(run_offering trail').fault.symm, first, error⟩
    · have equal' : completed' = completed := equal fun token h => asked ⟨token, h⟩
      have untold : completed = handed := neverTold_of_trail trail unhalted c.failure
      rw [equal', untold]
      exact ⟨unfaulted, List.prefix_refl _, fun _ => rfl⟩

/-- A command that sets a light to a scene. -/
def lighting : Command :=
  ⟨0, "light", .mk 0 "light" .word [] none [.mk 1 "scene" .word [] (some .done) []], none⟩

/-- The same with a level for each scene and with a switch. -/
def furnished : Node :=
  .mk 2 "light" .word [] none
    [.mk 3 "scene" .word [] (some .done) [.mk 4 "level" .word [] (some .done) []],
      .mk 5 "on" .truthValue [] (some .done) []]

theorem lighting_grows : lighting.root.Grows furnished :=
  .mk [_] [_] (.cons (.mk [] [_] .nil) .nil)

/-- What could be meant for the switch is still a scene. -/
theorem furnished_sets_scenes :
    lighting.root.Grows furnished ∧ ∃ rs rs' run,
      lighting.Enters .execution none "light" ["true"] rs run ∧
      { lighting with root := furnished }.Enters .execution none "light" ["true"] rs' run ∧
      List.Forall₂ Reading.Grows rs rs' := by
  obtain ⟨kept, -⟩ := growth_is_conservative lighting lighting_grows none "light" ["true"]
  have entered : lighting.Enters .execution none "light" ["true"]
      [⟨.mk 1 "scene" .word [] (some .done) [], .str "true", []⟩] .done :=
    .onward (turn_eq_iff.1 rfl) (.finish (turn_eq_iff.1 rfl))
  obtain ⟨rs', all, -, entered', -⟩ := kept _ _ entered
  exact ⟨lighting_grows, _, rs', _, entered, entered', all⟩

end Command

end CommandTree
