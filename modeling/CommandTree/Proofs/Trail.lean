import CommandTree.Proofs.Listing
import CommandTree.Proofs.Selection
import CommandTree.Walk

/-!
# Trails

A walk, turn by turn. A turn either goes on in the child that reads the tokens or comes to an
ending; what was read on the way, with the ending, is the trail of the walk. The loops of the two
modes take the same turns (`descend_eq_turn`). `turn_eq_iff` says once what a turn can do, and
`Trail.descend_eq` that a walk is its trail followed by what its ending stands for. Nothing on a
trail runs an executor or calls the failure handler: only an ending does.
-/

namespace CommandTree

/-- The number of tokens that a walk leaves to its end. -/
def Mode.reserve : Mode → Nat
  | .execution => 0
  | .completion => 1

@[simp] theorem Run.after_after (run : Run) (first second : List Event) :
    (run.after second).after first = run.after (first ++ second) := by
  simp [Run.after]

theorem Run.andThen_after (run : Run) (events : List Event) (next : Context → Run) :
    (run.after events).andThen next = (run.andThen next).after events := by
  unfold andThen
  cases h : run.error with
  | some e => simp only [after, h]
  | none =>
    rw [after_after]
    simp only [after, h]

/-- The values that were read, under the names of the children that read them. -/
def bindingsOf (rs : List Reading) : Bindings Value := rs.map fun r => (r.child.name, r.value)

/-- The context after all of this has been bound, in order. -/
def Context.bindAll (c : Context) (rs : List Reading) : Context :=
  { c with arguments := c.arguments.overlay (bindingsOf rs) }

@[simp] theorem Context.bindAll_nil (c : Context) : c.bindAll [] = c := rfl

theorem Context.bindAll_cons (c : Context) (r : Reading) (rs : List Reading) :
    c.bindAll (r :: rs) = (c.bind r.child.name r.value).bindAll rs := rfl

theorem Context.bindAll_concat (c : Context) (rs : List Reading) (r : Reading) :
    c.bindAll (rs ++ [r]) = (c.bindAll rs).bind r.child.name r.value := by
  induction rs generalizing c with
  | nil => rfl
  | cons first rs ih => exact ih (c.bind first.child.name first.value)

/-- A name has the value read last under it, or the one it had before. -/
theorem Context.get?_bindAll (c : Context) (rs : List Reading) (name : String) :
    (c.bindAll rs).get? name =
      ((rs.reverse.find? fun r => r.child.name == name).map Reading.value).or (c.get? name) := by
  induction rs generalizing c with
  | nil => rfl
  | cons r rs ih =>
    rw [bindAll_cons, ih, List.reverse_cons, List.find?_append, Option.map_or, Option.or_assoc]
    congr 1
    by_cases hr : r.child.name = name <;> simp [get?, bind, Bindings.get?_set, hr]

/-- The node that a way down ends at. -/
def Node.after (n : Node) : List Reading → Node
  | [] => n
  | r :: rs => r.child.after rs

/-- The tokens that a way down leaves. -/
def leftBy (tokens : List String) : List Reading → List String
  | [] => tokens
  | r :: rs => leftBy r.rest rs

@[simp] theorem leftBy_concat (tokens : List String) (rs : List Reading) (r : Reading) :
    leftBy tokens (rs ++ [r]) = r.rest := by
  induction rs generalizing tokens with
  | nil => rfl
  | cons first rs ih => exact ih first.rest

namespace Walk

/-- A walk between two turns, with the usages of the nodes above the one where it is. -/
structure State where
  place : Position
  path : List String
  context : Context

/-- What a walk comes to: the executor of its last node is entered, the children of that node offer
texts for the token being typed, there is nothing to offer texts for, a fault halts the walk, an
error is raised, or one is raised when the node is left, after a child has read. -/
inductive Ending where
  | entered (run : Executor)
  | offering (token : String)
  | idle
  | halted (fault : Fault)
  | raised (error : Error)
  | lost (r : Reading) (error : Error)

inductive Move where
  | onward (r : Reading)
  | finish (ending : Ending)

structure Turn where
  events : List Event
  move : Move

/-- A fault that can be put together halts the walk. -/
def Ending.ofFault : Except Error Fault → Ending
  | .ok fault => .halted fault
  | .error e => .raised e

def Turn.ofReply {α : Type} (reply : Reply α) (next : α → Turn) : Turn :=
  match reply.result with
  | .ok a => ⟨reply.events ++ (next a).events, (next a).move⟩
  | .error e => ⟨reply.events, .finish (.raised e)⟩

/-- Only an execution gives a hint. -/
def State.hints (mode : Mode) (s : State) : Except Error (Bindings Value) :=
  match mode with
  | .execution => do return [("hint", ← hint s.path s.place.node)]
  | .completion => .ok []

theorem State.hints_execution {s : State} {hints : Bindings Value}
    (h : s.hints .execution = .ok hints) :
    ∃ shown, hint s.path s.place.node = .ok shown ∧ hints = [("hint", shown)] := by
  cases shown : hint s.path s.place.node with
  | ok value =>
    rw [State.hints, shown] at h
    exact ⟨value, rfl, (Except.ok.inj h).symm⟩
  | error e =>
    rw [State.hints, shown] at h
    cases h

/-- What is hinted has no other name than that. -/
theorem State.hints_cases {mode : Mode} {s : State} {hints : Bindings Value}
    (h : s.hints mode = .ok hints) : hints = [] ∨ ∃ shown, hints = [("hint", shown)] := by
  cases mode with
  | completion => exact Or.inl (Except.ok.inj h).symm
  | execution =>
    obtain ⟨shown, -, rfl⟩ := hints_execution h
    exact Or.inr ⟨shown, rfl⟩

def exhaust (mode : Mode) (root : Node) (s : State) (message : String) : Except Error Fault := do
  let token ← nextToken s.place.tokens
  let hints ← s.hints mode
  return exhaustedFault root s.place message token hints

/-- A walk goes on in the child that has read. An execution has to tell the usage of the node that
it leaves. -/
def goOn (mode : Mode) (s : State) (r : Reading) : Move :=
  match mode, s.place.node.usage with
  | .execution, .error e => .finish (.lost r e)
  | _, _ => .onward r

def pick (mode : Mode) (root : Node) (s : State) : Except String Reading → Move
  | .ok r => goOn mode s r
  | .error message => .finish (.ofFault (exhaust mode root s message))

/-- A turn past the requirements of the node. -/
def proceed (mode : Mode) (root : Node) (s : State) : Turn :=
  match mode, s.place.tokens with
  | .execution, [] =>
    match s.place.node.executor with
    | some run => ⟨[], .finish (.entered run)⟩
    | none =>
      ⟨[], .finish (.ofFault (incompleteFault root s.place <$> hint s.path s.place.node))⟩
  | .completion, [] => ⟨[], .finish .idle⟩
  | .completion, [token] => ⟨[], .finish (.offering token)⟩
  | mode, token :: more =>
    .ofReply (select (token :: more) "" s.place.node.children) fun selection =>
      ⟨[], pick mode root s selection.reading⟩

def turn (mode : Mode) (root : Node) (s : State) : Turn :=
  .ofReply (Requirement.firstUnmet s.context s.place.node.requirements) fun
    | some unmet => ⟨[], .finish (.ofFault (requirementFault root s.place unmet.message))⟩
    | none => proceed mode root s

namespace State

/-- A walk before its first turn. -/
def atRoot (root : Node) (tokens : List String) (c : Context) : State := ⟨start root tokens, [], c⟩

/-- A walk after a child has read tokens. -/
def read (s : State) (r : Reading) : State :=
  let context := s.context.bind r.child.name r.value
  ⟨advance context r.child r.rest, s.path ++ s.place.node.usage.toOption.toList, context⟩

def readAll (s : State) (rs : List Reading) : State := rs.foldl read s

@[simp] theorem readAll_cons (s : State) (r : Reading) (rs : List Reading) :
    s.readAll (r :: rs) = (s.read r).readAll rs := rfl

@[simp] theorem node_read (s : State) (r : Reading) : (s.read r).place.node = r.child := rfl

@[simp] theorem tokens_read (s : State) (r : Reading) : (s.read r).place.tokens = r.rest := rfl

@[simp] theorem context_read (s : State) (r : Reading) :
    (s.read r).context = s.context.bind r.child.name r.value := rfl

@[simp] theorem context_readAll (s : State) (rs : List Reading) :
    (s.readAll rs).context = s.context.bindAll rs := by
  induction rs generalizing s with
  | nil => rfl
  | cons r rs ih => rw [readAll_cons, ih, context_read, Context.bindAll_cons]

@[simp] theorem node_readAll (s : State) (rs : List Reading) :
    (s.readAll rs).place.node = s.place.node.after rs := by
  induction rs generalizing s with
  | nil => rfl
  | cons r rs ih => exact ih (s.read r)

@[simp] theorem tokens_readAll (s : State) (rs : List Reading) :
    (s.readAll rs).place.tokens = leftBy s.place.tokens rs := by
  induction rs generalizing s with
  | nil => rfl
  | cons r rs ih => exact ih (s.read r)

end State

/-- What an ending stands for. -/
def conclude (failure : Option Handler) (n : Node) (c : Context) : Ending → Run
  | .entered run => execute n run c
  | .offering token => complete n token c
  | .idle => .done c
  | .halted fault => halt failure fault c
  | .raised e => .raise c e
  | .lost r e => .raise (c.bind r.child.name r.value) e

/-- The loop of either mode. -/
def descend (mode : Mode) (failure : Option Handler) (root : Node) (s : State) : Run :=
  match mode with
  | .execution => dispatch failure root s.path s.place s.context
  | .completion => suggest failure root s.place s.context

/-- A turn, and the rest of the walk after it. -/
def Turn.follow (mode : Mode) (failure : Option Handler) (root : Node) (s : State) (t : Turn) :
    Run :=
  match t.move with
  | .onward r => (descend mode failure root (s.read r)).after t.events
  | .finish ending => (conclude failure s.place.node s.context ending).after t.events

variable {mode : Mode} {failure : Option Handler} {root : Node} {s : State}

theorem Turn.follow_ofReply {α : Type} (reply : Reply α) (next : α → Turn) :
    (Turn.ofReply reply next).follow mode failure root s =
      reply.runWith s.context fun a => (next a).follow mode failure root s := by
  simp only [Turn.ofReply, Reply.runWith, Turn.follow]
  cases reply.result with
  | error e => simp [conclude, Run.raise, Run.after]
  | ok a => cases h : (next a).move <;> simp [h]

theorem haltOn_eq (n : Node) (fault : Except Error Fault) (c : Context) :
    haltOn failure fault c = conclude failure n c (.ofFault fault) := by
  cases fault <;> rfl

theorem follow_refuse (unmet : Requirement) :
    Turn.follow mode failure root s
        ⟨[], .finish (.ofFault (requirementFault root s.place unmet.message))⟩ =
      haltOn failure (requirementFault root s.place unmet.message) s.context :=
  (haltOn_eq _ _ _).symm

/-- What goes on with a selection need only be the same for the one that is made. -/
theorem runWith_congr {α : Type} {reply : Reply α} {c : Context} {next next' : α → Run}
    (h : ∀ a, reply.result = .ok a → next a = next' a) :
    reply.runWith c next = reply.runWith c next' := by
  unfold Reply.runWith
  split
  case h_1 a result => rw [h a result]
  case h_2 => rfl

/-- An execution takes the turns of `turn`. -/
theorem dispatch_eq_turn :
    dispatch failure root s.path s.place s.context =
      (turn .execution root s).follow .execution failure root s := by
  obtain ⟨⟨node, index, tokens⟩, path, context⟩ := s
  rw [dispatch, turn, Turn.follow_ofReply]
  congr 1
  funext unmet
  cases unmet with
  | some r => exact (follow_refuse r).symm
  | none =>
    cases tokens with
    | nil =>
      cases executor : node.executor with
      | some run => simp only [proceed, executor]; rfl
      | none => simp only [proceed, executor]; exact haltOn_eq node _ _
    | cons token more =>
      simp only [proceed]
      refine Eq.trans ?_ (Turn.follow_ofReply _ _).symm
      refine runWith_congr fun selection made => ?_
      cases selection with
      | chosen child mem value rest =>
        simp only [Selection.reading, pick, goOn]
        cases told : node.usage with
        | error e => rfl
        | ok usage =>
          simp only [Turn.follow, descend, State.read, told, Reply.ofExcept, Reply.runWith]
          rfl
      | exhausted message rest =>
        obtain rfl := select_exhausted made
        simp only [Selection.reading, pick, Turn.follow, exhaust, State.hints]
        rw [← haltOn_eq]
        cases hint path node <;> rfl

/-- And so does a completion. -/
theorem suggest_eq_turn :
    suggest failure root s.place s.context =
      (turn .completion root s).follow .completion failure root s := by
  obtain ⟨⟨node, index, tokens⟩, path, context⟩ := s
  rw [suggest, turn, Turn.follow_ofReply]
  congr 1
  funext unmet
  cases unmet with
  | some r => exact (follow_refuse r).symm
  | none =>
    cases tokens with
    | nil => rfl
    | cons token more =>
      cases more with
      | nil => rfl
      | cons second more =>
        simp only [proceed]
        refine Eq.trans ?_ (Turn.follow_ofReply _ _).symm
        refine runWith_congr fun selection made => ?_
        cases selection with
        | chosen child mem value rest => rfl
        | exhausted message rest =>
          obtain rfl := select_exhausted made
          exact haltOn_eq node _ _

/-- **The two loops walk alike:** both are made of the turns of one function, which knows the mode
only where no token or one is left, and where a usage has to be told. -/
theorem descend_eq_turn :
    descend mode failure root s = (turn mode root s).follow mode failure root s := by
  cases mode with
  | execution => exact dispatch_eq_turn
  | completion => exact suggest_eq_turn

/-- What a turn can do, case by case. -/
inductive Takes (mode : Mode) (root : Node) (s : State) : Move → Prop where
  | untested {e : Error} :
      (Requirement.firstUnmet s.context s.place.node.requirements).result = .error e →
      Takes mode root s (.finish (.raised e))
  | unmet {r : Requirement} {fault : Fault} :
      (Requirement.firstUnmet s.context s.place.node.requirements).result = .ok (some r) →
      requirementFault root s.place r.message = .ok fault →
      Takes mode root s (.finish (.halted fault))
  | unworded {r : Requirement} {e : Error} :
      (Requirement.firstUnmet s.context s.place.node.requirements).result = .ok (some r) →
      requirementFault root s.place r.message = .error e →
      Takes mode root s (.finish (.raised e))
  | entered {run : Executor} : s.place.node.Admits s.context → mode = .execution →
      s.place.tokens = [] → s.place.node.executor = some run →
      Takes mode root s (.finish (.entered run))
  | incomplete {shown : Value} : s.place.node.Admits s.context → mode = .execution →
      s.place.tokens = [] → s.place.node.executor = none →
      hint s.path s.place.node = .ok shown →
      Takes mode root s (.finish (.halted (incompleteFault root s.place shown)))
  | unhinted {e : Error} : s.place.node.Admits s.context → mode = .execution →
      s.place.tokens = [] → s.place.node.executor = none →
      hint s.path s.place.node = .error e → Takes mode root s (.finish (.raised e))
  | idle : s.place.node.Admits s.context → mode = .completion → s.place.tokens = [] →
      Takes mode root s (.finish .idle)
  | offering {token : String} : s.place.node.Admits s.context → mode = .completion →
      s.place.tokens = [token] → Takes mode root s (.finish (.offering token))
  | chosen {r : Reading} : s.place.node.Admits s.context →
      mode.reserve < s.place.tokens.length →
      FirstToRead s.place.node.children s.place.tokens r →
      (mode = .execution → s.place.node.HasUsage) → Takes mode root s (.onward r)
  | lost {r : Reading} {e : Error} : s.place.node.Admits s.context → mode = .execution →
      mode.reserve < s.place.tokens.length →
      FirstToRead s.place.node.children s.place.tokens r → s.place.node.usage = .error e →
      Takes mode root s (.finish (.lost r e))
  | exhausted {token message : String} {more : List String} {hints : Bindings Value} :
      s.place.node.Admits s.context →
      mode.reserve < s.place.tokens.length → s.place.tokens = token :: more →
      choose s.place.tokens "" s.place.node.children = .ok (.error message) →
      s.hints mode = .ok hints →
      Takes mode root s (.finish (.halted (exhaustedFault root s.place message token hints)))
  | exhaustedUnhinted {message : String} {e : Error} : s.place.node.Admits s.context →
      mode.reserve < s.place.tokens.length →
      choose s.place.tokens "" s.place.node.children = .ok (.error message) →
      s.hints mode = .error e → Takes mode root s (.finish (.raised e))
  | broken {e : Error} : s.place.node.Admits s.context →
      mode.reserve < s.place.tokens.length →
      choose s.place.tokens "" s.place.node.children = .error e →
      Takes mode root s (.finish (.raised e))

theorem turn_move :
    (turn mode root s).move =
      match (Requirement.firstUnmet s.context s.place.node.requirements).result with
      | .error e => .finish (.raised e)
      | .ok (some r) => .finish (.ofFault (requirementFault root s.place r.message))
      | .ok none => (proceed mode root s).move := by
  simp only [turn, Turn.ofReply]
  cases (Requirement.firstUnmet s.context s.place.node.requirements).result with
  | error e => rfl
  | ok unmet => cases unmet <;> rfl

theorem turn_move_of_admits (h : s.place.node.Admits s.context) :
    (turn mode root s).move = (proceed mode root s).move := by
  rw [turn_move, Requirement.firstUnmet_none_iff.2 h]

theorem select_move (tokens : List String) :
    (Turn.ofReply (select tokens "" s.place.node.children) fun selection =>
      ⟨[], pick mode root s selection.reading⟩).move =
      match choose tokens "" s.place.node.children with
      | .ok choice => pick mode root s choice
      | .error e => .finish (.raised e) := by
  simp only [Turn.ofReply, choose]
  cases (select tokens "" s.place.node.children).result <;> rfl

theorem proceed_move (hr : mode.reserve < s.place.tokens.length) :
    (proceed mode root s).move =
      match choose s.place.tokens "" s.place.node.children with
      | .ok choice => pick mode root s choice
      | .error e => .finish (.raised e) := by
  obtain ⟨⟨node, index, tokens⟩, path, context⟩ := s
  cases tokens with
  | nil => cases mode <;> cases hr
  | cons token more =>
    cases mode with
    | execution => exact select_move (token :: more)
    | completion =>
      cases more with
      | nil => simp [Mode.reserve] at hr
      | cons second more => exact select_move (token :: second :: more)

theorem goOn_of_told {r : Reading} (told : mode = .execution → s.place.node.HasUsage) :
    goOn mode s r = .onward r := by
  cases mode with
  | execution =>
    obtain ⟨usage, has⟩ := told rfl
    simp only [goOn, has]
  | completion => rfl

theorem Takes.turn_eq {m : Move} (h : Takes mode root s m) : (turn mode root s).move = m := by
  cases h with
  | untested h => rw [turn_move, h]
  | unmet h hf => simp only [turn_move, h, hf, Ending.ofFault]
  | unworded h hf => simp only [turn_move, h, hf, Ending.ofFault]
  | entered admits hm ht hx => simp [turn_move_of_admits admits, proceed, hm, ht, hx]
  | incomplete admits hm ht hx hh =>
    simp [turn_move_of_admits admits, proceed, hm, ht, hx, hh, Functor.map, Except.map,
      Ending.ofFault]
  | unhinted admits hm ht hx hh =>
    simp [turn_move_of_admits admits, proceed, hm, ht, hx, hh, Functor.map, Except.map,
      Ending.ofFault]
  | idle admits hm ht => simp [turn_move_of_admits admits, proceed, hm, ht]
  | offering admits hm ht => simp [turn_move_of_admits admits, proceed, hm, ht]
  | chosen admits hr first told =>
    rw [turn_move_of_admits admits, proceed_move hr, choose_reading_iff.2 first]
    exact goOn_of_told told
  | lost admits hm hr first untold =>
    rw [turn_move_of_admits admits, proceed_move hr, choose_reading_iff.2 first]
    subst hm
    simp only [pick, goOn, untold]
  | exhausted admits hr ht hc hh =>
    rw [turn_move_of_admits admits, proceed_move hr, hc]
    simp only [pick, exhaust, ht, hh]
    rfl
  | exhaustedUnhinted admits hr hc hh =>
    obtain ⟨token, more, ht⟩ := List.exists_cons_of_length_pos (Nat.zero_lt_of_lt hr)
    rw [turn_move_of_admits admits, proceed_move hr, hc]
    simp only [pick, exhaust, ht, hh]
    rfl
  | broken admits hr hc => rw [turn_move_of_admits admits, proceed_move hr, hc]

/-- A walk goes on in the child that has read, unless the usage of the node cannot be told. -/
theorem Takes.exists_of_first (admits : s.place.node.Admits s.context)
    (hr : mode.reserve < s.place.tokens.length) {r : Reading}
    (first : FirstToRead s.place.node.children s.place.tokens r) : ∃ m, Takes mode root s m := by
  cases mode with
  | completion => exact ⟨_, .chosen admits hr first nofun⟩
  | execution =>
    cases told : s.place.node.usage with
    | ok usage => exact ⟨_, .chosen admits hr first fun _ => ⟨usage, told⟩⟩
    | error e => exact ⟨_, .lost admits rfl hr first told⟩

theorem Takes.exists_of_refused (admits : s.place.node.Admits s.context)
    (hr : mode.reserve < s.place.tokens.length) {message : String}
    (hc : choose s.place.tokens "" s.place.node.children = .ok (.error message)) :
    ∃ m, Takes mode root s m := by
  obtain ⟨token, more, ht⟩ := List.exists_cons_of_length_pos (Nat.zero_lt_of_lt hr)
  cases hh : s.hints mode with
  | ok hints => exact ⟨_, .exhausted admits hr ht hc hh⟩
  | error e => exact ⟨_, .exhaustedUnhinted admits hr hc hh⟩

theorem Takes.exists_of_ended (admits : s.place.node.Admits s.context) (ht : s.place.tokens = []) :
    ∃ m, Takes mode root s m := by
  cases mode with
  | completion => exact ⟨_, .idle admits rfl ht⟩
  | execution =>
    cases hx : s.place.node.executor with
    | some run => exact ⟨_, .entered admits rfl ht hx⟩
    | none =>
      cases hh : hint s.path s.place.node with
      | ok shown => exact ⟨_, .incomplete admits rfl ht hx hh⟩
      | error e => exact ⟨_, .unhinted admits rfl ht hx hh⟩

/-- Past the requirements, a walk with enough tokens tries the children and any other one ends. -/
theorem Takes.exists_of_admits (admits : s.place.node.Admits s.context) :
    ∃ m, Takes mode root s m := by
  by_cases hr : mode.reserve < s.place.tokens.length
  · cases hc : choose s.place.tokens "" s.place.node.children with
    | error e => exact ⟨_, .broken admits hr hc⟩
    | ok choice =>
      cases choice with
      | error message => exact exists_of_refused admits hr hc
      | ok r => exact exists_of_first admits hr (choose_reading_iff.1 hc)
  · cases ht : s.place.tokens with
    | nil => exact exists_of_ended admits ht
    | cons token more =>
      cases mode with
      | execution => simp [ht, Mode.reserve] at hr
      | completion =>
        obtain rfl : more = [] := by simpa [ht, Mode.reserve] using hr
        exact ⟨_, .offering admits rfl ht⟩

theorem Takes.exists : ∃ m, Takes mode root s m := by
  cases hg : (Requirement.firstUnmet s.context s.place.node.requirements).result with
  | error e => exact ⟨_, .untested hg⟩
  | ok unmet =>
    cases unmet with
    | some r =>
      cases hf : requirementFault root s.place r.message with
      | error e => exact ⟨_, .unworded hg hf⟩
      | ok fault => exact ⟨_, .unmet hg hf⟩
    | none => exact exists_of_admits (Requirement.firstUnmet_none_iff.1 hg)

/-- `Takes` is exactly what the turns of a walk do. -/
theorem turn_eq_iff {m : Move} : (turn mode root s).move = m ↔ Takes mode root s m := by
  constructor
  · rintro rfl
    obtain ⟨m, h⟩ := (Takes.exists : ∃ m, Takes mode root s m)
    exact h.turn_eq ▸ h
  · exact Takes.turn_eq

/-- What a walk reads on its way, and the ending it comes to. -/
inductive Trail (mode : Mode) (root : Node) : State → List Reading → Ending → Prop where
  | finish {s : State} {ending : Ending} :
      Takes mode root s (.finish ending) → Trail mode root s [] ending
  | onward {s : State} {r : Reading} {rs : List Reading} {ending : Ending} :
      Takes mode root s (.onward r) → Trail mode root (s.read r) rs ending →
      Trail mode root s (r :: rs) ending

theorem Takes.onward_iff {r : Reading} :
    Takes mode root s (.onward r) ↔
      s.place.node.Admits s.context ∧ mode.reserve < s.place.tokens.length ∧
        FirstToRead s.place.node.children s.place.tokens r ∧
          (mode = .execution → s.place.node.HasUsage) := by
  constructor
  · intro h
    cases h with
    | chosen admits hr first told => exact ⟨admits, hr, first, told⟩
  · rintro ⟨admits, hr, first, told⟩
    exact .chosen admits hr first told

/-- Where a walk goes on, it goes on in a child of the node. -/
theorem Takes.mem_of_onward {r : Reading} (h : Takes mode root s (.onward r)) :
    r.child ∈ s.place.node.children := (onward_iff.1 h).2.2.1.mem

theorem Takes.offering_iff {token : String} :
    Takes mode root s (.finish (.offering token)) ↔
      s.place.node.Admits s.context ∧ mode = .completion ∧ s.place.tokens = [token] := by
  constructor
  · intro h
    cases h with
    | offering admits hm ht => exact ⟨admits, hm, ht⟩
  · rintro ⟨admits, hm, ht⟩
    exact .offering admits hm ht

theorem Takes.unique {m m' : Move} (h : Takes mode root s m) (h' : Takes mode root s m') :
    m = m' := h.turn_eq.symm.trans h'.turn_eq

namespace Trail

theorem nil_iff {ending : Ending} :
    Trail mode root s [] ending ↔ Takes mode root s (.finish ending) := by
  constructor
  · intro h
    cases h with
    | finish takes => exact takes
  · exact .finish

theorem cons_iff {r : Reading} {rs : List Reading} {ending : Ending} :
    Trail mode root s (r :: rs) ending ↔
      Takes mode root s (.onward r) ∧ Trail mode root (s.read r) rs ending := by
  constructor
  · intro h
    cases h with
    | onward takes later => exact ⟨takes, later⟩
  · rintro ⟨takes, later⟩
    exact .onward takes later

theorem exists_of_count (n : Nat) (s : State) (h : s.place.node.count ≤ n) :
    ∃ rs ending, Trail mode root s rs ending := by
  induction n generalizing s with
  | zero => exact absurd h (by rw [Node.count_eq]; omega)
  | succ n ih =>
    obtain ⟨m, takes⟩ := (Takes.exists : ∃ m, Takes mode root s m)
    cases m with
    | finish ending => exact ⟨[], ending, .finish takes⟩
    | onward r =>
      have smaller := Node.count_lt_of_mem takes.mem_of_onward
      obtain ⟨rs, ending, trail⟩ := ih (s.read r) (by rw [State.node_read]; omega)
      exact ⟨r :: rs, ending, .onward takes trail⟩

/-- Every walk comes to an ending, -/
theorem exists_trail (mode : Mode) (root : Node) (s : State) :
    ∃ rs ending, Trail mode root s rs ending := exists_of_count _ s (Nat.le_refl _)

/-- and to one only. -/
theorem unique {rs rs' : List Reading} {ending ending' : Ending}
    (h : Trail mode root s rs ending) (h' : Trail mode root s rs' ending') :
    rs = rs' ∧ ending = ending' := by
  induction h generalizing rs' with
  | finish takes =>
    cases h' with
    | finish takes' => cases takes.unique takes'; exact ⟨rfl, rfl⟩
    | onward takes' _ => cases takes.unique takes'
  | onward takes _ ih =>
    cases h' with
    | finish takes' => cases takes.unique takes'
    | onward takes' later =>
      cases takes.unique takes'
      obtain ⟨rfl, rfl⟩ := ih later
      exact ⟨rfl, rfl⟩

theorem last_turn {rs : List Reading} {ending : Ending} (h : Trail mode root s rs ending) :
    Takes mode root (s.readAll rs) (.finish ending) := by
  induction h with
  | finish takes => exact takes
  | onward _ _ ih => exact ih

theorem untold_of_lost {rs : List Reading} {r : Reading} {e : Error}
    (h : Trail mode root s rs (.lost r e)) : (s.place.node.after rs).usage = .error e := by
  have last := h.last_turn
  rw [← State.node_readAll]
  cases last with
  | lost _ _ _ _ untold => exact untold

/-- A walk does not leave the tree. -/
theorem within {rs : List Reading} {ending : Ending} {top : Node}
    (h : Trail mode root s rs ending) (inside : top.Within s.place.node) :
    top.Within (s.readAll rs).place.node := by
  induction h with
  | finish _ => exact inside
  | onward takes _ ih => exact ih (.child inside takes.mem_of_onward)

/-- An execution does not stop short of an executor without saying why. -/
theorem execution_ending {rs : List Reading} {ending : Ending}
    (h : Trail .execution root s rs ending) :
    (∃ run, ending = .entered run) ∨ (∃ fault, ending = .halted fault) ∨
      (∃ e, ending = .raised e) ∨ ∃ r e, ending = .lost r e := by
  cases h.last_turn with
  | entered => exact Or.inl ⟨_, rfl⟩
  | unmet | incomplete | exhausted => exact Or.inr (Or.inl ⟨_, rfl⟩)
  | untested | unworded | unhinted | exhaustedUnhinted | broken =>
    exact Or.inr (Or.inr (Or.inl ⟨_, rfl⟩))
  | lost => exact Or.inr (Or.inr (Or.inr ⟨_, _, rfl⟩))
  | idle _ hm | offering _ hm => cases hm

/-- A completion stops at one token or none, unless it says why. -/
theorem completion_ending {rs : List Reading} {ending : Ending}
    (h : Trail .completion root s rs ending) :
    (ending = .idle ∧ leftBy s.place.tokens rs = []) ∨
      (∃ token, ending = .offering token ∧ leftBy s.place.tokens rs = [token]) ∨
        (∃ fault, ending = .halted fault) ∨ ∃ e, ending = .raised e := by
  rw [← State.tokens_readAll]
  cases h.last_turn with
  | idle _ _ ht => exact Or.inl ⟨rfl, ht⟩
  | offering _ _ ht => exact Or.inr (Or.inl ⟨_, rfl, ht⟩)
  | unmet | incomplete | exhausted => exact Or.inr (Or.inr (Or.inl ⟨_, rfl⟩))
  | untested | unworded | unhinted | exhaustedUnhinted | broken =>
    exact Or.inr (Or.inr (Or.inr ⟨_, rfl⟩))
  | entered _ hm | lost _ hm => cases hm

end Trail

/-- The events of the turns on the way, which come from requirements and types of tokens only. -/
def reported (mode : Mode) (root : Node) (s : State) : List Reading → List Event
  | [] => (turn mode root s).events
  | r :: rs => (turn mode root s).events ++ reported mode root (s.read r) rs

/-- A walk is its trail, followed by what the ending stands for. -/
theorem Trail.descend_eq {rs : List Reading} {ending : Ending}
    (h : Trail mode root s rs ending) :
    descend mode failure root s =
      (conclude failure (s.place.node.after rs) (s.context.bindAll rs) ending).after
        (reported mode root s rs) := by
  induction h with
  | finish takes =>
    rw [descend_eq_turn]
    simp only [Turn.follow, takes.turn_eq, reported, Node.after, Context.bindAll_nil]
  | onward takes _ ih =>
    rw [descend_eq_turn]
    simp only [Turn.follow, takes.turn_eq, reported, ih, Run.after_after]
    rfl

theorem Trail.walk_eq {tokens : List String} {c : Context} {rs : List Reading} {ending : Ending}
    (h : Trail mode root (.atRoot root tokens c) rs ending) (failure : Option Handler) :
    walk mode failure root tokens c =
      (conclude failure (root.after rs) (c.bindAll rs) ending).after
        (reported mode root (.atRoot root tokens c) rs) := by
  cases mode <;> exact h.descend_eq

end Walk

end CommandTree
