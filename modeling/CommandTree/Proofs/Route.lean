import CommandTree.Attribute
import CommandTree.Proofs.Recasting

/-!
# Routes

When an execution enters an executor, said without the walk: there is a way from the root on which
each child is the first to read the tokens left before it, tokens last until the final node and no
longer, and every node admits the context in which exactly what was read up to it is bound. Such a
way is a route if every node that it leaves can tell its usage, which the walk asks for as it goes
on. The executor at the end of a route is applied once, and no other is ever applied: whatever the
executors of a tree are exchanged for, it makes no difference anywhere else (`enters_iff_route`).
-/

namespace CommandTree

/-- A way from the root to a node where no token is left. -/
structure Way (root : Node) (args : List String) (c : Context) (rs : List Reading) : Prop where
  chosen : ∀ before r, before ++ [r] <+: rs → leftBy args before ≠ [] ∧
    FirstToRead (root.after before).children (leftBy args before) r
  ended : leftBy args rs = []
  admitted : ∀ before, before <+: rs → (root.after before).Admits (c.bindAll before)

/-- A way on which every node can be left. -/
structure Route (root : Node) (args : List String) (c : Context) (rs : List Reading) : Prop
    extends Way root args c rs where
  told : ∀ before r, before ++ [r] <+: rs → (root.after before).HasUsage

variable {n : Node} {tokens : List String} {c : Context}

theorem route_nil : Route n tokens c [] ↔ n.Admits c ∧ tokens = [] := by
  constructor
  · intro route
    exact ⟨route.admitted [] (List.prefix_refl []), route.ended⟩
  · rintro ⟨admits, ended⟩
    refine ⟨⟨?_, ended, ?_⟩, ?_⟩
    · intro before r h
      simp at h
    · intro before h
      rw [List.prefix_nil.1 h]
      exact admits
    · intro before r h
      simp at h

theorem route_cons {r : Reading} {rs : List Reading} :
    Route n tokens c (r :: rs) ↔
      n.Admits c ∧ tokens ≠ [] ∧ FirstToRead n.children tokens r ∧ n.HasUsage ∧
        Route r.child r.rest (c.bind r.child.name r.value) rs := by
  constructor
  · intro route
    obtain ⟨left, first⟩ := route.chosen [] r ⟨rs, rfl⟩
    refine ⟨route.admitted [] (List.nil_prefix), left, first, route.told [] r ⟨rs, rfl⟩,
      ⟨?_, route.ended, ?_⟩, ?_⟩
    · intro before next h
      exact route.chosen (r :: before) next ((List.prefix_cons_inj r).2 h)
    · intro before h
      exact route.admitted (r :: before) ((List.prefix_cons_inj r).2 h)
    · intro before next h
      exact route.told (r :: before) next ((List.prefix_cons_inj r).2 h)
  · rintro ⟨admits, left, first, told, route⟩
    refine ⟨⟨?_, route.ended, ?_⟩, ?_⟩
    · intro before next h
      cases before with
      | nil =>
        obtain ⟨rfl, -⟩ := List.cons_prefix_cons.1 h
        exact ⟨left, first⟩
      | cons r' before =>
        obtain ⟨rfl, later⟩ := List.cons_prefix_cons.1 h
        exact route.chosen before next later
    · intro before h
      cases before with
      | nil => exact admits
      | cons r' before =>
        obtain ⟨rfl, later⟩ := List.cons_prefix_cons.1 h
        exact route.admitted before later
    · intro before next h
      cases before with
      | nil => exact told
      | cons r' before =>
        obtain ⟨rfl, later⟩ := List.cons_prefix_cons.1 h
        exact route.told before next later

/-- Other executors for the same tree. -/
def Recast.executors (f : Executor → Executor) : Recast :=
  ⟨id, f, fun _ => rfl, fun _ _ => rfl, fun _ _ => rfl, fun _ _ _ _ => rfl, fun _ _ => rfl⟩

namespace Walk

variable {mode : Mode} {root : Node} {s : State}

theorem Takes.entered_iff {run : Executor} :
    Takes mode root s (.finish (.entered run)) ↔
      s.place.node.Admits s.context ∧ mode = .execution ∧ s.place.tokens = [] ∧
        s.place.node.executor = some run := by
  constructor
  · intro h
    cases h with
    | entered admits hm ht hx => exact ⟨admits, hm, ht, hx⟩
  · rintro ⟨admits, hm, ht, hx⟩
    exact .entered admits hm ht hx

theorem trail_entered_iff {rs : List Reading} {run : Executor} :
    Trail .execution root s rs (.entered run) ↔
      Route s.place.node s.place.tokens s.context rs ∧
        (s.place.node.after rs).executor = some run := by
  induction rs generalizing s with
  | nil =>
    rw [route_nil, Trail.nil_iff, Takes.entered_iff]
    simp only [Node.after, true_and, and_assoc]
  | cons r rs ih =>
    rw [route_cons, Trail.cons_iff, Takes.onward_iff, ih]
    simp only [Node.after, Mode.reserve, List.length_pos_iff, State.node_read, State.tokens_read,
      State.context_read, and_assoc, true_imp_iff]

theorem reported_executors (f : Executor → Executor) (rs : List Reading) :
    reported mode (root.recast (.executors f)) (s.recast (.executors f))
        (rs.map (Reading.recast (.executors f))) = reported mode root s rs := by
  have events (s : State) : (turn mode (root.recast (.executors f))
      (s.recast (.executors f))).events = (turn mode root s).events := by
    rw [turn_events_recast, turn_events]
    simp only [trialEvents, restoring, Node.type_recast]
    rfl
  induction rs generalizing s with
  | nil => exact events s
  | cons r rs ih => rw [List.map_cons, reported, reported, events, State.read_recast, ih]

/-- With other executors, a walk is the same up to the executor that it enters. -/
theorem Trail.walk_executors {tokens : List String} {c : Context} {rs : List Reading}
    {ending : Ending} (trail : Trail mode root (.atRoot root tokens c) rs ending)
    (f : Executor → Executor) (failure : Option Handler) :
    walk mode failure (root.recast (.executors f)) tokens c =
      (conclude failure ((root.after rs).recast (.executors f)) (c.bindAll rs)
          (ending.recast (.executors f))).after
        (reported mode root (.atRoot root tokens c) rs) := by
  have walked := (trail.recast (.executors f)).walk_eq failure
  have told : reported mode (root.recast (.executors f))
      ((State.atRoot root tokens c).recast (.executors f))
      (rs.map (Reading.recast (.executors f))) = reported mode root (.atRoot root tokens c) rs :=
    reported_executors f rs
  rw [Node.after_recast, Context.bindAll_recast] at walked
  exact walked.trans (congrArg (Run.after · _) told)

/-- Entering an executor means to apply it once. -/
theorem conclude_entered (failure : Option Handler) (n : Node) (c : Context) (run : Executor)
    (events : List Event) :
    (conclude failure n c (.entered run)).after events =
      ((run c).andThen fun left => .done (settle left)).after
        (events ++ [.log (.executing n.name c.tokens)]) := Run.after_after ..

/-- The execution of a call reads these and enters that executor. -/
def Enters (root : Node) (sender : Option Sender) (label : String) (args : List String)
    (rs : List Reading) (run : Executor) : Prop :=
  Trail .execution root (.atRoot root (label :: args) (.make .start sender label args)) rs
    (.entered run)

/-- **Executors are entered along routes, and nowhere else.** A call enters the executor at the end
of a route, which is the only one. The executor is applied once, to the context in which exactly
what was read on the route is bound, in this order, so that a name has the last value read under it.
No other executor is applied: others in their place make no difference. A call without a route halts
on a fault or raises an error, and is the same whatever the executors of the tree are. -/
theorem enters_iff_route (root : Node) (sender : Option Sender) (label : String)
    (args : List String) :
    let fresh := Context.make .start sender label args
    let reports := reported .execution root (.atRoot root (label :: args) fresh)
    let executed := fun failure root => walk .execution failure root (label :: args) fresh
    (∀ rs run, Enters root sender label args rs run ↔
      Route root args fresh rs ∧ (root.after rs).executor = some run) ∧
    (∀ rs run rs' run', Enters root sender label args rs run →
      Enters root sender label args rs' run' → rs = rs' ∧ run = run') ∧
    (∀ rs run, Enters root sender label args rs run → ∀ failure,
      executed failure root =
        ((run (fresh.bindAll rs)).andThen fun left => .done (settle left)).after
          (reports rs ++ [.log (.executing (root.after rs).name (label :: args))]) ∧
      ∀ f, executed failure (root.recast (.executors f)) =
        ((f run (fresh.bindAll rs)).andThen fun left => .done (settle left)).after
          (reports rs ++ [.log (.executing (root.after rs).name (label :: args))])) ∧
    (∀ rs name, (fresh.bindAll rs).get? name =
      (rs.reverse.find? fun r => r.child.name == name).map Reading.value) ∧
    ((∀ rs run, ¬ Enters root sender label args rs run) → ∀ failure,
      (∃ rs, (∃ fault, executed failure root =
            (halt failure fault (fresh.bindAll rs)).after (reports rs)) ∨
          (∃ e, executed failure root = (Run.raise (fresh.bindAll rs) e).after (reports rs)) ∨
          ∃ r e, (root.after rs).usage = .error e ∧
            executed failure root = (Run.raise (fresh.bindAll (rs ++ [r])) e).after (reports rs)) ∧
      ∀ f, executed failure (root.recast (.executors f)) = executed failure root) := by
  intro fresh reports executed
  refine ⟨fun rs run => trail_entered_iff, ?_, ?_, ?_, ?_⟩
  · intro rs run rs' run' h h'
    obtain ⟨hrs, hrun⟩ := Trail.unique h h'
    exact ⟨hrs, Ending.entered.inj hrun⟩
  · intro rs run entered failure
    refine ⟨(Trail.walk_eq entered failure).trans (conclude_entered ..), fun f => ?_⟩
    rw [← Node.name_recast (.executors f)]
    exact (Trail.walk_executors entered f failure).trans (conclude_entered ..)
  · intro rs name
    rw [Context.get?_bindAll]
    exact Option.or_none
  · intro none failure
    obtain ⟨rs, ending, trail⟩ :=
      Trail.exists_trail .execution root (.atRoot root (label :: args) fresh)
    have walked := trail.walk_eq failure
    have unentered : ∀ run, ending ≠ .entered run := by
      rintro run rfl
      exact none rs run trail
    refine ⟨⟨rs, ?_⟩, fun f => ?_⟩
    · obtain ⟨run, rfl⟩ | ⟨fault, rfl⟩ | ⟨e, rfl⟩ | ⟨r, e, rfl⟩ := trail.execution_ending
      · exact absurd rfl (unentered run)
      · exact Or.inl ⟨fault, walked⟩
      · exact Or.inr (Or.inl ⟨e, walked⟩)
      · rw [conclude, ← Context.bindAll_concat] at walked
        exact Or.inr (Or.inr ⟨r, e, trail.untold_of_lost, walked⟩)
    · have same := conclude_recast (.executors f) failure (root.after rs) (fresh.bindAll rs)
        fun run entered => absurd entered (unentered run)
      rw [← same] at walked
      exact (trail.walk_executors f failure).trans walked.symm

/-- A way to an executor, on which the usage of the root cannot be told. -/
def nameless : Node :=
  .mk 0 "visit" (.custom (Literal.textless ⟨"visit", true, rfl⟩)) [] none [place]
where
  place : Node := .mk 1 "place" .word [] (some .done) []

/-- It is no route: an error leaves the call, and the executor is not entered. -/
theorem nameless_is_not_entered :
    let fresh := Context.make .start none "visit" ["home"]
    (∃ rs run, Way nameless ["home"] fresh rs ∧ (nameless.after rs).executor = some run) ∧
      (walk .execution none nameless ["visit", "home"] fresh).error = some .noAttribute ∧
      ∀ rs run, ¬ Enters nameless none "visit" ["home"] rs run := by
  intro fresh
  have first : FirstToRead nameless.children ["home"] ⟨nameless.place, .str "home", []⟩ :=
    ⟨[], [], rfl, nofun, rfl, rfl⟩
  have trail : Trail .execution nameless (.atRoot nameless ["visit", "home"] fresh) []
      (.lost _ _) := .finish (.lost (Node.admits_of_nil rfl) rfl Nat.one_pos first rfl)
  refine ⟨⟨[⟨nameless.place, .str "home", []⟩], .done, ⟨?_, rfl, ?_⟩, rfl⟩, ?_, ?_⟩
  · intro before r h
    cases before with
    | nil =>
      obtain ⟨rfl, -⟩ := List.cons_prefix_cons.1 h
      exact ⟨List.cons_ne_nil _ _, first⟩
    | cons r' before => simp at h
  · intro before h
    cases before with
    | nil => exact Node.admits_of_nil rfl
    | cons r' before =>
      obtain ⟨rfl, later⟩ := List.cons_prefix_cons.1 h
      obtain rfl := List.prefix_nil.1 later
      exact Node.admits_of_nil rfl
  · rw [trail.walk_eq]
    rfl
  · intro rs run entered
    cases (trail.unique entered).2

end Walk

end CommandTree
