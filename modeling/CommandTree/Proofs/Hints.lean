import CommandTree.Proofs.Listing
import CommandTree.Proofs.Reporting

/-!
# Hints

An execution that halts for want of a token, or on one that no child reads, hints at a usage line:
the first one below the node where it came to, behind the usages of the nodes it came through. It
came there by the first child that reads the tokens each time, so no child before it is the same,
and the line is the first one of the whole command that goes through these nodes
(`Walk.Trail.firstThrough`). Where no executable node lies below there is no hint
(`hints_show_the_way`).
-/

namespace CommandTree

namespace Node

/-- The nodes that a way down comes through, from the first to the last. -/
def passed (n : Node) (rs : List Reading) : List Node := n :: rs.map Reading.child

/-- The way leads to the first executable node of the tree, in the order of the listing. -/
structure IsFirst (n : Node) (way : List Nat) : Prop where
  executable : ∃ m, n.at? way = some m ∧ m.isExecutable = true
  first : ∀ other m, n.at? other = some m → m.isExecutable = true → ¬ other < way

/-- The place of an executable node is the first one in the listing that lies behind these nodes. -/
structure FirstThrough (n : Node) (nodes : List Node) (place : List Nat) : Prop where
  through : nodes <+: n.along place
  first : ∃ earlier later, n.executables = earlier ++ place :: later ∧
    ∀ other ∈ earlier, ¬ nodes <+: n.along other

/-! ## Places -/

variable {n c : Node}

theorem within_iff_at? {m : Node} : n.Within m ↔ ∃ way, n.at? way = some m := by
  constructor
  · intro within
    induction n using from_children with
    | step n ih =>
      rcases within_iff.1 within with rfl | ⟨c, mem, within⟩
      · exact ⟨[], rfl⟩
      · obtain ⟨i, get⟩ := List.mem_iff_getElem?.1 mem
        obtain ⟨way, leads⟩ := ih c mem within
        exact ⟨i :: way, by rw [at?, get]; exact leads⟩
  · rintro ⟨way, leads⟩
    induction way generalizing n with
    | nil => exact Option.some.inj leads ▸ .root
    | cons i way ih =>
      obtain ⟨c, get, leads⟩ := Option.bind_eq_some_iff.1 leads
      exact (Within.child .root (List.mem_of_getElem? get)).trans (ih leads)

theorem executables_eq_nil_iff :
    n.executables = [] ↔ ∀ m, n.Within m → m.isExecutable = false := by
  rw [List.eq_nil_iff_forall_not_mem]
  constructor
  · intro none m within
    obtain ⟨way, leads⟩ := within_iff_at?.1 within
    by_contra executable
    exact none way (mem_executables.2 ⟨m, leads, Bool.not_eq_false _ ▸ executable⟩)
  · intro idle way mem
    obtain ⟨m, leads, executable⟩ := mem_executables.1 mem
    rw [idle m (within_iff_at?.2 ⟨way, leads⟩)] at executable
    cases executable

theorem isFirst_of_cons {way : List Nat} {others : List (List Nat)}
    (listed : n.executables = way :: others) : n.IsFirst way := by
  have order := n.pairwise_executables
  rw [listed, List.pairwise_cons] at order
  refine ⟨mem_executables.1 (listed ▸ List.mem_cons_self), ?_⟩
  intro other m leads executable less
  have mem : other ∈ n.executables := mem_executables.2 ⟨m, leads, executable⟩
  rw [listed] at mem
  rcases List.mem_cons.1 mem with rfl | mem
  · exact List.lt_irrefl _ less
  · exact List.lt_asymm (order.1 other mem) less

theorem executablesFrom_append (i : Nat) (before after : List Node) :
    executablesFrom i (before ++ after) =
      executablesFrom i before ++ executablesFrom (i + before.length) after := by
  induction before generalizing i with
  | nil => rfl
  | cons c before ih =>
    rw [List.cons_append, executablesFrom, ih, executablesFrom, List.append_assoc,
      List.length_cons, Nat.add_right_comm, Nat.add_assoc]

theorem FirstThrough.root {way : List Nat} {others : List (List Nat)}
    (listed : n.executables = way :: others) : n.FirstThrough [n] way where
  through := ⟨_, (along_eq_cons n way).symm⟩
  first := ⟨[], others, listed, nofun⟩

/-- Through a child that is not among those before it, the first place is the first one there. -/
theorem FirstThrough.child {before after nodes : List Node} {place : List Nat}
    (first : c.FirstThrough (c :: nodes) place) (children : n.children = before ++ c :: after)
    (new : c ∉ before) : n.FirstThrough (n :: c :: nodes) (before.length :: place) := by
  have get : n.children[before.length]? = some c := by simp [children]
  obtain ⟨through, earlier, later, listed, passedBy⟩ := first
  refine ⟨?through, ?first⟩
  case through =>
    rw [along_cons get]
    exact (List.prefix_cons_inj n).2 through
  case first =>
    refine ⟨(if n.isExecutable then [[]] else []) ++ executablesFrom 0 before ++
      earlier.map (before.length :: ·), later.map (before.length :: ·) ++
        executablesFrom (before.length + 1) after, ?_, ?_⟩
    · rw [executables_eq, children, executablesFrom_append, executablesFrom, listed]
      simp
    · intro other mem through
      rw [List.append_assoc, List.mem_append, List.mem_append] at mem
      rcases mem with own | sibling | inside
      · obtain rfl : other = [] := eq_nil_of_mem_own own
        simp [along] at through
      · obtain ⟨j, d, below, rfl, found, -⟩ := mem_executablesFrom.1 sibling
        have at_j : n.children[0 + j]? = some d := by
          rw [children, Nat.zero_add, List.getElem?_append_left, found]
          exact (List.getElem?_eq_some_iff.1 found).1
        rw [along_cons at_j, List.prefix_cons_inj, along_eq_cons] at through
        obtain ⟨rfl, -⟩ := List.cons_prefix_cons.1 through
        exact new (List.mem_of_getElem? found)
      · obtain ⟨below, mem, rfl⟩ := List.mem_map.1 inside
        rw [along_cons get, List.prefix_cons_inj] at through
        exact passedBy below mem through

/-! ## The nodes of a line -/

end Node

namespace Listing

variable {l m : Listing}

theorem first_append : (l ++ m).first = match l.first with
    | .ok none => m.first
    | shown => shown := by
  obtain ⟨lines, error⟩ := l
  cases lines <;> cases error <;> simp [append_eq, first]

theorem first_map (f : String → String) : (l.map f).first = l.first.map (Option.map f) := by
  obtain ⟨lines, error⟩ := l
  cases lines <;> cases error <;> rfl

/-- A listing without a first line runs through no lines at all. -/
theorem RunsThrough.eq_nil {lines : List String} (h : l.RunsThrough lines)
    (nothing : l.first = .ok none) : lines = [] :=
  List.head?_eq_none_iff.1 (h.first_eq nothing).symm

end Listing

namespace Node

variable {n : Node}

/-- The first line of some nodes is the first line of one of them. -/
theorem exists_first_of_listingAll {nodes : List Node} {line : String}
    (shown : (listingAll nodes).first = .ok (some line)) (i : Nat) :
    ∃ j c line' below others later, nodes[j]? = some c ∧ c.listing.first = .ok (some line') ∧
      c.executables = below :: others ∧ executablesFrom i nodes = ((i + j) :: below) :: later := by
  induction nodes generalizing i with
  | nil => cases shown
  | cons c rest ih =>
    rw [listingAll, Listing.first_append] at shown
    cases own : c.listing.first with
    | error e =>
      rw [own] at shown
      cases shown
    | ok first =>
      cases first with
      | some line' =>
        obtain ⟨below, others, places⟩ : ∃ below others, c.executables = below :: others := by
          have head := c.runsThrough_listing.first_eq own
          cases places : c.executables with
          | nil =>
            rw [places] at head
            cases head
          | cons below others => exact ⟨below, others, rfl⟩
        let later := others.map (i :: ·) ++ executablesFrom (i + 1) rest
        exact ⟨0, c, line', below, others, later, rfl, own, places, by
          rw [executablesFrom, places]; rfl⟩
      | none =>
        rw [own] at shown
        have places := List.map_eq_nil_iff.1 (c.runsThrough_listing.eq_nil own)
        obtain ⟨j, d, line', below, others, later, get, first, behind, all⟩ := ih shown (i + 1)
        refine ⟨j + 1, d, line', below, others, later, get, first, behind, ?_⟩
        rw [executablesFrom, places, all, Nat.add_right_comm, Nat.add_assoc]
        rfl

/-- Where a first line is listed, all nodes on the way to its place tell their usages. -/
theorem hasUsage_of_first {line : String} {way : List Nat} {others : List (List Nat)}
    (shown : n.listing.first = .ok (some line)) (listed : n.executables = way :: others) :
    ∀ m ∈ n.along way, m.HasUsage := by
  induction n using from_children generalizing line way others with
  | step n ih =>
    rw [listing_eq] at shown
    cases told : n.usage with
    | error e =>
      rw [told] at shown
      cases shown
    | ok usage =>
      rw [executables_eq] at listed
      cases executable : n.isExecutable with
      | true =>
        rw [executable] at listed
        obtain rfl : [] = way := (List.cons.inj listed).1
        intro m mem
        obtain rfl := List.mem_singleton.1 mem
        exact ⟨usage, told⟩
      | false =>
        simp only [told, ownLine, executable] at shown
        rw [Listing.first_append, Listing.first_map] at shown
        obtain ⟨below, first⟩ : ∃ below, (listingAll n.children).first = .ok (some below) := by
          cases first : (listingAll n.children).first with
          | error e =>
            rw [first] at shown
            cases shown
          | ok below =>
            cases below with
            | none =>
              rw [first] at shown
              cases shown
            | some below => exact ⟨below, rfl⟩
        obtain ⟨j, c, line', below', others', later, get, own, places, all⟩ :=
          exists_first_of_listingAll first 0
        rw [executable, all] at listed
        obtain rfl : (0 + j) :: below' = way := (List.cons.inj listed).1
        rw [Nat.zero_add, along_cons get]
        rw [List.forall_mem_cons]
        exact ⟨⟨usage, told⟩, ih c (List.mem_of_getElem? get) own places⟩

end Node

theorem FirstToRead.exists_new {children : List Node} {tokens : List String} {r : Reading}
    (first : FirstToRead children tokens r) :
    ∃ before after, children = before ++ r.child :: after ∧ r.child ∉ before := by
  obtain ⟨before, after, split, refused, reads, -⟩ := first
  refine ⟨before, after, split, fun mem => ?_⟩
  obtain ⟨message, answer⟩ := refused r.child mem
  rw [answer] at reads
  cases reads

namespace Walk

variable {mode : Mode} {root : Node} {s : State} {rs : List Reading} {ending : Ending}

/-- The usages that an execution has collected are those of the nodes that it has left. -/
theorem Trail.path_eq (trail : Trail .execution root s rs ending) :
    ∃ above, s.place.node.passed rs = above ++ [s.place.node.after rs] ∧
      (∀ n ∈ above, n.HasUsage) ∧ (s.readAll rs).path = s.path ++ above.map Node.fragment := by
  induction trail with
  | @finish s _ _ => exact ⟨[], rfl, nofun, (List.append_nil s.path).symm⟩
  | @onward s r rs _ takes _ ih =>
    obtain ⟨-, -, -, told⟩ := Takes.onward_iff.1 takes
    have has : s.place.node.HasUsage := told rfl
    obtain ⟨above, passed, all, path⟩ := ih
    refine ⟨s.place.node :: above, congrArg (s.place.node :: ·) passed,
      List.forall_mem_cons.2 ⟨has, all⟩, ?_⟩
    rw [State.readAll_cons, path, State.read, has.eq_fragment, List.map_cons]
    exact List.append_assoc s.path [s.place.node.fragment] _

/-- The first executable node below the end of a walk is the first one of the whole tree on a way
through the nodes that the walk came through. -/
theorem Trail.firstThrough (trail : Trail mode root s rs ending) {way : List Nat}
    {others : List (List Nat)} (listed : (s.place.node.after rs).executables = way :: others) :
    ∃ place, s.place.node.FirstThrough (s.place.node.passed rs) place ∧
      s.place.node.along place =
        s.place.node.passed rs ++ ((s.place.node.after rs).along way).tail := by
  induction trail with
  | @finish s _ _ => exact ⟨way, .root listed, s.place.node.along_eq_cons way⟩
  | @onward s r rs _ takes _ ih =>
    obtain ⟨-, -, first, -⟩ := Takes.onward_iff.1 takes
    obtain ⟨before, after, children, new⟩ := first.exists_new
    obtain ⟨place, through, along⟩ := ih listed
    have get : s.place.node.children[before.length]? = some r.child := by simp [children]
    refine ⟨before.length :: place, through.child children new, ?_⟩
    rw [Node.along_cons get]
    exact congrArg (s.place.node :: ·) along

/-- A hint says nothing if no executable node lies below, and otherwise shows the first usage line
there, all of whose nodes have told their usages. -/
theorem hint_cases {path : List String} {n : Node} {shown : Value}
    (hinted : hint path n = .ok shown) :
    (shown = .null ∧ n.executables = []) ∨
      ∃ way others, n.executables = way :: others ∧ (∀ m ∈ n.along way, m.HasUsage) ∧
        shown = .str ("usage: " ++ joined (path ++ (n.along way).map Node.fragment)) := by
  rw [hint, Node.usages_eq_listing] at hinted
  cases first : n.listing.first with
  | error e =>
    rw [first] at hinted
    cases hinted
  | ok line =>
    rw [first] at hinted
    cases line with
    | none =>
      obtain rfl : shown = .null := (Except.ok.inj hinted).symm
      exact Or.inl ⟨rfl, List.map_eq_nil_iff.1 (n.runsThrough_listing.eq_nil first)⟩
    | some line =>
      have head := n.runsThrough_listing.first_eq first
      cases listed : n.executables with
      | nil =>
        rw [listed] at head
        cases head
      | cons way others =>
        rw [listed] at head
        obtain rfl : line = n.lineTo way := Option.some.inj head
        have some : (n.along way).map Node.fragment ≠ [] := by simp [Node.along_ne_nil]
        refine Or.inr ⟨way, others, rfl, Node.hasUsage_of_first first listed, ?_⟩
        rw [← joined_append_joined path some]
        exact (Except.ok.inj hinted).symm

/-- An execution that lacks a token or is exhausted gives its hint. -/
theorem Takes.hint_of_halted {fault : Fault}
    (takes : Takes .execution root s (.finish (.halted fault)))
    (stuck : fault.kind = .incompleteCommand ∨ fault.isA .dispatchExhausted = true) :
    ∃ shown, hint s.path s.place.node = .ok shown ∧ fault.option? "hint" = some shown := by
  cases takes with
  | unmet _ declared =>
    obtain ⟨text, rfl⟩ := requirementFault_ok declared
    rcases stuck with kind | kind <;> cases kind
  | incomplete _ _ _ _ hinted => exact ⟨_, hinted, rfl⟩
  | exhausted _ _ _ _ hinted =>
    obtain ⟨shown, given, rfl⟩ := State.hints_execution hinted
    exact ⟨shown, given, rfl⟩

/-- A usage line that shows the way on from where a walk came to. -/
structure ShowsTheWay (root : Node) (rs : List Reading) (line : String) : Prop where
  /-- It leads through the nodes that the walk came through, and on to the first executable node
  below the last of them. All of these tell their usages. -/
  onward : ∃ way, (root.after rs).IsFirst way ∧
    (∀ n ∈ root.passed rs ++ ((root.after rs).along way).tail, n.HasUsage) ∧
    line = joined ((root.passed rs ++ ((root.after rs).along way).tail).map Node.fragment)
  /-- It is the first of all usage lines that leads through these nodes. -/
  first : ∃ earlier place later, root.executables = earlier ++ place :: later ∧
    root.lineTo place = line ∧
    (root.TellsUsages →
      root.usages = .ofLines (earlier.map root.lineTo ++ line :: later.map root.lineTo)) ∧
    root.passed rs <+: root.along place ∧
    ∀ other ∈ earlier, ¬ root.passed rs <+: root.along other

/-- The hint at the end of a trail says nothing, or shows the way on. -/
theorem Trail.hint_shows {tokens : List String} {context : Context} {shown : Value}
    (trail : Trail .execution root (.atRoot root tokens context) rs ending)
    (hinted : hint ((State.atRoot root tokens context).readAll rs).path (root.after rs) =
      .ok shown) :
    (shown = .null ∧ ∀ m, (root.after rs).Within m → m.isExecutable = false) ∨
      ∃ line, shown = .str ("usage: " ++ line) ∧ ShowsTheWay root rs line := by
  obtain ⟨above, passed, told, path⟩ : ∃ above, root.passed rs = above ++ [root.after rs] ∧
      (∀ n ∈ above, n.HasUsage) ∧
        ((State.atRoot root tokens context).readAll rs).path = above.map Node.fragment :=
    trail.path_eq
  rw [path] at hinted
  obtain ⟨rfl, idle⟩ | ⟨way, others, listed, below, rfl⟩ := hint_cases hinted
  · exact Or.inl ⟨rfl, Node.executables_eq_nil_iff.1 idle⟩
  · obtain ⟨spot, ⟨through, earlier, later, split, passedBy⟩, along⟩ := trail.firstThrough listed
    have nodes : root.passed rs ++ ((root.after rs).along way).tail =
        above ++ (root.after rs).along way := by
      rw [passed, List.append_assoc, (root.after rs).along_eq_cons way]
      rfl
    have line : root.lineTo spot =
        joined (above.map Node.fragment ++ ((root.after rs).along way).map Node.fragment) := by
      rw [← List.map_append, ← nodes]
      exact congrArg (fun nodes => joined (nodes.map Node.fragment)) along
    refine Or.inr ⟨_, rfl, ⟨way, Node.isFirst_of_cons listed, ?_, ?_⟩, earlier, spot, later, split,
      line, ?_, through, passedBy⟩
    · rw [nodes]
      exact fun n mem => (List.mem_append.1 mem).elim (told n) (below n)
    · rw [nodes, List.map_append]
    · intro tells
      have places : root.executables = earlier ++ spot :: later := split
      rw [tells.usages_eq, places, List.map_append, List.map_cons, line]

end Walk

namespace Command

open Walk

/-- **Hints show the way on.** An execution that stores a fault without entering an executor halts
on it, at the node that it came to last. If it lacks a token there, or comes on one that no child
reads, the fault has a hint: none where no executable node lies below, and otherwise the usage line
of the first one there is, from the root along the nodes that the walk came through. Of all usage
lines of the command it is the first that leads through these nodes. The fault is in the context
that a handler is handed, and in the one that the call leaves unless a handler changes it. -/
theorem hints_show_the_way (c : Command) (sender : Option Sender) (label : String)
    (args : List String) :
    let left := (c.under .execution sender label args none).context
    (∀ fault, (∀ rs run, ¬ c.Enters .execution sender label args rs run) →
      left.fault = some fault → ∃ rs, c.Halts .execution sender label args rs fault) ∧
    (∀ rs fault, c.Halts .execution sender label args rs fault → left.fault = some fault ∧
      (fault.kind = .incompleteCommand ∨ fault.isA .dispatchExhausted = true →
        (fault.option? "hint" = some .null ∧
          ∀ m, (c.root.after rs).Within m → m.isExecutable = false) ∨
        ∃ line, fault.option? "hint" = some (.str ("usage: " ++ line)) ∧
          ShowsTheWay c.root rs line)) ∧
    (LeavesAlone c.failure → (c.run .execution sender label args).context = left) := by
  intro left
  refine ⟨fun fault unentered stored => halts_of_stored unentered stored, ?_, context_of_alone⟩
  intro rs fault halts
  refine ⟨(failed_of_trail halts).stored, fun stuck => ?_⟩
  obtain ⟨shown, hinted, given⟩ := (Trail.last_turn halts).hint_of_halted stuck
  rw [State.node_readAll] at hinted
  rw [given]
  obtain ⟨rfl, idle⟩ | ⟨line, rfl, way⟩ := Trail.hint_shows halts hinted
  · exact Or.inl ⟨rfl, idle⟩
  · exact Or.inr ⟨line, rfl, way⟩

/-- A command to list the beds, or to plant one, all of it or with a phrase. -/
def planting : Command :=
  ⟨0, "plant", .mk 0 "plant" (.literal ⟨"plant", true, rfl⟩) [] none [beds, bed], none⟩
where
  beds : Node := .mk 1 "beds" (.literal ⟨"beds", false, rfl⟩) [] (some .done) []
  bed : Node := .mk 2 "bed" .word [] none [all, .mk 5 "crop" .phrase [] (some .done) []]
  all : Node := .mk 3 "all" (.literal ⟨"all", false, rfl⟩) [] none
    [.mk 4 "crop" .word [] (some .done) []]

/-- What is left of a call that names a bed alone. -/
theorem planting_halts : ∃ fault, fault.kind = .incompleteCommand ∧
    (fault.option? "hint").bind Value.str? = some ("usage: " ++ "plant <bed> all <crop>") ∧
    planting.Halts .execution none "plant" ["north"] [⟨planting.bed, .str "north", []⟩] fault := by
  have first : FirstToRead [planting.beds, planting.bed] ["north"]
      ⟨planting.bed, .str "north", []⟩ := by
    refine ⟨[planting.beds], [], rfl, ?_, rfl, rfl⟩
    intro sibling mem
    obtain rfl := List.mem_singleton.1 mem
    exact ⟨_, rfl⟩
  have told : planting.root.HasUsage := ⟨_, rfl⟩
  have hinted : hint ["plant"] planting.bed =
      .ok (.str ("usage: " ++ "plant <bed> all <crop>")) := by
    have listed : planting.bed.listing.lines = ["<bed> all <crop>", "<bed> <crop...>"] := by
      decide +kernel
    have line : joined (["plant"] ++ ["<bed> all <crop>"]) = "plant <bed> all <crop>" := by decide
    rw [hint, Node.usages_eq_listing, Listing.first, listed]
    exact congrArg (fun shown => Except.ok (Value.str ("usage: " ++ shown))) line
  refine ⟨incompleteFault planting.root ⟨planting.bed, 2, []⟩
    (.str ("usage: " ++ "plant <bed> all <crop>")), rfl, rfl, ?_⟩
  exact .onward (.chosen (Node.admits_of_nil rfl) Nat.one_pos first fun _ => told)
    (.finish (.incomplete (Node.admits_of_nil rfl) rfl rfl rfl hinted))

/-- A bed alone is not enough. The hint goes on with all of it, which comes first in the tree. -/
theorem planting_shows_the_way :
    ∃ rs fault, planting.Halts .execution none "plant" ["north"] rs fault ∧
      fault.kind = .incompleteCommand ∧
      fault.option? "hint" = some (.str ("usage: " ++ "plant <bed> all <crop>")) ∧
      ShowsTheWay planting.root rs "plant <bed> all <crop>" := by
  obtain ⟨fault, kind, said, halts⟩ := planting_halts
  obtain ⟨-, hints, -⟩ := hints_show_the_way planting none "plant" ["north"]
  refine ⟨_, fault, halts, kind, ?_⟩
  rcases (hints _ fault halts).2 (Or.inl kind) with ⟨nothing, -⟩ | ⟨line, shown, way⟩
  · rw [nothing] at said
    cases said
  · rw [shown] at said
    obtain rfl := (String.append_right_inj _).1 (Option.some.inj said)
    exact ⟨shown, way⟩

end Command

end CommandTree
