import CommandTree.Node.Usages
import CommandTree.Proofs.Consumption
import Mathlib.Logic.Function.Iterate

/-!
# Listings

The usages of a tree are found by a loop over a stack of nodes that are still pending, each with the
way to it. What the loop lists is what is listed from the root down (`usagesOf_eq_toCome`), since at
every turn the lines that are still to come are those of the pending trees, from the top of the
stack on; and a turn takes one node off what is pending, so there is a turn for each node of the
tree (`Tour.pending_turns_eq_nil_iff`). A place in a tree is the way down to it, given by the
numbers of the children on it. So there is one line for each place with an executable node, in the
order of the places (`usages_list_executables`). A node whose usage cannot be told ends the listing
in the middle of these lines; there is none among the built-in types.
-/

namespace CommandTree

@[simp] theorem joined_singleton (word : String) : joined [word] = word :=
  String.intercalate_singleton

theorem joined_cons_joined (word : String) {words : List String} (h : words ≠ []) :
    joined (word :: words) = word ++ " " ++ joined words := String.intercalate_cons_of_ne_nil h

/-- Words may be joined before others are put in front. -/
theorem joined_append_joined (first : List String) {words : List String} (h : words ≠ []) :
    joined (first ++ [joined words]) = joined (first ++ words) := by
  induction first with
  | nil => exact joined_singleton _
  | cons word first ih =>
    rw [List.cons_append, List.cons_append, joined_cons_joined word (by simp),
      joined_cons_joined word (by simp [h]), ih]

namespace Listing

def ofLines (lines : List String) : Listing := ⟨lines, none⟩

/-- One listing after the other, of which nothing comes if the first one has ended early. -/
def append (l m : Listing) : Listing :=
  match l.error with
  | some _ => l
  | none => ⟨l.lines ++ m.lines, m.error⟩

instance : Append Listing := ⟨append⟩

def map (f : String → String) (l : Listing) : Listing := ⟨l.lines.map f, l.error⟩

/-- The listing runs through these lines, to the last of them unless it ends early. -/
structure RunsThrough (l : Listing) (lines : List String) : Prop where
  listed : l.lines <+: lines
  all : l.error = none → l.lines = lines

variable (l m : Listing) (f g : String → String)

theorem append_eq : l ++ m = match l.error with
    | some _ => l
    | none => ⟨l.lines ++ m.lines, m.error⟩ := rfl

@[simp] theorem empty_append : empty ++ l = l := rfl

@[simp] theorem append_empty : l ++ empty = l := by
  obtain ⟨lines, error⟩ := l
  cases error <;> simp [append_eq, empty]

@[simp] theorem fail_append (e : Error) : fail e ++ l = fail e := rfl

theorem append_assoc (k : Listing) : l ++ m ++ k = l ++ (m ++ k) := by
  obtain ⟨lines, error⟩ := l
  obtain ⟨lines', error'⟩ := m
  cases error <;> cases error' <;> simp [append_eq]

theorem map_append : (l ++ m).map f = l.map f ++ m.map f := by
  obtain ⟨lines, error⟩ := l
  cases error <;> simp [append_eq, map]

theorem map_map : (l.map f).map g = l.map fun line => g (f line) := by simp [map]

@[simp] theorem map_empty : empty.map f = empty := rfl

@[simp] theorem map_fail (e : Error) : (fail e).map f = fail e := rfl

@[simp] theorem map_ofLines (lines : List String) :
    (ofLines lines).map f = ofLines (lines.map f) := rfl

variable {l m}

theorem error_append (h : l.error = none) : (l ++ m).error = m.error := by
  rw [append_eq, h]

theorem runsThrough_ofLines (lines : List String) : (ofLines lines).RunsThrough lines :=
  ⟨List.prefix_refl lines, fun _ => rfl⟩

theorem runsThrough_fail (e : Error) (lines : List String) : (fail e).RunsThrough lines :=
  ⟨List.nil_prefix, nofun⟩

theorem RunsThrough.append {xs ys : List String} (h : l.RunsThrough xs) (h' : m.RunsThrough ys) :
    (l ++ m).RunsThrough (xs ++ ys) := by
  rw [append_eq]
  cases error : l.error with
  | some e =>
    refine ⟨h.listed.trans (List.prefix_append xs ys), fun none => ?_⟩
    cases error.symm.trans none
  | none =>
    rw [h.all error]
    refine ⟨(List.prefix_append_right_inj xs).2 h'.listed, fun none => ?_⟩
    rw [h'.all none]

theorem RunsThrough.map {lines : List String} (h : l.RunsThrough lines) (f : String → String) :
    (l.map f).RunsThrough (lines.map f) :=
  ⟨h.listed.map f, fun none => congrArg (List.map f) (h.all none)⟩

/-- What comes first in a listing is the first of the lines that it runs through. -/
theorem RunsThrough.first_eq {lines : List String} (h : l.RunsThrough lines)
    {shown : Option String} (ok : l.first = .ok shown) : shown = lines.head? := by
  obtain ⟨listed, error⟩ := l
  cases listed with
  | cons line rest =>
    obtain ⟨more, rfl⟩ := h.listed
    cases ok
    rfl
  | nil =>
    cases error with
    | some e => cases ok
    | none =>
      cases ok
      rw [← h.all rfl]
      rfl

end Listing

namespace Node

/-- The nodes of a tree. -/
inductive Within (root : Node) : Node → Prop where
  | root : Within root root
  | child {n c : Node} : Within root n → c ∈ n.children → Within root c

theorem Within.trans {a b c : Node} (h : a.Within b) (h' : b.Within c) : a.Within c := by
  induction h' with
  | root => exact h
  | child _ mem ih => exact .child ih mem

theorem within_iff {root n : Node} :
    root.Within n ↔ n = root ∨ ∃ c ∈ root.children, c.Within n := by
  constructor
  · intro h
    induction h with
    | root => exact Or.inl rfl
    | child _ mem ih =>
      rcases ih with rfl | ⟨c, hc, within⟩
      · exact Or.inr ⟨_, mem, .root⟩
      · exact Or.inr ⟨c, hc, .child within mem⟩
  · rintro (rfl | ⟨c, mem, within⟩)
    · exact .root
    · exact Within.trans (.child .root mem) within

/-- The node can tell its usage. -/
def HasUsage (n : Node) : Prop := ∃ usage, n.usage = .ok usage

/-- Every node of the tree can tell its usage. -/
def TellsUsages (n : Node) : Prop := ∀ m, n.Within m → m.HasUsage

/-- The usage of a node in a line. It is left out if it cannot be told. -/
def fragment (n : Node) : String := n.usage.toOption.getD ""

theorem HasUsage.eq_fragment {n : Node} (h : n.HasUsage) : n.usage = .ok n.fragment := by
  obtain ⟨usage, told⟩ := h
  rw [fragment, told]
  rfl

theorem HasUsage.usage_ne_error {n : Node} (h : n.HasUsage) (e : Error) : n.usage ≠ .error e := by
  intro untold
  cases h.eq_fragment.symm.trans untold

/-- Where all types are built in, every usage can be told. -/
theorem tellsUsages_of_builtIn {n : Node} (builtIn : ∀ m, n.Within m → m.type.IsBuiltIn) :
    n.TellsUsages := fun m within => (builtIn m within).usage m.name

theorem TellsUsages.of_within {n m : Node} (told : n.TellsUsages) (within : n.Within m) :
    m.TellsUsages := fun k below => told k (within.trans below)

theorem TellsUsages.child {n c : Node} (told : n.TellsUsages) (mem : c ∈ n.children) :
    c.TellsUsages := told.of_within (.child .root mem)

/-- What holds of a tree if it holds of its children holds of every tree. -/
theorem from_children {P : Node → Prop} (step : ∀ n, (∀ c ∈ n.children, P c) → P n) (n : Node) :
    P n :=
  step n fun c _ => from_children step c
termination_by n.count
decreasing_by exact count_lt_of_mem ‹_›

/-! ## The listing from the root down -/

/-- The line of the node itself, if it is executable. -/
def ownLine (n : Node) (usage : String) : List String := if n.isExecutable then [usage] else []

mutual

/-- The usage lines of a tree: that of the node itself if it is executable, then those of its
children one after the other, each behind the usage of the node. -/
def listing : Node → Listing
  | mk serial name type requirements executor children =>
    let n := mk serial name type requirements executor children
    match n.usage with
    | .error e => .fail e
    | .ok usage =>
      .ofLines (n.ownLine usage) ++ (listingAll children).map fun line => usage ++ " " ++ line

def listingAll : List Node → Listing
  | [] => .empty
  | c :: rest => listing c ++ listingAll rest

end

theorem listing_eq (n : Node) :
    n.listing = match n.usage with
      | .error e => .fail e
      | .ok usage => .ofLines (n.ownLine usage) ++
          (listingAll n.children).map fun line => usage ++ " " ++ line := by
  cases n
  rw [listing]
  rfl

theorem error_listingAll {nodes : List Node} {e : Error}
    (ended : (listingAll nodes).error = some e) : ∃ c ∈ nodes, c.listing.error = some e := by
  induction nodes with
  | nil => cases ended
  | cons c rest ih =>
    cases first : c.listing.error with
    | some e' =>
      rw [listingAll, Listing.append_eq, first] at ended
      exact ⟨c, List.mem_cons_self, first.trans (first.symm.trans ended)⟩
    | none =>
      rw [listingAll, Listing.error_append first] at ended
      obtain ⟨d, mem, later⟩ := ih ended
      exact ⟨d, List.mem_cons_of_mem c mem, later⟩

/-- Only a node of the tree that cannot tell its usage ends the listing early. -/
theorem error_listing {n : Node} {e : Error} (ended : n.listing.error = some e) :
    ∃ m, n.Within m ∧ m.usage = .error e := by
  induction n using from_children with
  | step n ih =>
    rw [listing_eq] at ended
    cases told : n.usage with
    | error e' =>
      rw [told] at ended
      cases ended
      exact ⟨n, .root, told⟩
    | ok usage =>
      rw [told] at ended
      obtain ⟨c, mem, ended⟩ := error_listingAll ended
      obtain ⟨m, within, untold⟩ := ih c mem ended
      exact ⟨m, (Within.child .root mem).trans within, untold⟩

/-! ## The loop -/

/-- A line, behind the usages of the nodes above it. -/
def behind (above : List String) (line : String) : String := joined (above ++ [line])

theorem behind_behind (above : List String) (usage line : String) :
    behind above (usage ++ " " ++ line) = behind (above ++ [usage]) line := by
  have two : usage ++ " " ++ line = joined [usage, line] := by
    rw [joined_cons_joined usage (by simp), joined_singleton]
  rw [behind, two, joined_append_joined above (by simp), behind, List.append_assoc]
  rfl

/-- What is pending after a turn: the children are in the place of the topmost node. -/
def expand (n : Node) (above : List String) (usage : String) (pending : Pending) : Pending :=
  n.children.map (fun c => (c, above ++ [usage])) ++ pending

theorem usagesOf_cons (n : Node) (above : List String) (pending : Pending) :
    usagesOf ((n, above) :: pending) = match n.usage with
      | .error e => .fail e
      | .ok usage => .ofLines (n.ownLine (behind above usage)) ++
          usagesOf (expand n above usage pending) := by
  rw [usagesOf]
  cases n.usage with
  | error e => rfl
  | ok usage =>
    simp only [ownLine]
    split <;> rfl

/-- The lines that are still to come. -/
def toCome : Pending → Listing
  | [] => .empty
  | (n, above) :: pending => n.listing.map (behind above) ++ toCome pending

theorem toCome_append (first later : Pending) :
    toCome (first ++ later) = toCome first ++ toCome later := by
  induction first with
  | nil => rfl
  | cons p first ih => rw [List.cons_append, toCome, ih, toCome, Listing.append_assoc]

theorem toCome_children (above : List String) (usage : String) (nodes : List Node) :
    toCome (nodes.map fun c => (c, above ++ [usage])) =
      (listingAll nodes).map fun line => behind above (usage ++ " " ++ line) := by
  induction nodes with
  | nil => rfl
  | cons c rest ih =>
    rw [List.map_cons, toCome, ih, listingAll, Listing.map_append]
    simp only [behind_behind]

/-- The lines of a tree are those of its node and of its children, each behind the node. -/
theorem toCome_cons (n : Node) (above : List String) (pending : Pending) :
    toCome ((n, above) :: pending) = match n.usage with
      | .error e => .fail e
      | .ok usage => .ofLines (n.ownLine (behind above usage)) ++
          toCome (expand n above usage pending) := by
  rw [toCome, listing_eq]
  cases n.usage with
  | error e => rfl
  | ok usage =>
    have own : (n.ownLine usage).map (behind above) = n.ownLine (behind above usage) := by
      unfold ownLine
      split <;> rfl
    simp only [expand, toCome_append, toCome_children, Listing.map_append, Listing.map_map,
      Listing.map_ofLines, own, Listing.append_assoc]

/-- What the loop lists is what is to come of the pending trees. -/
theorem usagesOf_eq_toCome (pending : Pending) : usagesOf pending = toCome pending := by
  induction pending using usagesOf.induct with
  | case1 => rw [usagesOf, toCome]
  | case2 n above pending e told => rw [usagesOf_cons, toCome_cons, told]
  | case3 n above pending usage told path executable ih
  | case4 n above pending usage told path executable ih =>
    rw [usagesOf_cons, toCome_cons, told]
    exact congrArg (Listing.ofLines _ ++ ·) ih

theorem usages_eq_listing (n : Node) : n.usages = n.listing := by
  have alone : behind [] = id := funext joined_singleton
  rw [usages, usagesOf_eq_toCome, toCome, toCome, alone, Listing.append_empty, Listing.map,
    List.map_id]

end Node

/-- Where the loop stands between two turns: what is pending, and what has been listed so far. -/
structure Tour where
  pending : Node.Pending
  listed : Listing

namespace Tour

open Node

/-- A turn of the loop. -/
def turn : Tour → Tour
  | ⟨[], listed⟩ => ⟨[], listed⟩
  | ⟨(n, above) :: pending, listed⟩ =>
    match n.usage with
    | .error e => ⟨[], listed ++ .fail e⟩
    | .ok usage =>
      ⟨expand n above usage pending, listed ++ .ofLines (n.ownLine (behind above usage))⟩

/-- The loop before its first turn. -/
def begun (n : Node) : Tour := ⟨[(n, [])], .empty⟩

variable (t : Tour) (turns : Nat)

/-- A turn lists the first of the lines that are to come. -/
theorem listed_turn :
    t.turn.listed ++ usagesOf t.turn.pending = t.listed ++ usagesOf t.pending := by
  obtain ⟨pending, listed⟩ := t
  cases pending with
  | nil => rfl
  | cons p pending =>
    rw [usagesOf_cons, turn]
    cases p.1.usage with
    | error e => rw [Listing.append_assoc, usagesOf, Listing.append_empty]
    | ok usage => exact Listing.append_assoc ..

theorem countPending_expand_eq (n : Node) (above : List String) (usage : String)
    (pending : Pending) :
    countPending (expand n above usage pending) = countPending ((n, above) :: pending) - 1 := by
  simp only [expand, countPending, List.map_append, List.map_map, Function.comp_def,
    List.map_id', countAll_append, List.map_cons, countAll, count_eq n]
  omega

/-- A turn takes one node off those that are pending, unless it is the last one. -/
theorem countPending_turn_le : countPending t.turn.pending ≤ countPending t.pending - 1 := by
  obtain ⟨pending, listed⟩ := t
  cases pending with
  | nil => exact Nat.le_refl _
  | cons p pending =>
    rw [turn]
    cases p.1.usage with
    | error e => exact Nat.zero_le _
    | ok usage => exact Nat.le_of_eq (countPending_expand_eq p.1 p.2 usage pending)

theorem listed_turns : (turn^[turns] t).listed ++ usagesOf (turn^[turns] t).pending =
    t.listed ++ usagesOf t.pending := by
  induction turns with
  | zero => rfl
  | succ turns ih => rw [Function.iterate_succ_apply', listed_turn, ih]

theorem countPending_turns_le :
    countPending (turn^[turns] t).pending ≤ countPending t.pending - turns := by
  induction turns with
  | zero => exact Nat.le_refl _
  | succ turns ih =>
    rw [Function.iterate_succ_apply']
    have := countPending_turn_le (turn^[turns] t)
    omega

theorem countPending_eq_zero_iff {pending : Pending} : countPending pending = 0 ↔ pending = [] := by
  cases pending with
  | nil => simp [countPending, countAll]
  | cons p pending =>
    refine iff_of_false ?_ (List.cons_ne_nil p pending)
    rw [countPending, List.map_cons, countAll, count_eq]
    omega

/-- The loop ends after at most as many turns as the tree has nodes. -/
theorem pending_turns_eq_nil (n : Node) (h : n.count ≤ turns) :
    (turn^[turns] (begun n)).pending = [] := by
  have all : countPending (begun n).pending = n.count := rfl
  have left := countPending_turns_le (begun n) turns
  rw [← countPending_eq_zero_iff]
  omega

/-- Where every usage can be told, it takes all of these turns. -/
theorem countPending_turns {pending : Pending} (told : ∀ p ∈ pending, p.1.TellsUsages)
    (listed : Listing) :
    countPending (turn^[turns] ⟨pending, listed⟩).pending = countPending pending - turns := by
  induction turns generalizing pending listed with
  | zero => rfl
  | succ turns ih =>
    rw [Function.iterate_succ_apply]
    cases pending with
    | nil => rw [turn, ih told]; simp [countPending, countAll]
    | cons p pending =>
      rw [List.forall_mem_cons] at told
      rw [turn, (told.1 p.1 .root).eq_fragment]
      refine (ih ?_ _).trans ?_
      · intro q mem
        rcases List.mem_append.1 mem with mem | mem
        · obtain ⟨c, child, rfl⟩ := List.mem_map.1 mem
          exact told.1.child child
        · exact told.2 q mem
      · rw [countPending_expand_eq, Nat.sub_sub, Nat.add_comm 1 turns]

theorem pending_turns_eq_nil_iff {n : Node} (told : n.TellsUsages) :
    (turn^[turns] (begun n)).pending = [] ↔ n.count ≤ turns := by
  have all : countPending (begun n).pending = n.count := rfl
  have only : ∀ p ∈ [(n, ([] : List String))], p.1.TellsUsages := by simpa using told
  have left := countPending_turns turns only .empty
  rw [← countPending_eq_zero_iff, begun, left, ← Nat.sub_eq_zero_iff_le]
  exact all ▸ Iff.rfl

theorem listed_turns_eq_usages (n : Node) : (turn^[n.count] (begun n)).listed = n.usages := by
  have ended := pending_turns_eq_nil n.count n (Nat.le_refl _)
  have kept := listed_turns (begun n) n.count
  rw [ended, usagesOf, Listing.append_empty] at kept
  exact kept

end Tour

namespace Node

/-! ## Places -/

/-- The node that a way down leads to. The way is given by the numbers of the children on it. -/
def at? (n : Node) : List Nat → Option Node
  | [] => some n
  | i :: way => n.children[i]?.bind fun c => c.at? way

/-- The nodes on a way down, as far as it leads. -/
def along (n : Node) : List Nat → List Node
  | [] => [n]
  | i :: way => n :: n.children[i]?.elim [] fun c => c.along way

/-- The usage line of a place: the usages of the nodes on the way there. -/
def lineTo (n : Node) (way : List Nat) : String := joined ((n.along way).map fragment)

mutual

/-- The places of the executable nodes of a tree, in the order of the listing. -/
def executables : Node → List (List Nat)
  | mk _ _ _ _ executor children =>
    (if executor.isSome then [[]] else []) ++ executablesFrom 0 children

/-- The same for nodes that are numbered from the number given on. -/
def executablesFrom (i : Nat) : List Node → List (List Nat)
  | [] => []
  | c :: rest => (executables c).map (i :: ·) ++ executablesFrom (i + 1) rest

end

theorem executables_eq (n : Node) :
    n.executables =
      (if n.isExecutable then [[]] else []) ++ executablesFrom 0 n.children := by
  cases n
  rw [executables]
  rfl

/-- The place of a node, seen from itself. -/
theorem eq_nil_of_mem_own {executable : Bool} {way : List Nat}
    (mem : way ∈ if executable then [[]] else []) : way = [] := by
  split at mem
  · exact List.mem_singleton.1 mem
  · cases mem

theorem mem_executablesFrom {nodes : List Node} {i : Nat} {way : List Nat} :
    way ∈ executablesFrom i nodes ↔
      ∃ j c below, way = (i + j) :: below ∧ nodes[j]? = some c ∧ below ∈ c.executables := by
  induction nodes generalizing i with
  | nil => simp [executablesFrom]
  | cons c rest ih =>
    rw [executablesFrom, List.mem_append, List.mem_map, ih]
    constructor
    · rintro (⟨below, mem, rfl⟩ | ⟨j, d, below, rfl, get, mem⟩)
      · exact ⟨0, c, below, rfl, rfl, mem⟩
      · exact ⟨j + 1, d, below, by rw [Nat.add_right_comm, Nat.add_assoc], get, mem⟩
    · rintro ⟨j, d, below, rfl, get, mem⟩
      cases j with
      | zero => exact Or.inl ⟨below, Option.some.inj get ▸ mem, rfl⟩
      | succ j => exact Or.inr ⟨j, d, below, by rw [Nat.add_right_comm, Nat.add_assoc], get, mem⟩

/-- Every executable node has its place in the list, and nothing else has. -/
theorem mem_executables {n : Node} {way : List Nat} :
    way ∈ n.executables ↔ ∃ m, n.at? way = some m ∧ m.isExecutable = true := by
  induction way generalizing n with
  | nil =>
    have below : [] ∉ executablesFrom 0 n.children := by simp [mem_executablesFrom]
    rw [executables_eq, List.mem_append, or_iff_left below]
    simp [at?]
  | cons i way ih =>
    have own : i :: way ∉ (if n.isExecutable then [[]] else []) := fun mem =>
      List.cons_ne_nil i way (eq_nil_of_mem_own mem)
    rw [executables_eq, List.mem_append, or_iff_right own, mem_executablesFrom]
    simp only [Nat.zero_add, List.cons.injEq, at?, Option.bind_eq_some_iff]
    constructor
    · rintro ⟨j, c, below, ⟨rfl, rfl⟩, get, mem⟩
      obtain ⟨m, leads, executable⟩ := ih.1 mem
      exact ⟨m, ⟨c, get, leads⟩, executable⟩
    · rintro ⟨m, ⟨c, get, leads⟩, executable⟩
      exact ⟨i, c, way, ⟨rfl, rfl⟩, get, ih.2 ⟨m, leads, executable⟩⟩

theorem pairwise_executablesFrom {nodes : List Node}
    (each : ∀ c ∈ nodes, c.executables.Pairwise (· < ·)) (i : Nat) :
    (executablesFrom i nodes).Pairwise (· < ·) := by
  induction nodes generalizing i with
  | nil => exact .nil
  | cons c rest ih =>
    rw [List.forall_mem_cons] at each
    rw [executablesFrom, List.pairwise_append]
    refine ⟨?own, ih each.2 (i + 1), ?apart⟩
    case own =>
      rw [List.pairwise_map]
      exact each.1.imp List.cons_lt_cons_self.2
    case apart =>
      intro way mem other memOther
      obtain ⟨below, -, rfl⟩ := List.mem_map.1 mem
      obtain ⟨j, d, later, rfl, -, -⟩ := mem_executablesFrom.1 memOther
      exact List.cons_lt_cons_iff.2 (Or.inl (by omega))

/-- The places come in their order, a node before those below it, and none comes twice. -/
theorem pairwise_executables (n : Node) : n.executables.Pairwise (· < ·) := by
  induction n using from_children with
  | step n ih =>
    rw [executables_eq, List.pairwise_append]
    refine ⟨by split <;> simp, pairwise_executablesFrom ih 0, ?_⟩
    intro way mem other memOther
    obtain ⟨j, c, below, rfl, -, -⟩ := mem_executablesFrom.1 memOther
    obtain rfl : way = [] := eq_nil_of_mem_own mem
    exact List.nil_lt_cons _ _

theorem along_eq_cons (n : Node) (way : List Nat) : n.along way = n :: (n.along way).tail := by
  cases way <;> rfl

theorem along_cons {n c : Node} {i : Nat} (get : n.children[i]? = some c) (way : List Nat) :
    n.along (i :: way) = n :: c.along way := by
  rw [along, get]
  rfl

theorem along_ne_nil (n : Node) (way : List Nat) : n.along way ≠ [] := by
  rw [along_eq_cons]
  exact List.cons_ne_nil _ _

theorem lineTo_nil (n : Node) : n.lineTo [] = n.fragment := joined_singleton n.fragment

theorem lineTo_cons {n c : Node} {i : Nat} (get : n.children[i]? = some c) (way : List Nat) :
    n.lineTo (i :: way) = n.fragment ++ " " ++ c.lineTo way := by
  have below : (c.along way).map fragment ≠ [] := by simp [along_ne_nil]
  rw [lineTo, along_cons get, List.map_cons]
  exact joined_cons_joined n.fragment below

/-- What the children list, behind the usage of the node. -/
theorem runsThrough_listingAll {n : Node}
    (each : ∀ c ∈ n.children, c.listing.RunsThrough (c.executables.map c.lineTo))
    {before nodes : List Node} (children : n.children = before ++ nodes) :
    ((listingAll nodes).map fun line => n.fragment ++ " " ++ line).RunsThrough
      ((executablesFrom before.length nodes).map n.lineTo) := by
  induction nodes generalizing before with
  | nil => exact Listing.runsThrough_ofLines []
  | cons c rest ih =>
    have get : n.children[before.length]? = some c := by simp [children]
    have split : n.children = (before ++ [c]) ++ rest := by rw [children, List.append_assoc]; rfl
    have later := ih split
    rw [List.length_append, List.length_singleton] at later
    have first := (each c (children ▸ by simp)).map fun line => n.fragment ++ " " ++ line
    have lines : (c.executables.map c.lineTo).map (fun line => n.fragment ++ " " ++ line) =
        (c.executables.map (before.length :: ·)).map n.lineTo := by
      rw [List.map_map, List.map_map]
      exact List.map_congr_left fun way _ => (lineTo_cons get way).symm
    rw [listingAll, executablesFrom, Listing.map_append, List.map_append]
    exact (lines ▸ first).append later

theorem runsThrough_listing (n : Node) : n.listing.RunsThrough (n.executables.map n.lineTo) := by
  induction n using from_children with
  | step n ih =>
    rw [listing_eq]
    cases told : n.usage with
    | error e => exact Listing.runsThrough_fail e _
    | ok usage =>
      have fragment : n.fragment = usage := by rw [Node.fragment, told]; rfl
      have own : n.ownLine usage = (if n.isExecutable then [[]] else []).map n.lineTo := by
        rw [ownLine, ← fragment]
        split
        · rw [List.map_singleton, lineTo_nil]
        · rfl
      have below := runsThrough_listingAll ih (List.nil_append n.children).symm
      rw [executables_eq, List.map_append, ← own, ← fragment]
      exact (Listing.runsThrough_ofLines _).append below

theorem runsThrough_usages (n : Node) : n.usages.RunsThrough (n.executables.map n.lineTo) :=
  n.usages_eq_listing ▸ n.runsThrough_listing

theorem TellsUsages.usages_eq {n : Node} (told : n.TellsUsages) :
    n.usages = .ofLines (n.executables.map n.lineTo) := by
  have complete : n.usages.error = none := by
    rw [usages_eq_listing, Option.eq_none_iff_forall_ne_some]
    intro e ended
    obtain ⟨m, within, untold⟩ := error_listing ended
    exact (told m within).usage_ne_error e untold
  rw [Listing.ofLines, ← n.runsThrough_usages.all complete, ← complete]

/-- **Usages list the executable nodes of a tree.** The loop ends, after as many turns as the tree
has nodes, and has then listed what is listed from the root down. So there is one line for each
place with an executable node, which names the nodes on the way there. The places come in their
order: a node before those below it, and these child by child. Only a node that cannot tell its
usage cuts the loop and the lines short. -/
theorem usages_list_executables (n : Node) :
    (∀ turns, n.count ≤ turns → (Tour.turn^[turns] (.begun n)).pending = []) ∧
    (n.TellsUsages → ∀ turns, (Tour.turn^[turns] (.begun n)).pending = [] ↔ n.count ≤ turns) ∧
    (Tour.turn^[n.count] (.begun n)).listed = n.usages ∧
    n.usages = n.listing ∧
    n.usages.RunsThrough (n.executables.map n.lineTo) ∧
    (n.TellsUsages → n.usages = .ofLines (n.executables.map n.lineTo)) ∧
    n.executables.Pairwise (· < ·) ∧
    ∀ way, way ∈ n.executables ↔ ∃ m, n.at? way = some m ∧ m.isExecutable = true := by
  refine ⟨?ends, ?turns, ?listed, n.usages_eq_listing, n.runsThrough_usages,
    fun told => told.usages_eq, n.pairwise_executables, ?places⟩
  case ends => exact fun turns enough => Tour.pending_turns_eq_nil turns n enough
  case turns => exact fun told turns => Tour.pending_turns_eq_nil_iff turns told
  case listed => exact Tour.listed_turns_eq_usages n
  case places => exact fun way => mem_executables

end Node

end CommandTree
