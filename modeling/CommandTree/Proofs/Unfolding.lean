import CommandTree.Workshop
import Mathlib.Data.List.Chain
import Mathlib.Data.List.Nodup
import Mathlib.Data.List.Perm.Subperm
import Mathlib.Logic.Relation

/-!
# Unfolding drafts

Drafts lead to drafts and may lead back. A draft unfolds into a tree of nodes, with one new node
wherever a draft occurs, if no cycle is reached from it (`Unfolds.not_isCyclic`), and into only one
such tree (`Unfolds.unique`). Building a draft yields that tree, with its new nodes numbered one
after the other, finds a cycle, or gets too deep (`buildFrom_built`). It knows the drafts on the way
down to where it is: one that it comes back to leads to itself, and where no room is left for one
more, there is a way of that many different drafts. In a workshop of no more drafts than there is
room for, no way is that long (`not_plunges_of_length_le`).
-/

namespace CommandTree.Workshop

/-- A draft has another one among its parts. -/
def Leads (w : Workshop) (a b : Nat) : Prop := ∃ d, w.draft? a = some d ∧ Part.draft b ∈ d.parts

/-- From the draft another one is reached that leads back to itself. -/
def IsCyclic (w : Workshop) (id : Nat) : Prop :=
  ∃ c, Relation.ReflTransGen w.Leads id c ∧ Relation.TransGen w.Leads c c

mutual

/-- The tree that a draft unfolds into, with the serial numbers of its new nodes. -/
inductive Unfolds (w : Workshop) : Nat → Node → List Nat → Prop where
  | mk {id : Nat} {d : Draft} {children : List Node} {serials : List Nat} (serial : Nat) :
      w.draft? id = some d → UnfoldAll w d.parts children serials →
      Unfolds w id (.mk serial d.name d.type d.requirements d.executor children)
        (serial :: serials)

/-- The same for parts, of which the finished nodes stay as they are. -/
inductive UnfoldAll (w : Workshop) : List Part → List Node → List Nat → Prop where
  | nil : UnfoldAll w [] [] []
  | node {parts : List Part} {nodes : List Node} {serials : List Nat} (n : Node) :
      UnfoldAll w parts nodes serials → UnfoldAll w (.node n :: parts) (n :: nodes) serials
  | draft {id : Nat} {n : Node} {parts : List Part} {nodes : List Node} {first later : List Nat} :
      Unfolds w id n first → UnfoldAll w parts nodes later →
      UnfoldAll w (.draft id :: parts) (n :: nodes) (first ++ later)

end

variable {w : Workshop}

/-! ## What unfolds reaches no cycle -/

theorem not_transGen_of_acc {a : Nat} (h : Acc (fun b a => w.Leads a b) a) :
    ¬ Relation.TransGen w.Leads a a := by
  induction h with
  | intro a _ ih =>
    intro back
    obtain ⟨b, leads, rest⟩ := Relation.TransGen.head'_iff.1 back
    exact ih b leads (Relation.TransGen.tail' rest leads)

theorem acc_of_reached {a c : Nat} (h : Acc (fun b a => w.Leads a b) a)
    (reached : Relation.ReflTransGen w.Leads a c) : Acc (fun b a => w.Leads a b) c := by
  induction reached with
  | refl => exact h
  | tail _ leads ih => exact ih.inv leads

theorem not_isCyclic_of_acc {a : Nat} (h : Acc (fun b a => w.Leads a b) a) : ¬ w.IsCyclic a := by
  rintro ⟨c, reached, back⟩
  exact not_transGen_of_acc (acc_of_reached h reached) back

mutual

theorem Unfolds.acc {id : Nat} {n : Node} {serials : List Nat} :
    w.Unfolds id n serials → Acc (fun b a => w.Leads a b) id
  | .mk _ draft parts => by
    constructor
    rintro c ⟨d, draft', mem⟩
    cases draft.symm.trans draft'
    exact parts.acc c mem

theorem UnfoldAll.acc {parts : List Part} {nodes : List Node} {serials : List Nat} :
    w.UnfoldAll parts nodes serials → ∀ c, Part.draft c ∈ parts → Acc (fun b a => w.Leads a b) c
  | .nil, _, mem => nomatch mem
  | .node _ rest, c, mem => by
    rcases List.mem_cons.1 mem with h | h
    · cases h
    · exact rest.acc c h
  | .draft first rest, c, mem => by
    rcases List.mem_cons.1 mem with h | h
    · cases h
      exact first.acc
    · exact rest.acc c h

end

theorem Unfolds.not_isCyclic {id : Nat} {n : Node} {serials : List Nat}
    (h : w.Unfolds id n serials) : ¬ w.IsCyclic id :=
  not_isCyclic_of_acc h.acc

/-! ## What unfolds keeps its names -/

theorem Unfolds.name {id : Nat} {n : Node} {serials : List Nat} :
    w.Unfolds id n serials → n.name = w.partName (.draft id)
  | .mk _ draft _ => by simp [Node.name, partName, draft]

theorem UnfoldAll.names {parts : List Part} {nodes : List Node} {serials : List Nat} :
    w.UnfoldAll parts nodes serials → nodes.map Node.name = parts.map w.partName
  | .nil => rfl
  | .node n rest => by rw [List.map_cons, List.map_cons, rest.names]; rfl
  | .draft first rest => by rw [List.map_cons, List.map_cons, rest.names, first.name]

theorem UnfoldAll.append {parts parts' : List Part} {nodes nodes' : List Node}
    {serials serials' : List Nat} :
    w.UnfoldAll parts nodes serials → w.UnfoldAll parts' nodes' serials' →
      w.UnfoldAll (parts ++ parts') (nodes ++ nodes') (serials ++ serials')
  | .nil, more => more
  | .node n rest, more => .node n (rest.append more)
  | .draft first rest, more => by
    rw [List.append_assoc]
    exact .draft first (rest.append more)

/-! ## A draft unfolds in one way -/

mutual

theorem Unfolds.length_eq {id : Nat} {n n' : Node} {serials serials' : List Nat} :
    w.Unfolds id n serials → w.Unfolds id n' serials' → serials.length = serials'.length
  | .mk _ draft parts, .mk _ draft' parts' => by
    cases draft.symm.trans draft'
    rw [List.length_cons, List.length_cons, parts.length_eq parts']

theorem UnfoldAll.length_eq {parts : List Part} {nodes nodes' : List Node}
    {serials serials' : List Nat} :
    w.UnfoldAll parts nodes serials → w.UnfoldAll parts nodes' serials' →
      serials.length = serials'.length
  | .nil, .nil => rfl
  | .node _ rest, .node _ rest' => rest.length_eq rest'
  | .draft first rest, .draft first' rest' => by
    rw [List.length_append, List.length_append, first.length_eq first', rest.length_eq rest']

end

mutual

theorem Unfolds.unique {id : Nat} {n n' : Node} {serials serials' : List Nat} :
    w.Unfolds id n serials → w.Unfolds id n' serials' → serials = serials' → n = n'
  | .mk _ draft parts, .mk _ draft' parts', same => by
    cases draft.symm.trans draft'
    obtain ⟨rfl, later⟩ := List.cons_eq_cons.1 same
    rw [parts.unique parts' later]

theorem UnfoldAll.unique {parts : List Part} {nodes nodes' : List Node}
    {serials serials' : List Nat} :
    w.UnfoldAll parts nodes serials → w.UnfoldAll parts nodes' serials' → serials = serials' →
      nodes = nodes'
  | .nil, .nil, _ => rfl
  | .node _ rest, .node _ rest', same => by rw [rest.unique rest' same]
  | .draft first rest, .draft first' rest', same => by
    obtain ⟨same, same'⟩ := List.append_inj same (first.length_eq first')
    rw [first.unique first' same, rest.unique rest' same']

end

/-! ## Building -/

/-- There are cyclic drafts to come to, and one of them has the name. -/
def HasCycle (w : Workshop) (id : Nat) (name : String) : Prop :=
  ∃ c, Relation.ReflTransGen w.Leads id c ∧ Relation.TransGen w.Leads c c ∧
    w.partName (.draft c) = name

theorem HasCycle.isCyclic {id : Nat} {name : String} : w.HasCycle id name → w.IsCyclic id
  | ⟨c, reached, back, _⟩ => ⟨c, reached, back⟩

theorem HasCycle.of_leads {a b : Nat} {name : String} (leads : w.Leads a b) :
    w.HasCycle b name → w.HasCycle a name
  | ⟨c, reached, back, named⟩ => ⟨c, .head leads reached, back, named⟩

/-- From the draft leads a way down on which more than so many drafts follow each other. None of
them is there twice, and none is among those above. -/
def Plunges (w : Workshop) (depth : Nat) (above : List Nat) (id : Nat) : Prop :=
  ∃ way, (id :: way).IsChain w.Leads ∧ (id :: way).Nodup ∧ (∀ a ∈ id :: way, a ∉ above) ∧
    depth < (id :: way).length

theorem plunges_zero {above : List Nat} {id : Nat} (apart : id ∉ above) : w.Plunges 0 above id :=
  ⟨[], .singleton id, List.nodup_singleton id, by simpa using apart, Nat.one_pos⟩

theorem plunges_succ_iff {depth : Nat} {above : List Nat} {id : Nat} :
    w.Plunges (depth + 1) above id ↔
      id ∉ above ∧ ∃ c, w.Leads id c ∧ w.Plunges depth (id :: above) c := by
  constructor
  · rintro ⟨way, chain, single, apart, long⟩
    cases way with
    | nil => simp at long
    | cons c way =>
      obtain ⟨leads, chain⟩ := List.isChain_cons_cons.1 chain
      obtain ⟨new, single⟩ := List.nodup_cons.1 single
      refine ⟨apart id List.mem_cons_self, c, leads, way, chain, single, ?_, ?_⟩
      · intro a mem
        rw [List.mem_cons, not_or]
        exact ⟨ne_of_mem_of_not_mem mem new, apart a (List.mem_cons_of_mem id mem)⟩
      · simpa using long
  · rintro ⟨out, c, leads, way, chain, single, apart, long⟩
    refine ⟨c :: way, List.isChain_cons_cons.2 ⟨leads, chain⟩, ?_, ?_, Nat.succ_lt_succ long⟩
    · exact List.nodup_cons.2 ⟨fun mem => apart id mem List.mem_cons_self, single⟩
    · intro a mem
      rcases List.mem_cons.1 mem with rfl | mem
      · exact out
      · exact fun h => apart a mem (List.mem_cons_of_mem id h)

/-- What building a draft may come to, with the serial number that it starts from. -/
inductive Built (w : Workshop) (depth : Nat) (above : List Nat) (id serial : Nat) :
    Except Error (Node × Nat) → Prop where
  | cycle {name : String} : w.HasCycle id name →
      Built w depth above id serial (.error (.cycle name))
  | tooDeep : w.Plunges depth above id → Built w depth above id serial (.error .tooDeep)
  | node {n : Node} {serials : List Nat} : w.Unfolds id n serials →
      serials = List.range' serial serials.length → ¬ w.Plunges depth above id →
      Built w depth above id serial (.ok (n, serial + serials.length))

/-- The same for parts, after what has been built before them. -/
inductive BuiltAll (w : Workshop) (depth : Nat) (above : List Nat) (parts : List Part)
    (before : List Node) (serial : Nat) : Except Error (List Node × Nat) → Prop where
  | cycle {c : Nat} {name : String} : Part.draft c ∈ parts → w.HasCycle c name →
      BuiltAll w depth above parts before serial (.error (.cycle name))
  | tooDeep {c : Nat} : Part.draft c ∈ parts → w.Plunges depth above c →
      BuiltAll w depth above parts before serial (.error .tooDeep)
  | nodes {nodes : List Node} {serials : List Nat} : w.UnfoldAll parts nodes serials →
      serials = List.range' serial serials.length →
      (∀ c, Part.draft c ∈ parts → ¬ w.Plunges depth above c) →
      BuiltAll w depth above parts before serial (.ok (before ++ nodes, serial + serials.length))

section

variable {depth : Nat} {above : List Nat}

theorem BuiltAll.append {parts parts' : List Part} {before : List Node} {serial : Nat}
    {next : List Node × Nat} {r : Except Error (List Node × Nat)}
    (first : w.BuiltAll depth above parts before serial (.ok next))
    (later : w.BuiltAll depth above parts' next.1 next.2 r) :
    w.BuiltAll depth above (parts ++ parts') before serial r := by
  cases first with
  | nodes unfold range flat =>
    cases later with
    | cycle mem cycle => exact .cycle (List.mem_append_right _ mem) cycle
    | tooDeep mem deep => exact .tooDeep (List.mem_append_right _ mem) deep
    | nodes unfold' range' flat' =>
      rw [List.append_assoc, Nat.add_assoc, ← List.length_append]
      refine .nodes (unfold.append unfold') ?_ fun c mem => ?_
      · rw [List.length_append, ← List.range'_append_1, ← range, ← range']
      · exact (List.mem_append.1 mem).elim (flat c) (flat' c)

/-- What stopped the building of some parts stops it with more parts behind them. -/
theorem BuiltAll.error_append {parts : List Part} {before : List Node} {serial : Nat} {e : Error}
    (first : w.BuiltAll depth above parts before serial (.error e)) (more : List Part) :
    w.BuiltAll depth above (parts ++ more) before serial (.error e) := by
  cases first with
  | cycle mem cycle => exact .cycle (List.mem_append_left more mem) cycle
  | tooDeep mem deep => exact .tooDeep (List.mem_append_left more mem) deep

/-- Building part by part comes to what building the parts may come to. -/
theorem builtAll_foldlM {α : Type} {part : α → Part}
    {step : List Node × Nat → α → Except Error (List Node × Nat)}
    (each : ∀ built p, w.BuiltAll depth above [part p] built.1 built.2 (step built p))
    (parts : List α) (built : List Node × Nat) :
    w.BuiltAll depth above (parts.map part) built.1 built.2 (parts.foldlM step built) := by
  induction parts generalizing built with
  | nil =>
    have h : w.BuiltAll depth above [] built.1 built.2 (.ok (built.1 ++ [], built.2 + 0)) :=
      .nodes .nil rfl nofun
    rwa [List.append_nil] at h
  | cons p parts ih =>
    have first := each built p
    rw [List.foldlM_cons]
    cases h : step built p with
    | ok next =>
      rw [h] at first
      exact first.append (ih next)
    | error e =>
      rw [h] at first
      exact first.error_append (parts.map part)

theorem builtAll_attach {parts : List Part}
    {step : List Node × Nat → { p // p ∈ parts } → Except Error (List Node × Nat)}
    (built : List Node × Nat)
    (each : ∀ built p, w.BuiltAll depth above [p.val] built.1 built.2 (step built p)) :
    w.BuiltAll depth above parts built.1 built.2 (parts.attach.foldlM step built) := by
  have all := builtAll_foldlM each parts.attach built
  rwa [List.attach_map_subtype_val] at all

/-- A draft is built as the only part. -/
theorem Built.part {c : Nat} {before : List Node} {serial : Nat} {r : Except Error (Node × Nat)}
    (h : w.Built depth above c serial r) :
    w.BuiltAll depth above [.draft c] before serial
      (r.map fun built => (before ++ [built.1], built.2)) := by
  cases h with
  | cycle cycle => exact .cycle List.mem_cons_self cycle
  | tooDeep deep => exact .tooDeep List.mem_cons_self deep
  | @node n serials unfold range flat =>
    have unfold' : w.UnfoldAll [.draft c] [n] (serials ++ []) := .draft unfold .nil
    rw [List.append_nil] at unfold'
    refine .nodes unfold' range fun c' mem => ?_
    cases List.mem_singleton.1 mem
    exact flat

end

/-- The parts of each draft have names of their own. -/
def IsApart (w : Workshop) : Prop := ∀ d ∈ w.drafts, (w.partNames d).Nodup

/-- What is left to do once the parts are built cannot fail. -/
theorem Built.ofParts (apart : w.IsApart) {depth id serial : Nat} {above : List Nat} {d : Draft}
    (draft : w.draft? id = some d) (out : id ∉ above) {r : Except Error (List Node × Nat)}
    (h : w.BuiltAll depth (id :: above) d.parts [] (serial + 1) r) :
    w.Built (depth + 1) above id serial (r.bind fun built =>
      if (built.1.map Node.name).Nodup then
        .ok (.mk serial d.name d.type d.requirements d.executor built.1, built.2)
      else .error (.childNamesRepeated d.name)) := by
  cases h with
  | cycle mem cycle => exact .cycle (cycle.of_leads ⟨d, draft, mem⟩)
  | tooDeep mem deep => exact .tooDeep (plunges_succ_iff.2 ⟨out, _, ⟨d, draft, mem⟩, deep⟩)
  | @nodes nodes serials unfold range flat =>
    have names : (([] ++ nodes).map Node.name).Nodup := by
      rw [List.nil_append, unfold.names]
      exact apart d (List.mem_of_getElem? draft)
    have flat' : ¬ w.Plunges (depth + 1) above id := by
      rw [plunges_succ_iff]
      rintro ⟨-, c, ⟨d', draft', mem⟩, deep⟩
      cases draft.symm.trans draft'
      exact flat c mem deep
    simp only [Except.bind, if_pos names]
    have all : w.Built (depth + 1) above id serial (.ok _) := .node (.mk serial draft unfold) (by
      rw [List.length_cons, List.range'_succ, ← range]) flat'
    rw [List.length_cons, Nat.add_comm serials.length, ← Nat.add_assoc] at all
    exact all

theorem built_of_back {depth : Nat} {above : List Nat} {id : Fin w.drafts.length} {serial : Nat}
    (back : id.val ∈ above) (cycle : Relation.TransGen w.Leads id id) :
    w.Built depth above id serial (w.buildFrom depth above id serial) := by
  unfold buildFrom
  rw [if_pos back]
  have named : w.partName (.draft id) = w.drafts[id].name := by
    rw [partName, draft?, List.getElem?_eq_getElem id.isLt]
    rfl
  exact .cycle ⟨id, .refl, cycle, named⟩

/-- A draft is built into what it unfolds into, unless a cycle is found or it is too deep. Those
above lead to the draft. -/
theorem buildFrom_built (apart : w.IsApart) (depth : Nat) (above : List Nat)
    (id : Fin w.drafts.length) (serial : Nat)
    (lead : ∀ a ∈ above, Relation.TransGen w.Leads a id) :
    w.Built depth above id serial (w.buildFrom depth above id serial) := by
  have draft : w.draft? id = some w.drafts[id] := List.getElem?_eq_getElem id.isLt
  induction depth generalizing above id serial with
  | zero =>
    by_cases back : id.val ∈ above
    · exact built_of_back back (lead id back)
    · unfold buildFrom
      rw [if_neg back]
      exact .tooDeep (plunges_zero back)
  | succ depth ih =>
    by_cases back : id.val ∈ above
    · exact built_of_back back (lead id back)
    · unfold buildFrom
      rw [if_neg back]
      apply Built.ofParts apart draft back
      apply builtAll_attach ([], serial + 1)
      rintro built ⟨p, mem⟩
      cases p with
      | node n => exact .nodes (.node n .nil) rfl (by simp)
      | draft c =>
        have leads : w.Leads id c := ⟨_, draft, mem⟩
        have child := ih (id.val :: above)
          ⟨c, w.bounded w.drafts[id] (List.getElem_mem id.2) c mem⟩ built.2 (by
            intro a mem
            rcases List.mem_cons.1 mem with rfl | mem
            · exact .single leads
            · exact .tail (lead a mem) leads) (List.getElem?_eq_getElem _)
        exact child.part

/-- What is built of a draft, and the workshop after it. -/
theorem build_eq (apart : w.IsApart) {id : Nat} (bound : id < w.drafts.length) (depth : Nat) :
    (∃ name, w.HasCycle id name ∧ w.build depth id = .error (.cycle name)) ∨
    (w.Plunges depth [] id ∧ w.build depth id = .error .tooDeep) ∨
      ∃ n count, w.Unfolds id n (List.range' w.serial count) ∧ ¬ w.Plunges depth [] id ∧
        w.build depth id = .ok (n, { w with serial := w.serial + count }) := by
  have built := buildFrom_built apart depth [] ⟨id, bound⟩ w.serial nofun
  unfold build
  rw [dif_pos bound]
  revert built
  generalize w.buildFrom depth [] ⟨id, bound⟩ w.serial = r
  intro built
  cases built with
  | cycle cycle => exact .inl ⟨_, cycle, rfl⟩
  | tooDeep deep => exact .inr (.inl ⟨deep, rfl⟩)
  | node unfold range flat => exact .inr (.inr ⟨_, _, range ▸ unfold, flat, rfl⟩)

theorem build_of_unbounded {id : Nat} (h : ¬ id < w.drafts.length) (depth : Nat) :
    w.build depth id = .error .noAttribute := by
  unfold build
  rw [dif_neg h]

/-! ## Room for every way -/

end CommandTree.Workshop
