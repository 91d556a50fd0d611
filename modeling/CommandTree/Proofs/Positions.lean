import CommandTree.Proofs.Consumption
import CommandTree.Proofs.Reporting

/-!
# Positions of faults

A fault names the token at which the walk halted by its position among the label and the arguments.
Where types take tokens from the front only, the tokens that are left are the last of the arguments
at every turn, and the position of a walk is the number of tokens before them (`Placed`). So a fault
names the first token that no child reads, the end of the tokens, or the token after those that were
taken on the way to the node with the requirement (`faults_are_well_placed`).
-/

namespace CommandTree

/-- What the type reads it takes from the front; it may take no token at all. -/
def TokenType.TakesFront (t : TokenType) : Prop :=
  ∀ tokens value, (t.parse tokens).answer = .ok (.ok value) → (t.parse tokens).rest <:+ tokens

theorem TokenType.IsBuiltIn.takesFront {t : TokenType} (builtIn : t.IsBuiltIn) : t.TakesFront := by
  intro tokens value read
  obtain ⟨taken, split, -, -⟩ := (treats builtIn tokens).taken_of_ok read
  exact ⟨taken, split.symm⟩

theorem FirstToRead.rest_suffix {children : List Node} {tokens : List String} {r : Reading}
    (first : FirstToRead children tokens r)
    (fronts : ∀ child ∈ children, child.type.TakesFront) : r.rest <:+ tokens := by
  have mem := first.mem
  obtain ⟨-, -, -, -, read, rest⟩ := first
  rw [← rest]
  exact fronts r.child mem tokens r.value read

/-- The number of tokens that are taken on a way down. -/
def taken (tokens : List String) : List Reading → Nat
  | [] => 0
  | r :: rs => (tokens.length - r.rest.length) + taken r.rest rs

/-- What a fault says about the place where a walk halted: the tokens of the call, the node where
it came to and the number of tokens that were taken on the way there. -/
structure Fault.IsPlaced (fault : Fault) (tokens : List String) (n : Node) (taken : Nat) :
    Prop where
  kind : fault.isA .dispatchExhausted = true ∨ fault.kind = .incompleteCommand ∨
    fault.kind = .requirementFailure
  /-- Where children refuse, the fault points at the first token that they refuse. -/
  exhausted : fault.isA .dispatchExhausted = true → ∃ (index : Nat) (token : String),
    1 ≤ index ∧ index < tokens.length ∧ tokens[index]? = some token ∧
      fault.option "index" = .int index ∧ fault.option "token" = .str token ∧
      ∀ child ∈ n.children, Refuses (tokens.drop index) child
  /-- Where a token is missing, the fault points behind the last one. -/
  incomplete : fault.kind = .incompleteCommand → fault.option "index" = .int tokens.length
  /-- Where a requirement is not met, the fault points behind what was taken, label included. -/
  unmet : fault.kind = .requirementFailure → fault.option "node" = .str n.name ∧
    fault.option "index" = .int (1 + taken : Nat)

namespace Walk

variable {mode : Mode} {root : Node} {s : State} {rs before more : List Reading}
  {ending : Ending} {label : String} {args : List String}

/-- The tokens that are left are the last of the arguments, and the position counts those before
them. -/
structure Placed (label : String) (args : List String) (s : State) : Prop where
  left : s.place.tokens <:+ args
  index : s.place.index = ((label :: args).length : Int) - s.place.tokens.length
  call : s.context.tokens = label :: args

theorem Placed.read {r : Reading} (placed : Placed label args s)
    (front : r.rest <:+ s.place.tokens) : Placed label args (s.read r) := by
  have call : (s.read r).context.tokens = label :: args := placed.call
  refine ⟨front.trans placed.left, ?_, call⟩
  rw [← call]
  rfl

/-- The tokens that are left start where the position says. -/
theorem Placed.drop_eq (placed : Placed label args s) :
    ∃ index : Nat, s.place.index = index ∧ 1 ≤ index ∧
      (label :: args).drop index = s.place.tokens := by
  have short := placed.left.length_le
  refine ⟨(label :: args).length - s.place.tokens.length, ?_, ?_, ?_⟩
  · rw [placed.index, List.length_cons]
    omega
  · rw [List.length_cons]
    omega
  · have suffix := placed.left.trans (List.suffix_cons label args)
    exact (List.suffix_iff_eq_drop.1 suffix).symm

/-- Every turn of a walk is placed. -/
theorem Trail.placed (trail : Trail mode root s (before ++ more) ending)
    (placed : Placed label args s) (inside : root.Within s.place.node)
    (fronts : ∀ n, root.Within n → n.type.TakesFront) : Placed label args (s.readAll before) := by
  induction before generalizing s with
  | nil => exact placed
  | cons r before ih =>
    obtain ⟨takes, later⟩ := Trail.cons_iff.1 trail
    obtain ⟨-, -, first, -⟩ := Takes.onward_iff.1 takes
    have front := first.rest_suffix fun child hc => fronts child (.child inside hc)
    exact ih later (placed.read front) (.child inside first.mem)

/-- Every token is taken on the way down or left at its end. -/
theorem Trail.taken_add_left (trail : Trail mode root s rs ending)
    (inside : root.Within s.place.node) (fronts : ∀ n, root.Within n → n.type.TakesFront) :
    taken s.place.tokens rs + (leftBy s.place.tokens rs).length = s.place.tokens.length := by
  induction trail with
  | finish _ => exact Nat.zero_add _
  | @onward s r rs ending takes _ ih =>
    obtain ⟨-, -, first, -⟩ := Takes.onward_iff.1 takes
    have front := first.rest_suffix fun child hc => fronts child (.child inside hc)
    have short := front.length_le
    have later := ih (.child inside first.mem)
    simp only [taken, leftBy, State.tokens_read] at later ⊢
    omega

theorem exhaustedFault_isPlaced {place : Position} {tokens left : List String}
    {message token : String} {index : Nat} {hints : Bindings Value} (taken : Nat)
    (position : place.index = index) (label : 1 ≤ index)
    (next : tokens.drop index = token :: left)
    (refused : ∀ child ∈ place.node.children, Refuses (token :: left) child)
    (hinted : hints = [] ∨ ∃ shown, hints = [("hint", shown)]) :
    (exhaustedFault root place message token hints).IsPlaced tokens place.node taken := by
  have exhausted :
      (exhaustedFault root place message token hints).isA .dispatchExhausted = true :=
    exhaustedFault_isA place message token hints
  have options : (exhaustedFault root place message token hints).option "index" = .int index ∧
      (exhaustedFault root place message token hints).option "token" = .str token := by
    rw [← position]
    obtain rfl | ⟨shown, rfl⟩ := hinted <;> exact ⟨rfl, rfl⟩
  have found : tokens[index]? = some token := by
    rw [← List.head?_drop, next]
    rfl
  have short : index < tokens.length := (List.getElem?_eq_some_iff.1 found).1
  rw [← next] at refused
  refine ⟨Or.inl exhausted, fun _ => ⟨index, token, label, short, found, options.1, options.2,
    refused⟩, fun other => ?_, fun other => ?_⟩
  all_goals
    simp only [Fault.isA, other] at exhausted
    cases exhausted

/-- A walk that is placed halts on a fault that is. -/
theorem Takes.isPlaced_of_halted {fault : Fault} {taken : Nat}
    (takes : Takes mode root s (.finish (.halted fault))) (placed : Placed label args s)
    (counted : taken + s.place.tokens.length = args.length) :
    fault.IsPlaced (label :: args) s.place.node taken := by
  have position := placed.index
  cases takes with
  | unmet _ declared =>
    obtain ⟨text, rfl⟩ := requirementFault_ok declared
    have behind : s.place.index = (1 + taken : Nat) := by
      rw [position, List.length_cons]
      omega
    refine ⟨Or.inr (Or.inr rfl), fun other => ?_, fun other => ?_, fun _ => ⟨rfl, ?_⟩⟩
    · cases other
    · cases other
    · rw [← behind]
      rfl
  | incomplete _ _ ended =>
    have behind : s.place.index = ((label :: args).length : Nat) := by
      rw [position, ended, List.length_nil]
      omega
    refine ⟨Or.inr (Or.inl rfl), fun other => ?_, fun _ => ?_, fun other => ?_⟩
    · cases other
    · rw [← behind]
      rfl
    · cases other
  | exhausted _ _ next choice hinted =>
    obtain ⟨index, position, afterLabel, dropped⟩ := placed.drop_eq
    have refused := choose_refused choice
    rw [next] at dropped refused
    exact exhaustedFault_isPlaced taken position afterLabel dropped refused
      (State.hints_cases hinted)

end Walk

namespace Command

open Walk

variable {c : Command} {mode : Mode} {sender : Option Sender} {label : String}
  {args : List String} {rs before : List Reading} {ending : Ending} {fault : Fault}

theorem placed_begun : Placed label args (c.begun mode sender label args) := by
  refine ⟨List.suffix_refl args, ?_, rfl⟩
  simp only [begun, State.atRoot, start, List.length_cons, List.drop_one, List.tail_cons]
  omega

theorem leftBy_suffix (fronts : ∀ n, c.root.Within n → n.type.TakesFront)
    (trail : Trail mode c.root (c.begun mode sender label args) rs ending)
    (h : before <+: rs) : leftBy args before <:+ args := by
  obtain ⟨more, rfl⟩ := h
  have placed := trail.placed placed_begun .root fronts
  have left := placed.left
  rwa [State.tokens_readAll] at left

theorem Halts.isPlaced (fronts : ∀ n, c.root.Within n → n.type.TakesFront)
    (halts : c.Halts mode sender label args rs fault) :
    fault.IsPlaced (label :: args) (c.root.after rs) (taken args rs) := by
  have trail : Trail mode c.root (c.begun mode sender label args) (rs ++ []) (.halted fault) := by
    rwa [List.append_nil]
  have placed := trail.placed placed_begun .root fronts
  have counted := Trail.taken_add_left halts .root fronts
  rw [← State.tokens_readAll] at counted
  have isPlaced := (Trail.last_turn halts).isPlaced_of_halted placed counted
  rwa [State.node_readAll] at isPlaced

/-- **Faults are well placed.** Where types take tokens from the front only, the tokens that are
left at a turn of a call are the last of its arguments. A fault that is stored without an executor
is one on which the call halts. It points at the first token that the children of the last node
refuse, behind the last token if one is missing, or behind the tokens that were taken on the way to
the node whose requirement is not met. All this holds of the context that a handler is handed, and
of the one that the call leaves unless a handler changes it. -/
theorem faults_are_well_placed (c : Command)
    (fronts : ∀ n, c.root.Within n → n.type.TakesFront) (mode : Mode) (sender : Option Sender)
    (label : String) (args : List String) :
    let left := (c.under mode sender label args none).context
    (∀ rs ending, Trail mode c.root (c.begun mode sender label args) rs ending →
      ∀ before, before <+: rs → leftBy args before <:+ args) ∧
    (∀ fault, (∀ rs run, ¬ c.Enters mode sender label args rs run) → left.fault = some fault →
      ∃ rs, c.Halts mode sender label args rs fault) ∧
    (∀ rs fault, c.Halts mode sender label args rs fault → left.fault = some fault ∧
      fault.IsPlaced left.tokens (c.root.after rs) (taken args rs)) ∧
    (LeavesAlone c.failure → (c.run mode sender label args).context = left) := by
  intro left
  refine ⟨?_, ?_, ?_, context_of_alone⟩
  · intro rs ending trail before h
    exact leftBy_suffix fronts trail h
  · intro fault unentered stored
    exact halts_of_stored unentered stored
  · intro rs fault halts
    have halted : left = (reached mode sender label args rs).haltedOn fault :=
      under_halted halts leavesAlone_none
    have call : left.tokens = label :: args := by
      rw [halted]
      cases mode <;> rfl
    have stored : left.fault = some fault := by
      rw [halted, Context.fault_haltedOn]
    rw [call]
    exact ⟨stored, halts.isPlaced fronts⟩

/-- A command that reads a phrase and whether it is meant. -/
def stating : Command :=
  ⟨0, "state", .mk 0 "state" .word [] none
    [.mk 1 "claim" .phrase [] none [.mk 2 "meant" .truthValue [] (some .done) []]], none⟩

theorem stating_takes_front : ∀ n, stating.root.Within n → n.type.TakesFront := by
  intro n h
  obtain rfl | ⟨claim, hclaim, h⟩ := Node.within_iff.1 h
  · exact TokenType.IsBuiltIn.takesFront trivial
  obtain rfl := List.mem_singleton.1 hclaim
  obtain rfl | ⟨meant, hmeant, h⟩ := Node.within_iff.1 h
  · exact TokenType.IsBuiltIn.takesFront trivial
  obtain rfl := List.mem_singleton.1 hmeant
  obtain rfl | ⟨none, hnone, -⟩ := Node.within_iff.1 h
  · exact TokenType.IsBuiltIn.takesFront trivial
  · cases hnone

/-- After a phrase of two tokens, a completion halts on the third argument. -/
theorem stated_claim_is_well_placed :
    let args := ["\"no", "way\"", "so", ""]
    let left := (stating.run .completion none "state" args).context
    (∀ n, stating.root.Within n → n.type.TakesFront) ∧
      ∃ rs fault, stating.Halts .completion none "state" args rs fault ∧
        fault.kind = .parseError ∧ (fault.option "index").int? = some 3 ∧
        fault.IsPlaced left.tokens (stating.root.after rs) (taken args rs) := by
  intro args left
  obtain ⟨-, halts, placed, -⟩ :=
    faults_are_well_placed stating stating_takes_front .completion none "state" args
  have evaluated : left.fault.map
      (fun fault => (fault.kind, (fault.option "index").int?)) = some (.parseError, some 3) := by
    decide +kernel
  obtain ⟨fault, stored, values⟩ := Option.map_eq_some_iff.1 evaluated
  obtain ⟨rs, halted⟩ := halts fault (fun rs run => not_enters_completion) stored
  obtain ⟨kind, index⟩ := Prod.mk.inj values
  exact ⟨stating_takes_front, rs, fault, halted, kind, index, (placed rs fault halted).2⟩

end Command

end CommandTree
