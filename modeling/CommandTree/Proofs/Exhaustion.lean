import CommandTree.Proofs.Reporting
import CommandTree.Proofs.Verdicts

/-!
# Exhausted walks

A walk that comes to a node with tokens left to be read, none of which a child of the node reads,
halts on a fault. The kind of the fault tells whether the node has a single child, and its message
is the one that the last child refused the tokens with (`last_refusal_is_reported`). Only an empty
message is replaced, by the one for a node without children (`empty_message_is_replaced`). Of the
built-in types, none but decimals refuse tokens with an empty message, and they do where their check
refuses a number and the wording for that comes out empty (`TokenType.decimal_of_silence`).
-/

namespace CommandTree

/-- What is reported where the last child refuses tokens with a message. -/
def reportedAs (message : String) : String :=
  if message.isEmpty then unknownOrIncomplete else message

theorem reportedAs_of_ne {message : String} (h : message ≠ "") : reportedAs message = message := by
  simp [reportedAs, h]

/-- Of several children that refuse the tokens, the last one has the say. -/
theorem choose_concat_of_refused {tokens : List String} {before : List Node} {last : Node}
    {message : String} (refused : ∀ child ∈ before, Refuses tokens child)
    (answer : (last.type.parse tokens).answer = .ok (.err message)) (earlier : String) :
    choose tokens earlier (before ++ [last]) = .ok (.error (reportedAs message)) := by
  induction before generalizing earlier with
  | nil =>
    rw [List.nil_append, choose_cons, answer]
    exact choose_nil
  | cons child before ih =>
    rw [List.forall_mem_cons] at refused
    obtain ⟨own, ownAnswer⟩ := refused.1
    rw [List.cons_append, choose_cons, ownAnswer]
    exact ih refused.2 own

/-! ## Empty messages of types -/

/-- The tokens are refused with an empty message. -/
def Attempt.IsSilent (a : Attempt) : Prop := a.answer = .ok (.err "")

namespace Attempt

@[simp] theorem not_isSilent_accept (value : Value) (rest : List String) :
    ¬ (accept value rest).IsSilent := nofun

@[simp] theorem not_isSilent_raise (e : Error) (tokens : List String) :
    ¬ (raise e tokens).IsSilent := nofun

@[simp] theorem isSilent_reject {message : String} {tokens : List String} :
    (reject message tokens).IsSilent ↔ message = "" := by
  simp [IsSilent, reject]

end Attempt

theorem IntegerType.invalid_ne_empty (token : String) : invalid token ≠ "" := by
  change "Invalid integer: " ++ token ≠ ""
  simp

theorem DecimalType.invalid_ne_empty (token : String) : invalid token ≠ "" := by
  change "Invalid float: " ++ token ≠ ""
  simp

/-- An integer with an empty message for its check accepts what it should refuse. -/
theorem IntegerType.not_isSilent_parse (t : IntegerType) (tokens : List String) :
    ¬ (t.parse tokens).IsSilent := by
  intro silent
  unfold parse at silent
  repeat' split at silent
  all_goals simp_all [invalid_ne_empty]

theorem DecimalType.refusal_of_silence {t : DecimalType} {tokens : List String}
    (silent : (t.parse tokens).IsSilent) : ∃ x, t.refusal x = .ok (some "") := by
  unfold parse at silent
  repeat' split at silent
  all_goals simp [invalid_ne_empty] at silent
  subst silent
  exact ⟨_, ‹_›⟩

/-- A number that is too small or too large is never refused without a word. -/
theorem DecimalType.passes_of_silence {t : DecimalType} {x : Binary64}
    (h : t.refusal x = .ok (some "")) :
    Check.passes t.check (.float x) = .ok false ∧ t.error.render (.float x) = .ok "" := by
  obtain ⟨below, -, h⟩ := Except.bind_eq_ok_iff.1 h
  cases below with
  | true =>
    obtain ⟨bound, -, h⟩ := Except.bind_eq_ok_iff.1 h
    simp [pure, Except.pure, toString] at h
  | false =>
    obtain ⟨above, -, h⟩ := Except.bind_eq_ok_iff.1 h
    cases above with
    | true =>
      obtain ⟨bound, -, h⟩ := Except.bind_eq_ok_iff.1 h
      simp [pure, Except.pure, toString] at h
    | false =>
      obtain ⟨passes, checked, h⟩ := Except.bind_eq_ok_iff.1 h
      cases passes with
      | true => cases h
      | false =>
        obtain ⟨message, rendered, h⟩ := Except.bind_eq_ok_iff.1 h
        cases h
        exact ⟨checked, rendered⟩

theorem TokenType.decimal_of_silence {t : TokenType} {tokens : List String}
    (builtIn : t.IsBuiltIn) (silent : (t.parse tokens).IsSilent) :
    ∃ d x, t = .decimal d ∧ Check.passes d.check (.float x) = .ok false ∧
      d.error.render (.float x) = .ok "" := by
  cases t with
  | custom => exact builtIn.elim
  | integer t => exact absurd silent (t.not_isSilent_parse tokens)
  | decimal d =>
    obtain ⟨x, refused⟩ := DecimalType.refusal_of_silence silent
    obtain ⟨failed, rendered⟩ := DecimalType.passes_of_silence refused
    exact ⟨d, x, rfl, failed, rendered⟩
  | literal | choice | truthValue | word | phrase | rest =>
    -- The other messages start with fixed words.
    simp only [parse, Literal.parse, Choice.parse, parseTruthValue, parseWord, parsePhrase,
      parseRest] at silent
    repeat' split at silent
    all_goals simp [toString] at silent

/-! ## Halting -/

namespace Walk

variable {mode : Mode} {root : Node} {s : State}

/-- The rest of a walk, after these were read. -/
theorem Trail.rest {rs more : List Reading} {ending : Ending}
    (trail : Trail mode root s (rs ++ more) ending) :
    Trail mode root (s.readAll rs) more ending := by
  induction rs generalizing s with
  | nil => exact trail
  | cons r rs ih => exact ih (Trail.cons_iff.1 trail).2

/-- A walk that halts on a fault does so on an exhausted dispatch exactly where tokens are left and
no child reads them. -/
theorem Takes.isA_dispatchExhausted_iff {fault : Fault}
    (takes : Takes mode root s (.finish (.halted fault))) :
    fault.isA .dispatchExhausted = true ↔ s.place.node.Admits s.context ∧
      mode.reserve < s.place.tokens.length ∧
        ∀ child ∈ s.place.node.children, Refuses s.place.tokens child := by
  cases takes with
  | unmet h declared =>
    obtain ⟨text, rfl⟩ := requirementFault_ok declared
    refine iff_of_false nofun ?_
    rintro ⟨admits, -⟩
    cases h.symm.trans (Requirement.firstUnmet_none_iff.2 admits)
  | incomplete _ executing spent =>
    refine iff_of_false nofun ?_
    rintro ⟨-, left, -⟩
    rw [spent] at left
    cases left
  | exhausted admits left _ choice =>
    exact iff_of_true (exhaustedFault_isA ..) ⟨admits, left, choose_refused choice⟩

end Walk

namespace Command

open Walk

/-- The call comes to a node that lets it in, with tokens left to be read that no child of the node
reads. -/
structure Strands (mode : Mode) (c : Command) (sender : Option Sender) (label : String)
    (args : List String) (rs : List Reading) : Prop where
  arrives : ∃ more ending, Trail mode c.root (c.begun mode sender label args) (rs ++ more) ending
  admits : (c.root.after rs).Admits (reached mode sender label args rs)
  left : mode.reserve < (leftBy args rs).length
  refused : ∀ child ∈ (c.root.after rs).children, Refuses (leftBy args rs) child

variable {mode : Mode} {c : Command} {sender : Option Sender} {label : String}
  {args : List String} {rs : List Reading}

theorem Halts.strands_iff {fault : Fault} (halts : c.Halts mode sender label args rs fault) :
    fault.isA .dispatchExhausted = true ↔ c.Strands mode sender label args rs := by
  have iff := (Trail.last_turn halts).isA_dispatchExhausted_iff
  simp only [State.node_readAll, State.tokens_readAll, State.context_readAll] at iff
  rw [iff]
  constructor
  · rintro ⟨admits, left, refused⟩
    exact ⟨⟨[], _, (List.append_nil rs).symm ▸ halts⟩, admits, left, refused⟩
  · rintro ⟨-, admits, left, refused⟩
    exact ⟨admits, left, refused⟩

/-- A call that strands takes one of two turns: it halts on the message that the selection ends
with, or, in an execution, comes to a usage that cannot be told for the hint. -/
theorem Strands.halts_or_raises (strands : c.Strands mode sender label args rs) {message : String}
    (choice : choose (leftBy args rs) "" (c.root.after rs).children = .ok (.error message)) :
    (∃ fault, c.Halts mode sender label args rs fault ∧
      fault.kind = exhaustedKind (c.root.after rs) ∧ fault.message = some message) ∨
    ∃ e, Trail mode c.root (c.begun mode sender label args) rs (.raised e) ∧
      ((c.begun mode sender label args).readAll rs).hints mode = .error e := by
  obtain ⟨⟨more, ending, trail⟩, admits, left, -⟩ := strands
  obtain ⟨token, others, tokens⟩ := List.exists_cons_of_length_pos (Nat.zero_lt_of_lt left)
  let s := (c.begun mode sender label args).readAll rs
  have node : s.place.node = c.root.after rs := State.node_readAll ..
  have remaining : s.place.tokens = leftBy args rs := State.tokens_readAll ..
  have admits : s.place.node.Admits s.context := by
    rw [node, State.context_readAll]
    exact admits
  have left : mode.reserve < s.place.tokens.length := by rwa [remaining]
  have choice : choose s.place.tokens "" s.place.node.children = .ok (.error message) := by
    rwa [remaining, node]
  cases hinted : s.hints mode with
  | ok hints =>
    have takes : Takes mode c.root s
        (.finish (.halted (exhaustedFault c.root s.place message token hints))) :=
      .exhausted admits left (remaining.trans tokens) choice hinted
    obtain ⟨rfl, rfl⟩ := trail.rest.unique (.finish takes)
    rw [List.append_nil] at trail
    exact Or.inl ⟨_, trail, congrArg exhaustedKind node, rfl⟩
  | error e =>
    have takes : Takes mode c.root s (.finish (.raised e)) :=
      .exhaustedUnhinted admits left choice hinted
    obtain ⟨rfl, rfl⟩ := trail.rest.unique (.finish takes)
    rw [List.append_nil] at trail
    exact Or.inr ⟨e, trail, rfl⟩

/-- Where usages can be told for a hint, a call that strands halts. -/
theorem Strands.halts (strands : c.Strands mode sender label args rs)
    (told : mode = .execution → (c.root.after rs).TellsUsages) :
    ∃ fault, c.Halts mode sender label args rs fault := by
  obtain ⟨message, choice⟩ := choose_of_refused "" strands.refused
  obtain ⟨fault, halts, -⟩ | ⟨e, -, unhinted⟩ := strands.halts_or_raises choice
  · exact ⟨fault, halts⟩
  · cases mode with
    | completion => cases unhinted
    | execution =>
      obtain ⟨n, within, untold⟩ := untold_of_hints unhinted
      rw [State.node_readAll] at within
      exact absurd untold ((told rfl n within).usage_ne_error e)

/-- A call that halts where it strands does so on the message that the selection ends with. -/
theorem Strands.fault_eq (strands : c.Strands mode sender label args rs) {message : String}
    (choice : choose (leftBy args rs) "" (c.root.after rs).children = .ok (.error message))
    {fault : Fault} (halts : c.Halts mode sender label args rs fault) :
    fault.kind = exhaustedKind (c.root.after rs) ∧ fault.message = some message := by
  obtain ⟨fault', halts', said⟩ | ⟨e, raised, -⟩ := strands.halts_or_raises choice
  · cases (Trail.unique halts halts').2
    exact said
  · cases (Trail.unique halts raised).2

/-- **The last refusal is reported, unless it comes without a word.** A call that halts does so on
an exhausted dispatch exactly where it strands at a node, and tells a failure handler once; and
where it strands it halts, unless a usage cannot be told for the hint. Without children, the fault
has a message of its own. With a single child it is a parse error, with several it is none; either
way its message is the one that the last child refused the tokens with, unless that is empty: then
it is the message for no children. Of the built-in types, only a decimal refuses tokens with an
empty message, where the wording for a number that its check refuses comes out empty. -/
theorem last_refusal_is_reported (c : Command) (mode : Mode) (sender : Option Sender)
    (label : String) (args : List String) :
    (∀ rs fault, c.Halts mode sender label args rs fault →
      (fault.isA .dispatchExhausted = true ↔ c.Strands mode sender label args rs)) ∧
    ∀ rs, c.Strands mode sender label args rs →
      ((mode = .execution → (c.root.after rs).TellsUsages) →
        ∃ fault, c.Halts mode sender label args rs fault) ∧
      ∀ fault, c.Halts mode sender label args rs fault →
        c.Failed mode sender label args fault ∧
        ((c.root.after rs).children = [] →
          fault.kind = .dispatchExhausted ∧ fault.message = some unknownOrIncomplete) ∧
        ∀ before last message, (c.root.after rs).children = before ++ [last] →
          (last.type.parse (leftBy args rs)).answer = .ok (.err message) →
          (before = [] → fault.kind = .parseError) ∧
          (before ≠ [] → fault.kind = .dispatchExhausted) ∧
          (message ≠ "" → fault.message = some message) ∧
          (message = "" → fault.message = some unknownOrIncomplete ∧
            (last.type.IsBuiltIn → ∃ d x, last.type = .decimal d ∧
              Check.passes d.check (.float x) = .ok false ∧
                d.error.render (.float x) = .ok "")) := by
  refine ⟨fun rs fault halts => halts.strands_iff, ?_⟩
  intro rs strands
  refine ⟨strands.halts, ?_⟩
  intro fault halts
  obtain ⟨reported, choice⟩ := choose_of_refused "" strands.refused
  obtain ⟨kind, said⟩ := strands.fault_eq choice halts
  refine ⟨failed_of_trail halts, ?childless, ?children⟩
  case childless =>
    intro childless
    rw [childless, choose_nil] at choice
    cases choice
    refine ⟨?_, said⟩
    rw [kind, exhaustedKind, childless]
    rfl
  case children =>
    intro before last message children answer
    have earlier : ∀ child ∈ before, Refuses (leftBy args rs) child := fun child mem =>
      strands.refused child (children ▸ List.mem_append_left _ mem)
    rw [children, choose_concat_of_refused earlier answer] at choice
    cases choice
    rw [exhaustedKind, children] at kind
    refine ⟨?_, ?_, ?_, ?_⟩
    · rintro rfl
      exact kind
    · intro several
      have many : (before ++ [last]).length ≠ 1 := by simpa using several
      rw [kind, if_neg many]
    · intro worded
      rw [said, reportedAs_of_ne worded]
    · rintro rfl
      exact ⟨said, fun builtIn => TokenType.decimal_of_silence builtIn answer⟩

/-- A command that reads a pitch, of which none is let pass, with other children before it. -/
def tuning (others : List Node) (error : Wording) : Command :=
  ⟨0, "tune", .mk 0 "tune" .word [] none (others ++ [pitch error]), none⟩
where
  pitch (error : Wording) : Node := .mk 1 "pitch" (.decimal (gated error)) [] (some .done) []
  gated (error : Wording) : DecimalType :=
    ⟨.float (.infinite true), .float (.infinite false), some TokenType.closedGate, error⟩

/-- The name of a tone, which is read as it is written. -/
def tone : Node :=
  .mk 2 "tone" (.choice ⟨["la"], false, by decide +kernel, by decide +kernel⟩) [] (some .done) []

theorem tuning_strands {others : List Node} {error : Wording} {text : String}
    (rendered : (TokenType.decimal (tuning.gated error)).parse ["440"] = .reject text ["440"])
    (refused : ∀ child ∈ others, Refuses ["440"] child) :
    (tuning others error).Strands .execution none "tune" ["440"] [] := by
  refine ⟨Trail.exists_trail .., fun r hr => absurd hr List.not_mem_nil, Nat.one_pos, ?_⟩
  intro child mem
  obtain mem | mem := List.mem_append.1 mem
  · exact refused child mem
  · obtain rfl := List.mem_singleton.1 mem
    exact ⟨text, congrArg Attempt.answer rendered⟩

theorem tuning_tellsUsages {others : List Node} {error : Wording}
    (builtIn : ∀ child ∈ others, child.children = [] ∧ child.type.IsBuiltIn) :
    (tuning others error).root.TellsUsages := by
  refine Node.tellsUsages_of_builtIn fun n within => ?_
  obtain rfl | ⟨child, mem, within⟩ := Node.within_iff.1 within
  · trivial
  obtain ⟨childless, own⟩ : child.children = [] ∧ child.type.IsBuiltIn := by
    obtain mem | mem := List.mem_append.1 mem
    · exact builtIn child mem
    · obtain rfl := List.mem_singleton.1 mem
      exact ⟨rfl, trivial⟩
  obtain rfl | ⟨none, mem, -⟩ := Node.within_iff.1 within
  · exact own
  · rw [childless] at mem
    cases mem

/-- With another child before it, the pitch has the say. -/
theorem pitch_has_the_say :
    (tuning [tone] TokenType.refusal).Strands .execution none "tune" ["440"] [] ∧
      ∃ fault, (tuning [tone] TokenType.refusal).Failed .execution none "tune" ["440"] fault ∧
        fault.kind = .dispatchExhausted ∧ fault.message = some "no" := by
  have refused : ∀ child ∈ [tone], Refuses ["440"] child := by
    intro child mem
    obtain rfl := List.mem_singleton.1 mem
    exact ⟨_, rfl⟩
  have strands : (tuning [tone] TokenType.refusal).Strands .execution none "tune" ["440"] [] :=
    tuning_strands rfl refused
  obtain ⟨-, reports⟩ := last_refusal_is_reported (tuning [tone] TokenType.refusal) .execution
    none "tune" ["440"]
  obtain ⟨halts, reported⟩ := reports [] strands
  have builtIn : ∀ child ∈ [tone], child.children = [] ∧ child.type.IsBuiltIn := by
    intro child mem
    obtain rfl := List.mem_singleton.1 mem
    exact ⟨rfl, trivial⟩
  obtain ⟨fault, halts⟩ := halts fun _ => tuning_tellsUsages builtIn
  obtain ⟨failed, -, said⟩ := reported fault halts
  obtain ⟨-, several, worded, -⟩ := said [tone] (tuning.pitch TokenType.refusal) "no" rfl rfl
  exact ⟨strands, fault, failed, several (by simp), worded (by simp)⟩

/-- The pitch is refused with an empty message, and reported with the one for no children. -/
theorem empty_message_is_replaced :
    let c := tuning [] TokenType.silence
    DecimalType.declare .plain { check := .callable TokenType.closedGate, error := .str "" } =
      .ok (tuning.gated TokenType.silence) ∧
    c.root.children = [tuning.pitch TokenType.silence] ∧
    ((tuning.pitch TokenType.silence).type.parse ["440"]).answer = .ok (.err "") ∧
    ∃ fault, c.Halts .execution none "tune" ["440"] [] fault ∧ fault.kind = .parseError ∧
      fault.message = some "Unknown or incomplete command" := by
  intro c
  have wording : declareWording .plain .float (.str "") = .ok TokenType.silence :=
    TokenType.declareWording_text .plain .float TokenType.silence rfl
  have declared : DecimalType.declare .plain
      { check := .callable TokenType.closedGate, error := .str "" } =
        .ok (tuning.gated TokenType.silence) := by
    simp only [DecimalType.declare, wording]
    rfl
  have strands : c.Strands .execution none "tune" ["440"] [] :=
    tuning_strands rfl fun child mem => absurd mem List.not_mem_nil
  have choice : choose ["440"] "" ([] ++ [tuning.pitch TokenType.silence]) =
      .ok (.error (reportedAs "")) :=
    choose_concat_of_refused (fun child mem => absurd mem List.not_mem_nil) rfl ""
  obtain ⟨fault, halts⟩ := strands.halts fun _ =>
    tuning_tellsUsages fun child mem => absurd mem List.not_mem_nil
  obtain ⟨kind, said⟩ := strands.fault_eq choice halts
  exact ⟨declared, rfl, rfl, fault, halts, kind, said⟩

end Command

end CommandTree
