import CommandTree.Proofs.Registrations

/-!
# The lifecycle of a registry

A registry that was closed is closed and empty for good, and one that was never opened stays as it
was made (`operateAll_of_mem_closing`, `operateAll_fresh`). Neither does anything then: nearly every
operation looks at the state before it looks at anything else and is refused
(`operate_of_ensureOpen`). What is answered without a look at the state is whether something that is
no string is a label, and a line without a word (`closed_registry_stays_closed`).
-/

namespace CommandTree.Registry

/-- Anything that a registry can be asked to do. -/
inductive Operation where
  | opening
  | closing
  | registering (command : Option Command) (aliases : List Value)
  | unregistering (name : Value)
  | finding (name : Value)
  | containing (name : Value)
  | listing
  | iterating
  | counting
  | dispatching (label args : Value) (sender : Option Sender)
  | suggesting (label args : Value) (sender : Option Sender)
  | executing (line : Value) (sender : Option Sender)
  | completing (line : Value) (sender : Option Sender)

/-- The registry that an operation leaves, what happened, and what was raised, if anything. -/
structure Effect where
  registry : Registry
  events : List Event
  error : Option Error

def Effect.ofReply {α : Type} (r : Registry) (reply : Reply α) : Effect :=
  ⟨r, reply.events, match reply.result with
    | .ok _ => none
    | .error e => some e⟩

def operate (r : Registry) : Operation → Effect
  | .opening =>
    match r.opened with
    | .ok r => ⟨r, [], none⟩
    | .error e => ⟨r, [], some e⟩
  | .closing => ⟨r.close, [], none⟩
  | .registering command aliases =>
    let change := r.register command aliases
    .ofReply change.1 change.2
  | .unregistering name =>
    let change := r.unregister name
    .ofReply change.1 change.2
  | .finding name => .ofReply r (.ofExcept (r.get name))
  | .containing name => .ofReply r (.ofExcept (r.contains name))
  | .listing => .ofReply r (.ofExcept r.labels)
  | .iterating => .ofReply r (.ofExcept r.commands)
  | .counting => .ofReply r (.ofExcept r.size)
  | .dispatching label args sender => .ofReply r (r.dispatch label args sender)
  | .suggesting label args sender => .ofReply r (r.suggest label args sender)
  | .executing line sender => .ofReply r (r.execute line sender)
  | .completing line sender => .ofReply r (r.complete line sender)

def operateAll (r : Registry) (ops : List Operation) : Registry :=
  ops.foldl (fun r op => (r.operate op).registry) r

/-- The operation looks whether the registry is open before it can end in any other way. It does not
when it is given something that is no command, no word, no string or no line with a word. -/
def Operation.IsGuarded : Operation → Prop
  | opening | closing => False
  | registering command aliases => command.isSome ∧ (aliases.mapM alias?).isSome
  | containing name => name.str?.isSome
  | executing line _ => ∃ label args, lineTokens line false = .ok (label :: args)
  | completing line _ => line.str?.isSome
  | _ => True

/-- An operation is refused for the state of the registry, and that is all that happens. -/
def Refuses (r : Registry) (op : Operation) : Prop :=
  ∃ e, r.operate op = ⟨r, [], some e⟩ ∧ e.category = .runtime

variable {r : Registry} {op : Operation}

/-! ## Operations that are refused -/

section

variable {e : Error}

theorem lookup_of_ensureOpen (shut : r.ensureOpen = .error e) (name : Value) :
    r.lookup name = .error e := by
  unfold lookup
  rw [shut]
  rfl

theorem get_of_ensureOpen (shut : r.ensureOpen = .error e) (name : Value) :
    r.get name = .error e := by
  rw [get, lookup_of_ensureOpen shut]
  rfl

theorem labels_of_ensureOpen (shut : r.ensureOpen = .error e) : r.labels = .error e := by
  rw [labels, shut]
  rfl

theorem dispatch_of_ensureOpen (shut : r.ensureOpen = .error e) (label args : Value)
    (sender : Option Sender) : r.dispatch label args sender = .fail e := by
  rw [dispatch, get_of_ensureOpen shut]
  rfl

theorem suggest_of_ensureOpen (shut : r.ensureOpen = .error e) (label args : Value)
    (sender : Option Sender) : r.suggest label args sender = .fail e := by
  rw [suggest, get_of_ensureOpen shut]
  rfl

/-- While a label is being typed the labels are asked for, and a command after that. -/
theorem complete_of_ensureOpen (shut : r.ensureOpen = .error e) (line : String)
    (sender : Option Sender) : r.complete (.str line) sender = .fail e := by
  simp only [complete, lineTokens, if_true]
  rcases Text.typedTokens line with - | ⟨label, - | ⟨arg, args⟩⟩
  · simp only [labels_of_ensureOpen shut]
    rfl
  · simp only [labels_of_ensureOpen shut]
    rfl
  · exact suggest_of_ensureOpen shut _ _ sender

theorem register_of_ensureOpen (shut : r.ensureOpen = .error e) (command : Command)
    {aliases : List Value} {words : List String} (h : aliases.mapM alias? = some words) :
    r.register (some command) aliases = (r, .fail e) := by
  simp only [register, h, shut]
  rfl

/-- A registry that is not open refuses what is guarded, whatever it is asked exactly. -/
theorem operate_of_ensureOpen (shut : r.ensureOpen = .error e) (guarded : op.IsGuarded) :
    r.operate op = ⟨r, [], some e⟩ := by
  cases op with
  | opening | closing => exact guarded.elim
  | registering command aliases =>
    obtain ⟨given, worded⟩ := guarded
    obtain ⟨command, rfl⟩ := Option.isSome_iff_exists.1 given
    obtain ⟨words, h⟩ := Option.isSome_iff_exists.1 worded
    rw [operate, register_of_ensureOpen shut command h]
    rfl
  | unregistering name =>
    rw [operate, unregister, lookup_of_ensureOpen shut]
    rfl
  | finding name =>
    rw [operate, get_of_ensureOpen shut]
    rfl
  | containing name =>
    cases name with
    | str s =>
      rw [operate, contains, get_of_ensureOpen shut]
      rfl
    | _ => cases guarded
  | listing =>
    rw [operate, labels_of_ensureOpen shut]
    rfl
  | iterating =>
    rw [operate, commands, shut]
    rfl
  | counting =>
    rw [operate, size, commands, shut]
    rfl
  | dispatching label args sender =>
    rw [operate, dispatch_of_ensureOpen shut]
    rfl
  | suggesting label args sender =>
    rw [operate, suggest_of_ensureOpen shut]
    rfl
  | executing line sender =>
    obtain ⟨label, args, h⟩ := guarded
    have dispatched : r.execute line sender = r.dispatch (.str label) (arguments args) sender := by
      rw [execute, h]
      rfl
    rw [operate, dispatched, dispatch_of_ensureOpen shut]
    rfl
  | completing line sender =>
    cases line with
    | str s =>
      rw [operate, complete_of_ensureOpen shut]
      rfl
    | _ => cases guarded

end

/-! ## Operations that are not -/

/-- What is no string is no label, whether the registry is open or not. -/
theorem contains_of_not_string {name : Value} (h : name.str? = none) :
    r.contains name = .ok false := by
  cases name with
  | str => cases h
  | _ => rfl

/-- What is not guarded says nothing of the state, and changes nothing unless it opens or closes. -/
theorem operate_of_not_guarded (h : ¬ op.IsGuarded) (notOpening : op ≠ .opening)
    (notClosing : op ≠ .closing) :
    ∃ error, r.operate op = ⟨r, [], error⟩ ∧ ∀ e, error = some e → e.category = .type := by
  cases op with
  | opening => exact absurd rfl notOpening
  | closing => exact absurd rfl notClosing
  | registering command aliases =>
    cases command with
    | none =>
      refine ⟨some .notACommand, rfl, ?_⟩
      rintro e ⟨rfl⟩
      rfl
    | some command =>
      cases words : aliases.mapM alias? with
      | none =>
        refine ⟨some .aliasNotWord, ?_, ?_⟩
        · simp only [operate, register, words]
          rfl
        · rintro e ⟨rfl⟩
          rfl
      | some words' => exact absurd ⟨rfl, by rw [words]; rfl⟩ h
  | containing name =>
    have noString : name.str? = none := by simpa [Operation.IsGuarded] using h
    refine ⟨none, ?_, nofun⟩
    rw [operate, contains_of_not_string noString]
    rfl
  | executing line sender =>
    cases line with
    | str line =>
      cases words : Text.tokens line with
      | nil =>
        refine ⟨none, ?_, nofun⟩
        rw [operate, execute_of_no_tokens words]
        rfl
      | cons label args => exact absurd ⟨label, args, congrArg Except.ok words⟩ h
    | _ =>
      refine ⟨some .lineNotString, rfl, ?_⟩
      rintro e ⟨rfl⟩
      rfl
  | completing line sender =>
    cases line with
    | str => exact absurd rfl h
    | _ =>
      refine ⟨some .lineNotString, rfl, ?_⟩
      rintro e ⟨rfl⟩
      rfl
  | _ => exact absurd trivial h

/-- A registry that is not open refuses exactly what is guarded, besides what opens it. -/
theorem refuses_iff {e : Error} (shut : r.ensureOpen = .error e) (runtime : e.category = .runtime)
    (notOpening : op ≠ .opening) : r.Refuses op ↔ op.IsGuarded := by
  constructor
  · rintro ⟨raised, did, told⟩
    by_contra unguarded
    by_cases closing : op = .closing
    · subst closing
      cases congrArg Effect.error did
    · obtain ⟨error, calm, typed⟩ := operate_of_not_guarded unguarded notOpening closing
      rw [did] at calm
      have same := typed raised (congrArg Effect.error calm).symm
      rw [told] at same
      cases same
  · exact fun guarded => ⟨e, operate_of_ensureOpen shut guarded, runtime⟩

/-- Nothing happens but an error, if that, unless the registry is opened or closed. -/
theorem operate_of_shut {e : Error} (shut : r.ensureOpen = .error e) (notOpening : op ≠ .opening)
    (notClosing : op ≠ .closing) :
    (r.operate op).registry = r ∧ (r.operate op).events = [] := by
  by_cases guarded : op.IsGuarded
  · rw [operate_of_ensureOpen shut guarded]
    exact ⟨rfl, rfl⟩
  · obtain ⟨error, calm, -⟩ := operate_of_not_guarded (r := r) guarded notOpening notClosing
    rw [calm]
    exact ⟨rfl, rfl⟩

/-! ## Whole lives -/

/-- What a registry is after it was closed. -/
def dropped : Registry := ⟨.closed, []⟩

theorem operate_dropped (op : Operation) :
    (dropped.operate op).registry = dropped ∧ (dropped.operate op).events = [] := by
  by_cases opening : op = .opening
  · subst opening
    exact ⟨rfl, rfl⟩
  by_cases closing : op = .closing
  · subst closing
    exact ⟨rfl, rfl⟩
  exact operate_of_shut rfl opening closing

theorem operateAll_dropped (ops : List Operation) : operateAll dropped ops = dropped := by
  induction ops with
  | nil => rfl
  | cons op ops ih =>
    rw [operateAll, List.foldl_cons, (operate_dropped op).1]
    exact ih

theorem operateAll_of_mem_closing {ops : List Operation} (h : .closing ∈ ops) (r : Registry) :
    operateAll r ops = dropped := by
  induction ops generalizing r with
  | nil => cases h
  | cons op ops ih =>
    rw [operateAll, List.foldl_cons]
    rcases List.mem_cons.1 h with rfl | later
    · exact operateAll_dropped ops
    · exact ih later _

theorem operateAll_fresh {ops : List Operation} (neverOpened : .opening ∉ ops)
    (neverClosed : .closing ∉ ops) : operateAll fresh ops = fresh := by
  induction ops with
  | nil => rfl
  | cons op ops ih =>
    rw [List.mem_cons, not_or] at neverOpened neverClosed
    have same := operate_of_shut (r := fresh) rfl (Ne.symm neverOpened.1) (Ne.symm neverClosed.1)
    rw [operateAll, List.foldl_cons, same.1]
    exact ih neverOpened.2 neverClosed.2

/-- **A closed registry stays closed.** Once it was closed, a registry is closed and empty, and no
operation changes that or does anything else: to open it is refused, and so is exactly what is
guarded. A registry that was never opened is as it was made; it refuses the same but to be opened,
and does nothing either. -/
theorem closed_registry_stays_closed (ops : List Operation) (op : Operation) :
    (.closing ∈ ops →
      let r := operateAll fresh ops
      r = dropped ∧ (r.operate op).registry = r ∧ (r.operate op).events = [] ∧
      (r.Refuses op ↔ op = .opening ∨ op.IsGuarded)) ∧
    (.opening ∉ ops → .closing ∉ ops →
      let r := operateAll fresh ops
      r = fresh ∧ (op ≠ .opening → op ≠ .closing →
        (r.operate op).registry = r ∧ (r.operate op).events = []) ∧
      (op ≠ .opening → (r.Refuses op ↔ op.IsGuarded))) := by
  constructor
  · intro closed r
    have same : r = dropped := operateAll_of_mem_closing closed fresh
    rw [same]
    refine ⟨rfl, (operate_dropped op).1, (operate_dropped op).2, ?_⟩
    by_cases opening : op = .opening
    · subst opening
      exact iff_of_true ⟨.reopened, rfl, rfl⟩ (Or.inl rfl)
    · rw [refuses_iff rfl rfl opening, or_iff_right opening]
  · intro neverOpened neverClosed r
    have same : r = fresh := operateAll_fresh neverOpened neverClosed
    rw [same]
    exact ⟨rfl, operate_of_shut rfl, refuses_iff rfl rfl⟩

/-- A command is looked for in vain in a registry that was closed and in one that was not opened. -/
theorem search_is_refused :
    (operateAll fresh [.opening, .closing]).Refuses (.finding (.str "tp")) ∧
      (operateAll fresh [.counting]).Refuses (.finding (.str "tp")) := by
  have closed := (closed_registry_stays_closed [.opening, .closing] (.finding (.str "tp"))).1
    (by simp)
  have unopened := (closed_registry_stays_closed [.counting] (.finding (.str "tp"))).2
    (by simp) (by simp)
  exact ⟨closed.2.2.2.2 (Or.inr trivial), (unopened.2.2 nofun).2 trivial⟩

/-- A line of blanks and a search for a number are answered by a registry that was closed. -/
theorem blank_line_is_not_refused :
    ¬ (operateAll fresh [.opening, .closing]).Refuses (.executing (.str " ") none) ∧
      ¬ (operateAll fresh [.opening, .closing]).Refuses (.containing (.int 3)) := by
  constructor
  · rintro ⟨e, refused, -⟩
    cases refused
  · rintro ⟨e, refused, -⟩
    cases refused

end CommandTree.Registry
