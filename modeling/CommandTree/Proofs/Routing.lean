import CommandTree.Proofs.Drafting
import CommandTree.Proofs.Registrations
import CommandTree.Proofs.Splitting

/-!
# Routing

An open registry routes a line to the command that its first word is a label of. So a label is
reached from a line if it is a word: written in front of the arguments, and put in the place of what
has been typed of it. Aliases are words, and so are the names of commands that are built from
drafts. A command that is put together from parts may have any other name, and such a label never
reaches it (`labels_are_routed`).
-/

namespace CommandTree.Registry

variable {commands : Commands} {r : Registry} {groups : List Group}

/-! ## Aliases -/

theorem alias?_eq_some {v : Value} {s : String} (h : alias? v = some s) : Text.isWord s = true := by
  cases v with
  | str t =>
    simp only [alias?] at h
    split at h
    · rename_i isWord
      cases h
      exact isWord
    · cases h
  | _ => cases h

theorem isWord_of_mapM_alias? {aliases : List Value} {words : List String}
    (h : aliases.mapM alias? = some words) : ∀ word ∈ words, Text.isWord word = true := by
  induction aliases generalizing words with
  | nil =>
    cases h
    exact fun _ mem => absurd mem List.not_mem_nil
  | cons v aliases ih =>
    rw [List.mapM_cons] at h
    obtain ⟨first, hfirst, h⟩ := Option.bind_eq_some_iff.1 h
    obtain ⟨rest, hrest, h⟩ := Option.bind_eq_some_iff.1 h
    cases h
    exact List.forall_mem_cons.2 ⟨alias?_eq_some hfirst, ih hrest⟩

/-- The aliases of what a deed registered, if anything, are words. -/
def Deed.IsWorded : Deed → Prop
  | registered g => ∀ label ∈ g.aliases, Text.isWord label = true
  | _ => True

theorem perform_isWorded (commands : Commands) (r : Registry) (call : Call) :
    (perform commands r call).2.IsWorded := by
  cases call with
  | opening =>
    simp only [perform]
    cases r.opened <;> trivial
  | closing => trivial
  | registering command aliases =>
    simp only [perform]
    split
    · rename_i words
      exact isWord_of_mapM_alias? words
    · trivial
  | unregistering name =>
    simp only [perform]
    split <;> trivial

theorem performAll_isWorded (commands : Commands) (r : Registry) (calls : List Call) :
    ∀ deed ∈ (performAll commands r calls).2, deed.IsWorded := by
  induction calls generalizing r with
  | nil => exact fun _ mem => absurd mem List.not_mem_nil
  | cons call more ih => exact List.forall_mem_cons.2 ⟨perform_isWorded commands r call, ih _⟩

theorem mem_of_mem_live {deeds : List Deed} {g : Group} (h : g ∈ live deeds) :
    .registered g ∈ deeds := by
  induction deeds with
  | nil => cases h
  | cons deed later ih =>
    cases deed with
    | registered g' =>
      rw [live] at h
      split at h
      · exact List.mem_cons_of_mem _ (ih h)
      · rcases List.mem_cons.1 h with rfl | h
        · exact List.mem_cons_self
        · exact List.mem_cons_of_mem _ (ih h)
    | _ => exact List.mem_cons_of_mem _ (ih h)

/-- A label that is no word is the name of its command. -/
theorem name_of_not_isWord {calls : List Call} {g : Group} {label : String}
    (hg : g ∈ live (performAll commands r calls).2) (hl : label ∈ g.labels)
    (h : Text.isWord label = false) : label = g.command.name := by
  rcases List.mem_cons.1 hl with rfl | mem
  · rfl
  · have isWord := performAll_isWorded commands r calls _ (mem_of_mem_live hg) label mem
    cases h.symm.trans isWord

/-! ## Lines -/

theorem dispatch_of_find? (opened : r.state = .opened) {s : String} {command : Command}
    (found : (r.find? s).map Entry.command = some command) (args : Value)
    (sender : Option Sender) :
    r.dispatch (.str s) args sender = command.onCommand sender (.str s) args :=
  dispatch_of_get ((get_of_opened opened s).trans (congrArg Except.ok found)) args sender

theorem execute_of_tokens {line : String} {first : String} {rest : List String}
    (h : Text.tokens line = first :: rest) (sender : Option Sender) :
    r.execute (.str line) sender = r.dispatch (.str first) (arguments rest) sender := by
  simp only [execute, lineTokens, h]
  rfl

/-- A line whose first word is a label runs the command of the label. -/
theorem Keeps.execute_eq (h : Keeps commands r groups) (opened : r.state = .opened) {g : Group}
    (hg : g ∈ groups) {label : String} (hl : label ∈ g.labels) {line : String} {args : List String}
    (tokens : Text.tokens line = label :: args) (sender : Option Sender) :
    r.execute (.str line) sender =
      g.command.onCommand sender (.str label) (arguments args) := by
  have found : (r.find? label).map Entry.command = some g.command :=
    h.find?_command.2 ⟨g, hg, rfl, label, hl, rfl⟩
  rw [execute_of_tokens tokens, dispatch_of_find? opened found]

/-- While the label is being typed, the labels that continue it are offered. -/
theorem Keeps.complete_eq (h : Keeps commands r groups) (opened : r.state = .opened)
    {line : String} (typing : (Text.typedTokens line).length ≤ 1) (sender : Option Sender) :
    r.complete (.str line) sender = pure (Text.continuations true
      (String.join (Text.typedTokens line)) (groups.flatMap Group.labels)) := by
  have labels := h.labels_of_opened opened
  simp only [complete, lineTokens, if_true]
  revert typing
  rcases Text.typedTokens line with - | ⟨token, - | ⟨next, more⟩⟩ <;> intro typing
  · rw [labels]
    rfl
  · rw [labels]
    rfl
  · simp at typing

/-- **A label is reached from a line exactly if it is a word.** Whatever calls were made of an open
registry, a word that is a label and is followed by arguments runs its command with the label and
these arguments; a label that is no word is the name of a command that was put together from parts,
and a line that starts with it runs what its first word leads to. While a label is being typed,
each label that continues it is offered; a word among them, put in the place of what was typed, runs
its command. -/
theorem labels_are_routed (commands : Commands) (calls : List Call) :
    let r := (performAll commands fresh calls).1
    let groups := live (performAll commands fresh calls).2
    r.state = .opened →
    r.labels = .ok (groups.flatMap Group.labels) ∧
    (∀ g ∈ groups, ∀ label ∈ g.labels, ∀ args, (∀ arg ∈ args, Text.isWord arg = true) →
      ∀ sender,
      (Text.isWord label = true → r.execute (.str (joined (label :: args))) sender =
        g.command.onCommand sender (.str label) (arguments args)) ∧
      (Text.isWord label = false → label = g.command.name ∧
        match Text.tokens label ++ args with
        | [] => r.execute (.str (joined (label :: args))) sender = pure false
        | first :: rest => first ≠ label ∧ r.execute (.str (joined (label :: args))) sender =
          r.dispatch (.str first) (arguments rest) sender)) ∧
    (∀ line, (Text.typedTokens line).length ≤ 1 →
      Text.completed line (String.join (Text.typedTokens line)) = line ∧
      ∀ sender, ∃ offered, r.complete (.str line) sender = pure offered ∧
        offered = Text.continuations true (String.join (Text.typedTokens line))
          (groups.flatMap Group.labels) ∧
        ∀ label ∈ offered, Text.isWord label = true → ∃ g ∈ groups, label ∈ g.labels ∧
          ∀ sender, r.execute (.str (Text.completed line label)) sender =
            g.command.onCommand sender (.str label) (arguments [])) ∧
    (∀ w, Workshop.Reachable w → ∀ depth id command w',
      w.buildCommand depth id = .ok (command, w') → Text.isWord command.name = true) := by
  intro r groups opened
  have kept : Keeps commands r groups := performAll_keeps [] (keeps_fresh commands) calls
  refine ⟨kept.labels_of_opened opened, ?written, ?typed, ?built⟩
  case written =>
    intro g hg label hl args words sender
    have split : Text.tokens (joined (label :: args)) = Text.tokens label ++ args := by
      rw [Text.tokens_joined, List.flatMap_cons, Text.flatMap_tokens words]
    constructor
    · intro isWord
      rw [Text.tokens_of_isWord isWord] at split
      exact kept.execute_eq opened hg hl split sender
    · intro isWord
      refine ⟨name_of_not_isWord hg hl isWord, ?_⟩
      cases tokens : Text.tokens label ++ args with
      | nil => exact execute_of_no_tokens (split.trans tokens) sender
      | cons first rest =>
        refine ⟨?_, execute_of_tokens (split.trans tokens) sender⟩
        -- what a line is split into are words, and the label is none
        rintro rfl
        have mem : first ∈ Text.tokens first ++ args := by rw [tokens]; exact List.mem_cons_self
        have firstIsWord : Text.isWord first = true := by
          rcases List.mem_append.1 mem with mem | mem
          · exact Text.isWord_of_mem_tokens mem
          · exact words first mem
        cases isWord.symm.trans firstIsWord
  case typed =>
    intro line typing
    refine ⟨Text.completed_typed typing, ?_⟩
    intro sender
    refine ⟨_, kept.complete_eq opened typing sender, rfl, ?_⟩
    intro label offered isWord
    obtain ⟨g, hg, hl⟩ := List.mem_flatMap.1 (List.mem_of_mem_filter offered)
    refine ⟨g, hg, hl, ?_⟩
    intro sender
    exact kept.execute_eq opened hg hl (Text.tokens_completed line isWord) sender
  case built => exact fun w h _ _ _ _ => h.sound.isWord_of_buildCommand

/-- The command `tp` is reached under its alias, written in full or completed. -/
theorem visits_are_routed :
    let r := (performAll shelf fresh visits).1
    r.execute (.str (joined ["Warp", "home"])) none =
      (shelf.numbered 0).onCommand none (.str "Warp") (arguments ["home"]) ∧
    r.complete (.str " wa") none = pure ["Warp"] ∧
    r.execute (.str (Text.completed " wa" "Warp")) none =
      (shelf.numbered 0).onCommand none (.str "Warp") (arguments []) := by
  intro r
  obtain ⟨-, written, typed, -⟩ := labels_are_routed shelf visits (by decide +kernel)
  have held : live (performAll shelf fresh visits).2 = [⟨shelf.numbered 0, ["Warp"]⟩] := rfl
  rw [held] at written typed
  refine ⟨?full, ?completed⟩
  case full =>
    exact (written _ List.mem_cons_self "Warp" (by decide) ["home"] (by decide) none).1 (by decide)
  case completed =>
    obtain ⟨-, offers⟩ := typed " wa" (by decide)
    obtain ⟨offered, completed, same, routed⟩ := offers none
    have all : offered = ["Warp"] := by
      rw [same]
      decide +kernel
    rw [all] at completed routed
    obtain ⟨g, hg, -, executed⟩ := routed "Warp" List.mem_cons_self (by decide)
    rw [List.mem_singleton.1 hg] at executed
    exact ⟨completed, executed none⟩

/-- A command that is put together from parts, under a name of two words. -/
def spaced : Commands :=
  ⟨fun n => ⟨n, "two words", .mk 0 "two" .word [] (some fun context => .done context) [], none⟩,
    fun _ => rfl⟩

def listener : Option Sender := some ⟨"me", "me", some fun _ => pure (), .nothing⟩

/-- The name is a label and is offered, but in a line it is no label of the command. -/
theorem spaced_name_is_not_routed :
    let r := (performAll spaced fresh [.opening, .registering (some 0) []]).1
    let command := spaced.numbered 0
    Command.declare 0 (.str "two words") (some command.root) .nothing = .ok command ∧
    r.state = .opened ∧ r.labels = .ok ["two words"] ∧
    r.complete (.str "tw") listener = pure ["two words"] ∧
    (r.execute (.str (joined ["two words"])) listener).result = .ok false ∧
    (command.onCommand listener (.str "two words") (arguments [])).result = .ok true := by
  intro r command
  have opened : r.state = .opened := rfl
  refine ⟨rfl, opened, rfl, ?offered, ?executed, ?called⟩
  case offered =>
    have continued : Text.continuations true "tw" ["two words"] = ["two words"] := by
      decide +kernel
    exact congrArg pure continued
  case executed =>
    have tokens : Text.tokens (joined ["two words"]) = ["two", "words"] := by decide
    have unknown : r.find? "two" = none := Option.isNone_iff_eq_none.1 (by decide +kernel)
    rw [execute_of_tokens tokens, dispatch, get_of_opened opened, unknown]
    rfl
  case called =>
    have entered (context : Context) : Walk.dispatch none command.root []
        (Walk.start command.root ["two words"]) context =
          Walk.execute command.root (fun context => .done context) context := by
      unfold Walk.dispatch
      rfl
    have walked : command.call .execution listener (.str "two words") (arguments []) =
        .ok (Walk.execute command.root (fun context => .done context)
          (.make (Command.stage .execution) listener "two words" [])) :=
      congrArg Except.ok (entered _)
    rw [Command.onCommand, walked]
    rfl

end CommandTree.Registry
