import CommandTree.Proofs.Routing

/-!
# Completions put into the line

A completion offers texts for the token that is being typed, which is what a line holds after its
last blank. Put in its place, a word leaves the tokens before it as they are. So if the label is
complete, the command that completed the line is the one that runs the new line, under the same
label and with the same arguments, of which only the last one is another
(`completions_fit_into_the_line`).
-/

namespace CommandTree.Registry

variable {r : Registry} {label : String} {sender : Option Sender} {texts : List String}

theorem complete_of_typedTokens {line arg : String} {args : List String}
    (h : Text.typedTokens line = label :: arg :: args) :
    r.complete (.str line) sender = r.suggest (.str label) (arguments (arg :: args)) sender := by
  simp only [complete, lineTokens, if_true, h]
  rfl

theorem suggest_of_get {command : Command} (h : r.get (.str label) = .ok (some command))
    (args : Value) :
    r.suggest (.str label) args sender = command.onTabComplete sender (.str label) args := by
  rw [suggest, h]
  rfl

/-- Nothing is suggested for the arguments of what is no label. -/
theorem get_of_suggested {args : Value} {text : String}
    (suggested : (r.suggest (.str label) args sender).result = .ok texts) (mem : text ∈ texts) :
    ∃ command, r.get (.str label) = .ok (some command) := by
  cases found : r.get (.str label) with
  | error e =>
    rw [suggest, found] at suggested
    cases suggested
  | ok command =>
    cases command with
    | some command => exact ⟨command, rfl⟩
    | none =>
      rw [suggest, found] at suggested
      cases suggested
      cases mem

/-- **Completions fit into the line.** The tokens of a line being typed are words, but for the last
one, which is the longest end of the line without a blank. With a word in place of that end, the
line falls into the same tokens up to the last one, which is the word; and words with single spaces
between them are the tokens of the line they make up. If the first token is complete and a word is
offered for the last one, then some command has the first token as a label; it is the command that
completed the line and that runs the line with the word in it, and it is given the same arguments
both times, up to the last one. -/
theorem completions_fit_into_the_line (r : Registry) (line : String) :
    let before := Text.tokens (Text.finished line)
    let typed := Text.unfinished line
    Text.finished line ++ typed = line ∧ Text.IsUnbrokenEnd line typed ∧
    Text.typedTokens line = before ++ [typed] ∧ (∀ token ∈ before, Text.isWord token = true) ∧
    (∀ word, Text.isWord word = true →
      Text.tokens (Text.finished line ++ word) = before ++ [word]) ∧
    (∀ ts, (∀ t ∈ ts, Text.isWord t = true) → Text.tokens (joined ts) = ts) ∧
    ∀ label args, before = label :: args → ∀ sender texts,
      (r.complete (.str line) sender).result = .ok texts →
      ∀ word ∈ texts, Text.isWord word = true →
        ∃ command, r.get (.str label) = .ok (some command) ∧
          r.complete (.str line) sender =
            command.onTabComplete sender (.str label) (arguments (args ++ [typed])) ∧
          ∀ sender', r.execute (.str (Text.finished line ++ word)) sender' =
            command.onCommand sender' (.str label) (arguments (args ++ [word])) := by
  intro before typed
  have tokens : ∀ word, Text.isWord word = true →
      Text.tokens (Text.finished line ++ word) = before ++ [word] := by
    intro word isWord
    rw [Text.tokens_finished_append, Text.tokens_of_isWord isWord]
  refine ⟨Text.finished_append_unfinished line, Text.isUnbrokenEnd_unfinished line,
    Text.typedTokens_eq line, fun token => Text.isWord_of_mem_tokens, tokens, ?joins, ?routed⟩
  case joins =>
    intro ts words
    rw [Text.tokens_joined, Text.flatMap_tokens words]
  case routed =>
    intro label args complete sender texts completed word offered isWord
    have typedTokens : Text.typedTokens line = label :: (args ++ [typed]) := by
      rw [Text.typedTokens_eq, ← List.cons_append, ← complete]
    -- There is an argument: if nothing else, the token being typed.
    obtain ⟨arg, rest, split⟩ := List.exists_cons_of_ne_nil (List.concat_ne_nil typed args)
    rw [split] at typedTokens
    rw [complete_of_typedTokens typedTokens] at completed ⊢
    obtain ⟨command, found⟩ := get_of_suggested completed offered
    refine ⟨command, found, ?_, ?_⟩
    · rw [suggest_of_get found, split]
    · intro sender'
      have newTokens := tokens word isWord
      rw [complete, List.cons_append] at newTokens
      rw [execute_of_tokens newTokens, dispatch_of_get found]

/-- A command that switches a lamp, reached in any case. -/
def lit : Registry :=
  (Registry.mk .opened []).register (some ⟨0, "Lamp", .mk 0 "Lamp" .word [] none [switch], none⟩)
    [] |>.1
where
  switch : Node := .mk 1 "switch" (.choice positions) [] (some .done) []
  positions : Choice := ⟨["on", "off"], false, by decide +kernel, by decide +kernel⟩

/-- After a tab, a second blank and a letter, the rest of the word is offered and put into the
line. -/
theorem lamp_is_switched :
    let line := "lamp\t o"
    (lit.complete (.str line) none).result = .ok ["on", "off"] ∧ Text.isWord "off" = true ∧
      ∃ command, lit.get (.str "lamp") = .ok (some command) ∧
        lit.complete (.str line) none =
          command.onTabComplete none (.str "lamp") (arguments ["o"]) ∧
        lit.execute (.str "lamp\t off") none =
          command.onCommand none (.str "lamp") (arguments ["off"]) := by
  intro line
  have offered : (lit.complete (.str line) none).result.toOption = some ["on", "off"] := by
    decide +kernel
  have completed : (lit.complete (.str line) none).result = .ok ["on", "off"] := by
    cases result : (lit.complete (.str line) none).result with
    | error e =>
      rw [result] at offered
      cases offered
    | ok texts =>
      rw [result] at offered
      rw [Option.some.inj offered]
  obtain ⟨-, -, -, -, -, -, routed⟩ := completions_fit_into_the_line lit line
  have word : Text.isWord "off" = true := by decide
  obtain ⟨command, found, completes, executes⟩ :=
    routed "lamp" [] (by decide) none _ completed "off" (by simp) word
  have typed : Text.unfinished line = "o" := by decide
  have fitted : Text.finished line ++ "off" = "lamp\t off" := by decide
  rw [typed] at completes
  rw [fitted] at executes
  exact ⟨completed, word, command, found, completes, executes none⟩

end CommandTree.Registry
