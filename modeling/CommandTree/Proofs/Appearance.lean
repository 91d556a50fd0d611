import CommandTree.Fault.Rendering
import Mathlib.Data.List.Forall2

/-!
# Appearance

A styled text that is put together from fragments shows them one after another, and each of its
spans covers one of them (`Styled.assemble_joins`). A fragment that is empty, or of which nothing is
left without its controls, has no span and does not move the others. A fault is rendered from such
fragments: their texts come from its message, its options and what the host calls its code, their
styles from the switches and the styles of the host (`switches_change_only_the_look`).
-/

namespace CommandTree

theorem withoutControls_append (s t : String) :
    withoutControls (s ++ t) = withoutControls s ++ withoutControls t := by
  simp [withoutControls, String.toList_append, String.ofList_append]

/-- A fragment of text with the style it is to be shown in, which may be empty. -/
structure Fragment where
  text : String
  style : String

namespace Fragment

/-- What is seen of the fragments, one after another. -/
def seen (ps : List Fragment) : String := withoutControls (String.join (ps.map text))

theorem seen_append (ps qs : List Fragment) : seen (ps ++ qs) = seen ps ++ seen qs := by
  simp [seen, withoutControls_append]

theorem seen_singleton (p : Fragment) : seen [p] = withoutControls p.text := by
  simp [seen]

end Fragment

/-- The span covers exactly what is seen of one of the fragments, in its style. -/
inductive Span.Covers (s : Span) : List Fragment → Prop where
  | fragment (before : List Fragment) (p : Fragment) (after : List Fragment) :
      s.start = (Fragment.seen before).length → s.stop = (Fragment.seen (before ++ [p])).length →
      s.start < s.stop → s.style = p.style → s.style ≠ "" → Covers s (before ++ p :: after)

theorem Span.covers_concat {s : Span} {ps : List Fragment} {p : Fragment} :
    s.Covers (ps ++ [p]) ↔ s.Covers ps ∨
      s.start = (Fragment.seen ps).length ∧ s.stop = (Fragment.seen (ps ++ [p])).length ∧
        s.start < s.stop ∧ s.style = p.style ∧ s.style ≠ "" := by
  constructor
  · intro covers
    generalize whole : ps ++ [p] = qs at covers
    cases covers with
    | fragment before q after start stop some style styled =>
      rcases List.eq_nil_or_concat after with rfl | ⟨after, last, rfl⟩
      · obtain ⟨rfl, ⟨⟩⟩ := List.append_inj' whole rfl
        exact Or.inr ⟨start, stop, some, style, styled⟩
      · rw [List.concat_eq_append, ← List.cons_append, ← List.append_assoc] at whole
        obtain ⟨rfl, -⟩ := List.append_inj' whole rfl
        exact Or.inl (.fragment before q after start stop some style styled)
  · rintro (covers | ⟨start, stop, some, style, styled⟩)
    · cases covers with
      | fragment before q after start stop some style styled =>
        rw [List.append_assoc, List.cons_append]
        exact .fragment before q (after ++ [p]) start stop some style styled
    · exact .fragment ps p [] start stop some style styled

namespace Styled

/-- A text without a style of its own that shows the fragments one after another, each of them in
its style. -/
structure Joins (t : Styled) (ps : List Fragment) : Prop where
  plain : t.plain = Fragment.seen ps
  style : t.style = ""
  spans : ∀ s, s ∈ t.spans ↔ s.Covers ps

theorem Joins.spans_of_plain {t : Styled} {ps : List Fragment} (joins : t.Joins ps)
    (plain : ∀ p ∈ ps, p.style = "") : t.spans = [] := by
  refine List.eq_nil_iff_forall_not_mem.2 fun s mem => ?_
  cases (joins.spans s).1 mem with
  | fragment before p after _ _ _ style styled => exact styled (style.trans (plain p (by simp)))

/-- A text that shows one fragment. An empty one may be left without a style. -/
structure IsFragment (t : Styled) (p : Fragment) : Prop where
  plain : t.plain = withoutControls p.text
  style : t.style = p.style ∨ t = .plainText ""
  spans : t.spans = []

theorem IsFragment.style_eq {t : Styled} {p : Fragment} (fragment : t.IsFragment p)
    (some : t.plain ≠ "") : t.style = p.style := by
  rcases fragment.style with same | rfl
  · exact same
  · exact absurd rfl some

theorem IsFragment.style_of_plain {t : Styled} {p : Fragment} (fragment : t.IsFragment p)
    (plain : p.style = "") : t.style = "" := by
  rcases fragment.style with same | rfl
  · exact same.trans plain
  · rfl

theorem joins_nil : Joins ⟨"", "", []⟩ [] where
  plain := rfl
  style := rfl
  spans s := by
    refine iff_of_false List.not_mem_nil fun covers => ?_
    generalize none : ([] : List Fragment) = ps at covers
    cases covers with
    | fragment before => simp at none

theorem Joins.append {t u : Styled} {ps : List Fragment} {p : Fragment} (joins : t.Joins ps)
    (fragment : u.IsFragment p) : (t.append u).Joins (ps ++ [p]) := by
  have seen : Fragment.seen (ps ++ [p]) = t.plain ++ u.plain := by
    rw [Fragment.seen_append, Fragment.seen_singleton, joins.plain, fragment.plain]
  -- Nothing is appended for a fragment of which nothing is seen, and no span can cover it.
  by_cases empty : u.plain = ""
  · have same : t.append u = t := by simp [Styled.append, isEmpty, empty]
    rw [same]
    refine ⟨by rw [seen, empty, String.append_empty], joins.style, fun s => ?_⟩
    rw [joins.spans, Span.covers_concat, or_iff_left]
    rintro ⟨start, stop, some, -⟩
    rw [seen, empty, String.append_empty, joins.plain] at stop
    omega
  · have more : 0 < u.plain.length := by
      rw [Nat.pos_iff_ne_zero, Ne, String.length_eq_zero_iff]
      exact empty
    have appended : t.append u =
        ⟨t.plain ++ u.plain, t.style, t.spans ++ u.ownSpan.map (shift t.plain.length)⟩ := by
      simp [Styled.append, isEmpty, empty, fragment.spans]
    rw [appended]
    refine ⟨seen.symm, joins.style, fun s => ?_⟩
    rw [List.mem_append, joins.spans, Span.covers_concat]
    refine or_congr_right ?_
    obtain ⟨start, stop, style⟩ := s
    rw [seen, ← joins.plain, String.length_append, ← fragment.style_eq empty]
    by_cases plain : u.style = ""
    · simp [ownSpan, plain]
    · simp only [ownSpan, String.isEmpty_iff, plain, if_false, List.map_cons, List.map_nil,
        List.mem_singleton, shift, Span.mk.injEq]
      grind

/-- Fragments put together show what they are put together from. -/
theorem assemble_joins {parts : List Styled} {ps : List Fragment}
    (fragments : List.Forall₂ IsFragment parts ps) : (assemble parts).Joins ps := by
  have onto (t : Styled) (before : List Fragment) (joins : t.Joins before) :
      (parts.foldl append t).Joins (before ++ ps) := by
    induction fragments generalizing t before with
    | nil => rwa [List.append_nil]
    | @cons part p parts ps fragment _ ih =>
      rw [List.foldl_cons, ← List.singleton_append, ← List.append_assoc]
      exact ih _ _ (joins.append fragment)
  exact onto _ [] joins_nil

end Styled

/-- What the host shows for a code, or for the lack of one. -/
def Host.label (host : Host) : Option FaultCode → Except Error String
  | none => .ok "?"
  | some c => host.codeText c

namespace Fault

/-- The options of a fault that are shown as text. -/
structure Texts where
  command : String
  title : String
  hint : Option String
  code : Option FaultCode

/-- The fault has these texts for its options. Its command may be left out, and its hint. -/
structure HasTexts (f : Fault) (t : Texts) : Prop where
  command : f.option? "command" = some (.str t.command) ∨
    f.option? "command" = none ∧ t.command = "command"
  title : f.title = .str t.title
  hint : f.option? "hint" = t.hint.map .str
  code : f.code = t.code.elim .null .code

/-- A message, or a title where it is missing or empty. -/
def said (message : Option String) (title : String) : String :=
  if message.getD "" = "" then title else message.getD ""

/-- What stands below the header of a fault. -/
def bodyTexts (message : Option String) (t : Texts) : List String :=
  said message t.title :: if t.hint.getD "" = "" then [] else [" → " ++ t.hint.getD ""]

/-- The style in which a part of a fault is shown. -/
def look (f : Fault) (host : Host) (name : String) : String :=
  if f.isColorful then (host.palette.get? name).getD "" else ""

def headerFragments (f : Fault) (host : Host) (t : Texts) (label : String) : List Fragment :=
  [⟨"[ ", ""⟩, ⟨t.command, f.look host "prog-name"⟩, ⟨" - ", ""⟩, ⟨label, f.look host "code"⟩,
    ⟨" | ", ""⟩, ⟨Text.title t.title, f.look host "error-title"⟩, ⟨" ]", ""⟩]

def hintFragments (f : Fault) (host : Host) (hint : String) : List Fragment :=
  [⟨" → ", f.look host "hint-arrow"⟩, ⟨hint, f.look host "hint"⟩]

variable {f : Fault} {host : Host} {t : Texts}

/-- A string becomes a fragment of its own in the style for the part. -/
theorem part_str (f : Fault) (host : Host) (s name : String) :
    ∃ part, f.part host (.str s) name = .ok part ∧ part.IsFragment ⟨s, f.look host name⟩ := by
  by_cases empty : s = ""
  · subst empty
    exact ⟨.plainText "", rfl, rfl, Or.inr rfl, rfl⟩
  · have isTrue : (Value.str s).isTrue = true := by simp [Value.isTrue, empty]
    refine ⟨.ofText s (f.look host name), ?_, rfl, Or.inl rfl, rfl⟩
    unfold part
    rw [isTrue]
    rfl

theorem headline_eq {title : String} (titled : f.title = .str title) :
    f.headline = .str (said f.message title) := by
  rw [headline, said, titled]
  cases f.message with
  | none => rfl
  | some m => by_cases empty : m = "" <;> simp [empty]

theorem HasTexts.codeText (texts : f.HasTexts t) :
    f.codeText host = (host.label t.code).map .str := by
  rw [Fault.codeText, texts.code]
  cases t.code with
  | none => rfl
  | some c =>
    change (do return .str (← host.codeText c)) = (host.codeText c).map Value.str
    cases host.codeText c <;> rfl

theorem HasTexts.titleText (texts : f.HasTexts t) (host : Host) :
    f.titleText host = .ok (.str (Text.title t.title)) := by
  rw [Fault.titleText, texts.title]

theorem HasTexts.command_eq (texts : f.HasTexts t) :
    f.optionOr "command" (.str "command") = .str t.command := by
  rcases texts.command with given | ⟨absent, same⟩
  · rw [optionOr, given, Option.getD_some]
  · rw [optionOr, absent, Option.getD_none, same]

theorem HasTexts.header_error (texts : f.HasTexts t) {e : Error}
    (unlabelled : host.label t.code = .error e) : f.header host = .error e := by
  obtain ⟨command, shown, -⟩ := part_str f host t.command "prog-name"
  rw [header, texts.command_eq, shown, texts.codeText, unlabelled]
  rfl

/-- The header shows its fragments. -/
theorem HasTexts.header_joins (texts : f.HasTexts t) {label : String}
    (labelled : host.label t.code = .ok label) :
    ∃ header, f.header host = .ok header ∧ header.Joins (f.headerFragments host t label) := by
  obtain ⟨command, shownCommand, commandFragment⟩ := part_str f host t.command "prog-name"
  obtain ⟨code, shownCode, codeFragment⟩ := part_str f host label "code"
  obtain ⟨title, shownTitle, titleFragment⟩ := part_str f host (Text.title t.title) "error-title"
  have between (s : String) : (Styled.plainText s).IsFragment ⟨s, ""⟩ := ⟨rfl, Or.inl rfl, rfl⟩
  refine ⟨_, ?_, Styled.assemble_joins (.cons (between _) (.cons commandFragment (.cons (between _)
    (.cons codeFragment (.cons (between _) (.cons titleFragment (.cons (between _) .nil)))))))⟩
  rw [header, texts.command_eq, shownCommand, texts.codeText, labelled, texts.titleText]
  simp only [bind, Except.bind, Except.map, shownCode, shownTitle]
  rfl

/-- The body is a line for what is said and a line for the hint, if there is one. -/
theorem HasTexts.body_eq (texts : f.HasTexts t) (host : Host) :
    ∃ message hints, f.body host = .ok (message :: hints) ∧
      message.IsFragment ⟨said f.message t.title, f.look host "error-message"⟩ ∧
      if t.hint.getD "" = "" then hints = []
      else ∃ line, hints = [line] ∧ line.Joins (f.hintFragments host (t.hint.getD "")) := by
  obtain ⟨message, shown, fragment⟩ := part_str f host (said f.message t.title) "error-message"
  have given : f.option "hint" = (t.hint.map Value.str).getD .null := by rw [option, texts.hint]
  by_cases empty : t.hint.getD "" = ""
  · have unhinted : (f.option "hint").isTrue = false := by
      rw [given]
      cases h : t.hint with
      | none => rfl
      | some hint => simpa [h, Value.isTrue] using empty
    refine ⟨message, [], ?_, fragment, by rw [if_pos empty]⟩
    rw [body, headline_eq texts.title, shown, unhinted]
    rfl
  · obtain ⟨hint, same⟩ : ∃ hint, t.hint = some hint :=
      Option.ne_none_iff_exists'.1 fun none => empty (by rw [none]; rfl)
    rw [same, Option.map_some, Option.getD_some] at given
    rw [same, Option.getD_some] at empty ⊢
    have hinted : (f.option "hint").isTrue = true := by simp [given, Value.isTrue, empty]
    obtain ⟨arrow, shownArrow, arrowFragment⟩ := part_str f host " → " "hint-arrow"
    obtain ⟨line, shownHint, hintFragment⟩ := part_str f host hint "hint"
    refine ⟨message, [.assemble [arrow, line]], ?_, fragment, ?_⟩
    · rw [body, headline_eq texts.title, shown, hinted, shownArrow, given]
      simp only [bind, Except.bind, shownHint]
      rfl
    · rw [if_neg empty]
      exact ⟨_, rfl, Styled.assemble_joins (.cons arrowFragment (.cons hintFragment .nil))⟩

theorem look_of_not_colorful (dull : f.isColorful = false) (name : String) :
    f.look host name = "" := by
  rw [look, dull]
  rfl

/-- The body shows what is said and the hint, and nothing of it is styled without colours. -/
theorem HasTexts.body_ok (texts : f.HasTexts t) (host : Host) :
    ∃ body, f.body host = .ok body ∧
      body.map Styled.plain = (bodyTexts f.message t).map withoutControls ∧
      (f.isColorful = false → ∀ line ∈ body, line.style = "" ∧ line.spans = []) ∧
      ∀ message line, body = [message, line] →
        line.Joins (f.hintFragments host (t.hint.getD "")) := by
  obtain ⟨message, hints, rendered, fragment, hinted⟩ := texts.body_eq host
  have dullMessage (dull : f.isColorful = false) : message.style = "" ∧ message.spans = [] :=
    ⟨fragment.style_of_plain (look_of_not_colorful dull _), fragment.spans⟩
  refine ⟨message :: hints, rendered, ?_⟩
  by_cases empty : t.hint.getD "" = ""
  · rw [if_pos empty] at hinted
    subst hinted
    refine ⟨by simp [bodyTexts, empty, fragment.plain], ?_, nofun⟩
    exact fun dull => List.forall_mem_singleton.2 (dullMessage dull)
  · rw [if_neg empty] at hinted
    obtain ⟨line, rfl, joins⟩ := hinted
    have plain : line.plain = withoutControls (" → " ++ t.hint.getD "") := by
      simp [joins.plain, Fragment.seen, hintFragments]
    have dullLine (dull : f.isColorful = false) : line.style = "" ∧ line.spans = [] :=
      ⟨joins.style, joins.spans_of_plain (by simp [hintFragments, look_of_not_colorful dull])⟩
    refine ⟨by simp [bodyTexts, empty, fragment.plain, plain], fun dull => ?_, ?_⟩
    · exact List.forall_mem_cons.2
        ⟨dullMessage dull, List.forall_mem_singleton.2 (dullLine dull)⟩
    · rintro _ _ ⟨⟩
      exact joins

/-- A fault that can be labelled is rendered as its header and its body. -/
theorem HasTexts.render_ok (texts : f.HasTexts t) {label : String}
    (labelled : host.label t.code = .ok label) :
    ∃ header body,
      f.render host = .ok (if f.isFancy then .panel body header "left"
        else .group (header :: body)) ∧
      header.Joins (f.headerFragments host t label) ∧
      body.map Styled.plain = (bodyTexts f.message t).map withoutControls ∧
      (f.isColorful = false → ∀ line ∈ header :: body, line.style = "" ∧ line.spans = []) ∧
      ∀ message line, body = [message, line] →
        line.Joins (f.hintFragments host (t.hint.getD "")) := by
  obtain ⟨header, rendered, joins⟩ := texts.header_joins labelled
  obtain ⟨body, renderedBody, plain, dullBody, hinted⟩ := texts.body_ok host
  have all : f.render host = .ok (if f.isFancy then .panel body header "left"
      else .group (header :: body)) := by
    rw [render, rendered]
    simp only [bind, Except.bind, renderedBody]
    rfl
  refine ⟨header, body, all, joins, plain, fun dull => ?_, hinted⟩
  have dullHeader : header.spans = [] :=
    joins.spans_of_plain (by simp [headerFragments, look_of_not_colorful dull])
  exact List.forall_mem_cons.2 ⟨⟨joins.style, dullHeader⟩, dullBody dull⟩

theorem HasTexts.render_error (texts : f.HasTexts t) {e : Error}
    (unlabelled : host.label t.code = .error e) : f.render host = .error e := by
  rw [render, texts.header_error unlabelled]
  rfl

/-- The faults have the same message, and the same options apart from the switches. -/
structure DiffersInLook (f g : Fault) : Prop where
  message : g.message = f.message
  options : ∀ name, name ≠ "colorful" → name ≠ "fancy" → g.option? name = f.option? name

theorem HasTexts.of_differsInLook {g : Fault} (texts : f.HasTexts t) (alike : f.DiffersInLook g) :
    g.HasTexts t where
  command := by
    rw [alike.options "command" (by decide) (by decide)]
    exact texts.command
  title := by
    rw [Fault.title, option, alike.options "title" (by decide) (by decide)]
    exact texts.title
  hint := by
    rw [alike.options "hint" (by decide) (by decide)]
    exact texts.hint
  code := by
    rw [Fault.code, option, alike.options "code" (by decide) (by decide)]
    exact texts.code

theorem label_congr {host host' : Host} (codes : host'.codes = host.codes)
    (code : Option FaultCode) : host'.label code = host.label code := by
  cases code with
  | none => rfl
  | some c => rw [Host.label, Host.label, Host.codeText, Host.codeText, codes]

/-- **Switches change only the look.** A fault with texts for its options is rendered unless the
host fails to show its code. The header shows the command, the code and the title, and the body what
is said and the hint, if there is one, all without the controls. Without colours nothing has a style
or a span; with them every span of the header and of the line with the hint covers exactly what is
seen of one fragment. Whatever the switches and the styles of the host are, the same texts are
shown, with the header on a frame or above the body. -/
theorem switches_change_only_the_look (f : Fault) (host : Host) (t : Texts)
    (texts : f.HasTexts t) :
    (∀ e, host.label t.code = .error e → f.render host = .error e) ∧
    ∀ label, host.label t.code = .ok label → ∃ header body,
      f.render host = .ok (if f.isFancy then .panel body header "left"
        else .group (header :: body)) ∧
      header.plain = withoutControls
        ("[ " ++ t.command ++ " - " ++ label ++ " | " ++ Text.title t.title ++ " ]") ∧
      body.map Styled.plain = (bodyTexts f.message t).map withoutControls ∧
      (f.isColorful = false → ∀ line ∈ header :: body, line.style = "" ∧ line.spans = []) ∧
      (∀ s, s ∈ header.spans ↔ s.Covers (f.headerFragments host t label)) ∧
      (∀ message line, body = [message, line] →
        ∀ s, s ∈ line.spans ↔ s.Covers (f.hintFragments host (t.hint.getD ""))) ∧
      ∀ (g : Fault) (host' : Host), f.DiffersInLook g → host'.codes = host.codes →
        ∃ header' body',
          g.render host' = .ok (if g.isFancy then .panel body' header' "left"
            else .group (header' :: body')) ∧
          header'.plain = header.plain ∧ body'.map Styled.plain = body.map Styled.plain := by
  have header_plain {f : Fault} {host : Host} {label : String} {header : Styled}
      (joins : header.Joins (f.headerFragments host t label)) : header.plain = withoutControls
        ("[ " ++ t.command ++ " - " ++ label ++ " | " ++ Text.title t.title ++ " ]") := by
    rw [joins.plain]
    simp [Fragment.seen, headerFragments, String.append_assoc]
  refine ⟨fun e => texts.render_error, fun label labelled => ?_⟩
  obtain ⟨header, body, rendered, joins, plain, dull, hinted⟩ := texts.render_ok labelled
  refine ⟨header, body, rendered, header_plain joins, plain, dull, joins.spans,
    fun message line two => (hinted message line two).spans, fun g host' alike codes => ?_⟩
  obtain ⟨header', body', rendered', joins', plain', -, -⟩ :=
    (texts.of_differsInLook alike).render_ok ((label_congr codes t.code).trans labelled)
  refine ⟨header', body', rendered', ?_, ?_⟩
  · rw [header_plain joins', header_plain joins]
  · rw [plain', plain, alike.message]

/-- A teleport that stops halfway, with a bell in its name. -/
def halfway (switches : Bindings Value) : Fault :=
  make .incompleteCommand none
    ([("command", .str "t\x07p"), ("hint", .str "usage: tp here")] ++ switches)

/-- The bell is not seen, and the span of the name is as much shorter. Neither a frame nor the lack
of colours changes what is said. -/
theorem halfway_is_rendered :
    let t : Texts :=
      ⟨"t\x07p", "incomplete command", some "usage: tp here", some .incompleteCommand⟩
    (halfway []).HasTexts t ∧ ∃ header body,
      (halfway []).render .plain = .ok (.group (header :: body)) ∧
      header.plain = "[ tp - 20103 | Incomplete Command ]" ∧
      body.map Styled.plain = ["incomplete command", " → usage: tp here"] ∧
      ⟨2, 4, "bold #E6E6F0"⟩ ∈ header.spans ∧ ∃ header' body',
        (halfway [("fancy", .bool true), ("colorful", .bool false)]).render .plain =
          .ok (.panel body' header' "left") ∧
        header'.plain = header.plain ∧ body'.map Styled.plain = body.map Styled.plain := by
  intro t
  have texts : (halfway []).HasTexts t := ⟨Or.inl rfl, rfl, rfl, rfl⟩
  have labelled : Host.plain.label t.code = .ok "20103" := rfl
  have alike : (halfway []).DiffersInLook
      (halfway [("fancy", .bool true), ("colorful", .bool false)]) := by
    refine ⟨rfl, fun name colorful fancy => ?_⟩
    simp [halfway, make, defaults, option?, Bindings.overlay, Bindings.set, Bindings.get?_cons,
      colorful.symm, fancy.symm]
  obtain ⟨-, rendered⟩ := switches_change_only_the_look _ Host.plain t texts
  obtain ⟨header, body, shown, plain, lines, -, spans, -, others⟩ := rendered "20103" labelled
  obtain ⟨header', body', shown', same, same'⟩ := others _ Host.plain alike rfl
  refine ⟨texts, header, body, shown, plain.trans (by decide +kernel),
    lines.trans (by decide +kernel), ?_, header', body', shown', same, same'⟩
  refine (spans _).2 (.fragment [⟨"[ ", ""⟩] ⟨"t\x07p", "bold #E6E6F0"⟩ _ ?_ ?_ ?_ ?_ ?_)
  all_goals decide +kernel

end Fault

end CommandTree
