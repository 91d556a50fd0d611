import CommandTree.Registry
import Mathlib.Data.List.Nodup

/-!
# Registrations

What a registry holds after any calls, successful or not, said from the calls alone: the labels of
those registrations whose command was not unregistered since and after which the registry was not
closed. The table keeps them group by group, in the order of registration.
-/

namespace CommandTree.Registry

/-- The labels that one registration takes for a command. -/
structure Group where
  command : Command
  aliases : List String

def Group.labels (g : Group) : List String := g.command.name :: g.aliases

def Group.entries (g : Group) : List Entry :=
  g.labels.map fun label => ⟨Text.fold label, label, g.command⟩

def keysOf (table : List Entry) : List String := table.map Entry.key

/-- The commands that there are; a number stands for the same command each time. -/
structure Commands where
  numbered : Nat → Command
  serial_numbered : ∀ n, (numbered n).serial = n

theorem Commands.known_of_eq (commands : Commands) {n : Nat} {command : Command}
    (h : commands.numbered n = command) : command = commands.numbered command.serial := by
  rw [← h, commands.serial_numbered]

/-- A call that may change a registry. A registration is of a command, or of what is none. -/
inductive Call where
  | opening
  | closing
  | registering (command : Option Nat) (aliases : List Value)
  | unregistering (name : Value)

/-- What a call did, going by its reply. -/
inductive Deed where
  | nothing
  | dropped
  | registered (g : Group)
  | unregistered (command : Command)

def perform (commands : Commands) (r : Registry) : Call → Registry × Deed
  | .opening =>
    match r.opened with
    | .ok r => (r, .nothing)
    | .error _ => (r, .nothing)
  | .closing => (r.close, .dropped)
  | .registering command aliases =>
    let change := r.register (command.map commands.numbered) aliases
    match change.2.result, aliases.mapM alias? with
    | .ok command, some words => (change.1, .registered ⟨command, words⟩)
    | _, _ => (change.1, .nothing)
  | .unregistering name =>
    let change := r.unregister name
    match change.2.result with
    | .ok command => (change.1, .unregistered command)
    | .error _ => (change.1, .nothing)

def performAll (commands : Commands) (r : Registry) : List Call → Registry × List Deed
  | [] => (r, [])
  | call :: more =>
    let first := perform commands r call
    let later := performAll commands first.1 more
    (later.1, first.2 :: later.2)

def Deed.removes (command : Command) : Deed → Bool
  | unregistered other => other.serial == command.serial
  | dropped => true
  | _ => false

/-- The registrations that no later deed has undone. -/
def live : List Deed → List Group
  | [] => []
  | .registered g :: later =>
    if later.any (Deed.removes g.command) then live later else g :: live later
  | _ :: later => live later

/-- What one more deed makes of the registrations that are live. -/
def Deed.update (groups : List Group) : Deed → List Group
  | nothing => groups
  | dropped => []
  | registered g => groups ++ [g]
  | unregistered command => groups.filter fun g => g.command.serial != command.serial

theorem Deed.update_cons (deed : Deed) (g : Group) (groups : List Group) :
    deed.update (g :: groups) =
      if deed.removes g.command then deed.update groups else g :: deed.update groups := by
  cases deed with
  | unregistered command =>
    simp only [update, removes, List.filter_cons, bne_iff_ne, beq_iff_eq, ne_eq, ite_not]
    simp only [eq_comm]
  | _ => rfl

theorem live_concat (past : List Deed) (deed : Deed) :
    live (past ++ [deed]) = deed.update (live past) := by
  induction past with
  | nil => cases deed <;> rfl
  | cons d past ih =>
    cases d with
    | registered g =>
      simp only [List.cons_append, live, List.any_append, List.any_cons, List.any_nil,
        Bool.or_false, ih]
      by_cases undone : past.any (Deed.removes g.command) = true
      · simp only [undone, Bool.true_or, if_true]
      · simp only [undone, Bool.false_or, if_false, Deed.update_cons, Bool.false_eq_true]
    | _ => exact ih

/-! ## Labels -/

theorem addLabels_cons (command : Command) (table : List Entry) (label : String)
    (more : List String) :
    addLabels command table (label :: more) =
      if Text.fold label ∈ keysOf table then .error (.labelTaken label)
      else addLabels command (table ++ [⟨Text.fold label, label, command⟩]) more := by
  simp [addLabels, keysOf]

/-- Labels are added if they are free and differ, and then all of them in their order. -/
theorem addLabels_ok_iff {command : Command} {table table' : List Entry} {labels : List String} :
    addLabels command table labels = .ok table' ↔
      (∀ label ∈ labels, Text.fold label ∉ keysOf table) ∧ (labels.map Text.fold).Nodup ∧
        table' = table ++ labels.map fun label => ⟨Text.fold label, label, command⟩ := by
  induction labels generalizing table with
  | nil => simp [addLabels, eq_comm]
  | cons label more ih =>
    rw [addLabels_cons]
    split
    case isTrue taken =>
      simp [taken]
    case isFalse free =>
      rw [ih]
      simp only [keysOf, List.map_append, List.mem_append, List.map_cons, List.map_nil,
        List.mem_singleton, List.forall_mem_cons, List.nodup_cons, List.append_assoc,
        List.singleton_append, List.mem_map, not_or] at free ⊢
      constructor
      · rintro ⟨fresh, apart, rfl⟩
        refine ⟨⟨free, fun l hl => (fresh l hl).1⟩, ⟨?_, apart⟩, rfl⟩
        rintro ⟨l, hl, same⟩
        exact (fresh l hl).2 same
      · rintro ⟨⟨-, fresh⟩, ⟨new, apart⟩, rfl⟩
        refine ⟨fun l hl => ⟨fresh l hl, ?_⟩, apart, rfl⟩
        intro same
        exact new ⟨l, hl, same⟩

/-- What a registration takes to succeed. -/
structure Accepts (r : Registry) (command : Option Command) (aliases : List Value) (g : Group) :
    Prop where
  command : command = some g.command
  aliases : aliases.mapM alias? = some g.aliases
  opened : r.state = .opened
  free : ∀ label ∈ g.labels, Text.fold label ∉ keysOf r.table
  apart : (g.labels.map Text.fold).Nodup

theorem Accepts.unique {r : Registry} {command : Option Command} {aliases : List Value}
    {g g' : Group} (h : r.Accepts command aliases g) (h' : r.Accepts command aliases g') :
    g = g' := by
  obtain ⟨c, words⟩ := g
  obtain ⟨c', words'⟩ := g'
  cases h.command.symm.trans h'.command
  cases h.aliases.symm.trans h'.aliases
  rfl

/-- The registry with one more group. -/
def adding (r : Registry) (g : Group) : Registry := { r with table := r.table ++ g.entries }

/-- The registry without the labels of a command. -/
def removing (r : Registry) (command : Command) : Registry :=
  { r with table := r.table.filter fun e => e.command.serial != command.serial }

theorem ensureOpen_eq_ok_iff {r : Registry} : r.ensureOpen = .ok () ↔ r.state = .opened := by
  unfold ensureOpen
  cases r.state <;> simp

/-- What a registration can do. One that fails changes nothing. -/
theorem register_cases (r : Registry) (command : Option Command) (aliases : List Value) :
    (∃ g, r.Accepts command aliases g ∧ r.register command aliases =
        (r.adding g, ⟨[.log (.registered g.command.name g.labels)], .ok g.command⟩)) ∨
      ((∀ g, ¬ r.Accepts command aliases g) ∧
        ∃ e, r.register command aliases = (r, .fail e)) := by
  unfold register
  cases command with
  | none =>
    refine Or.inr ⟨?_, _, rfl⟩
    intro g h
    cases h.command
  | some command =>
    cases hw : aliases.mapM alias? with
    | none =>
      refine Or.inr ⟨?_, _, rfl⟩
      intro g h
      cases hw.symm.trans h.aliases
    | some words =>
      simp only
      cases ho : r.ensureOpen with
      | error e =>
        refine Or.inr ⟨?_, e, rfl⟩
        intro g h
        rw [ensureOpen_eq_ok_iff.2 h.opened] at ho
        cases ho
      | ok =>
        simp only [Except.bind]
        cases hl : addLabels command r.table (command.name :: words) with
        | error e =>
          refine Or.inr ⟨?_, e, rfl⟩
          rintro g ⟨hc, ha, -, free, apart⟩
          cases hc
          cases hw.symm.trans ha
          cases hl.symm.trans (addLabels_ok_iff.2 ⟨free, apart, rfl⟩)
        | ok table =>
          obtain ⟨free, apart, rfl⟩ := addLabels_ok_iff.1 hl
          exact Or.inl ⟨⟨command, words⟩, ⟨rfl, hw, ensureOpen_eq_ok_iff.1 ho, free, apart⟩, rfl⟩

theorem lookup_str (r : Registry) (s : String) :
    r.lookup (.str s) = r.ensureOpen.map fun _ => r.find? s := by
  unfold lookup
  cases r.ensureOpen <;> rfl

theorem lookup_some {r : Registry} {name : Value} {e : Entry}
    (h : r.lookup name = .ok (some e)) :
    ∃ s, name = .str s ∧ r.state = .opened ∧ r.find? s = some e := by
  unfold lookup at h
  cases ho : r.ensureOpen with
  | error _ =>
    rw [ho] at h
    cases h
  | ok =>
    rw [ho] at h
    cases name with
    | str s => exact ⟨s, rfl, ensureOpen_eq_ok_iff.1 ho, Except.ok.inj h⟩
    | _ => cases h

/-- What a removal can do. -/
theorem unregister_cases (r : Registry) (name : Value) :
    (∃ s e, name = .str s ∧ r.state = .opened ∧ r.find? s = some e ∧ r.unregister name =
        (r.removing e.command, ⟨[.log (.unregistered e.command.name)], .ok e.command⟩)) ∨
      ∃ error, r.unregister name = (r, .fail error) := by
  unfold unregister
  cases hf : r.lookup name with
  | error e => exact Or.inr ⟨e, rfl⟩
  | ok found =>
    cases found with
    | none => exact Or.inr ⟨_, rfl⟩
    | some e =>
      obtain ⟨s, hs, ho, he⟩ := lookup_some hf
      exact Or.inl ⟨s, e, hs, ho, he, rfl⟩

theorem unregister_found {r : Registry} {s : String} {e : Entry} (opened : r.state = .opened)
    (found : r.find? s = some e) :
    r.unregister (.str s) =
      (r.removing e.command, ⟨[.log (.unregistered e.command.name)], .ok e.command⟩) := by
  unfold unregister
  rw [lookup_str, ensureOpen_eq_ok_iff.2 opened, found]
  rfl

/-! ## What the table keeps -/

theorem find?_eq_some {r : Registry} {s : String} {e : Entry} (h : r.find? s = some e) :
    e ∈ r.table ∧ e.key = Text.fold s :=
  ⟨List.mem_of_find?_eq_some h, by simpa using List.find?_some h⟩

/-- The table is that of these registrations, in their order; no two labels are the same, and no
command is registered twice. -/
structure Keeps (commands : Commands) (r : Registry) (groups : List Group) : Prop where
  table : r.table = groups.flatMap Group.entries
  labels : (keysOf r.table).Nodup
  single : (groups.map fun g => g.command.serial).Nodup
  known : ∀ g ∈ groups, g.command = commands.numbered g.command.serial

theorem keysOf_entries (g : Group) : keysOf g.entries = g.labels.map Text.fold := by
  simp [keysOf, Group.entries]

theorem labelsOf_entries (g : Group) : labelsOf g.entries = g.labels := by
  simp [labelsOf, Group.entries, Function.comp_def]

theorem keysOf_flatMap (groups : List Group) :
    keysOf (groups.flatMap Group.entries) = (groups.flatMap Group.labels).map Text.fold := by
  simp only [keysOf, List.map_flatMap]
  exact congrArg (groups.flatMap ·) (funext keysOf_entries)

theorem labelsOf_flatMap (groups : List Group) :
    labelsOf (groups.flatMap Group.entries) = groups.flatMap Group.labels := by
  simp only [labelsOf, List.map_flatMap]
  exact congrArg (groups.flatMap ·) (funext labelsOf_entries)

theorem mem_keysOf_flatMap {groups : List Group} {key : String} :
    key ∈ keysOf (groups.flatMap Group.entries) ↔
      ∃ g ∈ groups, ∃ label ∈ g.labels, Text.fold label = key := by
  simp only [keysOf_flatMap, List.mem_map, List.mem_flatMap]
  constructor
  · rintro ⟨label, ⟨g, hg, hl⟩, same⟩
    exact ⟨g, hg, label, hl, same⟩
  · rintro ⟨g, hg, label, hl, same⟩
    exact ⟨label, ⟨g, hg, hl⟩, same⟩

theorem command_of_mem_entries {g : Group} {e : Entry} (h : e ∈ g.entries) :
    e.command = g.command := by
  obtain ⟨label, -, rfl⟩ := List.mem_map.1 h
  rfl

/-- Removing a command removes whole groups. -/
theorem filter_flatMap_entries (groups : List Group) (n : Nat) :
    (groups.flatMap Group.entries).filter (fun e => e.command.serial != n) =
      (groups.filter fun g => g.command.serial != n).flatMap Group.entries := by
  induction groups with
  | nil => rfl
  | cons g more ih =>
    rw [List.flatMap_cons, List.filter_append, ih, List.filter_cons]
    by_cases hn : (g.command.serial != n) = true
    · have kept : g.entries.filter (fun e => e.command.serial != n) = g.entries := by
        rw [List.filter_eq_self]
        intro e he
        rwa [command_of_mem_entries he]
      rw [if_pos hn, kept, List.flatMap_cons]
    · have dropped : g.entries.filter (fun e => e.command.serial != n) = [] := by
        rw [List.filter_eq_nil_iff]
        intro e he
        rwa [command_of_mem_entries he]
      rw [if_neg hn, dropped, List.nil_append]

section

variable {commands : Commands} {r : Registry} {groups : List Group}

theorem keeps_fresh (commands : Commands) : Keeps commands fresh [] :=
  ⟨rfl, List.nodup_nil, List.nodup_nil, fun _ h => absurd h List.not_mem_nil⟩

theorem Keeps.removing (h : Keeps commands r groups) (command : Command) :
    Keeps commands (r.removing command) ((Deed.unregistered command).update groups) := by
  refine ⟨?_, ?_, ?_, ?_⟩
  · simp only [Registry.removing, h.table]
    exact filter_flatMap_entries groups command.serial
  · exact h.labels.sublist (List.filter_sublist.map _)
  · exact h.single.sublist (List.filter_sublist.map _)
  · intro g hg
    exact h.known g (List.mem_of_mem_filter hg)

/-- A command that is registered has its name taken, so it cannot be registered again. -/
theorem Keeps.serial_ne (h : Keeps commands r groups) {number : Nat} {aliases : List Value}
    {g : Group} (accepts : r.Accepts (some (commands.numbered number)) aliases g) :
    ∀ g' ∈ groups, g'.command.serial ≠ g.command.serial := by
  intro g' hg' same
  have known := commands.known_of_eq (Option.some.inj accepts.command)
  have again : g'.command = g.command := by rw [h.known g' hg', known, same]
  apply accepts.free g.command.name List.mem_cons_self
  rw [h.table, mem_keysOf_flatMap, ← again]
  exact ⟨g', hg', _, List.mem_cons_self, rfl⟩

theorem Keeps.adding (h : Keeps commands r groups) {number : Nat} {aliases : List Value} {g : Group}
    (accepts : r.Accepts (some (commands.numbered number)) aliases g) :
    Keeps commands (r.adding g) (groups ++ [g]) := by
  refine ⟨?_, ?_, ?_, ?_⟩
  · simp only [Registry.adding, h.table, List.flatMap_append, List.flatMap_cons, List.flatMap_nil,
      List.append_nil]
  · have keys : keysOf (r.adding g).table = keysOf r.table ++ g.labels.map Text.fold := by
      rw [← keysOf_entries]
      exact List.map_append
    rw [keys, List.nodup_append]
    refine ⟨h.labels, accepts.apart, ?_⟩
    intro key hkey key' hkey' same
    obtain ⟨label, hl, rfl⟩ := List.mem_map.1 hkey'
    exact accepts.free label hl (same ▸ hkey)
  · rw [List.map_append, List.map_singleton, List.nodup_append]
    refine ⟨h.single, List.nodup_singleton _, ?_⟩
    intro n hn n' hn' same
    obtain ⟨g', hg', rfl⟩ := List.mem_map.1 hn
    rw [List.mem_singleton.1 hn'] at same
    exact h.serial_ne accepts g' hg' same
  · intro g' hg'
    rcases List.mem_append.1 hg' with hg' | hg'
    · exact h.known g' hg'
    · rw [List.mem_singleton.1 hg']
      exact commands.known_of_eq (Option.some.inj accepts.command)

theorem perform_keeps (h : Keeps commands r groups) (call : Call) :
    Keeps commands (perform commands r call).1 ((perform commands r call).2.update groups) := by
  cases call with
  | opening =>
    simp only [perform, opened]
    cases r.state <;> exact ⟨h.table, h.labels, h.single, h.known⟩
  | closing => exact ⟨rfl, List.nodup_nil, List.nodup_nil, fun _ h => absurd h List.not_mem_nil⟩
  | registering command aliases =>
    simp only [perform]
    obtain ⟨g, accepts, hr⟩ | ⟨-, e, hr⟩ :=
      r.register_cases (command.map commands.numbered) aliases
    · rw [hr, accepts.aliases]
      cases command with
      | none => cases accepts.command
      | some number => exact h.adding accepts
    · rw [hr]
      exact h
  | unregistering name =>
    simp only [perform]
    obtain ⟨s, e, -, -, -, hr⟩ | ⟨error, hr⟩ := r.unregister_cases name
    · rw [hr]
      exact h.removing e.command
    · rw [hr]
      exact h

/-- Whatever calls are made, the registry keeps the registrations that are live. -/
theorem performAll_keeps (past : List Deed) (h : Keeps commands r (live past))
    (calls : List Call) : Keeps commands (performAll commands r calls).1
      (live (past ++ (performAll commands r calls).2)) := by
  induction calls generalizing r past with
  | nil =>
    rw [performAll, List.append_nil]
    exact h
  | cons call more ih =>
    have step := perform_keeps h call
    rw [← live_concat] at step
    have later := ih _ step
    rw [List.append_assoc] at later
    exact later

/-! ## What the table tells -/

/-- A text leads to the one label that is the same up to case. -/
theorem Keeps.find?_iff (h : Keeps commands r groups) {s : String} {e : Entry} :
    r.find? s = some e ↔ e ∈ r.table ∧ e.key = Text.fold s := by
  constructor
  · exact find?_eq_some
  · rintro ⟨mem, key⟩
    cases hf : r.find? s with
    | none =>
      have absent := List.find?_eq_none.1 hf e mem
      simp [key] at absent
    | some e' =>
      obtain ⟨mem', key'⟩ := find?_eq_some hf
      rw [List.inj_on_of_nodup_map h.labels mem' mem (key'.trans key.symm)]

theorem Keeps.find?_command (h : Keeps commands r groups) {s : String} {command : Command} :
    (r.find? s).map Entry.command = some command ↔
      ∃ g ∈ groups, g.command = command ∧ ∃ label ∈ g.labels, Text.fold label = Text.fold s := by
  rw [Option.map_eq_some_iff]
  constructor
  · rintro ⟨e, he, rfl⟩
    obtain ⟨mem, key⟩ := find?_eq_some he
    rw [h.table, List.mem_flatMap] at mem
    obtain ⟨g, hg, mem⟩ := mem
    obtain ⟨label, hl, rfl⟩ := List.mem_map.1 mem
    exact ⟨g, hg, rfl, label, hl, key⟩
  · rintro ⟨g, hg, rfl, label, hl, key⟩
    refine ⟨⟨Text.fold label, label, g.command⟩, h.find?_iff.2 ⟨?_, key⟩, rfl⟩
    rw [h.table]
    exact List.mem_flatMap.2 ⟨g, hg, List.mem_map_of_mem hl⟩

theorem Keeps.find?_none (h : Keeps commands r groups) {s : String} :
    r.find? s = none ↔ ∀ g ∈ groups, ∀ label ∈ g.labels, Text.fold label ≠ Text.fold s := by
  have absent : r.find? s = none ↔ Text.fold s ∉ keysOf r.table := by
    simp [find?, keysOf]
  rw [absent, h.table, mem_keysOf_flatMap]
  simp only [not_exists, not_and, ne_eq]

/-- What going through the table makes of the commands seen so far. -/
def remember (seen : List Command) (e : Entry) : List Command :=
  if seen.any fun c => c.serial == e.command.serial then seen else seen ++ [e.command]

theorem foldl_remember_entries (g : Group) (seen : List Command)
    (fresh : g.command.serial ∉ seen.map Command.serial) :
    g.entries.foldl remember seen = seen ++ [g.command] := by
  have first : remember seen ⟨Text.fold g.command.name, g.command.name, g.command⟩ =
      seen ++ [g.command] := by
    apply if_neg
    simpa using fresh
  have others : ∀ entries : List Entry, (∀ e ∈ entries, e.command = g.command) →
      entries.foldl remember (seen ++ [g.command]) = seen ++ [g.command] := by
    intro entries
    induction entries with
    | nil => exact fun _ => rfl
    | cons e more ih =>
      intro same
      rw [List.forall_mem_cons] at same
      have known : remember (seen ++ [g.command]) e = seen ++ [g.command] := by
        apply if_pos
        simp [same.1]
      rw [List.foldl_cons, known]
      exact ih same.2
  rw [Group.entries, Group.labels, List.map_cons, List.foldl_cons, first]
  apply others
  intro e he
  obtain ⟨label, -, rfl⟩ := List.mem_map.1 he
  rfl

theorem foldl_remember_groups (groups : List Group) (seen : List Command)
    (h : (seen.map Command.serial ++ groups.map fun g => g.command.serial).Nodup) :
    (groups.flatMap Group.entries).foldl remember seen = seen ++ groups.map Group.command := by
  induction groups generalizing seen with
  | nil => simp
  | cons g more ih =>
    rw [List.map_cons] at h
    have fresh : g.command.serial ∉ seen.map Command.serial := by
      intro mem
      exact (List.nodup_append.1 h).2.2 _ mem _ List.mem_cons_self rfl
    rw [List.flatMap_cons, List.foldl_append, foldl_remember_entries g seen fresh, ih]
    · simp
    · simpa using h

theorem Keeps.commands_eq (h : Keeps commands r groups) :
    commandsOf r.table = groups.map Group.command := by
  rw [h.table]
  exact foldl_remember_groups groups [] h.single

/-- A registration that is taken back leaves no trace. -/
theorem Keeps.unregister_adding (h : Keeps commands r groups) {number : Nat}
    {aliases : List Value} {g : Group} {label spelling : String}
    (accepts : r.Accepts (some (commands.numbered number)) aliases g) (hl : label ∈ g.labels)
    (same : Text.fold spelling = Text.fold label) :
    (r.adding g).unregister (.str spelling) =
      (r, ⟨[.log (.unregistered g.command.name)], .ok g.command⟩) := by
  have kept := h.adding accepts
  have opened : (r.adding g).state = .opened := accepts.opened
  have found : ((r.adding g).find? spelling).map Entry.command = some g.command :=
    kept.find?_command.2 ⟨g, List.mem_append_right _ List.mem_cons_self, rfl, label, hl, same.symm⟩
  obtain ⟨e, he, hc⟩ := Option.map_eq_some_iff.1 found
  have others : (groups.filter fun g' => g'.command.serial != g.command.serial) = groups := by
    rw [List.filter_eq_self]
    intro g' hg'
    exact bne_iff_ne.2 (h.serial_ne accepts g' hg')
  have back : ((r.adding g).removing g.command).table = r.table := by
    rw [(kept.removing g.command).table, Deed.update, List.filter_append, others, h.table]
    simp
  rw [unregister_found opened he, hc]
  exact congrArg (fun table => (Registry.mk r.state table, _)) back

theorem Keeps.labels_of_opened (h : Keeps commands r groups) (opened : r.state = .opened) :
    r.labels = .ok (groups.flatMap Group.labels) := by
  rw [Registry.labels, ensureOpen_eq_ok_iff.2 opened, h.table, labelsOf_flatMap]
  rfl

theorem Keeps.commands_of_opened (h : Keeps commands r groups) (opened : r.state = .opened) :
    r.commands = .ok (groups.map Group.command) := by
  rw [Registry.commands, ensureOpen_eq_ok_iff.2 opened, h.commands_eq]
  rfl

theorem Keeps.size_of_opened (h : Keeps commands r groups) (opened : r.state = .opened) :
    r.size = .ok groups.length := by
  rw [size, h.commands_of_opened opened]
  exact congrArg Except.ok (List.length_map _)

theorem get_of_opened (opened : r.state = .opened) (s : String) :
    r.get (.str s) = .ok ((r.find? s).map Entry.command) := by
  rw [get, lookup_str, ensureOpen_eq_ok_iff.2 opened]
  rfl

theorem dispatch_of_get {label : String} {command : Command}
    (h : r.get (.str label) = .ok (some command)) (args : Value) (sender : Option Sender) :
    r.dispatch (.str label) args sender = command.onCommand sender (.str label) args := by
  rw [dispatch, h]
  rfl

/-- A line without a word does nothing, whether the registry is open or not. -/
theorem execute_of_no_tokens {line : String} (h : Text.tokens line = [])
    (sender : Option Sender) : r.execute (.str line) sender = pure false := by
  simp only [execute, lineTokens, h]
  rfl

end

/-- **A registry holds the registrations that are live.** Whatever calls were made, its table is
that of their labels in the order of registration; no two labels are the same up to case, and no
command is there twice. Open, it lists these labels and commands, has as many as there are of these,
and finds a command by any spelling of its labels. A registration that fails changes nothing; one
that succeeds is undone by unregistering it under any spelling. -/
theorem registry_holds_live_registrations (commands : Commands) (calls : List Call) :
    let r := (performAll commands fresh calls).1
    let groups := live (performAll commands fresh calls).2
    r.table = groups.flatMap Group.entries ∧
    ((groups.flatMap Group.labels).map Text.fold).Nodup ∧
    (groups.map fun g => g.command.serial).Nodup ∧
    (r.state = .opened →
      r.labels = .ok (groups.flatMap Group.labels) ∧
      r.commands = .ok (groups.map Group.command) ∧
      r.size = .ok groups.length ∧
      (∀ s command, r.get (.str s) = .ok (some command) ↔
        ∃ g ∈ groups, g.command = command ∧ ∃ label ∈ g.labels, Text.fold label = Text.fold s) ∧
      ∀ s, r.get (.str s) = .ok none ↔
        ∀ g ∈ groups, ∀ label ∈ g.labels, Text.fold label ≠ Text.fold s) ∧
    (∀ command aliases,
      (∃ g, r.Accepts command aliases g ∧ r.register command aliases =
        (r.adding g, ⟨[.log (.registered g.command.name g.labels)], .ok g.command⟩)) ∨
      ((∀ g, ¬ r.Accepts command aliases g) ∧
        ∃ e, r.register command aliases = (r, .fail e))) ∧
    (∀ number aliases g, r.Accepts (some (commands.numbered number)) aliases g →
      ∀ label ∈ g.labels, ∀ spelling, Text.fold spelling = Text.fold label →
        (r.register (some (commands.numbered number)) aliases).1.unregister (.str spelling) =
          (r, ⟨[.log (.unregistered g.command.name)], .ok g.command⟩)) := by
  intro r groups
  have kept : Keeps commands r groups := performAll_keeps [] (keeps_fresh commands) calls
  refine ⟨kept.table, ?_, kept.single, ?_, r.register_cases, ?_⟩
  · rw [← keysOf_flatMap, ← kept.table]
    exact kept.labels
  · intro opened
    refine ⟨kept.labels_of_opened opened, kept.commands_of_opened opened,
      kept.size_of_opened opened, ?_, ?_⟩
    · intro s command
      rw [get_of_opened opened, Except.ok.injEq]
      exact kept.find?_command
    · intro s
      rw [get_of_opened opened, Except.ok.injEq, Option.map_eq_none_iff]
      exact kept.find?_none
  · intro number aliases g accepts label hl spelling same
    obtain ⟨g', accepts', hr⟩ | ⟨refused, -⟩ :=
      r.register_cases (some (commands.numbered number)) aliases
    · rw [hr, accepts'.unique accepts]
      exact kept.unregister_adding accepts hl same
    · exact absurd accepts (refused g)

/-- A command of one name, and any number of another. -/
def shelf : Commands :=
  ⟨fun n => ⟨n, if n = 0 then "tp" else "home", .mk 0 "root" .word [] none [], none⟩,
    fun _ => rfl⟩

def visits : List Call :=
  [.opening, .registering (some 0) [.str "Warp"], .registering (some 1) [.str "WARP"],
    .unregistering (.str "home")]

/-- The second registration clashes with the first; without the alias it succeeds and can be
undone. -/
theorem visits_hold_live_registrations :
    let r := (performAll shelf fresh visits).1
    r.state = .opened ∧ r.labels = .ok ["tp", "Warp"] ∧
      ∃ g, r.Accepts (some (shelf.numbered 1)) [] g ∧
        (r.register (some (shelf.numbered 1)) []).1.unregister (.str "HOME") =
          (r, ⟨[.log (.unregistered "home")], .ok (shelf.numbered 1)⟩) := by
  intro r
  obtain ⟨-, -, -, told, -, undone⟩ := registry_holds_live_registrations shelf visits
  have opened : r.state = .opened := by decide +kernel
  have labels : (live (performAll shelf fresh visits).2).flatMap Group.labels = ["tp", "Warp"] := by
    decide +kernel
  have accepts : r.Accepts (some (shelf.numbered 1)) [] ⟨shelf.numbered 1, []⟩ :=
    ⟨rfl, rfl, opened, by decide +kernel, by decide +kernel⟩
  refine ⟨opened, labels ▸ (told opened).1, _, accepts, ?_⟩
  exact undone 1 [] _ accepts "home" (by decide +kernel) "HOME" (by decide +kernel)

end CommandTree.Registry
