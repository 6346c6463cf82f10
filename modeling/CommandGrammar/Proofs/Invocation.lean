import CommandGrammar.Proofs.Names
import CommandGrammar.Proofs.Paths

/-!
Invocations. A command is called by the names on the way to it and then by groups, each of them a
literal of one of its parameters with a value if it needs one. Where siblings are clear, the words
of an invocation match, and what they bind is what the groups say, in whichever order the parameters
come.
-/

namespace CommandGrammar

namespace Node

variable {n : Node} {word : String}

/-- A node with a literal has its name for a literal. -/
lemma name_mem_literals (h : word ∈ n.literals) : n.name ∈ n.literals := by
  unfold literals at h ⊢
  split
  · exact List.mem_singleton_self _
  · exact List.mem_singleton_self _
  · next traits hr =>
    rw [hr] at h
    dsimp only at h
    split at h
    · cases h
    all_goals exact List.mem_cons_self

end Node

/-! ### Routes -/

/-- The commands lead down from the root, and the siblings on the way are clear, as are those below
the last command. -/
structure IsRoute (root : Root) (path : List Node) : Prop where
  isDescent : IsDescent root.successors path
  isCommand : ∀ c ∈ path, c.isCommand = true
  root_clear : Frontier.IsClear root.successors
  clear : ∀ c ∈ path, Frontier.IsClear c.successors

instance (root : Root) (path : List Node) : Decidable (IsRoute root path) :=
  decidable_of_iff
    (IsDescent root.successors path ∧ (∀ c ∈ path, c.isCommand = true) ∧
      Frontier.IsClear root.successors ∧ ∀ c ∈ path, Frontier.IsClear c.successors)
    ⟨fun ⟨hd, hc, hr, hs⟩ => ⟨hd, hc, hr, hs⟩, fun h => ⟨h.1, h.2, h.3, h.4⟩⟩

/-- Commands below one another are chosen by their names where the siblings are clear. -/
lemma isChosen_of_isClear {siblings path : List Node}
    (hk : ∀ n ∈ Node.walkAll siblings, n.isKindless = false) (hclear : Frontier.IsClear siblings)
    (hd : IsDescent siblings path) (hc : ∀ c ∈ path, c.isCommand = true)
    (hbelow : ∀ c ∈ path, Frontier.IsClear c.successors) : IsChosen siblings path := by
  induction path generalizing siblings with
  | nil => trivial
  | cons c cs ih =>
    obtain ⟨hmem, hrest⟩ := hd
    obtain ⟨hcc, hcs⟩ := List.forall_mem_cons.1 hc
    obtain ⟨hclear', hbelow'⟩ := List.forall_mem_cons.1 hbelow
    constructor
    · refine hclear.select_eq (fun m hm => hk m (Node.mem_walkAll_of_mem hm)) (.refl _) hmem ?_
      simp [Node.literals_of_isCommand hcc]
    · refine ih (fun n hn => hk n ?_) hclear' hrest hcs hbelow'
      exact Node.walk_subset_walkAll hmem (Node.walkAll_subset_walk c hn)

lemma IsRoute.isChosen {root : Root} {path : List Node} (hr : IsRoute root path)
    (ht : root.IsTree) : IsChosen root.successors path :=
  isChosen_of_isClear (fun n hn => (ht.isBuilt n hn).isKindless_eq_false) hr.root_clear
    hr.isDescent hr.isCommand hr.clear

/-! ### Invocations -/

/-- The groups call a command: each of them is a literal of one of its flags or named parameters,
with a value where it needs one, and a parameter that may not be repeated heads at most one. -/
structure IsInvocation (command : Node) (gs : List Group) : Prop where
  declared : ∀ g ∈ gs, g.node ∈ command.parameters
  isLiteral : ∀ g ∈ gs, g.word ∈ g.node.literals
  isFull : ∀ g ∈ gs, g.IsFull
  once : ∀ g ∈ gs, g.node.isRepeatable = false → (gs.map Group.node).count g.node ≤ 1

instance (g : Group) : Decidable g.IsFull :=
  inferInstanceAs (Decidable (g.value?.isSome = g.node.takesValue))

instance (command : Node) (gs : List Group) : Decidable (IsInvocation command gs) :=
  decidable_of_iff
    ((∀ g ∈ gs, g.node ∈ command.parameters) ∧ (∀ g ∈ gs, g.word ∈ g.node.literals) ∧
      (∀ g ∈ gs, g.IsFull) ∧
      ∀ g ∈ gs, g.node.isRepeatable = false → (gs.map Group.node).count g.node ≤ 1)
    ⟨fun ⟨hd, hl, hf, ho⟩ => ⟨hd, hl, hf, ho⟩, fun h => ⟨h.1, h.2, h.3, h.4⟩⟩

namespace IsInvocation

variable {command p : Node} {gs : List Group} {g : Group} (hi : IsInvocation command gs)

include hi

lemma count_le_one (hr : p.isRepeatable = false) : (gs.map Group.node).count p ≤ 1 := by
  by_cases hp : p ∈ gs.map Group.node
  · obtain ⟨g, hg, rfl⟩ := List.mem_map.1 hp
    exact hi.once g hg hr
  · rw [List.count_eq_zero_of_not_mem hp]
    exact Nat.zero_le 1

/-- The only group of a parameter gives it its only item. -/
lemma itemsOf_eq_singleton (hg : g ∈ gs) (hr : g.node.isRepeatable = false) :
    itemsOf gs g.node = [g.item] := by
  have hlength := hi.once g hg hr
  rw [count_map_node] at hlength
  have hmem : g ∈ gs.filter fun k => k.node = g.node := List.mem_filter.2 ⟨hg, by simp⟩
  have hone : (gs.filter fun k => k.node = g.node).length = 1 := by
    have := List.length_pos_of_mem hmem
    omega
  obtain ⟨k, hk⟩ := List.length_eq_one_iff.1 hone
  rw [hk, List.mem_singleton] at hmem
  rw [itemsOf, hk, List.map_singleton, hmem]

end IsInvocation

/-- The groups of each parameter are the same ones in the same order. -/
def IsReordering (gs hs : List Group) : Prop :=
  ∀ p : Node, hs.filter (fun g => g.node = p) = gs.filter fun g => g.node = p

namespace IsReordering

variable {gs hs : List Group} {command : Node} (h : IsReordering gs hs)

include h

lemma mem_iff (g : Group) : g ∈ hs ↔ g ∈ gs := by
  have hfilter (ks : List Group) : g ∈ ks.filter (fun k => k.node = g.node) ↔ g ∈ ks := by
    simp [List.mem_filter]
  rw [← hfilter hs, h g.node, hfilter gs]

lemma itemsOf_eq (p : Node) : itemsOf hs p = itemsOf gs p := by rw [itemsOf, itemsOf, h p]

lemma mem_parametersOf_iff (p : Node) : p ∈ parametersOf hs ↔ p ∈ parametersOf gs := by
  rw [mem_parametersOf, mem_parametersOf, List.mem_map, List.mem_map]
  simp only [h.mem_iff]

lemma count_eq (p : Node) : (hs.map Group.node).count p = (gs.map Group.node).count p := by
  rw [count_map_node, count_map_node, h p]

lemma isInvocation (hi : IsInvocation command gs) : IsInvocation command hs where
  declared := fun g hg => hi.declared g ((h.mem_iff g).1 hg)
  isLiteral := fun g hg => hi.isLiteral g ((h.mem_iff g).1 hg)
  isFull := fun g hg => hi.isFull g ((h.mem_iff g).1 hg)
  once := fun g hg hr => by
    rw [h.count_eq]
    exact hi.once g ((h.mem_iff g).1 hg) hr

end IsReordering

/-! ### Matching -/

namespace State

variable {s : State} {g : Group} {gs : List Group} {command : Node} {path : List Node}

/-- A settled state with clear siblings accepts every group that begins with a literal of a sibling,
unless it has one already and may not be repeated. -/
lemma IsSettled.accepts (h : s.IsSettled) (hclear : Frontier.IsClear s.siblings)
    (hmem : g.node ∈ s.siblings) (hw : g.word ∈ g.node.literals) (hg : g.IsFull)
    (hfresh : g.node.isRepeatable = true ∨ g.node ∉ s.sinceCommand) : s.Accepts g := by
  refine ⟨hclear.select_eq (fun m hm => ?_) ?_ ?_ hw, hg⟩
  · exact (h.isBuilt m (Node.mem_walkAll_of_mem hm)).isKindless_eq_false
  · rw [h.frontier_eq]
    exact List.filter_sublist
  · rw [h.frontier_eq]
    exact Frontier.mem_remaining.2 ⟨hmem, hfresh⟩

/-- Below its command an invocation is taken, group by group. What was matched before and what is
still to come hold each parameter that may not be repeated at most once, so it is at the frontier
when its turn comes. -/
lemma exists_reaches_groups (hs : s.IsSettled) (hcommand : s.command = some command)
    (hclear : Frontier.IsClear command.successors)
    (hdecl : ∀ g ∈ gs, g.node ∈ command.parameters)
    (hlit : ∀ g ∈ gs, g.word ∈ g.node.literals) (hfull : ∀ g ∈ gs, g.IsFull)
    (honce : ∀ p : Node, p.isRepeatable = false →
      (s.sinceCommand ++ gs.map Group.node).count p ≤ 1) :
    ∃ t, s.Reaches gs t ∧ t.command = some command := by
  induction gs generalizing s with
  | nil => exact ⟨s, .nil s, hcommand⟩
  | cons g gs ih =>
    obtain ⟨hp, hdecl'⟩ := List.forall_mem_cons.1 hdecl
    obtain ⟨hw, hlit'⟩ := List.forall_mem_cons.1 hlit
    obtain ⟨hg, hfull'⟩ := List.forall_mem_cons.1 hfull
    have hbuilt := hs.command_isBuilt command hcommand
    have hpar : g.node.isCommand = false := Node.isParameter_iff.1 (hbuilt.areParameters _ hp)
    have hsib : s.siblings = command.successors := by rw [siblings, hcommand]; rfl
    have hfresh : g.node.isRepeatable = true ∨ g.node ∉ s.sinceCommand := by
      refine (Bool.eq_false_or_eq_true g.node.isRepeatable).imp id fun hr hu => ?_
      have h1 := honce g.node hr
      have h2 := List.count_pos_iff.2 hu
      rw [List.count_append, List.map_cons, List.count_cons_self] at h1
      omega
    have hacc : s.Accepts g := by
      refine hs.accepts ?_ ?_ hw hg hfresh
      · rwa [hsib]
      · rw [hsib]
        exact hbuilt.mem_successors hp
    have hcommand' : (s.after g).command = some command := by
      rw [after_command, hpar]
      exact hcommand
    obtain ⟨t, ht, htc⟩ := ih (hs.after hacc) hcommand' hdecl' hlit' hfull' fun p hr => by
      rw [after_sinceCommand_parameter hpar, List.append_assoc]
      exact honce p hr
    exact ⟨t, .cons hacc ht, htc⟩

/-- **An invocation is reached** by the names on the way to its command and its groups. -/
theorem exists_reaches_invocation {root : Root} (ht : root.IsTree) (hr : IsRoute root path)
    (hlast : path.getLast? = some command) (hi : IsInvocation command gs) :
    ∃ t, (start root).Reaches (called path ++ gs) t ∧ t.command = some command := by
  obtain ⟨s, hs⟩ := (reaches_called_iff (s := start root) rfl hr.isCommand).2 (hr.isChosen ht)
  have htrace : s.trace = path := by simpa [start, called_map_node] using hs.trace_eq
  have hpath : s.path = path := by
    rw [State.path, htrace, List.filter_eq_self]
    exact hr.isCommand
  have hcommand : s.command = some command := by rw [hs.command_eq rfl, hpath, hlast]
  have hsince : s.sinceCommand = [] := by
    rw [sinceCommand, htrace, List.rtakeWhile_eq_nil_iff]
    intro hne
    simp [Node.isParameter, hr.isCommand _ (List.getLast_mem hne)]
  obtain ⟨t, hst, htc⟩ := exists_reaches_groups (hs.isSettled (isSettled_start ht)) hcommand
    (hr.clear command (List.mem_of_getLast? hlast)) hi.declared hi.isLiteral hi.isFull
    fun p hp => by
      rw [hsince, List.nil_append]
      exact hi.count_le_one hp
  exact ⟨t, hs.append hst, htc⟩

end State

/-! ### What an invocation gives -/

section Names

variable {command : Node} {gs : List Group} {s : State}

/-- What groups bind is found by the names of their parameters, which are told apart by their
literals. -/
lemma IsInvocation.get?_names_eq_some_iff (hi : IsInvocation command gs) (hbuilt : command.IsBuilt)
    (hclear : Frontier.IsClear command.successors) (hcommand : s.command = some command)
    (hb : s.bindings = Bindings.gathered gs) {name : String} {b : Binding} :
    s.names.get? name = some b ↔
      ∃ p ∈ parametersOf gs, p.name = name ∧ Binding.gathered p (itemsOf gs p) = b := by
  have hof : ∀ p ∈ parametersOf gs, p ∈ command.parameters ∧ p.name ∈ p.literals := by
    intro p hp
    obtain ⟨g, hg, rfl⟩ := List.mem_map.1 (mem_parametersOf.1 hp).1
    exact ⟨hi.declared g hg, Node.name_mem_literals (hi.isLiteral g hg)⟩
  refine State.get?_names_eq_some_iff hb (fun p hp => ?_) ?_
  · simp [State.owns, hcommand, (hof p hp).1]
  · refine (parametersOf_nodup gs).map_on fun p hp q hq he => ?_
    by_contra hne
    have : Std.Symm fun m n : Node => m.literals.Disjoint n.literals :=
      ⟨fun _ _ => List.Disjoint.symm⟩
    have hdisj := hclear.literals_disjoint.forall (hbuilt.mem_successors (hof p hp).1)
      (hbuilt.mem_successors (hof q hq).1) hne
    exact hdisj (hof p hp).2 (he ▸ (hof q hq).2)

end Names

section Parse

variable {registry : Registry} {isStrict : Bool} {next : Nat} {grammar : Grammar}
  {path : List Node} {command : Node} {gs : List Group}

lemma exists_parse_invocation {root : Root} (ht : root.IsTree) (hr : IsRoute root path)
    (hlast : path.getLast? = some command) (hi : IsInvocation command gs) :
    ∃ s, parse (path.map Node.name ++ wordsOf gs) root = .ok s ∧ s.command = some command ∧
      command.IsBuilt ∧ s.bindings = Bindings.gathered gs ∧
      ∀ name b, s.names.get? name = some b ↔
        ∃ p ∈ parametersOf gs, p.name = name ∧ Binding.gathered p (itemsOf gs p) = b := by
  obtain ⟨s, hs, hcommand⟩ := State.exists_reaches_invocation ht hr hlast hi
  have hbuilt : command.IsBuilt :=
    (hs.isSettled (State.isSettled_start ht)).command_isBuilt command hcommand
  have hbindings : s.bindings = Bindings.gathered gs := by
    rw [hs.bindings_eq, Bindings.gathered_append_of_isCommand]
    intro g hg
    obtain ⟨c, hc, rfl⟩ := List.mem_map.1 hg
    exact hr.isCommand c hc
  refine ⟨s, parse_eq_ok_iff.2 ⟨_, hs, ?_⟩, hcommand, hbuilt, hbindings, fun name b => ?_⟩
  · rw [wordsOf_append, wordsOf_called]
  · exact hi.get?_names_eq_some_iff hbuilt (hr.clear command (List.mem_of_getLast? hlast)) hcommand
      hbindings

/-- **An invocation gives back its groups.** Where the siblings on the way to a command are clear,
the names on the way and the words of an invocation match that command, whatever the values are.
They bind the items of the groups, a repeatable parameter all of its own in order and any other the
only one; and when the groups are put in another order that keeps those of each parameter in theirs,
every name has the same value. -/
theorem parse_invocation (hf : registry.finish isStrict next = .ok grammar)
    (hr : IsRoute grammar.root path) (hlast : path.getLast? = some command)
    (hi : IsInvocation command gs) :
    ∃ s, parse (path.map Node.name ++ wordsOf gs) grammar.root = .ok s ∧
      s.command = some command ∧
      s.bindings = Bindings.gathered gs ∧
      (∀ g ∈ gs, s.bindings.get? g.node = some
        (if g.node.isRepeatable then .several (itemsOf gs g.node) else .single g.item)) ∧
      ∀ hs, IsReordering gs hs →
        ∃ t, parse (path.map Node.name ++ wordsOf hs) grammar.root = .ok t ∧
          t.command = some command ∧ ∀ name, t.names.get? name = s.names.get? name := by
  have ht := Registry.isTree_of_finish hf
  obtain ⟨s, hs, hcommand, hbuilt, hbindings, hnames⟩ := exists_parse_invocation ht hr hlast hi
  refine ⟨s, hs, hcommand, hbindings, fun g hg => ?_, fun ks hk => ?_⟩
  · have hp : g.node ∈ parametersOf gs := mem_parametersOf.2
      ⟨List.mem_map_of_mem hg, hbuilt.areParameters _ (hi.declared g hg)⟩
    rw [hbindings, Bindings.get?_gathered hp]
    cases hrep : g.node.isRepeatable with
    | true => simp [Binding.gathered, hrep]
    | false => simp [Binding.gathered, hrep, hi.itemsOf_eq_singleton hg hrep]
  · obtain ⟨t, hparse, htc, -, -, htn⟩ := exists_parse_invocation ht hr hlast (hk.isInvocation hi)
    refine ⟨t, hparse, htc, fun name => Option.ext fun b => ?_⟩
    rw [htn, hnames]
    simp only [hk.mem_parametersOf_iff, hk.itemsOf_eq]

/-- The level is a literal of the tag, and the tags may stand on both sides of it. -/
theorem parse_invocation_set : ∃ grammar command level tag s t,
    Demo.registry.finish false 0 = .ok grammar ∧
    IsRoute grammar.root [command] ∧
    IsInvocation command
      [⟨tag, "--tag", some "a"⟩, ⟨level, "-l", some "--tag"⟩, ⟨tag, "-t", some ""⟩] ∧
    parse ([command].map Node.name ++ ["--tag", "a", "-l", "--tag", "-t", ""]) grammar.root =
      .ok s ∧
    s.bindings.get? tag = some (.several [.word "a", .word ""]) ∧
    s.bindings.get? level = some (.single (.word "--tag")) ∧
    parse ([command].map Node.name ++ ["--tag", "a", "-t", "", "-l", "--tag"]) grammar.root =
      .ok t ∧
    ∀ name, t.names.get? name = s.names.get? name := by
  obtain ⟨grammar, command, hf, -, hall⟩ := exists_ok_of_any_any
    (e := Demo.registry.finish false 0) (f := fun grammar => grammar.root.resolve ["set"])
    (p := fun grammar command => ∃ level ∈ command.parameters, ∃ tag ∈ command.parameters,
      level ≠ tag ∧ level.kind? = some .named ∧ level.isRepeatable = false ∧
      tag.kind? = some .named ∧ tag.isRepeatable = true ∧ IsRoute grammar.root [command] ∧
      IsInvocation command
        [⟨tag, "--tag", some "a"⟩, ⟨level, "-l", some "--tag"⟩, ⟨tag, "-t", some ""⟩])
    (by decide +kernel)
  obtain ⟨level, -, tag, -, hne, hlevel, hlr, htag, htr, hr, hi⟩ := of_decide_eq_true hall
  obtain ⟨s, hs, -, -, hget, hreorder⟩ := parse_invocation hf hr rfl hi
  have hsame : IsReordering
      [⟨tag, "--tag", some "a"⟩, ⟨level, "-l", some "--tag"⟩, ⟨tag, "-t", some ""⟩]
      [⟨tag, "--tag", some "a"⟩, ⟨tag, "-t", some ""⟩, ⟨level, "-l", some "--tag"⟩] := by
    intro p
    by_cases hp : level = p
    · simp [← hp, Ne.symm hne]
    · by_cases hp' : tag = p <;> simp [hp, hp']
  obtain ⟨t, ht, -, hnames⟩ := hreorder _ hsame
  refine ⟨grammar, command, level, tag, s, t, hf, hr, hi, hs, ?_, ?_, ht, hnames⟩
  · simpa [htr, itemsOf, hne, Group.item, htag] using hget ⟨tag, "--tag", some "a"⟩ (by simp)
  · simpa [hlr, Group.item, hlevel] using hget ⟨level, "-l", some "--tag"⟩ (by simp)

end Parse

end CommandGrammar
