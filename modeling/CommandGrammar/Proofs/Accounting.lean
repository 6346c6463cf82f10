import CommandGrammar.Demo
import CommandGrammar.Proofs.Binding
import CommandGrammar.Proofs.Selection

/-!
What a matched line accounts for. The tokens of the state are the line; the line splits in just one
way into groups along the trace; the command in force is the last one of the trace; and the bindings
are what the groups gather.
-/

namespace CommandGrammar

/-! ### Splitting a line along a trace -/

/-- The groups split the words along the nodes: each node takes two words when it takes a value and
one otherwise. -/
structure Splits (gs : List Group) (nodes : List Node) (words : List String) : Prop where
  nodes_eq : gs.map Group.node = nodes
  words_eq : wordsOf gs = words
  lengths : ∀ g ∈ gs, g.words.length = if g.node.takesValue then 2 else 1

namespace Group

lemma eq_of_words_append {g h : Group} {xs ys : List String} (hn : g.node = h.node)
    (hl : g.words.length = h.words.length) (he : g.words ++ xs = h.words ++ ys) :
    g = h ∧ xs = ys := by
  obtain ⟨hw, hxs⟩ := List.append_inj he hl
  obtain ⟨n, word, value?⟩ := g
  obtain ⟨m, word', value?'⟩ := h
  refine ⟨?_, hxs⟩
  obtain ⟨rfl, hv⟩ := List.cons.inj hw
  cases hn
  cases value? <;> cases value?' <;> simp_all

end Group

/-- There is one way to split words along nodes. -/
lemma Splits.unique {gs hs : List Group} {nodes : List Node} {words : List String}
    (h : Splits gs nodes words) (h' : Splits hs nodes words) : hs = gs := by
  obtain ⟨hn, hw, hl⟩ := h
  obtain ⟨hn', hw', hl'⟩ := h'
  rw [← hn] at hn'
  rw [← hw] at hw'
  clear hn hw
  induction gs generalizing hs with
  | nil => simpa using hn'
  | cons g gs ih =>
    cases hs with
    | nil => cases hn'
    | cons k ks =>
      obtain ⟨hgl, hgsl⟩ := List.forall_mem_cons.1 hl
      obtain ⟨hkl, hksl⟩ := List.forall_mem_cons.1 hl'
      obtain ⟨hkg, hks⟩ := List.cons.inj hn'
      have hlen : k.words.length = g.words.length := by rw [hkl, hgl, hkg]
      obtain ⟨rfl, hrest⟩ := Group.eq_of_words_append hkg hlen hw'
      rw [ih hgsl hks hrest hksl]

namespace State.Reaches

variable {root : Root} {s t : State} {gs : List Group}

lemma splits (h : (start root).Reaches gs s) : Splits gs s.trace (wordsOf gs) := by
  refine ⟨h.trace_of_start.symm, rfl, fun g hg => ?_⟩
  exact g.words_length (h.isFull g hg)

lemma begins_literal (h : s.Reaches gs t) : ∀ g ∈ gs, g.node.isPositional = false →
    ∃ literal ∈ g.node.literals, g.word.toList <+: literal.toList := by
  induction h with
  | nil => simp
  | cons hg _ ih => exact List.forall_mem_cons.2 ⟨hg.begins_literal, ih⟩

/-- A line begins with a command. -/
lemma head_isCommand {g : Group} (h : (start root).Reaches (g :: gs) s) :
    g.node.isCommand = true := by
  cases h with
  | cons hg _ => exact root.areCommands _ hg.mem_frontier

/-- Only a run without groups is without a command. -/
lemma eq_nil_of_command (h : (start root).Reaches gs s) (hc : s.command = none) : gs = [] := by
  cases gs with
  | nil => rfl
  | cons g gs =>
    have hmem : g.node ∈ s.path := by
      rw [path, h.trace_eq, List.mem_filter]
      exact ⟨by simp, h.head_isCommand⟩
    rw [h.command_eq rfl, List.getLast?_eq_none_iff] at hc
    rw [hc] at hmem
    cases hmem

end State.Reaches

/-! ### The account of a line -/

lemma Bindings.gathered_keys (gs : List Group) :
    (gathered gs).map Prod.fst = ((gs.map Group.node).filter Node.isParameter).eraseDups := by
  unfold gathered
  rw [List.map_map]
  exact List.map_id _

/-- A parameter that groups bind has all of their items, or the last of them. -/
lemma Bindings.eq_of_mem_gathered {gs : List Group} {p : Node} {b : Binding}
    (h : (p, b) ∈ gathered gs) :
    (p.isRepeatable = true → b = .several (itemsOf gs p)) ∧
      (p.isRepeatable = false → ∃ item ∈ (itemsOf gs p).getLast?, b = .single item) := by
  obtain ⟨q, hq, he⟩ := List.mem_map.1 h
  cases he
  refine ⟨fun hr => by simp [Binding.gathered, hr], fun hr => ?_⟩
  have hne : itemsOf gs p ≠ [] := by
    obtain ⟨g, hg, hgp⟩ := List.mem_map.1 (mem_parametersOf.1 hq).1
    have hf : g ∈ gs.filter fun g => g.node = p := List.mem_filter.2 ⟨hg, by simpa using hgp⟩
    intro hnil
    rw [itemsOf, List.map_eq_nil_iff] at hnil
    rw [hnil] at hf
    cases hf
  refine ⟨(itemsOf gs p).getLast hne, List.getLast?_eq_some_getLast hne, ?_⟩
  simp [Binding.gathered, hr, List.getLast?_eq_some_getLast hne]

/-- **The account of a line that matches.** Its tokens are all there; it splits along the trace in
one way, into groups whose first words begin a literal of their nodes unless these are positional;
the command in force is the last one of the trace, and a line that is not empty begins with a
command; every parameter of the trace is bound, in the order of first matches, to the items of all
its groups if it is repeatable and to that of the last one if it is not. -/
theorem parse_account {root : Root} {tokens : List String} {s : State}
    (h : parse tokens root = .ok s) :
    s.tokens = tokens ∧
    s.command = (s.trace.filter Node.isCommand).getLast? ∧
    (tokens ≠ [] → ∃ n ∈ s.trace.head?, n.isCommand = true) ∧
    (tokens ≠ [] → s.command ≠ none) ∧
    s.bindings.map Prod.fst = (s.trace.filter Node.isParameter).eraseDups ∧
    ∃ gs, Splits gs s.trace tokens ∧ (∀ hs, Splits hs s.trace tokens → hs = gs) ∧
      (∀ g ∈ gs, g.node.isPositional = false →
        ∃ literal ∈ g.node.literals, g.word.toList <+: literal.toList) ∧
      ∀ p b, (p, b) ∈ s.bindings →
        (p.isRepeatable = true → b = .several (itemsOf gs p)) ∧
        (p.isRepeatable = false → ∃ item ∈ (itemsOf gs p).getLast?, b = .single item) := by
  obtain ⟨gs, hr, rfl⟩ := parse_eq_ok_iff.1 h
  have htrace : s.trace = gs.map Group.node := by simpa [State.start] using hr.trace_eq
  have hcommand : s.command = (s.trace.filter Node.isCommand).getLast? := hr.command_eq rfl
  have hfirst : wordsOf gs ≠ [] → ∃ n ∈ s.trace.head?, n.isCommand = true := by
    intro hne
    cases gs with
    | nil => exact absurd rfl hne
    | cons g gs => exact ⟨g.node, by simp [htrace], hr.head_isCommand⟩
  refine ⟨by simpa [State.start] using hr.tokens_eq, hcommand, hfirst, fun hne hnone => ?_, ?_,
    gs, hr.splits, fun hs => hr.splits.unique, hr.begins_literal, fun p b hb => ?_⟩
  · obtain ⟨n, hn, hc⟩ := hfirst hne
    rw [hcommand, List.getLast?_eq_none_iff, List.filter_eq_nil_iff] at hnone
    exact hnone n (List.mem_of_mem_head? hn) hc
  · rw [hr.bindings_eq, Bindings.gathered_keys, htrace]
  · rw [hr.bindings_eq] at hb
    exact Bindings.eq_of_mem_gathered hb

/-- The second tag is given by the short literal, and its value is a literal of another parameter.
-/
theorem parse_account_tags : ∃ root s, Demo.root = .ok root ∧
    parse ["set", "--tag", "a", "--deb", "-t", "--level"] root = .ok s ∧
    s.tokens = ["set", "--tag", "a", "--deb", "-t", "--level"] ∧ s.command ≠ none := by
  obtain ⟨root, s, hroot, hs, -⟩ := exists_ok_of_any_any (e := Demo.root)
    (f := parse ["set", "--tag", "a", "--deb", "-t", "--level"]) (p := fun _ _ => true)
    (by decide +kernel)
  obtain ⟨htokens, -, -, hcommand, -⟩ := parse_account hs
  exact ⟨root, s, hroot, hs, htokens, hcommand (by decide)⟩

end CommandGrammar
