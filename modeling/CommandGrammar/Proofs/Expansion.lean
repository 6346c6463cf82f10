import CommandGrammar.Proofs.Accounting
import CommandGrammar.Proofs.Ambiguity
import CommandGrammar.Proofs.Invocation

/-!
Abbreviations. Where siblings share no literals, a line that matches says the same as the line in
which every literal and every abbreviation is replaced by the name of its node: each name is then
matched in full, and by no other node, and the node was preferred to the positional parameter
already.
-/

namespace CommandGrammar

/-! ### Names for words -/

namespace Group

variable (g : Group)

/-- The group with its node called by name; what stands for a positional parameter is its value, and
stays. -/
def expanded : Group := if g.node.isPositional then g else { g with word := g.node.name }

lemma expanded_node : g.expanded.node = g.node := by
  unfold expanded
  split
  · rfl
  · rfl

lemma expanded_item : g.expanded.item = g.item := by
  unfold expanded
  split
  · rfl
  · next hp =>
    have hk : g.node.kind? ≠ some .simple := by simpa [Node.isPositional] using hp
    unfold item
    split <;> simp_all

lemma isFull_expanded (h : g.IsFull) : g.expanded.IsFull := by
  unfold expanded
  split
  · exact h
  · exact h

end Group

/-- Among nodes that share no literals, one that a word chose by a literal is chosen by its name. -/
lemma Frontier.select_name {frontier : List Node} {word : String} {n : Node}
    (hd : frontier.Pairwise fun m n => m.literals.Disjoint n.literals)
    (h : select frontier word = .chosen n) (hn : n.isPositional = false) :
    select frontier n.name = .chosen n := by
  obtain ⟨hk, hcases⟩ := cases_of_select h
  have hmem : n ∈ candidates frontier word := by
    refine hcases.resolve_left fun hp => ?_
    cases hn.symm.trans (List.find?_some hp)
  obtain ⟨hf, ha⟩ := mem_of_mem_candidates hmem
  obtain ⟨literal, hl, -⟩ := Node.isAbbreviatedBy_iff.1 ha
  have hname : n.name ∈ n.literals := Node.name_mem_literals hl
  exact select_of_named hk (named_eq_singleton hd hf hname) (positional_le_of_select h hn)

/-! ### Disjoint siblings -/

/-- Nowhere in the grammar do siblings share a literal. -/
def Root.IsDisjoint (root : Root) : Prop :=
  ∀ parent ∈ root.parents,
    (root.below parent).Pairwise fun m n => m.literals.Disjoint n.literals

instance (root : Root) : Decidable root.IsDisjoint :=
  inferInstanceAs (Decidable (∀ parent ∈ root.parents,
    (root.below parent).Pairwise fun m n : Node => ∀ literal ∈ m.literals, literal ∉ n.literals))

namespace State

variable {s t : State} {g : Group}

/-- What may come next shares no literals, since all of it stands below one node. -/
lemma IsSettled.frontier_disjoint (hs : s.IsSettled) (hd : s.root.IsDisjoint) :
    s.frontier.Pairwise fun m n => m.literals.Disjoint n.literals := by
  have hparent : s.command ∈ s.root.parents :=
    Root.mem_parents.2 fun c hc => (hs.of_command hc).1
  rw [hs.frontier_eq]
  exact (hd s.command hparent).filter _

/-! ### Runs with names for words -/

/-- The states are as far, by whatever words. -/
structure SameButTokens (s t : State) : Prop where
  root_eq : t.root = s.root
  frontier_eq : t.frontier = s.frontier
  bindings_eq : t.bindings = s.bindings
  command_eq : t.command = s.command
  trace_eq : t.trace = s.trace

lemma SameButTokens.refl (s : State) : s.SameButTokens s := ⟨rfl, rfl, rfl, rfl, rfl⟩

/-- What a state accepts is accepted by name. -/
lemma Accepts.expanded (hg : s.Accepts g)
    (hd : s.frontier.Pairwise fun m n => m.literals.Disjoint n.literals) :
    s.Accepts g.expanded := by
  refine ⟨?_, g.isFull_expanded hg.isFull⟩
  rw [g.expanded_node]
  unfold Group.expanded
  split
  · exact hg.chosen
  · next hp => exact Frontier.select_name hd hg.chosen ((Bool.not_eq_true _).mp hp)

namespace SameButTokens

lemma accepts (h : s.SameButTokens t) (hg : s.Accepts g) : t.Accepts g :=
  ⟨h.frontier_eq ▸ hg.chosen, hg.isFull⟩

/-- A step by name leads as far. -/
lemma after (h : s.SameButTokens t) (g : Group) :
    (s.after g).SameButTokens (t.after g.expanded) := by
  obtain ⟨hroot, hfrontier, hbindings, hcommand, htrace⟩ := h
  unfold State.after
  rw [g.expanded_node, g.expanded_item]
  split
  · exact ⟨hroot, rfl, hbindings, rfl, congrArg (· ++ [g.node]) htrace⟩
  · exact ⟨hroot, congrArg (Frontier.advance · g.node) hfrontier,
      congrArg (Bindings.bind g.node g.item) hbindings, hcommand, congrArg (· ++ [g.node]) htrace⟩

end SameButTokens

/-- **A run leads as far by names.** -/
theorem Reaches.expanded {u : State} {gs : List Group} (hr : s.Reaches gs u) (hs : s.IsSettled)
    (hd : s.root.IsDisjoint) (h : s.SameButTokens t) :
    ∃ v, t.Reaches (gs.map Group.expanded) v ∧ u.SameButTokens v := by
  induction hr generalizing t with
  | nil s => exact ⟨t, .nil t, h⟩
  | @cons s u g gs hg _ ih =>
    have hacc : t.Accepts g.expanded := h.accepts (hg.expanded (hs.frontier_disjoint hd))
    have hroot : (s.after g).root.IsDisjoint := by rwa [after_root]
    obtain ⟨v, hv, huv⟩ := ih (hs.after hg) hroot (h.after g)
    exact ⟨v, .cons hacc hv, huv⟩

end State

/-! ### Lines -/

section Parse

variable {registry : Registry} {isStrict : Bool} {next : Nat} {grammar : Grammar}
  {tokens : List String} {s : State}

/-- **Abbreviations are pure sugar.** Where siblings share no literals, a line that matches splits
in one way into groups along its trace, and the line of the same groups with their nodes called by
name, while values and positional words stay as they are, matches too, with the same trace, command,
bindings and frontier. -/
theorem parse_expanded (hf : registry.finish isStrict next = .ok grammar)
    (hd : grammar.root.IsDisjoint) (hp : parse tokens grammar.root = .ok s) :
    ∃ gs t, Splits gs s.trace tokens ∧ (∀ hs, Splits hs s.trace tokens → hs = gs) ∧
      parse (wordsOf (gs.map Group.expanded)) grammar.root = .ok t ∧
      t.trace = s.trace ∧ t.command = s.command ∧ t.bindings = s.bindings ∧
      t.frontier = s.frontier := by
  obtain ⟨gs, hr, rfl⟩ := parse_eq_ok_iff.1 hp
  have hsettled := State.isSettled_start (Registry.isTree_of_finish hf)
  obtain ⟨t, ht, hst⟩ := hr.expanded hsettled hd (.refl _)
  exact ⟨gs, t, hr.splits, fun hs => hr.splits.unique, parse_eq_ok_iff.2 ⟨_, ht, rfl⟩,
    hst.trace_eq, hst.command_eq, hst.bindings_eq, hst.frontier_eq⟩

/-- A command and two parameters are abbreviated, and a value is left alone though it begins a
literal. -/
theorem parse_expanded_set : ∃ grammar s t, Demo.registry.finish false 0 = .ok grammar ∧
    grammar.root.IsDisjoint ∧
    parse ["se", "--t", "--level", "-l", "x"] grammar.root = .ok s ∧
    parse ["set", "--tag", "--level", "--level", "x"] grammar.root = .ok t ∧
    t.bindings = s.bindings := by
  obtain ⟨grammar, s, hf, hp, hall⟩ := exists_ok_of_any_any (e := Demo.registry.finish false 0)
    (f := fun grammar => parse ["se", "--t", "--level", "-l", "x"] grammar.root)
    (p := fun grammar s => decide grammar.root.IsDisjoint &&
      (s.trace.map fun n => (n.name, n.takesValue, n.isPositional)) ==
        [("set", false, false), ("--tag", true, false), ("--level", true, false)])
    (by decide +kernel)
  obtain ⟨hd, hnodes⟩ := Bool.and_eq_true_iff.1 hall
  have hd := of_decide_eq_true hd
  rw [beq_iff_eq] at hnodes
  simp only [List.map_eq_cons_iff, List.map_eq_nil_iff, Prod.mk.injEq] at hnodes
  obtain ⟨c, _, htrace, ⟨hc, hcv, hcp⟩, p, _, rfl, ⟨hp', hpv, hpp⟩, q, _, rfl, ⟨hq, hqv, hqp⟩,
    rfl⟩ := hnodes
  obtain ⟨gs, t, -, hunique, ht, -, -, hbindings, -⟩ := parse_expanded hf hd hp
  have hsplits : Splits [⟨c, "se", none⟩, ⟨p, "--t", some "--level"⟩, ⟨q, "-l", some "x"⟩] s.trace
      ["se", "--t", "--level", "-l", "x"] :=
    ⟨by simp [htrace], rfl, by simp [Group.words, hcv, hpv, hqv]⟩
  rw [← hunique _ hsplits] at ht
  refine ⟨grammar, s, t, hf, hd, hp, ?_, hbindings⟩
  simpa [Group.expanded, Group.words, hcp, hpp, hqp, hc, hp', hq] using ht

end Parse

end CommandGrammar
