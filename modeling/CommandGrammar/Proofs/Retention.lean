import CommandGrammar.Node.Draft
import CommandGrammar.Proofs.Accounting
import CommandGrammar.Proofs.Tree
import Mathlib.Data.List.Flatten

/-!
What a line keeps of what was typed. A parameter that may not be repeated keeps the last item that
it was given, so something is lost exactly when it is matched again; and it can only be matched again
when a node that it follows was matched in between. Over a root that offers each such node in one
place, and nowhere below a node that may be repeated, nothing is ever lost.
-/

namespace CommandGrammar

/-! ### Places in walks -/

namespace Node

/-- No node follows itself. -/
lemma notMem_successors (n : Node) : n ∉ n.successors := by
  induction n with
  | mk face parameters successors _ ih => exact fun h => ih _ h h

lemma walkAll_sublist {ms ns : List Node} (h : ms.Sublist ns) :
    (walkAll ms).Sublist (walkAll ns) := by
  rw [walkAll_eq_flatMap, walkAll_eq_flatMap]
  exact h.flatMap walk

lemma mem_walkAll_of_mem_walk {m n : Node} {ns : List Node} (hm : m ∈ walkAll ns)
    (hn : n ∈ m.walk) : n ∈ walkAll ns := by
  obtain ⟨k, hk, hmk⟩ := mem_walkAll.1 hm
  exact walk_subset_walkAll hk (walk_subset_walk hmk hn)

/-- Only parameters may be repeated. -/
lemma isCommand_eq_false_of_isRepeatable {n : Node} (h : n.isRepeatable = true) : n.isCommand = false := by
  unfold isRepeatable traits? at h
  unfold isCommand
  split at h
  · next hr => rw [hr]
  · cases h
  · cases h

/-- The places of a node are those in the walk of a given one and those beside it. -/
lemma count_walk_add_le {m : Node} {ns : List Node} (hm : m ∈ ns) (n : Node) :
    (walk m).count n + (walkAll (ns.filter fun k => k ≠ m)).count n ≤ (walkAll ns).count n := by
  obtain ⟨before, after, rfl⟩ := List.append_of_mem hm
  have hsub : ((before ++ m :: after).filter fun k => k ≠ m).Sublist (before ++ after) := by
    rw [List.filter_append, List.filter_cons_of_neg (by simp)]
    exact List.filter_sublist.append List.filter_sublist
  have hle := (walkAll_sublist hsub).count_le n
  simp only [walkAll_append, walkAll, List.count_append] at hle ⊢
  omega

end Node

/-! ### Steps -/

namespace State

variable {s t : State} {g : Group} {gs : List Group} {n p : Node}

lemma mem_frontier_after (h : n ∈ (s.after g).frontier) :
    n ∈ g.node.successors ∨
      n ∈ s.frontier ∧ g.node.isCommand = false ∧ (n = g.node → g.node.isRepeatable = true) := by
  by_cases hc : g.node.isCommand = true
  · rw [after_of_isCommand hc] at h
    exact .inl h
  · rw [Bool.not_eq_true] at hc
    rw [after_of_isParameter hc] at h
    rcases List.mem_append.1 h with h | h
    · exact .inl h
    · obtain ⟨hn, hr⟩ := List.mem_filter.1 (List.mem_of_mem_filter h)
      refine .inr ⟨hn, hc, fun he => ?_⟩
      simpa [he] using hr

/-- What may come next was there before or follows what was matched. -/
lemma mem_walkAll_frontier_after (hg : s.Accepts g) (h : n ∈ Node.walkAll (s.after g).frontier) :
    n ∈ Node.walkAll s.frontier := by
  obtain ⟨m, hm, hn⟩ := Node.mem_walkAll.1 h
  rcases mem_frontier_after hm with hm | ⟨hm, -⟩
  · have hnode := Node.mem_walkAll_of_mem hg.mem_frontier
    exact Node.mem_walkAll_of_mem_walk (Node.mem_walkAll_of_mem_successors hnode hm) hn
  · exact Node.walk_subset_walkAll hm hn

/-- A node leaves the frontier when it is matched, unless it may be repeated. -/
lemma notMem_frontier_after (hr : g.node.isRepeatable = false) :
    g.node ∉ (s.after g).frontier := by
  intro h
  rcases mem_frontier_after h with h | ⟨-, -, h⟩
  · exact g.node.notMem_successors h
  · cases hr.symm.trans (h rfl)

/-- **What comes to the frontier follows a node that was matched.** -/
theorem Reaches.exists_mem_successors (h : s.Reaches gs t) (hs : n ∉ s.frontier)
    (ht : n ∈ t.frontier) : ∃ g ∈ gs, n ∈ g.node.successors := by
  induction h with
  | nil => exact absurd ht hs
  | @cons s t g gs hg _ ih =>
    by_cases hn : n ∈ (s.after g).frontier
    · rcases mem_frontier_after hn with hn | ⟨hn, -⟩
      · exact ⟨g, List.mem_cons_self, hn⟩
      · exact absurd hn hs
    · obtain ⟨k, hk, hnk⟩ := ih hn ht
      exact ⟨k, List.mem_cons_of_mem g hk, hnk⟩

/-! ### Occurrences -/

/-- How often a node was matched, and in how many places it may still be met. -/
def occurrences (s : State) (n : Node) : Nat := (Node.walkAll s.frontier).count n + s.trace.count n

/-- A node below the frontier that may be repeated leads only to such nodes. -/
def LeadsToRepeatable (s : State) : Prop :=
  ∀ r ∈ Node.walkAll s.frontier, r.isRepeatable = true →
    ∀ n ∈ Node.walkAll r.successors, n.isRepeatable = true

/-- Matching a node that may not be repeated takes its place away. -/
lemma occurrences_after_of_not_repeatable (hg : s.Accepts g) (hr : g.node.isRepeatable = false)
    (n : Node) : (s.after g).occurrences n ≤ s.occurrences n := by
  have hwalk := Node.count_walk_add_le hg.mem_frontier n
  have hfrontier : (Node.walkAll (s.after g).frontier).count n ≤
      (Node.walkAll g.node.successors).count n +
        (Node.walkAll (s.frontier.filter fun k => k ≠ g.node)).count n := by
    by_cases hc : g.node.isCommand = true
    · rw [after_of_isCommand hc]
      exact Nat.le_add_right _ _
    · rw [after_of_isParameter ((Bool.not_eq_true _).mp hc), record, Frontier.advance,
        Node.walkAll_append, List.count_append]
      refine Nat.add_le_add_left ((Node.walkAll_sublist ?_).count_le n) _
      simp only [hr, Bool.or_false]
      exact List.filter_sublist
  rw [Node.walk_eq, List.count_cons] at hwalk
  rw [occurrences, occurrences, after_trace, List.count_append, List.count_singleton]
  omega

/-- Matching a parameter that may be repeated brings only nodes of this kind. -/
lemma occurrences_after_of_repeatable (hr : g.node.isRepeatable = true)
    (hn : n.isRepeatable = false) (hbelow : n ∉ Node.walkAll g.node.successors) :
    (s.after g).occurrences n ≤ s.occurrences n := by
  have hc : g.node.isCommand = false := Node.isCommand_eq_false_of_isRepeatable hr
  have hne : g.node ≠ n := by
    rintro rfl
    cases hn.symm.trans hr
  have hfrontier : (Node.walkAll (s.after g).frontier).count n ≤
      (Node.walkAll s.frontier).count n := by
    rw [after_of_isParameter hc, record, Frontier.advance, Node.walkAll_append,
      List.count_append, List.count_eq_zero_of_not_mem hbelow, Nat.zero_add]
    exact (Node.walkAll_sublist (List.filter_sublist.trans List.filter_sublist)).count_le n
  rw [occurrences, occurrences, after_trace, List.count_append, List.count_singleton,
    beq_eq_false_iff_ne.2 hne]
  simpa using hfrontier

/-- **One step:** a node that may not be repeated occurs no more often than before. -/
theorem occurrences_after (hs : s.LeadsToRepeatable) (hg : s.Accepts g)
    (hn : n.isRepeatable = false) : (s.after g).occurrences n ≤ s.occurrences n := by
  cases hr : g.node.isRepeatable with
  | false => exact occurrences_after_of_not_repeatable hg hr n
  | true =>
    refine occurrences_after_of_repeatable hr hn fun hbelow => ?_
    have := hs g.node (Node.mem_walkAll_of_mem hg.mem_frontier) hr n hbelow
    cases hn.symm.trans this

/-- **A run:** a node that may not be repeated occurs no more often than at the start. -/
theorem Reaches.occurrences_le (h : s.Reaches gs t) (hs : s.LeadsToRepeatable)
    (hn : n.isRepeatable = false) : t.occurrences n ≤ s.occurrences n := by
  induction h with
  | nil => exact Nat.le_refl _
  | cons hg _ ih =>
    have hafter := ih fun r hr => hs r (mem_walkAll_frontier_after hg hr)
    exact Nat.le_trans hafter (occurrences_after hs hg hn)

/-- **Nothing is matched again by itself.** Between two matches of a node that may not be repeated a
node that it follows was matched. -/
theorem Reaches.exists_between {before between after : List Node} (h : s.Reaches gs t)
    (hp : p.isRepeatable = false)
    (hgs : gs.map Group.node = before ++ p :: (between ++ p :: after)) :
    ∃ n ∈ between, p ∈ n.successors := by
  obtain ⟨gs₁, tail₁, rfl, -, h₁⟩ := List.map_eq_append_iff.1 hgs
  obtain ⟨g, tail₂, rfl, hg, h₂⟩ := List.map_eq_cons_iff.1 h₁
  obtain ⟨gs₂, tail₃, rfl, hbetween, h₃⟩ := List.map_eq_append_iff.1 h₂
  obtain ⟨k, gs₃, rfl, hk, -⟩ := List.map_eq_cons_iff.1 h₃
  obtain ⟨u, -, hu⟩ := h.exists_of_append
  cases hu with
  | cons _ hafter =>
    obtain ⟨v, huv, hv⟩ := hafter.exists_of_append
    cases hv with
    | cons hkv _ =>
      have hleft : p ∉ (u.after g).frontier := hg ▸ notMem_frontier_after (hg ▸ hp)
      obtain ⟨m, hm, hsuccessor⟩ := huv.exists_mem_successors hleft (hk ▸ hkv.mem_frontier)
      exact ⟨m.node, hbetween ▸ List.mem_map_of_mem hm, hsuccessor⟩

/-! ### What is kept -/

/-- The parameter is bound to all of the items that the groups give it. -/
def Keeps (s : State) (gs : List Group) (p : Node) : Prop :=
  (s.bindings.get? p).map Binding.items = some (itemsOf gs p)

end State

/-- All items are kept by what may be repeated, and by what has just one. -/
lemma Binding.items_gathered_eq_iff (p : Node) (items : List Item) :
    (Binding.gathered p items).items = items ↔ p.isRepeatable = true ∨ items.length = 1 := by
  unfold Binding.gathered
  cases p.isRepeatable with
  | true => simp [Binding.items]
  | false =>
    simp only [Bool.false_eq_true, if_false, false_or, Binding.items]
    constructor
    · intro h
      rw [← h]
      rfl
    · intro h
      obtain ⟨item, rfl⟩ := List.length_eq_one_iff.1 h
      rfl

namespace State.Reaches

variable {root : Root} {s : State} {gs : List Group} {p : Node}

/-- **What is kept.** A parameter that was matched has all of its items exactly when it may be
repeated or was matched once. -/
theorem keeps_iff (h : (start root).Reaches gs s) (hp : p ∈ s.trace)
    (hparameter : p.isParameter = true) :
    s.Keeps gs p ↔ p.isRepeatable = true ∨ s.trace.count p = 1 := by
  rw [h.trace_of_start] at hp ⊢
  have hbound := Bindings.get?_gathered (mem_parametersOf.2 ⟨hp, hparameter⟩)
  rw [← h.bindings_eq] at hbound
  rw [Keeps, hbound, Option.map_some, Option.some_inj, Binding.items_gathered_eq_iff,
    itemsOf_length]

end State.Reaches

/-! ### Roots -/

/-- The root offers every node that may not be repeated in one place, and none below a node that may
be repeated. -/
structure Root.OffersOnce (root : Root) : Prop where
  count_le_one : ∀ n ∈ root.walk, n.isRepeatable = false → root.walk.count n ≤ 1
  below : ∀ r ∈ root.walk, r.isRepeatable = true →
    ∀ n ∈ Node.walkAll r.successors, n.isRepeatable = true

instance (root : Root) : Decidable root.OffersOnce :=
  decidable_of_iff
    ((∀ n ∈ root.walk, n.isRepeatable = false → root.walk.count n ≤ 1) ∧
      ∀ r ∈ root.walk, r.isRepeatable = true →
        ∀ n ∈ Node.walkAll r.successors, n.isRepeatable = true)
    ⟨fun ⟨h, h'⟩ => ⟨h, h'⟩, fun ⟨h, h'⟩ => ⟨h, h'⟩⟩

/-- A tree offers every node in one place, and nothing follows its parameters. -/
lemma Root.IsTree.offersOnce {root : Root} (h : root.IsTree) : root.OffersOnce where
  count_le_one := fun n _ _ => List.nodup_iff_count_le_one.1 h.numbers_nodup.of_map n
  below := by
    intro r hr hrepeatable n hn
    have hparameter : r.isParameter = true :=
      Node.isParameter_iff.2 (Node.isCommand_eq_false_of_isRepeatable hrepeatable)
    rw [((h.isBuilt r hr).of_isParameter hparameter).1] at hn
    cases hn

/-- **The root of a finished grammar offers every node once.** -/
theorem Registry.offersOnce_of_finish {registry : Registry} {isStrict : Bool} {next : Nat}
    {grammar : Grammar} (h : registry.finish isStrict next = .ok grammar) :
    grammar.root.OffersOnce :=
  (isTree_of_finish h).offersOnce

/-- Over a root that offers it once, a node that may not be repeated is matched once at most. -/
lemma State.Reaches.count_le_one {root : Root} {s : State} {gs : List Group} {p : Node}
    (h : (start root).Reaches gs s) (ho : root.OffersOnce) (hp : p.isRepeatable = false) :
    s.trace.count p ≤ 1 := by
  have hle : s.occurrences p ≤ (start root).occurrences p := h.occurrences_le ho.below hp
  have hstart : (start root).occurrences p = root.walk.count p := by
    rw [occurrences, start, List.count_nil, Nat.add_zero]
    rfl
  have hone : root.walk.count p ≤ 1 := by
    by_cases hmem : p ∈ root.walk
    · exact ho.count_le_one p hmem hp
    · rw [List.count_eq_zero_of_not_mem hmem]
      exact Nat.zero_le 1
  rw [hstart, occurrences] at hle
  omega

/-! ### A value after a flag -/

namespace ValueAfterFlag

/-- The value, a positional parameter that may not be repeated. -/
def value : Node :=
  .mk { number := 0, name := "val", help := none, isHidden := false
        priority := priorityOfKind (some .simple)
        role := .parameter { kind := some .simple, aliases := [], repeatable := false
                             required := false } } [] []

/-- The flag that the value follows. -/
def flag (isRepeatable : Bool) : Node :=
  .mk { number := 1, name := "--r", help := none, isHidden := false
        priority := priorityOfKind (some .flag)
        role := .parameter { kind := some .flag, aliases := [], repeatable := isRepeatable
                             required := false } } [] [value]

/-- The command that declares the flag. -/
def command (isRepeatable : Bool) : Node :=
  .mk { number := 2, name := "cfg", help := none, isHidden := false, priority := defaultPriority
        role := .command none } [flag isRepeatable] [flag isRepeatable]

/-- The root over the command. -/
def root (isRepeatable : Bool) : Root := ⟨[command isRepeatable], by simp [command]; rfl⟩

/-- The nodes are those made by hand of these arguments. -/
example (isRepeatable : Bool) :
    Node.ofParameterDraft 0 { name := .text "val", kind := some .simple } = .ok value ∧
    Node.ofParameterDraft 1 { name := .text "--r", kind := some .flag
                              successors := .list [.node value]
                              repeatable := .truth isRepeatable } = .ok (flag isRepeatable) ∧
    Node.ofCommandDraft 2 { name := .text "cfg"
                            parameters := .list [.node (flag isRepeatable)] } =
      .ok (command isRepeatable) := by
  cases isRepeatable <;> decide +kernel

end ValueAfterFlag

/-! ### Matched lines -/

/-- **What a line keeps.** The items typed for a parameter are all bound at the end exactly when the
parameter may be repeated or was matched once. A node that may not be repeated is matched again only
after one that it follows; and over a root that offers each such node once, none is matched again, so
that every item typed is kept. -/
theorem parse_kept {root : Root} {tokens : List String} {s : State}
    (hp : parse tokens root = .ok s) :
    ∃ gs, Splits gs s.trace tokens ∧ (∀ hs, Splits hs s.trace tokens → hs = gs) ∧
      (∀ p ∈ s.trace, p.isParameter = true →
        (s.Keeps gs p ↔ p.isRepeatable = true ∨ s.trace.count p = 1)) ∧
      (∀ (p : Node) (before between after : List Node), p.isRepeatable = false →
        s.trace = before ++ p :: (between ++ p :: after) → ∃ n ∈ between, p ∈ n.successors) ∧
      (root.OffersOnce → ∀ p ∈ s.trace,
        (p.isRepeatable = false → s.trace.count p = 1) ∧
        (p.isParameter = true → s.Keeps gs p)) := by
  obtain ⟨gs, hr, rfl⟩ := parse_eq_ok_iff.1 hp
  refine ⟨gs, hr.splits, fun hs => hr.splits.unique, fun p => hr.keeps_iff, ?_, ?_⟩
  · intro p before between after hrepeatable htrace
    rw [hr.trace_of_start] at htrace
    exact hr.exists_between hrepeatable htrace
  · intro ho p hmem
    have hone : p.isRepeatable = false → s.trace.count p = 1 := fun hrepeatable =>
      Nat.le_antisymm (hr.count_le_one ho hrepeatable) (List.count_pos_iff.2 hmem)
    refine ⟨hone, fun hparameter => (hr.keeps_iff hmem hparameter).2 ?_⟩
    cases hrepeatable : p.isRepeatable with
    | true => exact .inl rfl
    | false => exact .inr (hone hrepeatable)

open ValueAfterFlag in
/-- After a flag that may not be repeated the value is matched once. -/
theorem parse_kept_value : ∃ s gs, parse ["cfg", "--r", "x"] (root false) = .ok s ∧
    (root false).OffersOnce ∧ Splits gs s.trace ["cfg", "--r", "x"] ∧ s.Keeps gs value := by
  obtain ⟨s, hs, hmem⟩ := exists_ok_of_any (e := parse ["cfg", "--r", "x"] (root false))
    (p := fun s => value ∈ s.trace) (by decide +kernel)
  have ho : (root false).OffersOnce := by decide +kernel
  obtain ⟨gs, hsplits, -, -, -, hkept⟩ := parse_kept hs
  exact ⟨s, gs, hs, ho, hsplits, (hkept ho value (of_decide_eq_true hmem)).2 rfl⟩

open ValueAfterFlag in
/-- A flag that may be repeated brings the value back, and what was typed first is lost. -/
theorem parse_value_lost : ∃ s gs,
    parse ["cfg", "--r", "x", "--r", "y"] (root true) = .ok s ∧
    Splits gs s.trace ["cfg", "--r", "x", "--r", "y"] ∧ value.isRepeatable = false ∧
    s.trace.count value = 2 ∧ itemsOf gs value = [.word "x", .word "y"] ∧
    s.bindings.get? value = some (.single (.word "y")) ∧ ¬ s.Keeps gs value := by
  obtain ⟨s, hs, h⟩ := exists_ok_of_any (e := parse ["cfg", "--r", "x", "--r", "y"] (root true))
    (p := fun s => s.trace = [command true, flag true, value, flag true, value] ∧
      s.bindings.get? value = some (.single (.word "y"))) (by decide +kernel)
  obtain ⟨htrace, hbound⟩ := of_decide_eq_true h
  let gs : List Group := [⟨command true, "cfg", none⟩, ⟨flag true, "--r", none⟩,
    ⟨value, "x", none⟩, ⟨flag true, "--r", none⟩, ⟨value, "y", none⟩]
  have hsplits : Splits gs s.trace ["cfg", "--r", "x", "--r", "y"] :=
    ⟨htrace ▸ rfl, rfl, by decide +kernel⟩
  have hitems : itemsOf gs value = [.word "x", .word "y"] := by decide +kernel
  refine ⟨s, gs, hs, hsplits, rfl, ?_, hitems, hbound, ?_⟩
  · rw [htrace]
    decide +kernel
  · rw [State.Keeps, hbound, hitems]
    decide

end CommandGrammar
