import CommandGrammar.Proofs.Faults

/-!
Frontiers without repetitions. Where no node offers another one twice, no frontier holds a node
twice, though nodes may be shared and a parameter's own successors go before what was there: of what
was there the advance keeps only the others. So a word is ambiguous between different nodes, which
all have one priority, and never between a node and itself.
-/

namespace CommandGrammar

namespace Frontier

variable {frontier nodes : List Node} {word : String} {n p : Node}

/-- **Advancing past a parameter repeats no node,** also when its successors were there before. -/
theorem nodup_advance (hf : frontier.Nodup) (hp : p.successors.Nodup) :
    (advance frontier p).Nodup := by
  have hkept : ((frontier.filter fun n => n ≠ p || p.isRepeatable).filter
      fun n => n ∉ p.successors).Nodup := (hf.filter _).filter _
  refine List.nodup_append'.2 ⟨hp, hkept, fun n hn hkeptn => ?_⟩
  have hout : n ∉ p.successors := of_decide_eq_true (List.mem_filter.1 hkeptn).2
  exact hout hn

/-- A frontier at which nodes tie has no parameter of no kind. -/
lemma isKindless_eq_false_of_tied (h : select frontier word = .tied nodes) :
    ∀ n ∈ frontier, n.isKindless = false := by
  intro n hn
  by_contra hk
  rw [Bool.not_eq_false] at hk
  have hany : frontier.any Node.isKindless = true := List.any_eq_true.2 ⟨n, hn, hk⟩
  rw [select, if_pos hany] at h
  cases h

/-- Leaders have one priority. -/
lemma priority_eq_of_mem_leaders {m : Node} (hm : m ∈ leaders frontier word)
    (hn : n ∈ leaders frontier word) : m.priority = n.priority := by
  obtain ⟨hmf, hmc, hmmost⟩ := mem_leaders.1 hm
  obtain ⟨hnf, hnc, hnmost⟩ := mem_leaders.1 hn
  exact Int.le_antisymm (hnmost m hmf hmc) (hmmost n hnf hnc)

end Frontier

/-- Neither the root nor a node of the grammar offers a node twice; two of them may offer the
same. -/
structure Root.OffersDistinct (root : Root) : Prop where
  nodup : root.successors.Nodup
  nodup_successors : ∀ n ∈ root.walk, n.successors.Nodup

instance (root : Root) : Decidable root.OffersDistinct :=
  decidable_of_iff (root.successors.Nodup ∧ ∀ n ∈ root.walk, n.successors.Nodup)
    ⟨fun ⟨h, h'⟩ => ⟨h, h'⟩, fun ⟨h, h'⟩ => ⟨h, h'⟩⟩

namespace State

variable {s t : State} {g : Group} {gs : List Group} {root : Root}

/-- One step: whatever is matched, the frontier after it repeats no node. -/
lemma nodup_frontier_after (hs : s.frontier.Nodup) (hg : g.node.successors.Nodup) :
    (s.after g).frontier.Nodup := by
  by_cases hc : g.node.isCommand = true
  · rw [after_of_isCommand hc]
    exact hg
  · rw [Bool.not_eq_true] at hc
    rw [after_of_isParameter hc]
    exact Frontier.nodup_advance hs hg

/-- **No frontier holds a node twice,** however far a line was matched. -/
theorem Reaches.nodup_frontier (h : (start root).Reaches gs t) (hd : root.OffersDistinct) :
    t.frontier.Nodup := by
  -- with the frontier, all that can still come to it offers no node twice
  have hboth : t.frontier.Nodup ∧ ∀ n ∈ Node.walkAll t.frontier, n.successors.Nodup := by
    refine h.invariant
      (P := fun u => u.frontier.Nodup ∧ ∀ n ∈ Node.walkAll u.frontier, n.successors.Nodup) ?_
      ⟨hd.nodup, hd.nodup_successors⟩
    rintro u g ⟨hu, hwalk⟩ hg
    have hnode := hwalk g.node (Node.mem_walkAll_of_mem hg.mem_frontier)
    exact ⟨nodup_frontier_after hu hnode, fun n hn => hwalk n (mem_walkAll_frontier_after hg hn)⟩
  exact hboth.1

end State

/-! ### Ambiguous words -/

/-- The nodes are at least two, all of them different and of one priority. -/
structure IsTie (nodes : List Node) : Prop where
  nodup : nodes.Nodup
  exists_ne : ∃ m ∈ nodes, ∃ n ∈ nodes, m ≠ n
  priority_eq : ∀ m ∈ nodes, ∀ n ∈ nodes, m.priority = n.priority

section

variable {root : Root}

lemma exists_ne_of_nodup {nodes : List Node} (h : nodes.Nodup) (htwo : 2 ≤ nodes.length) :
    ∃ m ∈ nodes, ∃ n ∈ nodes, m ≠ n := by
  match nodes, h, htwo with
  | m :: n :: rest, h, _ =>
    have hm : m ∉ n :: rest := (List.nodup_cons.1 h).1
    refine ⟨m, List.mem_cons_self, n, List.mem_cons_of_mem m List.mem_cons_self, ?_⟩
    rintro rfl
    exact hm List.mem_cons_self

/-- Nodes that tie at a frontier without repetitions are different ones. -/
lemma State.isTie_of_tied {s : State} {word : String} {nodes : List Node}
    (h : Frontier.select s.frontier word = .tied nodes) (hs : s.frontier.Nodup) : IsTie nodes := by
  have hk := Frontier.isKindless_eq_false_of_tied h
  obtain ⟨rfl, htwo, -⟩ := (Frontier.select_eq_tied_iff hk).1 h
  have hnodup : (Frontier.leaders s.frontier word).Nodup := hs.filter _
  exact ⟨hnodup, exists_ne_of_nodup hnodup htwo,
    fun m hm n hn => Frontier.priority_eq_of_mem_leaders hm hn⟩

/-- **No frontier holds a node twice.** Where no node offers another one twice, whatever is matched
leaves a frontier of different nodes. So an ambiguity names at least two different nodes, all of one
priority, and none of them twice. -/
theorem parse_distinct (hd : root.OffersDistinct) :
    (∀ gs s, (State.start root).Reaches gs s → s.frontier.Nodup) ∧
    ∀ tokens fault, (runParse tokens root).result = .error (.fault fault) →
      fault.kind = .ambiguousMatch →
      ∃ nodes, fault.options.get? "candidates" = some (Fault.nodes nodes) ∧ IsTie nodes := by
  refine ⟨fun gs s hr => hr.nodup_frontier hd, fun tokens fault hresult hkind => ?_⟩
  obtain ⟨e, he, hfault⟩ := runParse_eq_fault_iff.1 hresult
  obtain ⟨gs, s, rest, hr, -, hend⟩ := (State.start root).exists_ends 1 tokens
  rw [← parse, he] at hend
  cases hend with
  | refused hchoose =>
    rcases State.choose_eq_error_iff.1 hchoose with ⟨nodes, htied, rfl⟩ | ⟨-, rfl⟩ | ⟨-, rfl⟩
    · cases hfault
      exact ⟨nodes, rfl, State.isTie_of_tied htied (hr.nodup_frontier hd)⟩
    · cases hfault
      cases hkind
    · cases hfault
  | unvalued =>
    cases hfault
    cases hkind

end

namespace ValueAfterFlag

/-- Another flag. -/
def otherFlag : Node :=
  .mk { number := 3, name := "--s", help := none, isHidden := false
        priority := priorityOfKind (some .flag)
        role := .parameter { kind := some .flag, aliases := [], repeatable := false
                             required := false } } [] []

/-- A command that offers the flag and also the value that follows it. -/
def sharingCommand : Node :=
  .mk { number := 4, name := "cfg", help := none, isHidden := false, priority := defaultPriority
        role := .command none } [flag true, value, otherFlag] [flag true, value, otherFlag]

/-- The root over that command. -/
def sharingRoot : Root := ⟨[sharingCommand], by simp [sharingCommand]; rfl⟩

end ValueAfterFlag

open ValueAfterFlag in
/-- After the flag its value is still offered once, though the command offers it as well; and what
both flags begin with is ambiguous between the two. -/
theorem parse_distinct_shared : sharingRoot.OffersDistinct ∧
    (∃ gs s, (State.start sharingRoot).Reaches gs s ∧ wordsOf gs = ["cfg", "--r"] ∧
      s.frontier = [value, flag true, otherFlag] ∧ s.frontier.Nodup) ∧
    ∃ fault nodes, (runParse ["cfg", "--r", "--"] sharingRoot).result = .error (.fault fault) ∧
      fault.kind = .ambiguousMatch ∧
      fault.options.get? "candidates" = some (Fault.nodes nodes) ∧ IsTie nodes := by
  have hd : sharingRoot.OffersDistinct := by decide +kernel
  obtain ⟨hfrontier, hambiguous⟩ := parse_distinct hd
  obtain ⟨s, hs, hall⟩ := exists_ok_of_any (e := parse ["cfg", "--r"] sharingRoot)
    (p := fun s => decide (s.frontier = [value, flag true, otherFlag] ∧
      s.choose 3 "--" = .error (.ambiguous "--" 3 [flag true, otherFlag] ["cfg", "--r"])))
    (by decide +kernel)
  obtain ⟨hadvanced, hchoose⟩ := of_decide_eq_true hall
  obtain ⟨gs, hr, hwords⟩ := parse_eq_ok_iff.1 hs
  have htied : parse (["cfg", "--r"] ++ ["--"]) sharingRoot =
      .error (.ambiguous "--" 3 [flag true, otherFlag] ["cfg", "--r"]) := by
    rw [parse, State.run_append hs]
    exact (State.Ends.refused hchoose).run_eq
  have hresult : (runParse ["cfg", "--r", "--"] sharingRoot).result =
      .error (.fault (.ofAmbiguous "--" 3 [flag true, otherFlag] ["cfg", "--r"])) :=
    runParse_eq_fault_iff.2 ⟨_, htied, rfl⟩
  obtain ⟨nodes, hnodes, htie⟩ := hambiguous _ _ hresult rfl
  exact ⟨hd, ⟨gs, s, hr, hwords, hadvanced, hfrontier gs s hr⟩,
    _, nodes, hresult, rfl, hnodes, htie⟩

end CommandGrammar
