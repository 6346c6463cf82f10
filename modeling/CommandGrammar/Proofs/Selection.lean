import CommandGrammar.Proofs.Run
import Mathlib.Data.List.Lattice

/-!
What is selected at a frontier. A selection comes about by the first positional parameter or by the
literal candidates of the highest priority, so what is chosen is always a node of the frontier. A
word that is a literal of just one node chooses that node when no positional parameter has a higher
priority, so among clear siblings a literal always chooses its node.
-/

namespace CommandGrammar

namespace Node

variable {n : Node} {word : String}

lemma isAbbreviatedBy_iff : n.isAbbreviatedBy word = true ↔
    ∃ literal ∈ n.literals, word.toList <+: literal.toList := by
  simp [isAbbreviatedBy]

lemma isNamedBy_iff : n.isNamedBy word = true ↔ word ∈ n.literals := by
  simp [isNamedBy]

lemma literals_of_isCommand (h : n.isCommand = true) : n.literals = [n.name] := by
  unfold isCommand at h
  unfold literals
  split at h
  · rfl
  · rfl
  · cases h

/-- A positional parameter has no literals. -/
lemma isPositional_eq_false (h : word ∈ n.literals) : n.isPositional = false := by
  unfold isPositional kind? traits?
  unfold literals at h
  split at h
  · next hr => simp [hr]
  · next hr => simp [hr]
  · next traits hr =>
    split at h
    · cases h
    · next hk => simp [hr, hk]
    · next hk => simp [hr, hk]
    · next hk => simp [hr, hk]

lemma isAbbreviatedBy_of_isNamedBy (h : n.isNamedBy word = true) :
    n.isAbbreviatedBy word = true :=
  isAbbreviatedBy_iff.2 ⟨word, isNamedBy_iff.1 h, List.prefix_rfl⟩

end Node

namespace Frontier

variable {frontier : List Node} {word : String} {n : Node} {top : Int}

lemma mem_of_mem_candidates (h : n ∈ candidates frontier word) :
    n ∈ frontier ∧ n.isAbbreviatedBy word = true := by
  unfold candidates at h
  split at h
  · exact List.mem_filter.1 h
  · obtain ⟨hn, hw⟩ := List.mem_filter.1 h
    exact ⟨hn, Node.isAbbreviatedBy_of_isNamedBy hw⟩

lemma topPriority?_eq_some_iff {nodes : List Node} : topPriority? nodes = some top ↔
    (∃ n ∈ nodes, n.priority = top) ∧ ∀ n ∈ nodes, n.priority ≤ top := by
  rw [topPriority?, List.max?_eq_some_iff, List.mem_map, List.forall_mem_map]

lemma topPriority?_eq_none_iff {nodes : List Node} : topPriority? nodes = none ↔ nodes = [] := by
  rw [topPriority?, List.max?_eq_none_iff, List.map_eq_nil_iff]

lemma mem_named : n ∈ named frontier word ↔ n ∈ frontier ∧ word ∈ n.literals := by
  rw [named, List.mem_filter, Node.isNamedBy_iff]

lemma atPriority_named (frontier : List Node) (word : String) (priority : Int) :
    atPriority (named frontier word) priority =
      frontier.filter fun m => m.isNamedBy word && m.priority == priority := by
  rw [atPriority, named, List.filter_filter]
  simp only [Bool.and_comm]

/-- A literal of a node at the frontier stands for the nodes that have it, and not for those that it
abbreviates. -/
lemma candidates_eq_named (hn : n ∈ frontier) (hw : word ∈ n.literals) :
    candidates frontier word = named frontier word := by
  have hne : named frontier word ≠ [] := List.ne_nil_of_mem (mem_named.2 ⟨hn, hw⟩)
  rw [candidates, if_neg (by simpa using hne)]

/-- How a selection comes about: by the first positional parameter or by the literal candidates of
the highest priority. -/
inductive Selects (frontier : List Node) (word : String) : Selection → Prop
  | nothing : candidates frontier word = [] → positional? frontier = none →
    Selects frontier word .nothing
  | positional {p : Node} : positional? frontier = some p →
    (∀ n ∈ candidates frontier word, n.priority < p.priority) → Selects frontier word (.chosen p)
  | literal {n : Node} {top : Int} : topPriority? (candidates frontier word) = some top →
    atPriority (candidates frontier word) top = [n] →
    (∀ p ∈ positional? frontier, p.priority ≤ top) → Selects frontier word (.chosen n)
  | tied {top : Int} : topPriority? (candidates frontier word) = some top →
    2 ≤ (atPriority (candidates frontier word) top).length →
    (∀ p ∈ positional? frontier, p.priority ≤ top) →
    Selects frontier word (.tied (atPriority (candidates frontier word) top))
  | blocked {n : Node} : n ∈ frontier → n.isKindless = true → Selects frontier word .blocked

lemma selects_selectAmong (htop : topPriority? (candidates frontier word) = some top)
    (hp : ∀ p ∈ positional? frontier, p.priority ≤ top) :
    Selects frontier word (selectAmong (candidates frontier word) top) := by
  unfold selectAmong
  split
  · next n hn => exact .literal htop hn hp
  · next hn =>
    refine .tied htop ?_ hp
    obtain ⟨⟨n, hmem, hprio⟩, -⟩ := topPriority?_eq_some_iff.1 htop
    have hin : n ∈ atPriority (candidates frontier word) top :=
      List.mem_filter.2 ⟨hmem, beq_iff_eq.2 hprio⟩
    have hpos := List.length_pos_of_mem hin
    have hone : (atPriority (candidates frontier word) top).length ≠ 1 := fun h => by
      obtain ⟨m, hm⟩ := List.length_eq_one_iff.1 h
      exact hn m hm
    omega

/-- **Every selection comes about in one of these ways.** -/
theorem selects_select (frontier : List Node) (word : String) :
    Selects frontier word (select frontier word) := by
  unfold select
  split
  · next hk =>
    obtain ⟨n, hn, hkind⟩ := List.any_eq_true.1 hk
    exact .blocked hn hkind
  · dsimp only
    split
    · next hp htop => exact .nothing (topPriority?_eq_none_iff.1 htop) hp
    · next p hp htop =>
      refine .positional hp fun n hn => ?_
      rw [topPriority?_eq_none_iff.1 htop] at hn
      cases hn
    · next top hp htop => exact selects_selectAmong htop (by simp [hp])
    · next p top hp htop =>
      split
      · next hlt =>
        refine .positional hp fun n hn => ?_
        exact Int.lt_of_le_of_lt ((topPriority?_eq_some_iff.1 htop).2 n hn) hlt
      · next hlt => exact selects_selectAmong htop (by simpa [hp] using Int.not_lt.1 hlt)

/-- A selection that comes about in one of the ways that there are is the one that is made. -/
theorem select_eq_iff {selection : Selection} (hk : ∀ m ∈ frontier, m.isKindless = false) :
    select frontier word = selection ↔ Selects frontier word selection := by
  constructor
  · rintro rfl
    exact selects_select frontier word
  · intro h
    have hany : ¬ frontier.any Node.isKindless = true := by simpa using hk
    rw [select, if_neg hany]
    cases h with
    | nothing hnone hp => simp only [hp, topPriority?_eq_none_iff.2 hnone]
    | @positional p hp hlt =>
      cases htop : topPriority? (candidates frontier word) with
      | none => simp only [hp, htop]
      | some top =>
        obtain ⟨⟨m, hm, rfl⟩, -⟩ := topPriority?_eq_some_iff.1 htop
        simp only [hp, htop, if_pos (hlt m hm)]
    | literal htop hsingle hle =>
      cases hp : positional? frontier with
      | none => simp only [htop, selectAmong, hsingle]
      | some p => simp only [htop, if_neg (Int.not_lt.2 (hle p hp)), selectAmong, hsingle]
    | @tied top htop htwo hle =>
      have hamong : selectAmong (candidates frontier word) top =
          .tied (atPriority (candidates frontier word) top) := by
        unfold selectAmong
        split
        · next n hsingle =>
          rw [hsingle] at htwo
          cases Nat.not_succ_le_self 1 htwo
        · rfl
      cases hp : positional? frontier with
      | none => simp only [htop, hamong]
      | some p => simp only [htop, if_neg (Int.not_lt.2 (hle p hp)), hamong]
    | blocked hn hkind => cases (hk _ hn).symm.trans hkind

/-- **What is chosen** is the first positional parameter or a literal candidate, and a frontier with
a parameter of no kind chooses nothing. -/
theorem cases_of_select (h : select frontier word = .chosen n) :
    (∀ m ∈ frontier, m.isKindless = false) ∧
      (positional? frontier = some n ∨ n ∈ candidates frontier word) := by
  constructor
  · intro m hm
    by_contra hk
    rw [Bool.not_eq_false] at hk
    rw [select, if_pos (List.any_eq_true.2 ⟨m, hm, hk⟩)] at h
    cases h
  · have hs := selects_select frontier word
    rw [h] at hs
    cases hs with
    | positional hp _ => exact .inl hp
    | literal _ hn _ =>
      have hmem : n ∈ atPriority (candidates frontier word) _ := hn ▸ List.mem_singleton_self n
      exact .inr (List.mem_of_mem_filter hmem)

/-- A node that is chosen without being positional is preferred to the first positional
parameter. -/
lemma positional_le_of_select (h : select frontier word = .chosen n)
    (hn : n.isPositional = false) : ∀ p ∈ positional? frontier, p.priority ≤ n.priority := by
  have hs := selects_select frontier word
  rw [h] at hs
  cases hs with
  | positional hp _ => cases hn.symm.trans (List.find?_some hp)
  | @literal _ top _ hsingle hp =>
    have hin : n ∈ atPriority (candidates frontier word) top := hsingle ▸ List.mem_singleton_self n
    rw [beq_iff_eq.1 (List.mem_filter.1 hin).2]
    exact hp

/-- The node has the word for a literal, and neither another one that has it nor the first
positional parameter has a higher priority. -/
structure Prefers (frontier : List Node) (word : String) (n : Node) : Prop where
  mem : n ∈ frontier
  literal_mem : word ∈ n.literals
  priority_le : ∀ m ∈ frontier, word ∈ m.literals → m.priority ≤ n.priority
  positional_le : ∀ p ∈ positional? frontier, p.priority ≤ n.priority

/-- **A literal that no two nodes carry at one priority** chooses the node that is preferred for
it. -/
theorem select_eq_chosen_iff (hk : ∀ m ∈ frontier, m.isKindless = false)
    (hone : ∀ priority,
      (frontier.filter fun m => m.isNamedBy word && m.priority == priority).length < 2)
    (hn : n ∈ frontier) (hw : word ∈ n.literals) :
    select frontier word = .chosen n ↔ Prefers frontier word n := by
  have hmem : ∀ m ∈ frontier, word ∈ m.literals → m ∈ candidates frontier word := by
    intro m hm hmw
    rw [candidates_eq_named hn hw]
    exact mem_named.2 ⟨hm, hmw⟩
  rw [select_eq_iff hk]
  constructor
  · intro h
    cases h with
    | positional hp _ =>
      cases (List.find?_some hp).symm.trans (Node.isPositional_eq_false hw)
    | literal htop hsingle hp =>
      have hin : n ∈ atPriority (candidates frontier word) _ := hsingle ▸ List.mem_singleton_self n
      have htop' := beq_iff_eq.1 (List.mem_filter.1 hin).2
      subst htop'
      exact ⟨hn, hw, fun m hm hmw => (topPriority?_eq_some_iff.1 htop).2 m (hmem m hm hmw), hp⟩
  · intro h
    have htop : topPriority? (candidates frontier word) = some n.priority := by
      refine topPriority?_eq_some_iff.2 ⟨⟨n, hmem n hn hw, rfl⟩, fun m hm => ?_⟩
      rw [candidates_eq_named hn hw] at hm
      exact h.priority_le m (mem_named.1 hm).1 (mem_named.1 hm).2
    have hin : n ∈ atPriority (candidates frontier word) n.priority :=
      List.mem_filter.2 ⟨hmem n hn hw, beq_self_eq_true n.priority⟩
    have hlength : (atPriority (candidates frontier word) n.priority).length < 2 := by
      rw [candidates_eq_named hn hw, atPriority_named]
      exact hone n.priority
    obtain ⟨m, hsingle⟩ := List.length_eq_one_iff.1
      (Nat.le_antisymm (Nat.le_of_lt_succ hlength) (List.length_pos_of_mem hin))
    rw [hsingle] at hin
    obtain rfl := List.mem_singleton.1 hin
    exact .literal htop hsingle h.positional_le

/-- A word chooses the one node that has it as a literal, unless the first positional parameter has
a higher priority. -/
theorem select_of_named (hk : ∀ m ∈ frontier, m.isKindless = false)
    (hn : named frontier word = [n]) (hp : ∀ p ∈ positional? frontier, p.priority ≤ n.priority) :
    select frontier word = .chosen n := by
  have honly : ∀ m, m ∈ frontier ∧ word ∈ m.literals ↔ m = n := by
    intro m
    rw [← mem_named, hn, List.mem_singleton]
  obtain ⟨hmem, hw⟩ := (honly n).2 rfl
  refine (select_eq_chosen_iff hk (fun priority => ?_) hmem hw).2 ⟨hmem, hw, ?_, ?_⟩
  · rw [← atPriority_named, hn]
    exact Nat.lt_succ_of_le (List.length_filter_le _ _)
  · exact fun m hm hmw => Int.le_of_eq (congrArg Node.priority ((honly m).1 ⟨hm, hmw⟩))
  · exact hp

/-! ### Clear siblings -/

/-- Siblings that share no literals, and of which no positional one has a priority above that of
another node. -/
structure IsClear (siblings : List Node) : Prop where
  literals_disjoint : siblings.Pairwise fun m n => m.literals.Disjoint n.literals
  priority_le : ∀ p ∈ siblings, p.isPositional = true →
    ∀ n ∈ siblings, n.isPositional = false → p.priority ≤ n.priority

instance (siblings : List Node) : Decidable (IsClear siblings) :=
  decidable_of_iff
    ((siblings.Pairwise fun m n : Node => ∀ literal ∈ m.literals, literal ∉ n.literals) ∧
      ∀ p ∈ siblings, p.isPositional = true →
        ∀ n ∈ siblings, n.isPositional = false → p.priority ≤ n.priority)
    ⟨fun h => ⟨h.1, h.2⟩, fun h => ⟨h.1, h.2⟩⟩

/-- Of nodes that share no literals one at most has the word. -/
lemma named_eq_singleton (h : frontier.Pairwise fun m n => m.literals.Disjoint n.literals)
    (hn : n ∈ frontier) (hw : word ∈ n.literals) : named frontier word = [n] := by
  induction frontier with
  | nil => cases hn
  | cons m ms ih =>
    obtain ⟨hm, hms⟩ := List.pairwise_cons.1 h
    rw [named, List.filter_cons]
    rcases List.mem_cons.1 hn with rfl | hn
    · rw [if_pos (Node.isNamedBy_iff.2 hw)]
      congr 1
      rw [List.filter_eq_nil_iff]
      exact fun k hk hkw => hm k hk hw (Node.isNamedBy_iff.1 hkw)
    · have hno : ¬ m.isNamedBy word = true := fun hmw => hm n hn (Node.isNamedBy_iff.1 hmw) hw
      rw [if_neg hno]
      exact ih hms hn

/-- **Among clear siblings a literal chooses its node,** whichever of the others have left. -/
theorem IsClear.select_eq {siblings : List Node} (h : IsClear siblings)
    (hk : ∀ m ∈ siblings, m.isKindless = false) (hsub : frontier.Sublist siblings)
    (hn : n ∈ frontier) (hw : word ∈ n.literals) : select frontier word = .chosen n := by
  refine select_of_named (fun m hm => hk m (hsub.subset hm))
    (named_eq_singleton (h.literals_disjoint.sublist hsub) hn hw) fun p hp => ?_
  exact h.priority_le p (hsub.subset (List.mem_of_find?_eq_some hp)) (List.find?_some hp) n
    (hsub.subset hn) (Node.isPositional_eq_false hw)

end Frontier

namespace State.Accepts

variable {s : State} {g : Group}

lemma mem_frontier (h : s.Accepts g) : g.node ∈ s.frontier := by
  rcases (Frontier.cases_of_select h.chosen).2 with hp | hc
  · exact List.mem_of_find?_eq_some hp
  · exact (Frontier.mem_of_mem_candidates hc).1

/-- The word of a group begins a literal of its node, or else the node is positional. -/
lemma begins_literal (h : s.Accepts g) (hp : g.node.isPositional = false) :
    ∃ literal ∈ g.node.literals, g.word.toList <+: literal.toList := by
  rcases (Frontier.cases_of_select h.chosen).2 with hpos | hc
  · have := List.find?_some hpos
    simp [hp] at this
  · exact Node.isAbbreviatedBy_iff.1 (Frontier.mem_of_mem_candidates hc).2

end State.Accepts

end CommandGrammar
