import CommandGrammar.Demo
import CommandGrammar.Proofs.Continuation
import CommandGrammar.Proofs.Selection

/-!
Completions. They are the literals of visible nodes that begin with the word, each once. The rank of
a literal is the highest priority of a visible node that carries it; completions come by rank, and
those of one rank by themselves. Matching takes every completion, and when it takes the word itself
for a visible node with literals, one of these is a completion.
-/

namespace CommandGrammar

namespace Completion

/-! ### Ranks -/

/-- The highest priority of a visible node that has the literal. -/
def rank? (frontier : List Node) (literal : String) : Option Int :=
  Frontier.topPriority? ((Frontier.named frontier literal).filter fun n => !n.isHidden)

/-- The one literal comes before the other: its rank is higher, or the same and it is less. -/
def Outranks (frontier : List Node) (l m : String) : Prop :=
  ∃ j k, rank? frontier l = some j ∧ rank? frontier m = some k ∧ (k < j ∨ j = k ∧ l < m)

section Rank

variable {frontier : List Node} {literal : String} {rank : Int}

lemma rank?_eq_some_iff : rank? frontier literal = some rank ↔
    (∃ n ∈ frontier, n.isHidden = false ∧ literal ∈ n.literals ∧ n.priority = rank) ∧
      ∀ n ∈ frontier, n.isHidden = false → literal ∈ n.literals → n.priority ≤ rank := by
  rw [rank?, Frontier.topPriority?_eq_some_iff]
  simp only [List.mem_filter, Frontier.mem_named, Bool.not_eq_true', and_imp]
  constructor
  · rintro ⟨⟨n, ⟨⟨hn, hl⟩, hv⟩, hr⟩, hle⟩
    exact ⟨⟨n, hn, hv, hl, hr⟩, fun m hm hv hl => hle m hm hl hv⟩
  · rintro ⟨⟨n, hn, hv, hl, hr⟩, hle⟩
    exact ⟨⟨n, ⟨⟨hn, hl⟩, hv⟩, hr⟩, fun m hm hl hv => hle m hm hv hl⟩

end Rank

/-! ### Proposals in order -/

namespace Proposal

variable {p q r : Proposal}

lemma precedes_iff : p.precedes q = true ↔
    q.priority < p.priority ∨ p.priority = q.priority ∧ p.literal ≤ q.literal := by
  unfold precedes
  split
  · next h => simp [h]
  · next h => simp [h]

lemma precedes_trans (hpq : p.precedes q = true) (hqr : q.precedes r = true) :
    p.precedes r = true := by
  rw [precedes_iff] at hpq hqr ⊢
  rcases hpq with hpq | ⟨hpq, hl⟩
  · rcases hqr with hqr | ⟨hqr, -⟩
    · left
      omega
    · left
      omega
  · rcases hqr with hqr | ⟨hqr, hm⟩
    · left
      omega
    · exact .inr ⟨hpq.trans hqr, String.le_trans hl hm⟩

lemma precedes_total (p q : Proposal) : (p.precedes q || q.precedes p) = true := by
  rw [Bool.or_eq_true, precedes_iff, precedes_iff]
  rcases Int.lt_trichotomy p.priority q.priority with h | h | h
  · exact .inr (.inl h)
  · rcases String.le_total p.literal q.literal with hl | hl
    · exact .inl (.inr ⟨h, hl⟩)
    · exact .inr (.inr ⟨h.symm, hl⟩)
  · exact .inl (.inl h)

lemma precedes_antisymm (hpq : p.precedes q = true) (hqp : q.precedes p = true) : p = q := by
  rw [precedes_iff] at hpq hqp
  have hpriority : p.priority = q.priority := by omega
  have hliteral : p.literal = q.literal := String.le_antisymm
    ((hpq.resolve_left (by omega)).2) ((hqp.resolve_left (by omega)).2)
  cases p
  cases q
  cases hpriority
  cases hliteral
  rfl

lemma priority_le_of_precedes (h : p.precedes q = true) : q.priority ≤ p.priority := by
  rcases precedes_iff.1 h with h | ⟨h, -⟩
  · exact Int.le_of_lt h
  · exact Int.le_of_eq h.symm

end Proposal

/-- The literal is proposed with the priority, and with none that is higher. -/
def IsBest (ps : List Proposal) (literal : String) (priority : Int) : Prop :=
  ⟨priority, literal⟩ ∈ ps ∧ ∀ p ∈ ps, p.literal = literal → p.priority ≤ priority

section Sorted

variable {ps : List Proposal} {literal : String}

/-- Among proposals in order the first one of a literal is the best. -/
lemma exists_isBest (hs : ps.Pairwise fun p q => p.precedes q = true)
    (hl : literal ∈ ps.map Proposal.literal) : ∃ priority, IsBest ps literal priority := by
  induction ps with
  | nil => cases hl
  | cons p ps ih =>
    obtain ⟨hp, hps⟩ := List.pairwise_cons.1 hs
    by_cases hpl : p.literal = literal
    · subst hpl
      refine ⟨p.priority, List.mem_cons_self, fun q hq _ => ?_⟩
      rcases List.mem_cons.1 hq with rfl | hq
      · exact Int.le_refl _
      · exact Proposal.priority_le_of_precedes (hp q hq)
    · have hl' : literal ∈ ps.map Proposal.literal := by
        rw [List.map_cons, List.mem_cons] at hl
        exact hl.resolve_left (Ne.symm hpl)
      obtain ⟨priority, hmem, hle⟩ := ih hps hl'
      refine ⟨priority, List.mem_cons_of_mem p hmem, List.forall_mem_cons.2 ⟨?_, hle⟩⟩
      exact fun h => absurd h hpl

lemma IsBest.concat {priority : Int} {p : Proposal} (h : IsBest ps literal priority)
    (hp : ∀ q ∈ ps, q.precedes p = true) : IsBest (ps ++ [p]) literal priority := by
  refine ⟨List.mem_append_left _ h.1, fun q hq hql => ?_⟩
  rcases List.mem_append.1 hq with hq | hq
  · exact h.2 q hq hql
  · rw [List.mem_singleton.1 hq]
    exact Proposal.priority_le_of_precedes (hp _ h.1)

/-- The only proposal of its literal is the best. -/
lemma isBest_concat_self {p : Proposal} (hp : p.literal ∉ ps.map Proposal.literal) :
    IsBest (ps ++ [p]) p.literal p.priority := by
  refine ⟨List.mem_append_right _ (List.mem_singleton_self p), fun q hq hqp => ?_⟩
  rcases List.mem_append.1 hq with hq | hq
  · exact absurd (List.mem_map.2 ⟨q, hq, hqp⟩) hp
  · exact Int.le_of_eq (congrArg Proposal.priority (List.mem_singleton.1 hq))

/-- **Keeping the first proposal of each literal keeps the best ones in order.** -/
theorem pairwise_eraseDups (hs : ps.Pairwise fun p q => p.precedes q = true) :
    (ps.map Proposal.literal).eraseDups.Pairwise fun l m =>
      ∃ j k, IsBest ps l j ∧ IsBest ps m k ∧ (k < j ∨ j = k ∧ l < m) := by
  -- from the end: what was kept before stays, and the last proposal comes after all of it
  induction ps using List.reverseRecOn with
  | nil => simp
  | append_singleton ps p ih =>
    obtain ⟨hps, -, hlast⟩ := List.pairwise_append.1 hs
    have hbefore : ∀ q ∈ ps, q.precedes p = true :=
      fun q hq => hlast q hq p (List.mem_singleton_self p)
    have hkept : (ps.map Proposal.literal).eraseDups.Pairwise fun l m =>
        ∃ j k, IsBest (ps ++ [p]) l j ∧ IsBest (ps ++ [p]) m k ∧ (k < j ∨ j = k ∧ l < m) := by
      refine (ih hps).imp ?_
      rintro l m ⟨j, k, hl, hm, hjk⟩
      exact ⟨j, k, hl.concat hbefore, hm.concat hbefore, hjk⟩
    rw [List.map_append, List.map_singleton, eraseDups_concat]
    split
    · exact hkept
    · next hnew =>
      refine List.pairwise_append.2 ⟨hkept, List.pairwise_singleton _ _, fun l hl m hm => ?_⟩
      rw [List.mem_singleton.1 hm]
      obtain ⟨j, hj⟩ := exists_isBest hps (List.mem_eraseDups.1 hl)
      refine ⟨j, p.priority, hj.concat hbefore, isBest_concat_self hnew, ?_⟩
      rcases Proposal.precedes_iff.1 (hbefore _ hj.1) with h | ⟨h, hle⟩
      · exact .inl h
      · refine .inr ⟨h, String.not_le.1 fun hge => hnew ?_⟩
        rw [← String.le_antisymm hle hge]
        exact List.mem_eraseDups.1 hl

end Sorted

/-! ### Completions at a frontier -/

section Frontier

variable {frontier : List Node} {word literal : String} {p : Proposal} {rank : Int}

lemma mem_proposals : p ∈ proposals frontier word ↔
    ∃ n ∈ frontier, n.isHidden = false ∧ p.literal ∈ n.literals ∧
      word.toList <+: p.literal.toList ∧ n.priority = p.priority := by
  unfold proposals
  simp only [List.mem_flatMap, List.mem_filter, List.mem_map, Bool.not_eq_true',
    List.isPrefixOf_iff_prefix]
  constructor
  · rintro ⟨n, ⟨hn, hv⟩, l, ⟨hl, hw⟩, rfl⟩
    exact ⟨n, hn, hv, hl, hw, rfl⟩
  · rintro ⟨n, hn, hv, hl, hw, hp⟩
    refine ⟨n, ⟨hn, hv⟩, p.literal, ⟨hl, hw⟩, ?_⟩
    rw [hp]

/-- The best proposal of a literal has its rank. -/
lemma rank?_eq_some_of_isBest (h : IsBest (proposals frontier word) literal rank) :
    rank? frontier literal = some rank := by
  obtain ⟨hmem, hle⟩ := h
  obtain ⟨n, hn, hv, hl, hw, hr⟩ := mem_proposals.1 hmem
  refine rank?_eq_some_iff.2 ⟨⟨n, hn, hv, hl, hr⟩, fun m hm hv hl => ?_⟩
  exact hle ⟨m.priority, literal⟩ (mem_proposals.2 ⟨m, hm, hv, hl, hw, rfl⟩) rfl

/-- A completion begins with the word, and a visible node has it. -/
lemma mem_atFrontier : literal ∈ atFrontier frontier word ↔
    word.toList <+: literal.toList ∧
      ∃ n ∈ frontier, n.isHidden = false ∧ literal ∈ n.literals := by
  unfold atFrontier
  rw [List.mem_eraseDups, List.mem_map]
  constructor
  · rintro ⟨p, hp, rfl⟩
    obtain ⟨n, hn, hv, hl, hw, -⟩ := mem_proposals.1 (List.mem_mergeSort.1 hp)
    exact ⟨hw, n, hn, hv, hl⟩
  · rintro ⟨hw, n, hn, hv, hl⟩
    exact ⟨⟨n.priority, literal⟩,
      List.mem_mergeSort.2 (mem_proposals.2 ⟨n, hn, hv, hl, hw, rfl⟩), rfl⟩

lemma nodup_atFrontier (frontier : List Node) (word : String) : (atFrontier frontier word).Nodup :=
  nodup_eraseDups _

/-- **Completions come by rank,** and those of one rank in the order of literals. -/
theorem pairwise_atFrontier (frontier : List Node) (word : String) :
    (atFrontier frontier word).Pairwise (Outranks frontier) := by
  have hsorted : ((proposals frontier word).mergeSort Proposal.precedes).Pairwise
      fun p q => p.precedes q = true := by
    apply List.pairwise_mergeSort
    · exact fun _ _ _ => Proposal.precedes_trans
    · exact Proposal.precedes_total
  refine (pairwise_eraseDups hsorted).imp ?_
  rintro l m ⟨j, k, ⟨hl, hj⟩, ⟨hm, hk⟩, hjk⟩
  simp only [List.mem_mergeSort] at hl hj hm hk
  exact ⟨j, k, rank?_eq_some_of_isBest ⟨hl, hj⟩, rank?_eq_some_of_isBest ⟨hm, hk⟩, hjk⟩

/-- A visible node that the word stands for by a literal has a completion. -/
lemma exists_mem_atFrontier {n : Node} (h : Frontier.select frontier word = .chosen n)
    (hv : n.isHidden = false) (hp : n.isPositional = false) :
    ∃ literal ∈ n.literals, literal ∈ atFrontier frontier word := by
  rcases (Frontier.cases_of_select h).2 with hpos | hc
  · have := List.find?_some hpos
    simp [hp] at this
  · obtain ⟨hn, ha⟩ := Frontier.mem_of_mem_candidates hc
    obtain ⟨literal, hl, hw⟩ := Node.isAbbreviatedBy_iff.1 ha
    exact ⟨literal, hl, mem_atFrontier.2 ⟨hw, n, hn, hv, hl⟩⟩

end Frontier

lemma lastWord_concat (tokens : List String) (word : String) :
    lastWord (tokens ++ [word]) = (tokens, word) := by
  simp [lastWord]

end Completion

/-! ### Completions of a line -/

namespace State

variable {s : State} {position : Nat} {word : String}

/-- A word without a match has no candidates. -/
lemma candidates_of_noMatch {unmatched : String} {index : Nat} {candidates : List Node}
    {suggestions consumed : List String}
    (h : s.run position [word] = .error
      (.noMatch unmatched index candidates suggestions consumed)) :
    Frontier.candidates s.frontier word = [] := by
  rw [run] at h
  cases hchoose : s.choose position word with
  | ok n =>
    rw [hchoose] at h
    dsimp only at h
    split at h
    · cases h
    · cases h
  | error e =>
    rw [hchoose] at h
    cases h
    rcases choose_eq_error_iff.1 hchoose with ⟨nodes, -, he⟩ | ⟨hnothing, -⟩ | ⟨-, he⟩
    · cases he
    · cases hnothing ▸ Frontier.selects_select s.frontier word with
      | nothing hc _ => exact hc
    · cases he

end State

/-- **Completion is sound, complete and ordered.** The last word completes to nothing where it is
the value of a parameter, and an error in the words before it stays. Otherwise its completions are,
each once and by rank, the literals that begin with it and are carried by visible nodes of the
frontier that those words lead to; matching finds a candidate for each of them, and a visible node
with literals that the word itself stands for has one of them. -/
theorem complete_concat (root : Root) (head : List String) (word : String) :
    (∀ taker n index consumed, parse head root = .error (.missingValue taker n index consumed) →
      complete (head ++ [word]) root = .ok []) ∧
    (∀ e, parse head root = .error e → e.IsFinal → complete (head ++ [word]) root = .error e) ∧
    ∀ s, parse head root = .ok s → ∃ completions, complete (head ++ [word]) root = .ok completions ∧
      completions.Nodup ∧
      (∀ literal, literal ∈ completions ↔ word.toList <+: literal.toList ∧
        ∃ n ∈ s.frontier, n.isHidden = false ∧ literal ∈ n.literals) ∧
      completions.Pairwise (Completion.Outranks s.frontier) ∧
      (∀ literal ∈ completions, ∀ unmatched index candidates suggestions consumed,
        parse (head ++ [literal]) root ≠
          .error (.noMatch unmatched index candidates suggestions consumed)) ∧
      ∀ n, Frontier.select s.frontier word = .chosen n → n.isHidden = false →
        n.isPositional = false → ∃ literal ∈ n.literals, literal ∈ completions := by
  unfold complete
  rw [Completion.lastWord_concat]
  refine ⟨fun taker n index consumed h => ?_, fun e h he => ?_, fun s h => ?_⟩
  · rw [h]
  · rw [h]
    cases e with
    | missingValue => exact he.elim
    | noMatch | ambiguous | blocked => rfl
  · rw [h]
    refine ⟨_, rfl, Completion.nodup_atFrontier _ _, fun literal => Completion.mem_atFrontier,
      Completion.pairwise_atFrontier _ _, fun literal hl _ _ _ _ _ hm => ?_,
      fun n hn hv hp => Completion.exists_mem_atFrontier hn hv hp⟩
    obtain ⟨-, n, hn, -, hln⟩ := Completion.mem_atFrontier.1 hl
    have hnamed : n ∈ Frontier.named s.frontier literal := Frontier.mem_named.2 ⟨hn, hln⟩
    rw [parse, State.run_append h] at hm
    rw [← Frontier.candidates_eq_named hn hln, State.candidates_of_noMatch hm] at hnamed
    cases hnamed

/-- After a tag another one may begin, and while its value is missing there is nothing to complete.
-/
theorem complete_concat_tag : ∃ root s n completions, Demo.root = .ok root ∧
    parse ["set", "--tag", "a"] root = .ok s ∧
    Frontier.select s.frontier "--t" = .chosen n ∧ n.literals = ["--tag", "-t"] ∧
    complete (["set", "--tag", "a"] ++ ["--t"]) root = .ok completions ∧
    completions.Pairwise (Completion.Outranks s.frontier) ∧
    (∃ literal ∈ n.literals, literal ∈ completions) ∧
    complete (["set", "--tag", "a", "--t"] ++ ["--"]) root = .ok [] := by
  obtain ⟨root, s, hroot, hs, hp⟩ := exists_ok_of_any_any (e := Demo.root)
    (f := parse ["set", "--tag", "a"])
    (p := fun _ s => (s.choose 4 "--t").toOption.any fun n =>
      n.takesValue && !n.isHidden && !n.isPositional && n.literals == ["--tag", "-t"])
    (by decide +kernel)
  obtain ⟨n, hn, hall⟩ := exists_ok_of_any hp
  simp only [Bool.and_eq_true, Bool.not_eq_true', beq_iff_eq] at hall
  obtain ⟨⟨⟨hv, hhidden⟩, hpositional⟩, hliterals⟩ := hall
  have hchosen := State.choose_eq_ok_iff.1 hn
  have hmissing : parse ["set", "--tag", "a", "--t"] root =
      .error (.missingValue "--t" n 5 (s.tokens ++ ["--t"])) :=
    (State.run_append hs ["--t"]).trans (State.Ends.unvalued hn hv).run_eq
  obtain ⟨-, -, hok⟩ := complete_concat root ["set", "--tag", "a"] "--t"
  obtain ⟨completions, hc, -, -, hranks, -, htaken⟩ := hok s hs
  refine ⟨root, s, n, completions, hroot, hs, hchosen, hliterals, hc, hranks,
    htaken n hchosen hhidden hpositional, ?_⟩
  exact (complete_concat root ["set", "--tag", "a", "--t"] "--").1 _ _ _ _ hmissing

end CommandGrammar
