import CommandGrammar.Demo
import CommandGrammar.Proofs.Continuation
import CommandGrammar.Proofs.Selection

/-!
Which node a word chooses. The nodes that contend for a word are those that have it for a literal or,
where no node has it, those that have a literal which it begins. The first positional parameter is
chosen when its priority is above that of every contender, and otherwise the one contender of the
highest priority. So when a word that has chosen a node is typed on towards a literal of that node,
it goes on choosing it, unless it becomes a literal of another one.
-/

namespace CommandGrammar

namespace Frontier

/-! ### Contenders -/

section

variable (frontier : List Node) (word : String) (n : Node)

/-- The node has the word for a literal or, where no node of the frontier has it, a literal which
the word begins. -/
def Contends : Prop :=
  word ∈ n.literals ∨
    (∀ m ∈ frontier, word ∉ m.literals) ∧ ∃ literal ∈ n.literals, word.toList <+: literal.toList

instance : Decidable (Contends frontier word n) := inferInstanceAs (Decidable (_ ∨ _))

/-- The node contends for the word, and no contender has a higher priority. -/
def Leads : Prop :=
  Contends frontier word n ∧ ∀ m ∈ frontier, Contends frontier word m → m.priority ≤ n.priority

instance : Decidable (Leads frontier word n) := inferInstanceAs (Decidable (_ ∧ _))

/-- The contenders of the highest priority, hidden or not, in the order of the frontier. -/
def leaders : List Node := frontier.filter fun n => Leads frontier word n

end

variable {frontier : List Node} {word : String} {n p : Node} {top : Int}

lemma Contends.isAbbreviatedBy (h : Contends frontier word n) : n.isAbbreviatedBy word = true := by
  rcases h with hw | ⟨-, hl⟩
  · exact Node.isAbbreviatedBy_of_isNamedBy (Node.isNamedBy_iff.2 hw)
  · exact Node.isAbbreviatedBy_iff.2 hl

/-- Only nodes with literals contend. -/
lemma Contends.isPositional_eq_false (h : Contends frontier word n) : n.isPositional = false := by
  obtain ⟨literal, hl, -⟩ := Node.isAbbreviatedBy_iff.1 h.isAbbreviatedBy
  exact Node.isPositional_eq_false hl

/-- Where a node has the word for a literal, its abbreviations do not contend. -/
lemma Contends.of_mem {m : Node} (h : Contends frontier word n) (hm : m ∈ frontier)
    (hw : word ∈ m.literals) : word ∈ n.literals :=
  h.resolve_right fun hno => hno.1 m hm hw

lemma mem_leaders : n ∈ leaders frontier word ↔ n ∈ frontier ∧ Leads frontier word n := by
  rw [leaders, List.mem_filter, decide_eq_true_iff]

/-- What is selected among are the nodes of the frontier that contend. -/
lemma candidates_eq (frontier : List Node) (word : String) :
    candidates frontier word = frontier.filter fun n => Contends frontier word n := by
  by_cases hno : ∀ m ∈ frontier, word ∉ m.literals
  · have hnone : named frontier word = [] := by
      rw [List.eq_nil_iff_forall_not_mem]
      exact fun m hm => hno m (mem_named.1 hm).1 (mem_named.1 hm).2
    rw [candidates, hnone, List.isEmpty_nil, if_pos rfl, abbreviated]
    refine List.filter_congr fun n hn => ?_
    rw [Bool.eq_iff_iff, decide_eq_true_iff, Node.isAbbreviatedBy_iff]
    exact ⟨fun h => .inr ⟨hno, h⟩, fun h => (h.resolve_left (hno n hn)).2⟩
  · obtain ⟨m, hm, hw⟩ : ∃ m ∈ frontier, word ∈ m.literals := by simpa using hno
    rw [candidates_eq_named hm hw, named]
    refine List.filter_congr fun n _ => ?_
    rw [Bool.eq_iff_iff, decide_eq_true_iff, Node.isNamedBy_iff]
    exact ⟨.inl, fun h => h.of_mem hm hw⟩

lemma mem_candidates : n ∈ candidates frontier word ↔ n ∈ frontier ∧ Contends frontier word n := by
  rw [candidates_eq, List.mem_filter, decide_eq_true_iff]

lemma candidates_eq_nil_iff :
    candidates frontier word = [] ↔ ∀ n ∈ frontier, ¬ Contends frontier word n := by
  simp only [List.eq_nil_iff_forall_not_mem, mem_candidates, not_and]

/-- The candidates of the highest priority lead. -/
lemma atPriority_eq_leaders (htop : topPriority? (candidates frontier word) = some top) :
    atPriority (candidates frontier word) top = leaders frontier word := by
  obtain ⟨⟨m, hm, rfl⟩, hle⟩ := topPriority?_eq_some_iff.1 htop
  rw [candidates_eq, atPriority, List.filter_filter, leaders]
  refine List.filter_congr fun n hn => ?_
  rw [Bool.eq_iff_iff, Bool.and_eq_true, beq_iff_eq, decide_eq_true_iff, decide_eq_true_iff]
  constructor
  · rintro ⟨hpriority, hcontends⟩
    exact ⟨hcontends, fun k hk hc => hpriority ▸ hle k (mem_candidates.2 ⟨hk, hc⟩)⟩
  · rintro ⟨hcontends, hmost⟩
    obtain ⟨hmf, hmc⟩ := mem_candidates.1 hm
    exact ⟨Int.le_antisymm (hle n (mem_candidates.2 ⟨hn, hcontends⟩)) (hmost m hmf hmc), hcontends⟩

lemma topPriority?_of_mem_leaders (h : n ∈ leaders frontier word) :
    topPriority? (candidates frontier word) = some n.priority := by
  obtain ⟨hn, hcontends, hmost⟩ := mem_leaders.1 h
  refine topPriority?_eq_some_iff.2 ⟨⟨n, mem_candidates.2 ⟨hn, hcontends⟩, rfl⟩, fun m hm => ?_⟩
  obtain ⟨hm, hc⟩ := mem_candidates.1 hm
  exact hmost m hm hc

/-! ### Selections -/

section

variable (hk : ∀ m ∈ frontier, m.isKindless = false)

include hk

/-- The first positional parameter is chosen when its priority is above that of all contenders. -/
lemma select_eq_positional_iff (hp : positional? frontier = some p) :
    select frontier word = .chosen p ↔
      ∀ n ∈ frontier, Contends frontier word n → n.priority < p.priority := by
  rw [select_eq_iff hk]
  constructor
  · intro h n hn hc
    cases h with
    | positional _ hlt => exact hlt n (mem_candidates.2 ⟨hn, hc⟩)
    | literal _ hsingle _ =>
      have hin : p ∈ atPriority (candidates frontier word) _ := hsingle ▸ List.mem_singleton_self p
      obtain ⟨-, hpc⟩ := mem_candidates.1 (List.mem_of_mem_filter hin)
      cases (List.find?_some hp).symm.trans hpc.isPositional_eq_false
  · intro h
    refine .positional hp fun n hn => ?_
    obtain ⟨hn, hc⟩ := mem_candidates.1 hn
    exact h n hn hc

/-- Another node is chosen when it alone leads, and the first positional parameter is not above
it. -/
lemma select_eq_literal_iff (hn : n.isPositional = false) :
    select frontier word = .chosen n ↔
      leaders frontier word = [n] ∧ ∀ p ∈ positional? frontier, p.priority ≤ n.priority := by
  rw [select_eq_iff hk]
  constructor
  · intro h
    cases h with
    | positional hp _ => cases hn.symm.trans (List.find?_some hp)
    | @literal _ top htop hsingle hle =>
      rw [atPriority_eq_leaders htop] at hsingle
      have hin : n ∈ leaders frontier word := hsingle ▸ List.mem_singleton_self n
      obtain rfl := Option.some.inj (htop.symm.trans (topPriority?_of_mem_leaders hin))
      exact ⟨hsingle, hle⟩
  · rintro ⟨hsingle, hle⟩
    have htop := topPriority?_of_mem_leaders (hsingle ▸ List.mem_singleton_self n)
    exact .literal htop ((atPriority_eq_leaders htop).trans hsingle) hle

/-- Nodes tie when several lead, and the first positional parameter is not above them. -/
lemma select_eq_tied_iff {nodes : List Node} : select frontier word = .tied nodes ↔
    nodes = leaders frontier word ∧ 2 ≤ nodes.length ∧
      ∀ p ∈ positional? frontier, ∀ n ∈ nodes, p.priority ≤ n.priority := by
  rw [select_eq_iff hk]
  constructor
  · intro h
    cases h with
    | @tied top htop htwo hle =>
      refine ⟨atPriority_eq_leaders htop, htwo, fun p hp n hn => ?_⟩
      rw [beq_iff_eq.1 (List.mem_filter.1 hn).2]
      exact hle p hp
  · rintro ⟨rfl, htwo, hle⟩
    obtain ⟨n, hn⟩ := List.exists_mem_of_length_pos (Nat.lt_of_lt_of_le Nat.zero_lt_two htwo)
    have htop := topPriority?_of_mem_leaders hn
    rw [← atPriority_eq_leaders htop] at htwo ⊢
    exact .tied htop htwo fun p hp => hle p hp n hn

/-- Nothing is found when nothing contends, and there is no positional parameter. -/
lemma select_eq_nothing_iff : select frontier word = .nothing ↔
    (∀ n ∈ frontier, ¬ Contends frontier word n) ∧ positional? frontier = none := by
  rw [select_eq_iff hk, ← candidates_eq_nil_iff]
  constructor
  · intro h
    cases h with
    | nothing hnone hp => exact ⟨hnone, hp⟩
  · exact fun h => .nothing h.1 h.2

lemma select_ne_blocked : select frontier word ≠ .blocked := by
  intro h
  rw [select_eq_iff hk] at h
  cases h with
  | blocked hn hkind => cases (hk _ hn).symm.trans hkind

end

/-! ### Typing on -/

section

variable {longer literal : String}

/-- What contends for the longer word contends for the shorter one, if no node has that for a
literal. -/
lemma Contends.of_longer (h : Contends frontier longer n) (hno : ∀ m ∈ frontier, word ∉ m.literals)
    (hlonger : word.toList <+: longer.toList) : Contends frontier word n := by
  obtain ⟨literal, hl, hbegins⟩ := Node.isAbbreviatedBy_iff.1 h.isAbbreviatedBy
  exact .inr ⟨hno, literal, hl, hlonger.trans hbegins⟩

/-- A literal of the node that the word begins keeps it among the contenders, if no other node has
the word for a literal. -/
lemma contends_of_begins (hl : literal ∈ n.literals) (hbegins : word.toList <+: literal.toList)
    (hother : ∀ m ∈ frontier, word ∈ m.literals → m = n) : Contends frontier word n := by
  by_cases hw : word ∈ n.literals
  · exact .inl hw
  · exact .inr ⟨fun m hm hmw => hw (hother m hm hmw ▸ hmw), literal, hl, hbegins⟩

/-- **The one node that leads for a word leads alone for longer ones,** as long as they begin one of
its literals and are no literal of another node. -/
theorem leaders_of_longer (h : leaders frontier word = [n])
    (hno : ∀ m ∈ frontier, word ∉ m.literals) (hl : literal ∈ n.literals)
    (hlonger : word.toList <+: longer.toList) (hbegins : longer.toList <+: literal.toList)
    (hother : ∀ m ∈ frontier, longer ∈ m.literals → m = n) : leaders frontier longer = [n] := by
  obtain ⟨hn, -, hmost⟩ := mem_leaders.1 (h ▸ List.mem_singleton_self n)
  have hcontends : Contends frontier longer n := contends_of_begins hl hbegins hother
  -- the contenders become fewer, and the node that was above them all is still there
  have hleads : n ∈ leaders frontier longer :=
    mem_leaders.2 ⟨hn, hcontends, fun m hm hc => hmost m hm (hc.of_longer hno hlonger)⟩
  have hsub : (leaders frontier longer).Sublist (leaders frontier word) := by
    refine List.monotone_filter_right frontier fun m hm => ?_
    rw [decide_eq_true_iff] at hm ⊢
    refine ⟨hm.1.of_longer hno hlonger, fun k hk hc => ?_⟩
    exact Int.le_trans (hmost k hk hc) (hm.2 n hn hcontends)
  rw [h] at hsub
  exact (hsub.eq_of_length_le (List.length_pos_of_mem hleads))

end

end Frontier

/-! ### What a word chooses -/

namespace State

variable {s : State}

/-- **What a word chooses.** The first positional parameter is chosen exactly when its priority is
above that of every contender, any other node exactly when it alone leads and the first positional
parameter is not above it. Otherwise the word is refused: as ambiguous exactly when several lead and
the first positional parameter is not above them, with these for candidates, and as unmatched exactly
when nothing contends and there is no positional parameter. So what has the word for a literal never
gives way to what it abbreviates, nor a contender to a positional parameter of the same priority. -/
theorem choose_iff (hk : ∀ n ∈ s.frontier, n.isKindless = false) (word : String)
    (position : Nat) :
    (∀ p, Frontier.positional? s.frontier = some p → (s.choose position word = .ok p ↔
      ∀ n ∈ s.frontier, Frontier.Contends s.frontier word n → n.priority < p.priority)) ∧
    (∀ n, n.isPositional = false → (s.choose position word = .ok n ↔
      Frontier.leaders s.frontier word = [n] ∧
        ∀ p ∈ Frontier.positional? s.frontier, p.priority ≤ n.priority)) ∧
    (∀ n, s.choose position word = .ok n →
      n.isPositional = false ∨ Frontier.positional? s.frontier = some n) ∧
    (∀ e, s.choose position word = .error e ↔
      (e = .ambiguous word position (Frontier.leaders s.frontier word) s.tokens ∧
        2 ≤ (Frontier.leaders s.frontier word).length ∧
        ∀ p ∈ Frontier.positional? s.frontier,
          ∀ n ∈ Frontier.leaders s.frontier word, p.priority ≤ n.priority) ∨
      (e = .atFrontier s.frontier word position s.tokens ∧
        (∀ n ∈ s.frontier, ¬ Frontier.Contends s.frontier word n) ∧
        Frontier.positional? s.frontier = none)) ∧
    (∀ m ∈ s.frontier, word ∈ m.literals →
      (∀ n ∈ Frontier.leaders s.frontier word, word ∈ n.literals) ∧
      ∀ n, s.choose position word = .ok n →
        word ∈ n.literals ∨ n.isPositional = true ∧ m.priority < n.priority) ∧
    ∀ n ∈ s.frontier, Frontier.Contends s.frontier word n →
      ∀ p, p.isPositional = true → p.priority ≤ n.priority → s.choose position word ≠ .ok p := by
  have hpositional : ∀ n, s.choose position word = .ok n → n.isPositional = true →
      Frontier.positional? s.frontier = some n := by
    intro n hn hp
    refine (Frontier.cases_of_select (choose_eq_ok_iff.1 hn)).2.resolve_right fun hc => ?_
    cases hp.symm.trans (Frontier.mem_candidates.1 hc).2.isPositional_eq_false
  have habove : ∀ p, Frontier.positional? s.frontier = some p → (s.choose position word = .ok p ↔
      ∀ n ∈ s.frontier, Frontier.Contends s.frontier word n → n.priority < p.priority) := by
    intro p hp
    rw [choose_eq_ok_iff, Frontier.select_eq_positional_iff hk hp]
  refine ⟨habove, fun n hn => ?_, fun n hn => ?_, fun e => ?_, fun m hm hw => ⟨fun n hn => ?_,
    fun n hn => ?_⟩, fun n hn hc p hp hle hchosen => ?_⟩
  · rw [choose_eq_ok_iff, Frontier.select_eq_literal_iff hk hn]
  · cases hp : n.isPositional with
    | true => exact .inr (hpositional n hn hp)
    | false => exact .inl rfl
  · rw [choose_eq_error_iff, Frontier.select_eq_nothing_iff hk]
    constructor
    · rintro (⟨nodes, htied, rfl⟩ | ⟨hnothing, rfl⟩ | ⟨hblocked, rfl⟩)
      · obtain ⟨rfl, htwo, hle⟩ := (Frontier.select_eq_tied_iff hk).1 htied
        exact .inl ⟨rfl, htwo, hle⟩
      · exact .inr ⟨rfl, hnothing⟩
      · exact absurd hblocked (Frontier.select_ne_blocked hk)
    · rintro (⟨rfl, htwo, hle⟩ | ⟨rfl, hnothing⟩)
      · exact .inl ⟨_, (Frontier.select_eq_tied_iff hk).2 ⟨rfl, htwo, hle⟩, rfl⟩
      · exact .inr (.inl ⟨hnothing, rfl⟩)
  · exact (Frontier.mem_leaders.1 hn).2.1.of_mem hm hw
  · rcases (Frontier.cases_of_select (choose_eq_ok_iff.1 hn)).2 with hp | hc
    · exact .inr ⟨List.find?_some hp, (habove n hp).1 hn m hm (.inl hw)⟩
    · exact .inl ((Frontier.mem_candidates.1 hc).2.of_mem hm hw)
  · have hlt := (habove p (hpositional p hchosen hp)).1 hchosen n hn hc
    exact Int.not_lt.2 hle hlt

/-- At the root of the demo grammar the beginning of all three names is ambiguous, the hidden short
form included, whose name is not, though it begins another one, and an unknown word is unmatched. -/
theorem choose_iff_show : ∃ root n, Demo.root = .ok root ∧
    (Frontier.leaders root.successors "s").map Node.name = ["show", "set", "sh"] ∧
    (start root).choose 1 "s" =
      .error (.ambiguous "s" 1 (Frontier.leaders root.successors "s") []) ∧
    (start root).choose 1 "sh" = .ok n ∧ n.name = "sh" ∧ n.isHidden = true ∧
    (start root).choose 1 "q" = .error (.atFrontier root.successors "q" 1 []) := by
  obtain ⟨root, hroot, hall⟩ := exists_ok_of_any (e := Demo.root) (p := fun root =>
    decide ((∀ n ∈ root.successors, n.isKindless = false) ∧
      Frontier.positional? root.successors = none ∧
      (Frontier.leaders root.successors "s").map Node.name = ["show", "set", "sh"] ∧
      (Frontier.leaders root.successors "sh").map Node.name = ["sh"] ∧
      (∀ n ∈ Frontier.leaders root.successors "sh", n.isPositional = false ∧ n.isHidden = true) ∧
      ∀ n ∈ root.successors, ¬ Frontier.Contends root.successors "q" n)) (by decide +kernel)
  obtain ⟨hk, hp, hnames, hname, hshort, hno⟩ := of_decide_eq_true hall
  have hnone : ∀ p, Frontier.positional? root.successors ≠ some p := fun p h => by
    cases hp.symm.trans h
  obtain ⟨n, hn, hnname⟩ := List.map_eq_singleton_iff.1 hname
  obtain ⟨hliteral, hhidden⟩ := hshort n (hn ▸ List.mem_singleton_self n)
  have htwo : 2 ≤ (Frontier.leaders root.successors "s").length := by
    rw [← List.length_map Node.name, hnames]
    decide
  obtain ⟨-, -, -, htied, -⟩ := choose_iff (s := start root) hk "s" 1
  obtain ⟨-, hchosen, -⟩ := choose_iff (s := start root) hk "sh" 1
  obtain ⟨-, -, -, hnothing, -⟩ := choose_iff (s := start root) hk "q" 1
  refine ⟨root, n, hroot, hnames, (htied _).2 (.inl ⟨rfl, htwo, fun p h => absurd h (hnone p)⟩),
    (hchosen n hliteral).2 ⟨hn, fun p h => absurd h (hnone p)⟩, hnname, hhidden, ?_⟩
  exact (hnothing _).2 (.inr ⟨rfl, hno, hp⟩)

/-! ### Typing on -/

/-- **Typing more of an abbreviation keeps the choice.** When a word that is no literal of the
frontier chooses a node by one of its literals, every longer word that still begins a literal of the
node chooses it too, unless it is a literal of another node. -/
theorem choose_of_longer {word longer literal : String} {n : Node} {position : Nat}
    (h : s.choose position word = .ok n) (hn : n.isPositional = false)
    (hno : ∀ m ∈ s.frontier, word ∉ m.literals) (hl : literal ∈ n.literals)
    (hlonger : word.toList <+: longer.toList) (hbegins : longer.toList <+: literal.toList)
    (hother : ∀ m ∈ s.frontier, longer ∈ m.literals → m = n) (index : Nat) :
    s.choose index longer = .ok n := by
  rw [choose_eq_ok_iff] at h ⊢
  have hk := (Frontier.cases_of_select h).1
  obtain ⟨hleaders, hle⟩ := (Frontier.select_eq_literal_iff hk hn).1 h
  refine (Frontier.select_eq_literal_iff hk hn).2 ⟨?_, hle⟩
  exact Frontier.leaders_of_longer hleaders hno hl hlonger hbegins hother

/-- The beginning of the level's name chooses it, and so does more of the name. -/
theorem choose_of_longer_level : ∃ root s n, Demo.root = .ok root ∧ parse ["set"] root = .ok s ∧
    s.choose 2 "--l" = .ok n ∧ n.literals = ["--level", "-l"] ∧ s.choose 2 "--lev" = .ok n ∧
    s.choose 2 "--level" = .ok n := by
  obtain ⟨root, s, hroot, hs, hall⟩ := exists_ok_of_any_any (e := Demo.root) (f := parse ["set"])
    (p := fun _ s => (s.choose 2 "--l").toOption.any fun n : Node =>
      decide (n.isPositional = false ∧ n.literals = ["--level", "-l"] ∧
        (∀ m ∈ s.frontier, "--l" ∉ m.literals) ∧ (∀ m ∈ s.frontier, "--lev" ∉ m.literals) ∧
        ∀ m ∈ s.frontier, "--level" ∈ m.literals → m = n)) (by decide +kernel)
  obtain ⟨n, hn, hall⟩ := exists_ok_of_any hall
  obtain ⟨hliteral, hliterals, hno, hlev, hlevel⟩ := of_decide_eq_true hall
  have hmem : "--level" ∈ n.literals := by simp [hliterals]
  refine ⟨root, s, n, hroot, hs, hn, hliterals, ?_, ?_⟩
  · exact choose_of_longer hn hliteral hno hmem (by decide) (by decide)
      (fun m hm hw => absurd hw (hlev m hm)) 2
  · exact choose_of_longer hn hliteral hno hmem (by decide) (by decide) hlevel 2

/-- A longer word may be a literal of another node, which it then chooses. -/
example :
    let preferred := { Demo.target with name := "--tagged", kind := .flag, priority := some 5 }
    let other := { Demo.target with name := "--tag", kind := .flag }
    let frontier := Parameter.buildAll 0 [preferred, other]
    Frontier.select frontier "--ta" = .chosen (preferred.build 0) ∧
      Frontier.select frontier "--tag" = .chosen (other.build 1) := by decide +kernel

end State

end CommandGrammar
