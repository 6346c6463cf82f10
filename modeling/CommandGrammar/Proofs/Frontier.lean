import CommandGrammar.Demo
import CommandGrammar.Proofs.Selection
import CommandGrammar.Proofs.Tree
import Mathlib.Data.List.DropRight
import Mathlib.Data.List.Nodup

/-!
The frontier of a matched line. Over the root of a finished grammar the commands matched lead down
from the root, and what may come next is what follows the last of them, less the parameters that
were matched since and may not be repeated.
-/

namespace CommandGrammar

/-! ### What remains of siblings -/

namespace Frontier

variable {siblings used : List Node} {n p : Node}

/-- The siblings less those that were used and may not be repeated. -/
def remaining (siblings used : List Node) : List Node :=
  siblings.filter fun n => n.isRepeatable || n ∉ used

lemma remaining_nil (siblings : List Node) : remaining siblings [] = siblings := by
  simp [remaining]

lemma mem_remaining : n ∈ remaining siblings used ↔
    n ∈ siblings ∧ (n.isRepeatable = true ∨ n ∉ used) := by
  simp [remaining]

/-- A parameter without successors is one more that was used. -/
lemma advance_remaining (hp : p.successors = []) (siblings used : List Node) :
    advance (remaining siblings used) p = remaining siblings (used ++ [p]) := by
  unfold advance remaining
  rw [hp, List.nil_append, List.filter_filter, List.filter_filter]
  refine List.filter_congr fun n _ => ?_
  by_cases hn : n = p
  · subst hn
    cases n.isRepeatable <;> simp
  · simp [hn]

end Frontier

/-! ### Descents -/

/-- The nodes lead down from siblings: the first is one of them, and each other one is a successor
of the one before it. -/
def IsDescent : List Node → List Node → Prop
  | _, [] => True
  | siblings, n :: ns => n ∈ siblings ∧ IsDescent n.successors ns

instance decidableIsDescent : ∀ siblings ns, Decidable (IsDescent siblings ns)
  | _, [] => isTrue trivial
  | siblings, n :: ns =>
    have := decidableIsDescent n.successors ns
    inferInstanceAs (Decidable (n ∈ siblings ∧ IsDescent n.successors ns))

lemma isDescent_concat {siblings ns : List Node} {n : Node} :
    IsDescent siblings (ns ++ [n]) ↔
      IsDescent siblings ns ∧ n ∈ (ns.getLast?.map Node.successors).getD siblings := by
  induction ns generalizing siblings with
  | nil => simp [IsDescent]
  | cons m ms ih =>
    rw [List.cons_append, IsDescent, IsDescent, ih, and_assoc]
    cases ms with
    | nil => rfl
    | cons k ks =>
      rw [List.getLast?_cons_cons, List.getLast?_eq_some_getLast (List.cons_ne_nil k ks)]
      rfl

lemma IsDescent.mem_walkAll {siblings ns : List Node} (h : IsDescent siblings ns) :
    ∀ n ∈ ns, n ∈ Node.walkAll siblings := by
  induction ns generalizing siblings with
  | nil => simp
  | cons m ms ih =>
    obtain ⟨hm, hms⟩ := h
    refine List.forall_mem_cons.2 ⟨Node.mem_walkAll_of_mem hm, fun n hn => ?_⟩
    exact Node.walk_subset_walkAll hm (Node.walkAll_subset_walk m (ih hms n hn))

/-! ### The level of a state -/

namespace State

variable {s : State} {g : Group}

/-- The successors of the last command, or those of the root before the first one. -/
def siblings (s : State) : List Node := (s.command.map Node.successors).getD s.root.successors

/-- The nodes matched since the last command. -/
def sinceCommand (s : State) : List Node := s.trace.rtakeWhile Node.isParameter

/-- The nodes matched up to the last command. -/
def untilCommand (s : State) : List Node := s.trace.rdropWhile Node.isParameter

lemma untilCommand_append_sinceCommand (s : State) : s.untilCommand ++ s.sinceCommand = s.trace :=
  List.rdropWhile_append_rtakeWhile

/-- The nodes matched up to the last command end with the last command. -/
lemma getLast?_untilCommand (s : State) : s.untilCommand.getLast? = s.path.getLast? := by
  unfold untilCommand path
  induction s.trace using List.reverseRecOn with
  | nil => rfl
  | append_singleton ns n ih =>
    rw [List.filter_append, List.filter_singleton]
    by_cases hn : n.isCommand = true
    · rw [List.rdropWhile_concat_neg _ _ _ (by simp [Node.isParameter, hn]), hn]
      simp
    · rw [Bool.not_eq_true] at hn
      rw [List.rdropWhile_concat_pos _ _ _ (Node.isParameter_iff.2 hn), hn]
      simpa using ih

lemma isParameter_of_mem_sinceCommand {p : Node} (h : p ∈ s.sinceCommand) :
    p.isParameter = true :=
  List.mem_rtakeWhile_imp h

section Command

variable (hc : g.node.isCommand = true)

include hc

lemma after_siblings_command : (s.after g).siblings = g.node.successors := by
  rw [siblings, after_command, if_pos hc]
  rfl

lemma after_sinceCommand_command : (s.after g).sinceCommand = [] := by
  rw [sinceCommand, after_trace]
  exact List.rtakeWhile_concat_neg _ _ _ (by simp [Node.isParameter, hc])

lemma after_untilCommand_command : (s.after g).untilCommand = s.trace ++ [g.node] := by
  rw [untilCommand, after_trace]
  exact List.rdropWhile_concat_neg _ _ _ (by simp [Node.isParameter, hc])

end Command

section Parameter

variable (hc : g.node.isCommand = false)

include hc

lemma after_siblings_parameter : (s.after g).siblings = s.siblings := by
  rw [siblings, after_command, after_root, if_neg (by simp [hc])]
  rfl

lemma after_sinceCommand_parameter : (s.after g).sinceCommand = s.sinceCommand ++ [g.node] := by
  rw [sinceCommand, after_trace]
  exact List.rtakeWhile_concat_pos _ _ _ (Node.isParameter_iff.2 hc)

lemma after_untilCommand_parameter : (s.after g).untilCommand = s.untilCommand := by
  rw [untilCommand, after_trace]
  exact List.rdropWhile_concat_pos _ _ _ (Node.isParameter_iff.2 hc)

end Parameter

/-! ### What a run preserves -/

/-- How a state stands in a tree. The commands matched lead down from the root to the one in force,
below it no node has been matched but its parameters, and these have left the frontier unless they
may be repeated. -/
structure IsSettled (s : State) : Prop where
  walk_nodup : (Node.walkAll s.siblings).Nodup
  isBuilt : ∀ n ∈ Node.walkAll s.siblings, n.IsBuilt
  command_isBuilt : ∀ c, s.command = some c → c.IsBuilt
  command_eq : s.command = s.path.getLast?
  isDescent : IsDescent s.root.successors s.path
  frontier_eq : s.frontier = Frontier.remaining s.siblings s.sinceCommand
  declared : ∀ p ∈ s.sinceCommand, ∃ c, s.command = some c ∧ p ∈ c.parameters
  /-- What was matched up to the last command is not met again. -/
  untilCommand_past : ∀ n ∈ s.untilCommand, n ∉ Node.walkAll s.siblings
  count_le_one : ∀ p : Node, p.isParameter = true → p.isRepeatable = false → s.trace.count p ≤ 1

lemma isSettled_start {root : Root} (h : root.IsTree) : (start root).IsSettled where
  walk_nodup := h.numbers_nodup.of_map
  isBuilt := h.isBuilt
  command_isBuilt := by simp [start]
  command_eq := rfl
  isDescent := trivial
  frontier_eq := (Frontier.remaining_nil _).symm
  declared := by simp [start, sinceCommand]
  untilCommand_past := by simp [start, untilCommand]
  count_le_one := by simp [start]

namespace IsSettled

variable (h : s.IsSettled)

include h

/-- A parameter matched since the last command is a sibling. -/
lemma sinceCommand_subset : s.sinceCommand ⊆ s.siblings := by
  intro p hp
  obtain ⟨c, hc, hpc⟩ := h.declared p hp
  rw [siblings, hc]
  exact (h.command_isBuilt c hc).mem_successors hpc

/-- The command in force is a command of the grammar. -/
lemma of_command {c : Node} (hc : s.command = some c) : c ∈ s.root.walk ∧ c.isCommand = true := by
  have hmem : c ∈ s.path := List.mem_of_getLast? (h.command_eq ▸ hc)
  exact ⟨h.isDescent.mem_walkAll c hmem, (List.mem_filter.1 hmem).2⟩

lemma mem_siblings (hg : s.Accepts g) : g.node ∈ s.siblings := by
  have hn := hg.mem_frontier
  rw [h.frontier_eq] at hn
  exact (Frontier.mem_remaining.1 hn).1

lemma after_isDescent (hg : s.Accepts g) :
    IsDescent (s.after g).root.successors (s.after g).path := by
  rw [after_root, after_path]
  split
  · rw [isDescent_concat, ← h.command_eq]
    exact ⟨h.isDescent, h.mem_siblings hg⟩
  · exact h.isDescent

/-- A parameter that may not be repeated is matched for the first time. -/
lemma notMem_trace (hg : s.Accepts g) (hr : g.node.isRepeatable = false) :
    g.node ∉ s.trace := by
  have hn := hg.mem_frontier
  rw [h.frontier_eq, Frontier.mem_remaining, hr] at hn
  rw [← s.untilCommand_append_sinceCommand, List.mem_append, not_or]
  refine ⟨fun hu => ?_, by simpa using hn.2⟩
  exact h.untilCommand_past g.node hu (Node.mem_walkAll_of_mem hn.1)

section Command

variable (hg : s.Accepts g) (hc : g.node.isCommand = true)

include hg hc

/-- What leads to a command is past: neither the nodes passed before, nor the parameters declared
beside it, nor the command itself can be reached from it. -/
lemma trace_past : ∀ n ∈ s.trace ++ [g.node], n ∉ Node.walkAll g.node.successors := by
  have hmem := h.mem_siblings hg
  have hsub : Node.walkAll g.node.successors ⊆ Node.walkAll s.siblings :=
    List.Subset.trans (Node.walkAll_subset_walk g.node) (Node.walk_subset_walkAll hmem)
  intro n hn
  rw [← s.untilCommand_append_sinceCommand, List.mem_append, List.mem_append,
    List.mem_singleton] at hn
  rcases hn with (hn | hn) | rfl
  · exact fun hw => h.untilCommand_past n hn (hsub hw)
  · -- a parameter beside the command: its walk and that of the command share no node
    intro hw
    have hne : n ≠ g.node := by
      rintro rfl
      have := isParameter_of_mem_sinceCommand hn
      simp [Node.isParameter, hc] at this
    exact Node.walk_disjoint h.walk_nodup (h.sinceCommand_subset hn) hmem hne n.mem_walk_self
      (Node.walkAll_subset_walk g.node hw)
  · exact (Node.nodup_walkAll_successors h.walk_nodup hmem).1

/-- A command settles the state below itself. -/
lemma enter : (s.after g).IsSettled := by
  have hmem := h.mem_siblings hg
  have hcommand : (s.after g).command = some g.node := by rw [after_command, if_pos hc]
  have hsiblings := after_siblings_command (s := s) hc
  have hsince := after_sinceCommand_command (s := s) hc
  exact {
    walk_nodup := by
      rw [hsiblings]
      exact (Node.nodup_walkAll_successors h.walk_nodup hmem).2
    isBuilt := by
      intro n hn
      rw [hsiblings] at hn
      exact h.isBuilt n (Node.walk_subset_walkAll hmem (Node.walkAll_subset_walk g.node hn))
    command_isBuilt := by
      intro c hcc
      rw [hcommand] at hcc
      cases hcc
      exact h.isBuilt g.node (Node.mem_walkAll_of_mem hmem)
    command_eq := after_command_eq h.command_eq g
    isDescent := h.after_isDescent hg
    frontier_eq := by
      rw [hsiblings, hsince, Frontier.remaining_nil, after_of_isCommand hc]
      rfl
    declared := by simp [hsince]
    untilCommand_past := by
      rw [hsiblings, after_untilCommand_command hc]
      exact h.trace_past hg hc
    count_le_one := by
      intro p hp hr
      have hne : g.node ≠ p := by
        rintro rfl
        simp [Node.isParameter, hc] at hp
      rw [after_trace, List.count_append, List.count_singleton, beq_eq_false_iff_ne.2 hne]
      simpa using h.count_le_one p hp hr }

end Command

section Parameter

variable (hg : s.Accepts g) (hc : g.node.isCommand = false)

include hg hc

/-- A parameter that is matched is declared by the command in force. -/
lemma exists_command : ∃ c, s.command = some c ∧ g.node ∈ c.parameters := by
  have hmem := h.mem_siblings hg
  unfold siblings at hmem
  cases hs : s.command with
  | none =>
    rw [hs] at hmem
    have := s.root.areCommands g.node hmem
    simp [hc] at this
  | some c =>
    rw [hs] at hmem
    exact ⟨c, rfl, (h.command_isBuilt c hs).mem_parameters hmem (Node.isParameter_iff.2 hc)⟩

/-- A parameter leaves the state settled where it is. -/
lemma record : (s.after g).IsSettled := by
  have hmem := h.mem_siblings hg
  have hcommand : (s.after g).command = s.command := by simp [after_command, hc]
  have hsiblings := after_siblings_parameter (s := s) hc
  have hsince := after_sinceCommand_parameter (s := s) hc
  have hleaf : g.node.successors = [] :=
    ((h.isBuilt g.node (Node.mem_walkAll_of_mem hmem)).of_isParameter (Node.isParameter_iff.2 hc)).1
  exact {
    walk_nodup := by
      rw [hsiblings]
      exact h.walk_nodup
    isBuilt := by
      rw [hsiblings]
      exact h.isBuilt
    command_isBuilt := by
      rw [hcommand]
      exact h.command_isBuilt
    command_eq := after_command_eq h.command_eq g
    isDescent := h.after_isDescent hg
    frontier_eq := by
      rw [hsiblings, hsince, ← Frontier.advance_remaining hleaf, ← h.frontier_eq,
        after_of_isParameter hc]
      rfl
    declared := by
      intro p hp
      rw [hcommand]
      rw [hsince, List.mem_append, List.mem_singleton] at hp
      rcases hp with hp | rfl
      · exact h.declared p hp
      · exact h.exists_command hg hc
    untilCommand_past := by
      rw [hsiblings, after_untilCommand_parameter hc]
      exact h.untilCommand_past
    count_le_one := by
      intro p hp hr
      rw [after_trace, List.count_append]
      by_cases hpg : p = g.node
      · subst hpg
        rw [List.count_eq_zero_of_not_mem (h.notMem_trace hg hr)]
        simp
      · rw [List.count_singleton, beq_eq_false_iff_ne.2 (Ne.symm hpg)]
        simpa using h.count_le_one p hp hr }

end Parameter

/-- **One step keeps a state settled.** -/
theorem after (hg : s.Accepts g) : (s.after g).IsSettled := by
  by_cases hc : g.node.isCommand = true
  · exact h.enter hg hc
  · exact h.record hg ((Bool.not_eq_true _).mp hc)

end IsSettled

lemma Reaches.isSettled {t : State} {gs : List Group} (h : s.Reaches gs t) (hs : s.IsSettled) :
    t.IsSettled :=
  h.invariant (fun _ _ hu hg => hu.after hg) hs

end State

/-! ### Matched lines -/

section Parse

variable {registry : Registry} {isStrict : Bool} {next : Nat} {grammar : Grammar}
  {tokens : List String} {s : State}

lemma isSettled_of_parse (hf : registry.finish isStrict next = .ok grammar)
    (hp : parse tokens grammar.root = .ok s) : s.IsSettled := by
  obtain ⟨gs, hr, -⟩ := parse_eq_ok_iff.1 hp
  exact hr.isSettled (State.isSettled_start (Registry.isTree_of_finish hf))

/-- **The frontier in closed form.** When a line matches, the commands matched lead down from the
root to the command in force, and what may come next is what follows that command, less the
parameters matched since that may not be repeated. These are parameters of the command, and nowhere
in the line is a parameter matched twice that may not be repeated. -/
theorem parse_frontier (hf : registry.finish isStrict next = .ok grammar)
    (hp : parse tokens grammar.root = .ok s) :
    IsDescent grammar.root.successors (s.trace.filter Node.isCommand) ∧
      s.command = (s.trace.filter Node.isCommand).getLast? ∧
      (∃ passed used, s.trace = passed ++ used ∧ passed.getLast? = s.command ∧
        (∀ p ∈ used, ∃ c, s.command = some c ∧ p ∈ c.parameters ∧ p.isParameter = true) ∧
        s.frontier = Frontier.remaining
          ((s.command.map Node.successors).getD grammar.root.successors) used) ∧
      ∀ p : Node, p.isParameter = true → p.isRepeatable = false → s.trace.count p ≤ 1 := by
  have hs := isSettled_of_parse hf hp
  rw [← root_of_parse hp]
  refine ⟨hs.isDescent, hs.command_eq, ⟨s.untilCommand, s.sinceCommand,
    s.untilCommand_append_sinceCommand.symm, ?_, fun p hp => ?_, hs.frontier_eq⟩, hs.count_le_one⟩
  · rw [s.getLast?_untilCommand, hs.command_eq]
  · obtain ⟨c, hc, hpc⟩ := hs.declared p hp
    exact ⟨c, hc, hpc, State.isParameter_of_mem_sinceCommand hp⟩

/-- After a level and a tag, of the two only the tag may be given again. -/
theorem parse_frontier_set : ∃ grammar s passed used, Demo.registry.finish false 0 = .ok grammar ∧
    parse ["set", "--level", "3", "-t", "set"] grammar.root = .ok s ∧
    s.trace = passed ++ used ∧ passed.getLast? = s.command ∧
    s.frontier = Frontier.remaining
      ((s.command.map Node.successors).getD grammar.root.successors) used ∧
    s.frontier.map Node.name = ["--tag", "--debug"] := by
  obtain ⟨grammar, s, hf, hp, hnames⟩ := exists_ok_of_any_any (e := Demo.registry.finish false 0)
    (f := fun grammar => parse ["set", "--level", "3", "-t", "set"] grammar.root)
    (p := fun _ s => s.frontier.map Node.name = ["--tag", "--debug"]) (by decide +kernel)
  obtain ⟨-, -, ⟨passed, used, htrace, hlast, -, hfrontier⟩, -⟩ := parse_frontier hf hp
  exact ⟨grammar, s, passed, used, hf, hp, htrace, hlast, hfrontier, of_decide_eq_true hnames⟩

end Parse

end CommandGrammar
