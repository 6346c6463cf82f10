import CommandGrammar.Proofs.Requirements

/-!
Positional parameters have their turns. Where each word goes to the first positional parameter that
is left, the parameters take words in the order in which they were declared, one word each, until one
that may be repeated takes all that follow. Nothing keeps this order: it comes of what remains of the
siblings of a command, whatever flags and named parameters are given between the words.
-/

namespace CommandGrammar

namespace Node

/-! ### Turns -/

section Turns

variable {p : Node} {ps before after : List Node}

/-- The positional parameters that have the first turns: each has one, and one that may be repeated
has every turn after it too. -/
def turns : List Node → Nat → List Node
  | _, 0 => []
  | [], _ + 1 => []
  | p :: ps, count + 1 => p :: turns (if p.isRepeatable then p :: ps else ps) count

@[simp] lemma turns_zero (ps : List Node) : turns ps 0 = [] := by
  cases ps <;> rfl

@[simp] lemma turns_nil (count : Nat) : turns [] count = [] := by
  cases count <;> rfl

lemma turns_cons_of_repeatable (h : p.isRepeatable = true) (ps : List Node) (count : Nat) :
    turns (p :: ps) count = List.replicate count p := by
  induction count with
  | zero => rfl
  | succ count ih => rw [turns, if_pos h, ih, List.replicate_succ]

lemma turns_cons_of_not_repeatable (h : p.isRepeatable = false) (ps : List Node) (count : Nat) :
    turns (p :: ps) (count + 1) = p :: turns ps count := by
  rw [turns, if_neg (by simp [h])]

/-- Parameters that may not be repeated have one turn each. -/
lemma turns_append (h : ∀ p ∈ before, p.isRepeatable = false) (ps : List Node) (count : Nat) :
    turns (before ++ ps) count = before.take count ++ turns ps (count - before.length) := by
  induction before generalizing count with
  | nil => simp
  | cons p before ih =>
    obtain ⟨hp, hbefore⟩ := List.forall_mem_cons.1 h
    cases count with
    | zero => simp
    | succ count =>
      rw [List.cons_append, turns_cons_of_not_repeatable hp, ih hbefore, List.take_succ_cons,
        List.cons_append, List.length_cons, Nat.add_sub_add_right]

/-- If none may be repeated, the parameters have their turns once. -/
lemma turns_eq_take (h : ∀ p ∈ ps, p.isRepeatable = false) (count : Nat) :
    turns ps count = ps.take count := by
  have hturns := turns_append h [] count
  rwa [turns_nil, List.append_nil, List.append_nil] at hturns

/-- The first parameter that may be repeated has all the turns after those before it. -/
lemma turns_eq_take_replicate (h : ∀ p ∈ before, p.isRepeatable = false)
    (hp : p.isRepeatable = true) (after : List Node) (count : Nat) :
    turns (before ++ p :: after) count = (before ++ List.replicate count p).take count := by
  rw [turns_append h, turns_cons_of_repeatable hp, List.take_append, List.take_replicate,
    Nat.min_eq_left (Nat.sub_le count before.length)]

/-- A parameter that has a turn has it right after those declared before it, each of which had one
only. -/
lemma prefix_turns_of_mem (hn : (before ++ p :: after).Nodup) {count : Nat}
    (hp : p ∈ turns (before ++ p :: after) count) :
    (∀ q ∈ before, q.isRepeatable = false) ∧
      before ++ [p] <+: turns (before ++ p :: after) count := by
  induction before generalizing count with
  | nil =>
    cases count with
    | zero => cases hp
    | succ count => exact ⟨List.forall_mem_nil _, List.cons_prefix_cons.2 ⟨rfl, List.nil_prefix⟩⟩
  | cons q before ih =>
    rw [List.cons_append] at hn hp
    obtain ⟨hq, hn⟩ := List.nodup_cons.1 hn
    have hne : p ≠ q := by
      rintro rfl
      exact hq (List.mem_append_right _ List.mem_cons_self)
    cases count with
    | zero => cases hp
    | succ count =>
      by_cases hr : q.isRepeatable = true
      · -- the one before keeps all turns to itself
        rw [turns_cons_of_repeatable hr] at hp
        exact absurd (List.eq_of_mem_replicate hp) hne
      · rw [Bool.not_eq_true] at hr
        rw [turns_cons_of_not_repeatable hr] at hp
        obtain ⟨hbefore, hprefix⟩ := ih hn (List.mem_of_ne_of_mem hne hp)
        refine ⟨List.forall_mem_cons.2 ⟨hr, hbefore⟩, ?_⟩
        rw [List.cons_append, List.cons_append, turns_cons_of_not_repeatable hr]
        exact List.cons_prefix_cons.2 ⟨rfl, hprefix⟩

end Turns

lemma isPositional_of_isCommand {n : Node} (h : n.isCommand = true) : n.isPositional = false := by
  have hname : n.name ∈ n.literals := by
    rw [literals_of_isCommand h]
    exact List.mem_singleton_self n.name
  exact isPositional_eq_false hname

/-- The positional parameters among the successors of a built node are those that it declares. -/
lemma IsBuilt.filter_successors {n : Node} (h : n.IsBuilt) :
    n.successors.filter isPositional = n.parameters.filter isPositional := by
  obtain ⟨nested, he, hc⟩ := h.successors_eq
  have hnested : nested.filter isPositional = [] := by
    rw [List.filter_eq_nil_iff]
    intro m hm
    simp [isPositional_of_isCommand (hc m hm)]
  rw [he, List.filter_append, hnested, List.append_nil]

end Node

/-! ### What is left for the next word -/

namespace Frontier

variable {n p : Node} {siblings used : List Node}

/-- Of the positional parameters those remain that were not used or may be repeated. -/
lemma filter_remaining (siblings used : List Node) :
    (remaining siblings used).filter Node.isPositional =
      remaining (siblings.filter Node.isPositional) (used.filter Node.isPositional) := by
  unfold remaining
  rw [List.filter_filter, List.filter_filter]
  refine List.filter_congr fun n _ => ?_
  cases hn : n.isPositional <;> simp [hn]

lemma remaining_cons_of_notMem (h : p ∉ siblings) (used : List Node) :
    remaining siblings (p :: used) = remaining siblings used := by
  refine List.filter_congr fun n hn => ?_
  have hne : n ≠ p := fun he => h (he ▸ hn)
  simp [hne]

/-- **The next turn** is that of the first parameter that remains of those whose turns are over. -/
theorem turns_succ (h : siblings.Nodup) (count : Nat) : Node.turns siblings (count + 1) =
    Node.turns siblings count ++ (remaining siblings (Node.turns siblings count)).head?.toList := by
  induction count generalizing siblings with
  | zero =>
    rw [Node.turns_zero, remaining_nil]
    cases siblings with
    | nil => rfl
    | cons p ps => rw [Node.turns, Node.turns_zero]; rfl
  | succ count ih =>
    cases siblings with
    | nil => rfl
    | cons p ps =>
      obtain ⟨hp, hps⟩ := List.nodup_cons.1 h
      by_cases hr : p.isRepeatable = true
      · have hhead : (remaining (p :: ps) (Node.turns (p :: ps) (count + 1))).head? = some p := by
          simp [remaining, hr]
        rw [hhead, Node.turns_cons_of_repeatable hr, Node.turns_cons_of_repeatable hr,
          List.replicate_succ']
        rfl
      · rw [Bool.not_eq_true] at hr
        have hleave : remaining (p :: ps) (p :: Node.turns ps count) =
            remaining ps (Node.turns ps count) := by
          rw [← remaining_cons_of_notMem hp]
          simp [remaining, hr]
        rw [Node.turns_cons_of_not_repeatable hr, Node.turns_cons_of_not_repeatable hr, hleave,
          ih hps, List.cons_append]

end Frontier

/-! ### What a run preserves -/

namespace State

variable {s t : State} {g : Group} {gs : List Group}

/-- The positional parameters beside which the state stands, in declaration order. -/
def positionals (s : State) : List Node := s.siblings.filter Node.isPositional

/-- The positional parameters matched since the last command, once for each match. -/
def filled (s : State) : List Node := s.sinceCommand.filter Node.isPositional

/-- The positional parameters have taken words in their turns. -/
def FillsInTurn (s : State) : Prop := ∃ count, s.filled = Node.turns s.positionals count

lemma fillsInTurn_of_filled (h : s.filled = []) : s.FillsInTurn := ⟨0, by rw [h, Node.turns_zero]⟩

/-- A positional parameter is chosen as the first one at the frontier. -/
lemma Accepts.positional?_eq (hg : s.Accepts g) (hp : g.node.isPositional = true) :
    Frontier.positional? s.frontier = some g.node := by
  rcases (Frontier.cases_of_select hg.chosen).2 with hfirst | hc
  · exact hfirst
  · obtain ⟨-, ha⟩ := Frontier.mem_of_mem_candidates hc
    obtain ⟨literal, hl, -⟩ := Node.isAbbreviatedBy_iff.1 ha
    cases hp.symm.trans (Node.isPositional_eq_false hl)

namespace IsSettled

variable (h : s.IsSettled)

include h

lemma nodup_siblings : s.siblings.Nodup := h.walk_nodup.sublist (Node.sublist_walkAll s.siblings)

/-- The positional parameters of a state are those that its command declares. -/
lemma positionals_eq : s.positionals =
    ((s.command.map Node.parameters).getD []).filter Node.isPositional := by
  unfold positionals siblings
  cases hc : s.command with
  | some c => exact (h.command_isBuilt c hc).filter_successors
  | none =>
    -- before the first command there are commands only
    rw [Option.map_none, Option.map_none, Option.getD_none, Option.getD_none, List.filter_nil,
      List.filter_eq_nil_iff]
    intro n hn
    simp [Node.isPositional_of_isCommand (s.root.areCommands n hn)]

/-- A positional parameter that takes a word is the first that remains. -/
lemma head?_remaining (hg : s.Accepts g) (hp : g.node.isPositional = true) :
    (Frontier.remaining s.positionals s.filled).head? = some g.node := by
  rw [positionals, filled, ← Frontier.filter_remaining, ← h.frontier_eq, List.head?_filter]
  exact hg.positional?_eq hp

/-- **One step keeps the turns:** a command begins anew, a parameter that is called by a literal takes
no turn, and a positional one has the next. -/
theorem fillsInTurn_after (hs : s.FillsInTurn) (hg : s.Accepts g) : (s.after g).FillsInTurn := by
  by_cases hc : g.node.isCommand = true
  · refine fillsInTurn_of_filled ?_
    rw [filled, after_sinceCommand_command hc, List.filter_nil]
  · rw [Bool.not_eq_true] at hc
    have hpositionals : (s.after g).positionals = s.positionals := by
      rw [positionals, positionals, after_siblings_parameter hc]
    have hfilled : (s.after g).filled = s.filled ++ [g.node].filter Node.isPositional := by
      rw [filled, filled, after_sinceCommand_parameter hc, List.filter_append]
    obtain ⟨count, hcount⟩ := hs
    cases hp : g.node.isPositional with
    | true =>
      have hnodup : s.positionals.Nodup := h.nodup_siblings.filter _
      refine ⟨count + 1, ?_⟩
      rw [hfilled, hpositionals, Frontier.turns_succ hnodup, ← hcount, h.head?_remaining hg hp,
        List.filter_singleton, hp]
      rfl
    | false =>
      refine ⟨count, ?_⟩
      rw [hfilled, hpositionals, ← hcount, List.filter_singleton, hp]
      exact List.append_nil _

end IsSettled

/-- **A whole run keeps the turns.** -/
theorem Reaches.fillsInTurn (h : s.Reaches gs t) (hs : s.IsSettled) (hf : s.FillsInTurn) :
    t.FillsInTurn := by
  have hboth := h.invariant (P := fun u => u.IsSettled ∧ u.FillsInTurn)
    (fun u g hu hg => ⟨hu.1.after hg, hu.1.fillsInTurn_after hu.2 hg⟩) ⟨hs, hf⟩
  exact hboth.2

/-- A positional parameter that is bound has had its turn since the command. -/
lemma Reaches.mem_filled {root : Root} {p : Node} (h : (start root).Reaches gs s)
    (hs : s.IsSettled) (hp : p ∈ s.positionals) (hb : s.bindings.binds p = true) :
    p ∈ s.filled := by
  rw [hs.positionals_eq, List.mem_filter] at hp
  obtain ⟨hdeclared, hpositional⟩ := hp
  refine List.mem_filter.2 ⟨?_, hpositional⟩
  cases hc : s.command with
  | none =>
    rw [hc] at hdeclared
    cases hdeclared
  | some c =>
    rw [hc] at hdeclared
    exact (hs.mem_bound_iff hc hdeclared).1 (h.binds_iff.1 hb)

end State

/-! ### Matched lines -/

section Parse

variable {registry : Registry} {isStrict : Bool} {next : Nat} {grammar : Grammar}
  {tokens : List String} {s : State}

/-- **Positional parameters are filled in declaration order.** After the command in force its
positional parameters were matched once each, in order, if none of them may be repeated, and
otherwise up to the first that may be, which was matched from then on. So a positional parameter that
is bound comes after all those declared before it, none of which may be repeated. -/
theorem parse_positionals (hf : registry.finish isStrict next = .ok grammar)
    (hp : parse tokens grammar.root = .ok s) :
    ∃ passed used declared, s.trace = passed ++ used ∧ passed.getLast? = s.command ∧
      (∀ p ∈ used, p.isParameter = true) ∧
      declared = ((s.command.map Node.parameters).getD []).filter Node.isPositional ∧
      ((∀ p ∈ declared, p.isRepeatable = false) → used.filter Node.isPositional <+: declared) ∧
      (∀ before r after, declared = before ++ r :: after →
        (∀ p ∈ before, p.isRepeatable = false) → r.isRepeatable = true →
          ∃ count, used.filter Node.isPositional <+: before ++ List.replicate count r) ∧
      ∀ before p after, declared = before ++ p :: after → s.bindings.binds p = true →
        (∀ q ∈ before, q.isRepeatable = false) ∧
          before ++ [p] <+: used.filter Node.isPositional := by
  obtain ⟨gs, hr, -⟩ := parse_eq_ok_iff.1 hp
  have hs := isSettled_of_parse hf hp
  have hstart := State.isSettled_start (Registry.isTree_of_finish hf)
  obtain ⟨turn, hturn⟩ := hr.fillsInTurn hstart (State.fillsInTurn_of_filled rfl)
  have hfilled : s.sinceCommand.filter Node.isPositional = Node.turns s.positionals turn := hturn
  refine ⟨s.untilCommand, s.sinceCommand, s.positionals,
    s.untilCommand_append_sinceCommand.symm, ?_, fun p => State.isParameter_of_mem_sinceCommand,
    hs.positionals_eq, fun hone => ?_, fun before r after hdeclared hbefore hrepeatable => ?_,
    fun before p after hdeclared hbound => ?_⟩
  · rw [s.getLast?_untilCommand, hs.command_eq]
  · rw [hfilled, Node.turns_eq_take hone]
    exact List.take_prefix turn s.positionals
  · refine ⟨turn, ?_⟩
    rw [hfilled, hdeclared, Node.turns_eq_take_replicate hbefore hrepeatable]
    exact List.take_prefix turn _
  · have hmem : p ∈ s.filled := by
      refine hr.mem_filled hs ?_ hbound
      rw [hdeclared]
      exact List.mem_append_right _ List.mem_cons_self
    have hnodup : s.positionals.Nodup := hs.nodup_siblings.filter _
    rw [hturn, hdeclared] at hmem
    rw [hdeclared] at hnodup
    rw [hfilled, hdeclared]
    exact Node.prefix_turns_of_mem hnodup hmem

end Parse

namespace Copying

/-- A parameter that takes a word by its place. -/
def operand (name : String) (isRepeatable : Bool) : Parameter where
  name
  kind := .simple
  aliases := []
  help := none
  isRequired := false
  isRepeatable
  priority := none
  isHidden := false

/-- A command with a place to copy to, things to copy there, and a mode that is out of reach. -/
def registry : Registry :=
  ⟨[Nested.command "copy" 0
    [operand "to" false, Nested.label false, operand "from" true, operand "mode" false] []]⟩

end Copying

/-- A name is given among the things to copy, which leave nothing for the mode. -/
theorem parse_positionals_copy : ∃ grammar s passed used place source mode,
    Copying.registry.finish false 0 = .ok grammar ∧
    parse ["copy", "a", "b", "--n", "x", "c"] grammar.root = .ok s ∧
    s.trace.map Node.name = ["copy", "to", "from", "--name", "from"] ∧
    s.trace = passed ++ used ∧ passed.getLast? = s.command ∧
    ((s.command.map Node.parameters).getD []).filter Node.isPositional = [place, source, mode] ∧
    (∃ count, used.filter Node.isPositional <+: [place] ++ List.replicate count source) ∧
    [place] ++ [source] <+: used.filter Node.isPositional ∧ s.bindings.binds mode = false := by
  obtain ⟨grammar, s, hf, hp, hall⟩ := exists_ok_of_any_any
    (e := Copying.registry.finish false 0)
    (f := fun grammar => parse ["copy", "a", "b", "--n", "x", "c"] grammar.root)
    (p := fun _ s => decide (
      s.trace.map Node.name = ["copy", "to", "from", "--name", "from"] ∧
      (((s.command.map Node.parameters).getD []).filter Node.isPositional).map Node.isRepeatable =
        [false, true, false] ∧
      ∀ p ∈ ((s.command.map Node.parameters).getD []).filter Node.isPositional,
        p.isRepeatable = true → s.bindings.binds p = true)) (by decide +kernel)
  obtain ⟨hnames, hrepeatable, hbinds⟩ := of_decide_eq_true hall
  obtain ⟨passed, used, declared, htrace, hlast, -, heq, -, hprefix, hbound⟩ :=
    parse_positionals hf hp
  rw [← heq] at hrepeatable hbinds
  obtain ⟨place, source, mode, rfl⟩ : ∃ place source mode, declared = [place, source, mode] := by
    refine List.length_eq_three.1 ?_
    rw [← List.length_map, hrepeatable]
    rfl
  simp only [List.map_cons, List.map_nil, List.cons.injEq, and_true] at hrepeatable
  obtain ⟨hplace, hsource, -⟩ := hrepeatable
  have hmode : s.bindings.binds mode = false := by
    by_contra hmode
    rw [Bool.not_eq_false] at hmode
    have hsingle := (hbound [place, source] mode [] rfl hmode).1 source (by simp)
    cases hsource.symm.trans hsingle
  exact ⟨grammar, s, passed, used, place, source, mode, hf, hp, hnames, htrace, hlast, heq.symm,
    hprefix [place] source [mode] rfl (List.forall_mem_singleton.2 hplace) hsource,
    (hbound [place] source [mode] rfl (hbinds source (by simp) hsource)).2, hmode⟩

end CommandGrammar
