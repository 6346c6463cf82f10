import CommandGrammar.Proofs.Continuation
import CommandGrammar.Proofs.Scope

/-!
What verification asks of a line. It reports the required parameters of the matched command that were
not matched after it, in declaration order; what was given to a command around it does not count. The
more parameters a line has the fewer are reported.
-/

namespace CommandGrammar

namespace State

variable {s t : State} {c p : Node} {gs hs : List Group} {lack : MissingRequired}

/-! ### Verdicts -/

/-- The names that verification reports. -/
def missing (s : State) : List String :=
  match s.verify with
  | .ok _ => []
  | .error lack => lack.names

lemma verify_of_command_eq_none (h : s.command = none) : s.verify = .ok () := by
  rw [verify, h]

lemma verify_eq_error_iff (h : s.command = some c) : s.verify = .error lack ↔
    s.lacking c ≠ [] ∧ lack = ⟨c, (s.lacking c).map Node.name⟩ := by
  rw [verify, h]
  dsimp only
  by_cases hnil : s.lacking c = []
  · rw [if_pos (List.isEmpty_iff.2 hnil)]
    simp [hnil]
  · rw [if_neg (mt List.isEmpty_iff.1 hnil), Except.error.injEq, eq_comm]
    exact (and_iff_right hnil).symm

lemma verify_eq_ok_iff (h : s.command = some c) : s.verify = .ok () ↔ s.lacking c = [] := by
  rw [verify, h]
  simp

lemma missing_eq (h : s.command = some c) : s.missing = (s.lacking c).map Node.name := by
  unfold missing
  cases hv : s.verify with
  | ok => rw [(verify_eq_ok_iff h).1 hv, List.map_nil]
  | error lack => rw [((verify_eq_error_iff h).1 hv).2]

/-- Verification passes when it has no name to report. -/
lemma missing_eq_nil_iff : s.missing = [] ↔ s.verify = .ok () := by
  cases hc : s.command with
  | none => simp [missing, verify_of_command_eq_none hc]
  | some c => rw [missing_eq hc, List.map_eq_nil_iff, verify_eq_ok_iff hc]

/-! ### Since the command -/

namespace IsSettled

variable (h : s.IsSettled)

include h

/-- The parameters of the matched command were not matched before it. -/
lemma notMem_untilCommand (hc : s.command = some c) (hp : p ∈ c.parameters) :
    p ∉ s.untilCommand := by
  intro hmem
  refine h.untilCommand_past p hmem (Node.mem_walkAll_of_mem ?_)
  rw [siblings, hc]
  exact (h.command_isBuilt c hc).mem_successors hp

/-- A parameter of the matched command is bound when it was matched after the command. -/
lemma mem_bound_iff (hc : s.command = some c) (hp : p ∈ c.parameters) :
    p ∈ s.bound ↔ p ∈ s.sinceCommand := by
  have hparameter := (h.command_isBuilt c hc).areParameters p hp
  rw [mem_bound, ← s.untilCommand_append_sinceCommand, List.mem_append]
  simp [h.notMem_untilCommand hc hp, hparameter]

end IsSettled

section Run

variable {root : Root} (h : (start root).Reaches gs s)

include h

lemma Reaches.binds_iff : s.bindings.binds p = true ↔ p ∈ s.bound := by
  rw [h.bindings_eq, ← h.parametersOf_eq]
  simp [Bindings.binds, Bindings.gathered]

/-- **What is lacking** are the required parameters that were not matched after the command. -/
theorem Reaches.lacking_eq (hs : s.IsSettled) (hc : s.command = some c) :
    s.lacking c = c.parameters.filter fun p => p.isRequired && p ∉ s.sinceCommand := by
  refine List.filter_congr fun p hp => ?_
  rw [Bool.eq_iff_iff]
  simp [← hs.mem_bound_iff hc hp, ← h.binds_iff]

/-! ### Longer lines -/

/-- More that is matched leaves less to be lacking. -/
lemma Reaches.lacking_sublist (hst : s.Reaches hs t) (c : Node) :
    (t.lacking c).Sublist (s.lacking c) := by
  have hbound : s.bound ⊆ t.bound := by
    intro p hp
    obtain ⟨hmem, hparameter⟩ := mem_bound.1 hp
    rw [mem_bound, hst.trace_eq]
    exact ⟨List.mem_append_left _ hmem, hparameter⟩
  refine List.monotone_filter_right _ fun p hp => ?_
  obtain ⟨hrequired, hlacks⟩ := Bool.and_eq_true_iff.1 hp
  rw [Bool.and_eq_true_iff]
  refine ⟨hrequired, ?_⟩
  rw [Bool.not_eq_true', Bool.eq_false_iff, ne_eq, h.binds_iff]
  rw [Bool.not_eq_true', Bool.eq_false_iff, ne_eq, (h.append hst).binds_iff] at hlacks
  exact fun hp => hlacks (hbound hp)

/-- **The more parameters the fewer are missing,** as long as the command stays the same. -/
theorem Reaches.missing_sublist (hst : s.Reaches hs t) (hcommand : t.command = s.command) :
    t.missing.Sublist s.missing := by
  cases hc : s.command with
  | none =>
    rw [missing_eq_nil_iff.2 (verify_of_command_eq_none (hcommand.trans hc))]
    exact List.nil_sublist _
  | some c =>
    rw [missing_eq hc, missing_eq (hcommand.trans hc)]
    exact (h.lacking_sublist hst c).map Node.name

end Run

/-- Parameters do not change the command. -/
lemma Reaches.command_eq_of_isParameter (h : s.Reaches gs t)
    (hgs : ∀ g ∈ gs, g.node.isParameter = true) : t.command = s.command := by
  induction h with
  | nil => rfl
  | cons _ _ ih =>
    obtain ⟨hg, hgs⟩ := List.forall_mem_cons.1 hgs
    rw [ih hgs, after_command, if_neg (by simp [Node.isParameter_iff.1 hg])]

end State

/-! ### Matched lines -/

/-- Verifying the state, whose command is `c`, tells exactly what required parameters of the command
were not used after it. What was passed up to the command has none of its parameters. -/
structure State.VerifiesUse (s : State) (c : Node) (passed used : List Node) : Prop where
  trace_eq : s.trace = passed ++ used
  getLast?_eq : passed.getLast? = some c
  used_own : ∀ p ∈ used, p ∈ c.parameters ∧ p.isParameter = true
  notMem_passed : ∀ p ∈ c.parameters, p ∉ passed
  verify_eq_ok_iff : s.verify = .ok () ↔ ∀ p ∈ c.parameters, p.isRequired = true → p ∈ used
  verify_eq_error_iff : ∀ lack, s.verify = .error lack ↔
    (∃ p ∈ c.parameters, p.isRequired = true ∧ p ∉ used) ∧
      lack = ⟨c, (c.parameters.filter fun p => p.isRequired && p ∉ used).map Node.name⟩

/-- What was used of the parameters of the matched command comes after the command. -/
lemma State.Reaches.exists_verifiesUse {root : Root} {gs : List Group} {s : State} {c : Node}
    (h : (start root).Reaches gs s) (hs : s.IsSettled) (hc : s.command = some c) :
    ∃ passed used, s.VerifiesUse c passed used := by
  have hlacking := h.lacking_eq hs hc
  refine ⟨s.untilCommand, s.sinceCommand, s.untilCommand_append_sinceCommand.symm, ?_, ?_, ?_, ?_, ?_⟩
  · rw [s.getLast?_untilCommand, ← hs.command_eq, hc]
  · intro p hmem
    obtain ⟨d, hd, hpd⟩ := hs.declared p hmem
    cases hc.symm.trans hd
    exact ⟨hpd, isParameter_of_mem_sinceCommand hmem⟩
  · intro p
    exact hs.notMem_untilCommand hc
  · rw [verify_eq_ok_iff hc, hlacking, List.filter_eq_nil_iff]
    simp
  · intro lack
    rw [verify_eq_error_iff hc, hlacking, ne_eq, List.filter_eq_nil_iff]
    simp

section Parse

variable {registry : Registry} {isStrict : Bool} {next : Nat} {grammar : Grammar}
  {xs : List String} {s : State}

/-- **Verification is exact and monotone.** It fails exactly when a required parameter of the matched
command was not matched after the command, with the names of all such parameters in declaration
order; none of the command's parameters was matched before it, so what commands around it were given
does not count. A parser that verifies and executes the line keeps its state. A longer line
with the same command, as one with more parameters, has no name missing that was not, and passes
where the shorter one did. -/
theorem parse_verify (hf : registry.finish isStrict next = .ok grammar)
    (hp : parse xs grammar.root = .ok s) :
    (s.command = none → s.verify = .ok ()) ∧
    (∀ c, s.command = some c → ∃ passed used, s.VerifiesUse c passed used) ∧
    (∀ lack, s.verify = .error lack →
      s.runVerify = .error (.fault (.ofMissingRequired lack)) ∧
        (Fault.ofMissingRequired lack).options.get? "missing" = some (Fault.texts lack.names)) ∧
    s.IsKept grammar.root xs ∧
    ∀ ys t, parse (xs ++ ys) grammar.root = .ok t →
      ((∀ n ∈ t.trace.drop s.trace.length, n.isParameter = true) → t.command = s.command) ∧
      (t.command = s.command →
        t.missing.Sublist s.missing ∧ (s.verify = .ok () → t.verify = .ok ())) := by
  obtain ⟨gs, hr, rfl⟩ := parse_eq_ok_iff.1 hp
  have hs := isSettled_of_parse hf hp
  refine ⟨State.verify_of_command_eq_none, fun c => hr.exists_verifiesUse hs,
    fun lack hv => ⟨?_, rfl⟩, State.isKept_of_parse hp, fun ys t ht => ?_⟩
  · rw [State.runVerify, hv]
    rfl
  · rw [parse, State.run_append hp] at ht
    obtain ⟨hs', hst, rfl⟩ := State.run_eq_ok_iff.1 ht
    refine ⟨fun hparameters => hst.command_eq_of_isParameter fun g hg => ?_, fun hcommand => ?_⟩
    · refine hparameters g.node ?_
      rw [hst.trace_eq, List.drop_left]
      exact List.mem_map_of_mem hg
    · have hsub := hr.missing_sublist hst hcommand
      refine ⟨hsub, fun hv => State.missing_eq_nil_iff.1 ?_⟩
      rw [State.missing_eq_nil_iff.2 hv] at hsub
      exact List.sublist_nil.1 hsub

/-- The label of the outer command does not count for the inner one, which needs one of its own. -/
theorem parse_verify_port : ∃ grammar s t c passed used,
    Nested.registry.finish false 0 = .ok grammar ∧
    parse ["show", "--name", "eth0", "port"] grammar.root = .ok s ∧
    parse (["show", "--name", "eth0", "port"] ++ ["--name", "eth1"]) grammar.root = .ok t ∧
    s.names.get? "--name" = some (.single (.word "eth0")) ∧
    s.command = some c ∧ s.verify = .error ⟨c, ["--name"]⟩ ∧
    s.trace = passed ++ used ∧ passed.getLast? = some c ∧
    (∃ p ∈ c.parameters, p.isRequired = true ∧ p ∉ used) ∧
    t.command = s.command ∧ t.missing.Sublist s.missing ∧ t.verify = .ok () := by
  obtain ⟨grammar, s, hf, hp, hall⟩ := exists_ok_of_any_any
    (e := Nested.registry.finish false 0)
    (f := fun grammar => parse ["show", "--name", "eth0", "port"] grammar.root)
    (p := fun grammar s => decide (s.names.get? "--name" = some (.single (.word "eth0"))) &&
      (s.command.any fun c : Node => decide (s.verify = .error ⟨c, ["--name"]⟩)) &&
      (parse (["show", "--name", "eth0", "port"] ++ ["--name", "eth1"])
        grammar.root).toOption.any fun t : State => decide (t.verify = .ok () ∧
          ∀ n ∈ t.trace.drop s.trace.length, n.isParameter = true)) (by decide +kernel)
  obtain ⟨hall, hlonger⟩ := Bool.and_eq_true_iff.1 hall
  obtain ⟨hname, hlacks⟩ := Bool.and_eq_true_iff.1 hall
  obtain ⟨c, hc, hlacks⟩ := (Option.any_eq_true ..).1 hlacks
  obtain ⟨t, ht, hlonger⟩ := exists_ok_of_any hlonger
  obtain ⟨hpasses, hparameters⟩ := of_decide_eq_true hlonger
  obtain ⟨-, hexact, -, -, hmonotone⟩ := parse_verify hf hp
  obtain ⟨passed, used, huse⟩ := hexact c hc
  obtain ⟨hsame, hfewer⟩ := hmonotone _ t ht
  exact ⟨grammar, s, t, c, passed, used, hf, hp, ht, of_decide_eq_true hname, hc,
    of_decide_eq_true hlacks, huse.trace_eq, huse.getLast?_eq,
    ((huse.verify_eq_error_iff _).1 (of_decide_eq_true hlacks)).1,
    hsame hparameters, (hfewer (hsame hparameters)).1, hpasses⟩

end Parse

end CommandGrammar
