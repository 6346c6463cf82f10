import CommandGrammar.Proofs.Ambiguity
import CommandGrammar.Proofs.Wrappers

/-!
Typed paths. Resolving the path of a wrapper takes the first command of each name; typing it takes
what has the highest priority, and that may be another node of the name or a positional parameter.
Where each command on the path is preferred to what stands beside it, both take the same commands,
and the wrapper and its path call the handler of one command.
-/

namespace CommandGrammar

/-- Each of the commands is preferred for its name: the first one among the siblings, and each other
one among the successors of the one before it. -/
def IsPreferred : List Node → List Node → Prop
  | _, [] => True
  | siblings, c :: cs => Frontier.Prefers siblings c.name c ∧ IsPreferred c.successors cs

/-- In a tree whose siblings share no literals the preferred commands are those that their names
stand for. -/
lemma isChosen_iff {root : Root} (ht : root.IsTree) (hnone : ∀ x : SharedLiteral, ¬ x.IsIn root)
    (parent : Option Node) (hp : parent ∈ root.parents) {names : List String} {ns : List Node}
    (hf : Finds (root.below parent) names ns) :
    IsChosen (root.below parent) ns ↔ IsPreferred (root.below parent) ns := by
  -- down the path: each command is the parent below which the next one is looked up
  induction ns generalizing parent names with
  | nil => exact Iff.rfl
  | cons c cs ih =>
    cases hf with
    | cons hc hcs =>
      have hmem := commandNamed_mem hc
      have hwalk := Root.mem_walk_of_mem_below hp hmem
      have hname : c.name ∈ c.literals := by
        rw [Node.literals_of_isCommand (isCommand_of_commandNamed hc)]
        exact List.mem_singleton_self _
      refine and_congr (Frontier.select_eq_chosen_iff ?_ ?_ hmem hname) ?_
      · exact fun n hn => (ht.isBuilt n (Root.mem_walk_of_mem_below hp hn)).isKindless_eq_false
      · intro priority
        by_contra htwo
        exact hnone ⟨parent, c.name, priority⟩ ⟨hp, Nat.not_lt.1 htwo⟩
      · exact ih (some c) (Root.mem_parents.2 fun n hn => Option.some.inj hn ▸ hwalk) hcs

/-! ### Wrappers and their paths -/

section Grammar

variable {registry : Registry} {isStrict : Bool} {next : Nat} {grammar : Grammar}

/-- In a finished grammar a wrapper leads to a command, and both come to the same plain one. -/
lemma Registry.exists_leads_of_finish (hf : registry.finish isStrict next = .ok grammar) {w : Node}
    (hw : w ∈ grammar.root.walk) (hwrapper : w.isWrapper = true) : ∃ c target,
      grammar.root.Leads w c ∧ grammar.root.follow w = .ok target ∧
        grammar.root.follow c = .ok target := by
  obtain ⟨-, -, -, hcheck⟩ := exists_of_finish hf
  obtain ⟨target, hfollow⟩ := Root.exists_follow_of_checkWrappers hcheck hw
  obtain ⟨hleads, hplain⟩ := Root.follow_eq_ok_iff.1 hfollow
  rcases Relation.ReflTransGen.cases_head hleads with rfl | ⟨c, hc, -⟩
  · cases hwrapper.symm.trans hplain
  · exact ⟨c, target, hc, hfollow, hc.follow_eq hfollow⟩

/-- **A wrapper and its path.** In a grammar finished without warnings the path of a wrapper finds
commands, the last of them the one that the wrapper leads to. Typing the path matches these commands
exactly when each of them is preferred, for its name, to what stands beside it. It then calls the
handler of the command whose handler a line calls that matches the wrapper, each with its own
bindings. -/
theorem parse_wrapped (ha : registry.IsAccepted)
    (hf : registry.finish isStrict next = .ok grammar) (hnone : grammar.warnings = []) {w : Node}
    {path : List String} (hw : w ∈ grammar.root.walk) (hpath : w.path? = some path) :
    ∃ ns c, Finds grammar.root.successors path ns ∧ ns.getLast? = some c ∧
      grammar.root.resolve path = .ok c ∧
      ((∃ t, parse path grammar.root = .ok t ∧ t.trace = ns) ↔
        IsPreferred grammar.root.successors ns) ∧
      (IsPreferred grammar.root.successors ns → ∃ t target,
        parse path grammar.root = .ok t ∧ t.command = some c ∧
        grammar.root.follow c = .ok target ∧ grammar.root.follow w = .ok target ∧
        ∀ tokens s, parse tokens grammar.root = .ok s → s.command = some w → ∀ host,
          (s.runExecute host).transcript.calls =
              (target.handler.map fun handler => ⟨target, handler, s.names⟩).toList ∧
            (t.runExecute host).transcript.calls =
              (target.handler.map fun handler => ⟨target, handler, t.names⟩).toList) := by
  obtain ⟨c, target, hleads, hfw, hfc⟩ :=
    Registry.exists_leads_of_finish hf hw (Node.isWrapper_iff.2 ⟨path, hpath⟩)
  obtain ⟨path', hpath', hresolve⟩ := hleads
  cases hpath.symm.trans hpath'
  obtain ⟨ns, hfinds, hlast⟩ := Root.resolve_eq_ok_iff.1 hresolve
  have htyped : (∃ t, parse path grammar.root = .ok t ∧ t.trace = ns) ↔
      IsPreferred grammar.root.successors ns := by
    rw [← hfinds.map_name, parse_names_iff hfinds.isCommand]
    exact isChosen_iff (Registry.isTree_of_finish hf) (Registry.not_isIn_of_warnings ha hf hnone)
      none List.mem_cons_self hfinds
  refine ⟨ns, c, hfinds, hlast, hresolve, htyped, fun hpreferred => ?_⟩
  obtain ⟨t, ht, htrace⟩ := htyped.2 hpreferred
  have hcommand : t.command = some c := by
    rw [(isSettled_of_parse hf ht).command_eq, State.path, htrace,
      List.filter_eq_self.2 hfinds.isCommand, hlast]
  refine ⟨t, target, ht, hcommand, hfc, hfw, fun tokens s hs hsw host => ⟨?_, ?_⟩⟩
  · rw [← root_of_parse hs] at hfw
    exact (State.runExecute_of_follow hsw hfw host).1
  · rw [← root_of_parse ht] at hfc
    exact (State.runExecute_of_follow hcommand hfc host).1

end Grammar

/-! ### Paths that are taken elsewhere -/

/-- The tokens match the wrapper and call the handler of one command; the path of the wrapper,
typed, calls that of another. -/
def Root.Strays (root : Root) (w : Node) (tokens path : List String) : Prop :=
  ∃ s t m n j k, w.path? = some path ∧ parse tokens root = .ok s ∧ s.command = some w ∧
    parse path root = .ok t ∧ m ≠ n ∧ ∀ host,
      (s.runExecute host).transcript.calls = [⟨m, j, s.names⟩] ∧
      (t.runExecute host).transcript.calls = [⟨n, k, t.names⟩]

/-- Whether the tokens match a wrapper that strays from the path. -/
def Root.straysAt (root : Root) (tokens path : List String) : Bool :=
  (parse tokens root).toOption.any fun s => (parse path root).toOption.any fun t =>
    s.command.any fun w => t.command.any fun d => decide (w.path? = some path) &&
      (root.follow w).toOption.any fun m => (root.follow d).toOption.any fun n =>
        decide (m ≠ n) && m.handler.isSome && n.handler.isSome

lemma Root.strays_of_straysAt {root : Root} {tokens path : List String}
    (h : root.straysAt tokens path = true) :
    ∃ s w, parse tokens root = .ok s ∧ s.command = some w ∧ root.Strays w tokens path := by
  obtain ⟨s, hs, h⟩ := exists_ok_of_any h
  obtain ⟨t, ht, h⟩ := exists_ok_of_any h
  obtain ⟨w, hw, h⟩ := (Option.any_eq_true ..).1 h
  obtain ⟨d, hd, h⟩ := (Option.any_eq_true ..).1 h
  obtain ⟨hpath, h⟩ := Bool.and_eq_true_iff.1 h
  obtain ⟨m, hm, h⟩ := exists_ok_of_any h
  obtain ⟨n, hn, h⟩ := exists_ok_of_any h
  obtain ⟨h, hk⟩ := Bool.and_eq_true_iff.1 h
  obtain ⟨hne, hj⟩ := Bool.and_eq_true_iff.1 h
  obtain ⟨j, hj⟩ := Option.isSome_iff_exists.1 hj
  obtain ⟨k, hk⟩ := Option.isSome_iff_exists.1 hk
  refine ⟨s, w, hs, hw, s, t, m, n, j, k, of_decide_eq_true hpath, hs, hw, ht,
    of_decide_eq_true hne, fun host => ⟨?_, ?_⟩⟩
  · rw [← root_of_parse hs] at hm
    rw [(State.runExecute_of_follow hw hm host).1, hj]
    rfl
  · rw [← root_of_parse ht] at hn
    rw [(State.runExecute_of_follow hd hn host).1, hk]
    rfl

section Crowded

/-- A plain command without parameters. -/
def plainCommand (name : String) (handler : Handler) (priority : Int) : Command :=
  .mk { name, help := none, handler, wraps := none, priority, isHidden := false } [] []

/-- A command with a positional parameter of the priority and with a sub-command. -/
def nestingCommand (priority : Int) : Command :=
  .mk {
    name := "show", help := none, handler := some 2, wraps := none
    priority := defaultPriority, isHidden := false }
    [{ Demo.target with priority := some priority }] [plainCommand "brief" 3 defaultPriority]

/-- Two commands of one name, the other one of the priority `second`, and a sub-command beside a
positional parameter of the priority `positional`, each of them with a short form. -/
def crowdedRegistry (positional second : Int) : Registry :=
  ⟨[plainCommand "ls" 0 defaultPriority, plainCommand "ls" 1 second, shortForm "l" ["ls"] [],
    nestingCommand positional, shortForm "sb" ["show", "brief"] []]⟩

lemma isAccepted_plainCommand {name : String} (h : checkWord .name name = .ok name)
    (handler : Handler) (priority : Int) : (plainCommand name handler priority).IsAccepted := by
  refine .ofDraft {
    name := .text name, handler := .callable ⟨handler, name, name, false⟩
    priority := .integer priority } ?_ (List.forall_mem_nil _) (List.forall_mem_nil _)
  have hname : expectWord .name (.text name) = .ok name := h
  rw [Command.ofDraft, Description.checkCommand, Description.checkShared, hname]
  rfl

lemma isAccepted_nestingCommand (priority : Int) : (nestingCommand priority).IsAccepted := by
  refine .ofDraft {
    name := .text "show", parameters := (nestingCommand priority).parameters.map .parameter
    handler := .callable ⟨2, "show", "show", false⟩
    commands := .list ((nestingCommand priority).commands.map .command) } rfl ?_ ?_
  · exact List.forall_mem_singleton.2 ⟨{
      name := .text "target", descr := .text "what to show", required := .truth true
      priority := .integer priority }, rfl⟩
  · exact List.forall_mem_singleton.2 (isAccepted_plainCommand rfl 3 defaultPriority)

lemma isAccepted_crowdedRegistry (positional second : Int) :
    (crowdedRegistry positional second).IsAccepted := by
  have hlist : (shortForm "l" ["ls"] []).IsAccepted :=
    .ofDraft { name := .text "l", wraps := .text "ls" } rfl (List.forall_mem_nil _)
      (List.forall_mem_nil _)
  have hbrief : (shortForm "sb" ["show", "brief"] []).IsAccepted :=
    .ofDraft { name := .text "sb", wraps := .text "show brief" } rfl (List.forall_mem_nil _)
      (List.forall_mem_nil _)
  simp only [Registry.IsAccepted, crowdedRegistry, List.forall_mem_cons]
  exact ⟨isAccepted_plainCommand rfl 0 defaultPriority, isAccepted_plainCommand rfl 1 second,
    hlist, isAccepted_nestingCommand positional, hbrief, List.forall_mem_nil _⟩

/-- **A wrapper may stray from its path** though there are no warnings: its path, typed, may match
another command of the name that has a higher priority, or a positional parameter. -/
theorem exists_strays : ∃ grammar v w, (crowdedRegistry 5 5).IsAccepted ∧
    (crowdedRegistry 5 5).finish false 0 = .ok grammar ∧ grammar.warnings = [] ∧
    v ∈ grammar.root.walk ∧ grammar.root.Strays v ["l"] ["ls"] ∧
    w ∈ grammar.root.walk ∧ grammar.root.Strays w ["sb"] ["show", "brief"] := by
  obtain ⟨grammar, hf, hall⟩ := exists_ok_of_any (e := (crowdedRegistry 5 5).finish false 0)
    (p := fun grammar => grammar.warnings.isEmpty && grammar.root.straysAt ["l"] ["ls"] &&
      grammar.root.straysAt ["sb"] ["show", "brief"]) (by decide +kernel)
  obtain ⟨hall, hbrief⟩ := Bool.and_eq_true_iff.1 hall
  obtain ⟨hnone, hlist⟩ := Bool.and_eq_true_iff.1 hall
  obtain ⟨s, v, hs, hv, hlist⟩ := Root.strays_of_straysAt hlist
  obtain ⟨t, w, ht, hw, hbrief⟩ := Root.strays_of_straysAt hbrief
  have hvwalk := ((isSettled_of_parse hf hs).of_command hv).1
  have hwwalk := ((isSettled_of_parse hf ht).of_command hw).1
  rw [root_of_parse hs] at hvwalk
  rw [root_of_parse ht] at hwwalk
  exact ⟨grammar, v, w, isAccepted_crowdedRegistry 5 5, hf, List.isEmpty_iff.1 hnone, hvwalk,
    hlist, hwwalk, hbrief⟩

/-- With lower priorities the short form of the sub-command and its path call one handler. -/
theorem parse_wrapped_brief : ∃ grammar w s t target,
    (crowdedRegistry (-5) (-5)).IsAccepted ∧
    (crowdedRegistry (-5) (-5)).finish false 0 = .ok grammar ∧ grammar.warnings = [] ∧
    w ∈ grammar.root.walk ∧ w.path? = some ["show", "brief"] ∧
    parse ["sb"] grammar.root = .ok s ∧ s.command = some w ∧
    parse ["show", "brief"] grammar.root = .ok t ∧ target.name = "brief" ∧ ∀ host,
      (s.runExecute host).transcript.calls = [⟨target, 3, s.names⟩] ∧
      (t.runExecute host).transcript.calls = [⟨target, 3, t.names⟩] := by
  have ha := isAccepted_crowdedRegistry (-5) (-5)
  obtain ⟨grammar, hf, hall⟩ := exists_ok_of_any (e := (crowdedRegistry (-5) (-5)).finish false 0)
    (p := fun grammar => grammar.warnings.isEmpty &&
      (parse ["sb"] grammar.root).toOption.any fun s : State =>
        (parse ["show", "brief"] grammar.root).toOption.any fun t : State =>
          (s.command.any fun w => decide (w ∈ grammar.root.walk ∧
            w.path? = some ["show", "brief"])) && decide (∃ m ∈ grammar.root.successors,
              ∃ n ∈ m.successors, t.trace = [m, n] ∧
              commandNamed "show" grammar.root.successors = some m ∧
              commandNamed "brief" m.successors = some n ∧
              n.isWrapper = false ∧ n.name = "brief" ∧ n.handler = some 3)) (by decide +kernel)
  obtain ⟨hnone, hall⟩ := Bool.and_eq_true_iff.1 hall
  obtain ⟨s, hs, hall⟩ := exists_ok_of_any hall
  obtain ⟨t, ht, hall⟩ := exists_ok_of_any hall
  obtain ⟨hw, htyped⟩ := Bool.and_eq_true_iff.1 hall
  obtain ⟨w, hsw, hw⟩ := (Option.any_eq_true ..).1 hw
  obtain ⟨hwalk, hpath⟩ := of_decide_eq_true hw
  obtain ⟨m, -, n, -, htrace, hm, hn, hplain, hname, hhandler⟩ := of_decide_eq_true htyped
  rw [List.isEmpty_iff] at hnone
  obtain ⟨ns, c, hfinds, hlast, -, hiff, hcalls⟩ := parse_wrapped ha hf hnone hwalk hpath
  have hns : ns = [m, n] := hfinds.unique (.cons hm (.cons hn (.nil _)))
  subst hns
  obtain ⟨t', target, ht', -, hfollow, -, hsame⟩ := hcalls (hiff.1 ⟨t, ht, htrace⟩)
  cases ht.symm.trans ht'
  have hc : c = n := (Option.some.inj hlast).symm
  have htarget := hfollow.symm.trans (Root.follow_eq_ok_iff.2 ⟨.refl, hc ▸ hplain⟩)
  cases htarget
  subst hc
  refine ⟨grammar, w, s, t, c, ha, hf, hnone, hwalk, hpath, hs, hsw, ht, hname, fun host => ?_⟩
  have := hsame ["sb"] s hs hsw host
  rw [hhandler] at this
  exact this

end Crowded

end CommandGrammar
