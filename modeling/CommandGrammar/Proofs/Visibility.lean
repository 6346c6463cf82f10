import CommandGrammar.Proofs.Continuation
import CommandGrammar.Proofs.Rearrangement

/-!
Hidden nodes. Hiding nodes or showing them changes nothing about what matches and what is ambiguous.
It changes what faults list: a mismatch lists just the visible nodes that might have come next and
suggests their literals, and a missing value tells of its parameter only if that is visible.
-/

namespace CommandGrammar

variable {f : Node → Node} {root image : Root}

/-- The one root is the other with nodes hidden or shown, and their help changed, at will; `f` gives
for each node what it has become. -/
abbrev Root.IsVeiling (f : Node → Node) (root image : Root) : Prop := root.IsImage (· = ·) f image

/-! ### Faults over a veiled grammar -/

/-- Errors and their images tell the same but for what they list and suggest, and an ambiguous word
stands for the same nodes. -/
theorem Root.IsVeiling.fault {e d : MatchError} (h : root.IsVeiling f image) (hc : root.IsClosed)
    (he : e.IsImage (· = ·) f root d) :
    ∃ fault other, e.fault? = some fault ∧ d.fault? = some other ∧
      fault.AgreesBut ["candidates", "suggestions", "hint"] other ∧
      (fault.kind = .ambiguousMatch → ∃ nodes,
        fault.options.get? "candidates" = some (Fault.nodes nodes) ∧
        other.options.get? "candidates" = some (Fault.nodes (nodes.map f))) := by
  cases he with
  | @noMatch xs ys word position consumed hxs =>
    refine ⟨_, _, rfl, rfl, ?_, fun hk => by cases hk⟩
    exact Fault.agreesBut_ofNoMatch word position _ _ _ _ consumed
  | @ambiguous xs ys word position consumed hxs =>
    obtain rfl : xs.map f = ys := hxs.arranged
    refine ⟨_, _, rfl, rfl, ?_, fun _ => ⟨xs, rfl, rfl⟩⟩
    have hlength : (xs.map f).length = xs.length := List.length_map f
    exact (Fault.agreesBut_ofAmbiguous word position consumed hlength).mono (by simp)
  | @missingValue n word position consumed hn =>
    refine ⟨_, _, rfl, rfl, ?_, fun hk => by cases hk⟩
    have hname := (h.isImage n hn).name_eq
    exact (Fault.agreesBut_ofMissingValue word position consumed hname).mono (by simp)
  | blocked hn hk => cases (hc _ hn).symm.trans hk

/-! ### What is listed -/

/-- A mismatch lists the visible nodes of the frontier that it came about at, in order, and suggests
literals of theirs. -/
structure Fault.ListsVisible (fault : Fault) (frontier : List Node) : Prop where
  candidates : ∃ nodes, fault.options.get? "candidates" = some (Fault.nodes nodes) ∧
    nodes.Perm (frontier.filter fun n => !n.isHidden) ∧
    nodes.Pairwise fun m n => n.priority < m.priority ∨ m.priority = n.priority ∧ m.name ≤ n.name
  suggestions : ∃ words, fault.options.get? "suggestions" = some (Fault.texts words) ∧
    ∀ word ∈ words, ∃ n ∈ frontier, n.isHidden = false ∧ word ∈ n.literals

lemma MatchError.atFrontier_listsVisible {frontier : List Node} {word : String} {position : Nat}
    {consumed : List String} {fault : Fault}
    (h : (atFrontier frontier word position consumed).fault? = some fault) :
    fault.ListsVisible frontier := by
  cases h
  refine ⟨⟨_, rfl, Node.listing_perm frontier, ?_⟩, _, rfl, fun literal hl => ?_⟩
  · exact (Node.pairwise_listing frontier).imp Node.listedBefore_iff.1
  · obtain ⟨n, hn, hln⟩ := List.mem_flatMap.1 (Text.mem_of_mem_closest hl)
    obtain ⟨hn, hv⟩ := Node.mem_listing.1 hn
    exact ⟨n, hn, hv, hln⟩

lemma State.of_choose_eq_noMatch {s : State} {word unmatched : String} {index position : Nat}
    {candidates : List Node} {suggestions consumed : List String}
    (h : s.choose index word =
      .error (.noMatch unmatched position candidates suggestions consumed)) :
    MatchError.noMatch unmatched position candidates suggestions consumed =
      .atFrontier s.frontier word index s.tokens := by
  rcases choose_eq_error_iff.1 h with ⟨nodes, -, he⟩ | ⟨-, he⟩ | ⟨-, he⟩
  · cases he
  · exact he
  · cases he

/-- A mismatch lists what is visible where the words before it have led. -/
lemma exists_listsVisible {tokens : List String} {fault : Fault} {word : String} {position : Nat}
    {candidates : List Node} {suggestions consumed : List String}
    (h : parse tokens root = .error (.noMatch word position candidates suggestions consumed))
    (hf : (MatchError.noMatch word position candidates suggestions consumed).fault? = some fault) :
    ∃ s, parse consumed root = .ok s ∧ fault.ListsVisible s.frontier := by
  obtain ⟨gs, s, w, rest, hr, -, hc⟩ := State.exists_refused h trivial
  have he := State.of_choose_eq_noMatch hc
  have hconsumed : consumed = wordsOf gs := by
    injection he with _ _ _ _ hconsumed
    exact hconsumed.trans hr.tokens_eq
  rw [he] at hf
  exact ⟨s, hconsumed ▸ parse_eq_ok_iff.2 ⟨gs, hr, rfl⟩, MatchError.atFrontier_listsVisible hf⟩

/-- **Visibility does not influence matching.** Over a grammar with other nodes hidden every line
either matches as before, with the same trace, command, bindings and frontier, or is at fault as
before, and what is ambiguous stays so, hidden or not. In turn hidden nodes are not listed: a
mismatch lists the visible nodes of the frontier by priority and then by name and suggests literals
of theirs, and a missing value is told of with its parameter if that is visible, and with nothing if
it is not. -/
theorem parse_veiled (root : Root) (tokens : List String) :
    (∀ f image, root.IsClosed → root.IsVeiling f image →
      (∃ s t, parse tokens root = .ok s ∧ parse tokens image = .ok t ∧
        t.trace = s.trace.map f ∧ t.command = s.command.map f ∧
        t.bindings = s.bindings.map (Prod.map f id) ∧ t.frontier = s.frontier.map f) ∨
      ∃ e d fault other, parse tokens root = .error e ∧ parse tokens image = .error d ∧
        e.fault? = some fault ∧ d.fault? = some other ∧
        fault.AgreesBut ["candidates", "suggestions", "hint"] other ∧
        (fault.kind = .ambiguousMatch → ∃ nodes,
          fault.options.get? "candidates" = some (Fault.nodes nodes) ∧
          other.options.get? "candidates" = some (Fault.nodes (nodes.map f)))) ∧
    ∀ e fault, parse tokens root = .error e → e.fault? = some fault →
      (fault.options.get? "code" = some (.code .noMatches) → ∃ s consumed,
        fault.options.get? "consumed" = some (Fault.texts consumed) ∧
        parse consumed root = .ok s ∧ fault.ListsVisible s.frontier) ∧
      (fault.options.get? "code" = some (.code .missingValue) → ∃ s word n,
        parse tokens.dropLast root = .ok s ∧ tokens.getLast? = some word ∧
        Frontier.select s.frontier word = .chosen n ∧ n.takesValue = true ∧
        fault.options.get? "candidates" =
          some (Fault.nodes (if n.isHidden then [] else [n]))) := by
  refine ⟨fun f image hc h => ?_, fun e fault he hf => ⟨fun hcode => ?_, fun hcode => ?_⟩⟩
  · have ho := h.parse tokens
    generalize parse tokens root = outcome at ho
    generalize parse tokens image = outcome' at ho
    cases ho with
    | ok hs =>
      exact .inl ⟨_, _, rfl, rfl, hs.trace_eq, hs.command_eq, hs.bindings_eq,
        hs.frontier.arranged.symm⟩
    | error he =>
      obtain ⟨fault, other, hf, ho, hagrees, htied⟩ := Root.IsVeiling.fault h hc he
      exact .inr ⟨_, _, fault, other, rfl, rfl, hf, ho, hagrees, htied⟩
  · rw [MatchError.code?_of_fault? hf] at hcode
    cases e with
    | noMatch word position candidates suggestions consumed =>
      obtain ⟨s, hs, hlists⟩ := exists_listsVisible he hf
      cases hf
      exact ⟨s, consumed, rfl, hs, hlists⟩
    | ambiguous | missingValue | blocked => cases hcode
  · rw [MatchError.code?_of_fault? hf] at hcode
    cases e with
    | missingValue word n position consumed =>
      obtain ⟨gs, s, hr, rfl, hv, hacc⟩ := State.exists_of_missingValue he
      cases hf
      refine ⟨s, word, n, ?_, by simp, (hacc "").chosen, hv, rfl⟩
      rw [List.dropLast_concat]
      exact parse_eq_ok_iff.2 ⟨gs, hr, rfl⟩
    | noMatch | ambiguous | blocked => cases hcode

namespace Demo

/-- The description with what was visible hidden and what was hidden shown. -/
def veiledCommand (c : Command) : Command :=
  .mk { c.signature with isHidden := !c.signature.isHidden }
    (c.parameters.map fun p => { p with isHidden := !p.isHidden }) c.commands

/-- The commands that show and set, hidden with what they take; only the hidden flag is shown. -/
def veiled : Registry := ⟨plain.commands.map veiledCommand⟩

end Demo

/-- With the commands hidden a line matches as before and both of them still tie for the beginning
of their names, and a missing value is not told of with the hidden tag. -/
theorem parse_veiled_tag : ∃ root image : Root,
    (Demo.plain.build 0).map Numbered.value = .ok root ∧
    (Demo.veiled.build 0).map Numbered.value = .ok image ∧
    root.IsClosed ∧ root.IsVeiling image.counterpart image ∧
    (∃ s t, parse ["set", "--l", "x"] root = .ok s ∧ parse ["set", "--l", "x"] image = .ok t ∧
      t.frontier = s.frontier.map image.counterpart) ∧
    (∃ d other, parse ["s"] root = .error (.ambiguous "s" 1 root.successors []) ∧
      parse ["s"] image = .error d ∧ d.fault? = some other ∧
      other.options.get? "candidates" =
        some (Fault.nodes (root.successors.map image.counterpart))) ∧
    ∃ e fault s word n, parse ["set", "-t"] image = .error e ∧ e.fault? = some fault ∧
      parse ["set"] image = .ok s ∧ Frontier.select s.frontier word = .chosen n ∧
      n.isHidden = true ∧ fault.options.get? "candidates" = some (Fault.nodes []) := by
  obtain ⟨root, image, hroot, himage, hall⟩ := exists_ok_of_any_any
    (e := (Demo.plain.build 0).map Numbered.value)
    (f := fun _ => (Demo.veiled.build 0).map Numbered.value)
    (p := fun root image => decide (root.IsClosed ∧ root.IsVeiling image.counterpart image) &&
      (parse ["set", "--l", "x"] root).toOption.isSome &&
      decide ((State.start root).choose 1 "s" = .error (.ambiguous "s" 1 root.successors [])) &&
      (parse ["set"] image).toOption.any fun s => (s.choose 2 "-t").toOption.any fun n =>
        n.takesValue && n.isHidden) (by decide +kernel)
  simp only [Bool.and_eq_true, decide_eq_true_eq] at hall
  obtain ⟨⟨⟨⟨hc, h⟩, hok⟩, htied⟩, hmissing⟩ := hall
  refine ⟨root, image, hroot, himage, hc, h, ?_, ?_, ?_⟩
  · rcases (parse_veiled root ["set", "--l", "x"]).1 _ image hc h with hs | he
    · obtain ⟨s, t, hs, ht, -, -, -, hfrontier⟩ := hs
      exact ⟨s, t, hs, ht, hfrontier⟩
    · obtain ⟨e, d, fault, other, he, -⟩ := he
      rw [he] at hok
      cases hok
  · have hs : parse ["s"] root = .error (.ambiguous "s" 1 root.successors []) :=
      (State.Ends.refused htied).run_eq
    rcases (parse_veiled root ["s"]).1 _ image hc h with hok | he
    · obtain ⟨s, t, hok, -⟩ := hok
      cases hs.symm.trans hok
    · obtain ⟨e, d, fault, other, he, hd, hf, ho, -, hnodes⟩ := he
      obtain rfl := Except.error.inj (hs.symm.trans he)
      cases hf
      obtain ⟨nodes, hleft, hright⟩ := hnodes rfl
      obtain rfl : root.successors = nodes := Fault.nodes_injective (Option.some.inj hleft)
      exact ⟨d, other, hs, hd, ho, hright⟩
  · obtain ⟨s, hs, hchoose⟩ := exists_ok_of_any hmissing
    obtain ⟨n, hn, hvh⟩ := exists_ok_of_any hchoose
    obtain ⟨hv, hhidden⟩ := Bool.and_eq_true_iff.1 hvh
    have he : parse ["set", "-t"] image = .error (.missingValue "-t" n 3 (s.tokens ++ ["-t"])) :=
      (State.run_append hs ["-t"]).trans (State.Ends.unvalued hn hv).run_eq
    obtain ⟨s', word, m, hs', hw, hm, -, hcandidates⟩ :=
      ((parse_veiled image ["set", "-t"]).2 _ _ he rfl).2 rfl
    obtain rfl : s' = s := Except.ok.inj (hs'.symm.trans hs)
    obtain rfl : "-t" = word := Option.some.inj hw
    have hmn : m = n := by
      have := hm.symm.trans (State.choose_eq_ok_iff.1 hn)
      injection this
    subst hmn
    rw [if_pos hhidden] at hcandidates
    exact ⟨_, _, s', "-t", m, he, rfl, hs', hm, hhidden, hcandidates⟩

end CommandGrammar
