import CommandGrammar.Demo
import CommandGrammar.Parser
import CommandGrammar.Proofs.Choice
import CommandGrammar.Proofs.Image
import CommandGrammar.Proofs.Listing
import CommandGrammar.Proofs.Retention

/-!
How a line fails to match. Over a grammar without parameters of no kind there are three ways: a word
stands for nothing, a word stands for several nodes, or the line ends where a value is missing. The
fault tells the place of the word by the words before it, which are matched when they stand alone; a
missing value has its place behind the line.
-/

namespace CommandGrammar

/-! ### Places -/

/-- The fault tells of the word as the one that comes after the words consumed. -/
structure Fault.Locates (fault : Fault) (consumed : List String) (word : String) : Prop where
  token : fault.options.get? "token" = some (.text word)
  index : fault.options.get? "index" = some (.integer (consumed.length + 1 : Nat))
  consumed : fault.options.get? "consumed" = some (texts consumed)

/-- Nothing at the frontier can be what the word stands for: no parameter is positional, and no
literal begins with the word, be its node hidden or not. -/
structure State.Misses (s : State) (word : String) : Prop where
  isPositional_eq_false : ∀ n ∈ s.frontier, n.isPositional = false
  not_begins : ∀ n ∈ s.frontier, ∀ literal ∈ n.literals, ¬ word.toList <+: literal.toList

/-- How a line is at fault. -/
inductive Root.FailsWith (root : Root) (tokens : List String) (fault : Fault) : Prop
  /-- A word stands for nothing where the words before it have led. -/
  | unmatched {consumed : List String} {word : String} {s : State} : fault.kind = .noMatches →
    fault.options.get? "code" = some (.code .noMatches) → fault.Locates consumed word →
    consumed ++ [word] <+: tokens → parse consumed root = .ok s → s.Misses word →
    FailsWith root tokens fault
  /-- A word stands for several nodes where the words before it have led. -/
  | ambiguous {consumed : List String} {word : String} {s : State} : fault.kind = .ambiguousMatch →
    fault.options.get? "code" = some (.code .ambiguousMatch) → fault.Locates consumed word →
    consumed ++ [word] <+: tokens → parse consumed root = .ok s →
    2 ≤ (Frontier.leaders s.frontier word).length → FailsWith root tokens fault
  /-- The line ends where a value is missing. -/
  | unvalued : fault.kind = .noMatches → fault.options.get? "code" = some (.code .missingValue) →
    fault.Locates tokens "" → FailsWith root tokens fault

namespace Fault

variable {fault : Fault} {consumed : List String} {word : String}

lemma texts_injective : Function.Injective texts := by
  intro xs ys h
  exact List.map_injective_iff.2 (fun _ _ => Value.text.inj) (Value.tuple.inj h)

/-- A fault tells of one place. -/
lemma Locates.unique {consumed' : List String} {word' : String} (h : fault.Locates consumed word)
    (h' : fault.Locates consumed' word') : consumed' = consumed ∧ word' = word := by
  have htoken := Option.some.inj (h'.token.symm.trans h.token)
  have hconsumed := Option.some.inj (h'.consumed.symm.trans h.consumed)
  exact ⟨texts_injective hconsumed, Value.text.inj htoken⟩

end Fault

/-! ### Words refused -/

namespace State

variable {s t : State} {root : Root} {gs : List Group} {word : String}

/-- Nothing is found for a word exactly when nothing at the frontier can be what it stands for. -/
lemma misses_iff (hk : ∀ n ∈ s.frontier, n.isKindless = false) :
    s.Misses word ↔ Frontier.select s.frontier word = .nothing := by
  rw [Frontier.select_eq_nothing_iff hk, Frontier.positional?, List.find?_eq_none]
  constructor
  · rintro ⟨hpositional, hbegins⟩
    refine ⟨fun n hn hc => ?_, fun n hn => by simp [hpositional n hn]⟩
    obtain ⟨literal, hl, hb⟩ := Node.isAbbreviatedBy_iff.1 hc.isAbbreviatedBy
    exact hbegins n hn literal hl hb
  · rintro ⟨hno, hpositional⟩
    have hliteral : ∀ n ∈ s.frontier, word ∉ n.literals := fun n hn hw => hno n hn (.inl hw)
    refine ⟨fun n hn => by simpa using hpositional n hn, fun n hn literal hl hb => ?_⟩
    exact hno n hn (.inr ⟨hliteral, literal, hl, hb⟩)

/-- Over a closed root no frontier has a parameter of no kind. -/
lemma Reaches.isKindless_eq_false (h : (start root).Reaches gs t) (hc : root.IsClosed) :
    ∀ n ∈ t.frontier, n.isKindless = false := by
  have hwalk : ∀ n ∈ Node.walkAll t.frontier, n.isKindless = false :=
    h.invariant (P := fun u => ∀ n ∈ Node.walkAll u.frontier, n.isKindless = false)
      (fun u g hu hg n hn => hu n (mem_walkAll_frontier_after hg hn)) hc
  exact fun n hn => hwalk n (Node.mem_walkAll_of_mem hn)

end State

/-! ### Lines at fault -/

section

variable {root : Root} {tokens consumed : List String} {word : String} {s : State} {e : MatchError}
  {fault : Fault}

/-- A line is at fault when it does not match, and the error is a fault. -/
lemma runParse_eq_fault_iff : (runParse tokens root).result = .error (.fault fault) ↔
    ∃ e, parse tokens root = .error e ∧ e.fault? = some fault := by
  rw [runParse]
  cases parse tokens root with
  | ok s => simp [Except.mapError]
  | error e => cases e <;> simp [Except.mapError, MatchError.failure, MatchError.fault?]

/-- Over a closed root every error of a line is a fault that tells the place. -/
lemma exists_failsWith (hc : root.IsClosed) (he : parse tokens root = .error e) :
    ∃ fault, e.fault? = some fault ∧ root.FailsWith tokens fault := by
  obtain ⟨gs, s, rest, hr, rfl, hend⟩ := (State.start root).exists_ends 1 tokens
  rw [parse] at he
  rw [he, Nat.add_comm 1] at hend
  have hs : parse (wordsOf gs) root = .ok s := parse_eq_ok_iff.2 ⟨gs, hr, rfl⟩
  have htokens : s.tokens = wordsOf gs := hr.tokens_eq
  have hk := hr.isKindless_eq_false hc
  cases hend with
  | @refused word rest _ hchoose =>
    have hbefore : wordsOf gs ++ [word] <+: wordsOf gs ++ word :: rest := ⟨rest, by simp⟩
    rcases State.choose_eq_error_iff.1 hchoose with ⟨nodes, htied, rfl⟩ | ⟨hnothing, rfl⟩ |
      ⟨hblocked, -⟩
    · obtain ⟨rfl, htwo, -⟩ := (Frontier.select_eq_tied_iff hk).1 htied
      rw [htokens]
      exact ⟨_, rfl, .ambiguous rfl rfl ⟨rfl, rfl, rfl⟩ hbefore hs htwo⟩
    · rw [htokens]
      exact ⟨_, rfl, .unmatched rfl rfl ⟨rfl, rfl, rfl⟩ hbefore hs
        ((State.misses_iff hk).2 hnothing)⟩
    · exact absurd hblocked (Frontier.select_ne_blocked hk)
  | @unvalued word n hn hv =>
    have hlength : (wordsOf gs).length + 1 + 1 = (wordsOf gs ++ [word]).length + 1 := by
      rw [List.length_append, List.length_singleton]
    rw [htokens, hlength]
    exact ⟨_, rfl, .unvalued rfl rfl ⟨rfl, rfl, rfl⟩⟩

/-- A word for which there is nothing puts the line at fault, whatever follows it. -/
lemma exists_fault_of_misses (hc : root.IsClosed) (hbefore : consumed ++ [word] <+: tokens)
    (hs : parse consumed root = .ok s) (hmisses : s.Misses word) :
    ∃ fault, (runParse tokens root).result = .error (.fault fault) ∧
      fault.options.get? "code" = some (.code .noMatches) ∧ fault.Locates consumed word := by
  obtain ⟨rest, rfl⟩ := hbefore
  obtain ⟨gs, hr, rfl⟩ := parse_eq_ok_iff.1 hs
  have htokens : s.tokens = wordsOf gs := hr.tokens_eq
  have hnothing := (State.misses_iff (hr.isKindless_eq_false hc)).1 hmisses
  have hchoose : s.choose ((wordsOf gs).length + 1) word =
      .error (.atFrontier s.frontier word ((wordsOf gs).length + 1) (wordsOf gs)) :=
    State.choose_eq_error_iff.2 (.inr (.inl ⟨hnothing, by rw [htokens]⟩))
  have he : parse (wordsOf gs ++ [word] ++ rest) root =
      .error (.atFrontier s.frontier word ((wordsOf gs).length + 1) (wordsOf gs)) := by
    rw [List.append_assoc, parse, State.run_append hs, Nat.add_comm 1]
    exact (State.Ends.refused hchoose).run_eq
  exact ⟨_, runParse_eq_fault_iff.2 ⟨_, he, rfl⟩, rfl, rfl, rfl, rfl⟩

/-- **How a line fails to match.** Over a closed root a line matches, or it is at fault in just one of
three ways, and the fault tells the place: of a word that stands for nothing or for several nodes by
the words before it, which match by themselves, and of a missing value as behind the line. A word
stands for nothing exactly when there is no positional parameter where the words before it have led,
and it begins no literal there, hidden or not. -/
theorem runParse_fails (hc : root.IsClosed) (tokens : List String) :
    ((∃ s, (runParse tokens root).result = .ok s) ∨
      ∃ fault, (runParse tokens root).result = .error (.fault fault) ∧
        root.FailsWith tokens fault) ∧
    ∀ consumed word s, consumed ++ [word] <+: tokens → parse consumed root = .ok s →
      ((∃ fault, (runParse tokens root).result = .error (.fault fault) ∧
        fault.options.get? "code" = some (.code .noMatches) ∧ fault.Locates consumed word) ↔
      s.Misses word) := by
  refine ⟨?_, fun consumed word s hbefore hs => ⟨?_, exists_fault_of_misses hc hbefore hs⟩⟩
  · cases hp : parse tokens root with
    | ok s => exact .inl ⟨s, by rw [runParse, hp]; rfl⟩
    | error e =>
      obtain ⟨fault, hf, hfails⟩ := exists_failsWith hc hp
      exact .inr ⟨fault, runParse_eq_fault_iff.2 ⟨e, hp, hf⟩, hfails⟩
  · rintro ⟨fault, hresult, hcode, hplace⟩
    obtain ⟨e, he, hf⟩ := runParse_eq_fault_iff.1 hresult
    obtain ⟨fault', hf', hfails⟩ := exists_failsWith hc he
    obtain rfl := Option.some.inj (hf.symm.trans hf')
    cases hfails with
    | unmatched _ _ hplace' _ hs' hmisses =>
      obtain ⟨rfl, rfl⟩ := hplace.unique hplace'
      cases hs.symm.trans hs'
      exact hmisses
    | ambiguous _ hcode' => cases hcode.symm.trans hcode'
    | unvalued _ hcode' => cases hcode.symm.trans hcode'

/-- In the demo grammar a command with no place for a second word is at fault with one, whatever
follows, and a parameter is at fault without its value. -/
theorem runParse_fails_show : ∃ root, Demo.root = .ok root ∧ root.IsClosed ∧
    (∃ fault, (runParse ["show", "x", "y", "z"] root).result = .error (.fault fault) ∧
      fault.options.get? "code" = some (.code .noMatches) ∧ fault.Locates ["show", "x"] "y") ∧
    ∃ fault, (runParse ["set", "--tag"] root).result = .error (.fault fault) ∧
      root.FailsWith ["set", "--tag"] fault := by
  obtain ⟨root, s, hroot, hs, hall⟩ := exists_ok_of_any_any (e := Demo.root)
    (f := parse ["show", "x"]) (p := fun root s => decide (root.IsClosed ∧
      (∀ n ∈ s.frontier, n.isPositional = false ∧
        ∀ literal ∈ n.literals, ¬ "y".toList <+: literal.toList) ∧
      (runParse ["set", "--tag"] root).result.toOption.isNone = true)) (by decide +kernel)
  obtain ⟨hc, hfrontier, hnone⟩ := of_decide_eq_true hall
  have hmisses : s.Misses "y" := ⟨fun n hn => (hfrontier n hn).1, fun n hn => (hfrontier n hn).2⟩
  have hsurplus := (runParse_fails hc ["show", "x", "y", "z"]).2 ["show", "x"] "y" s ⟨["z"], rfl⟩ hs
  have hunvalued := (runParse_fails hc ["set", "--tag"]).1
  refine ⟨root, hroot, hc, hsurplus.2 hmisses, hunvalued.resolve_left ?_⟩
  rintro ⟨t, ht⟩
  rw [ht] at hnone
  cases hnone

end

end CommandGrammar
