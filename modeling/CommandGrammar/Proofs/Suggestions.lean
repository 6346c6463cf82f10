import CommandGrammar.Demo
import CommandGrammar.Proofs.Faults
import CommandGrammar.Proofs.Similarity
import CommandGrammar.Proofs.Visibility
import Mathlib.Algebra.Order.Field.Basic
import Mathlib.Algebra.Order.Field.Rat
import Mathlib.Data.List.Perm.Subperm

/-!
What a mismatch suggests. Suggestions are a shortlist of the literals of what is listed: the best of
those close enough to the word, each as often as it is there, and one is left out only when the list
is full of others that are no worse. The hint names the first of them.
-/

namespace CommandGrammar

namespace Text

/-! ### Closeness -/

/-- The fraction that a ratio stands for. -/
def Ratio.value (r : Ratio) : ℚ := r.numerator / r.denominator

/-- How alike a text is to a word, as a fraction: twice the matched characters over all characters,
and one for two empty texts. -/
def closeness (text word : String) : ℚ := (similarity text word).value

lemma Ratio.cast_denominator_pos (r : Ratio) : (0 : ℚ) < r.denominator :=
  Nat.cast_pos.2 r.denominator_pos

lemma Ratio.le_iff {r s : Ratio} : r.le s = true ↔ r.value ≤ s.value := by
  rw [le, decide_eq_true_iff, value, value,
    div_le_div_iff₀ r.cast_denominator_pos s.cast_denominator_pos]
  exact_mod_cast Iff.rfl

lemma Ratio.isClose_iff {r : Ratio} : r.isClose = true ↔ 3 / 5 ≤ r.value := by
  rw [isClose, decide_eq_true_iff, value, div_le_div_iff₀ (by decide) r.cast_denominator_pos,
    mul_comm (r.numerator : ℚ)]
  exact_mod_cast Iff.rfl

/-- No closeness is more than one. -/
lemma closeness_le_one (text word : String) : closeness text word ≤ 1 := by
  rw [closeness, Ratio.value, div_le_one (Ratio.cast_denominator_pos _)]
  exact_mod_cast similarity_numerator_le text word

/-! ### Shortlists -/

/-- The first text is no worse a suggestion for the word than the second: it is closer, or as close
and no less. -/
def IsNoWorse (word first second : String) : Prop :=
  closeness second word < closeness first word ∨
    closeness first word = closeness second word ∧ second ≤ first

/-- A shortlist of texts for a word: the best of those close enough to it. -/
structure IsShortlist (limit : Nat) (word : String) (texts shortlist : List String) : Prop where
  length_le : shortlist.length ≤ limit
  inOrder : shortlist.Pairwise (IsNoWorse word)
  mem : ∀ text ∈ shortlist, text ∈ texts
  close : ∀ text ∈ shortlist, 3 / 5 ≤ closeness text word
  count_le : ∀ text, shortlist.count text ≤ texts.count text
  /-- A close text is left out only when the list is full of others that are no worse. -/
  full : ∀ text, 3 / 5 ≤ closeness text word → shortlist.count text < texts.count text →
    shortlist.length = limit ∧ ∀ other ∈ shortlist, IsNoWorse word other text

/-- The texts close to the word, best first. -/
def ranked (word : String) (texts : List String) : List String :=
  (closeTexts word texts).map Scored.text

variable {word : String} {texts : List String}

lemma closest_eq_take (limit : Nat) (word : String) (texts : List String) :
    closest limit word texts = (ranked word texts).take limit := by
  rw [closest, ranked, List.map_take]

lemma isNoWorse_of_precedes {s t : Scored} (hs : s.ratio = similarity s.text word)
    (ht : t.ratio = similarity t.text word) (h : s.precedes t = true) :
    IsNoWorse word s.text t.text := by
  rw [Scored.precedes_iff, hs, ht, Ratio.le_iff, Ratio.le_iff] at h
  rcases h.1.lt_or_eq with hlt | heq
  · exact .inl hlt
  · exact .inr ⟨heq.symm, h.2 heq.ge⟩

lemma pairwise_ranked (word : String) (texts : List String) :
    (ranked word texts).Pairwise (IsNoWorse word) := by
  refine List.pairwise_map.2 ((pairwise_closeTexts word texts).imp_of_mem ?_)
  intro s t hs ht hst
  exact isNoWorse_of_precedes (mem_closeTexts.1 hs).2.1 (mem_closeTexts.1 ht).2.1 hst

/-- What is ranked are the close texts, each as often as it is there. -/
lemma ranked_perm (word : String) (texts : List String) :
    (ranked word texts).Perm (texts.filter fun text => (similarity text word).isClose) := by
  refine ((List.mergeSort_perm _ Scored.precedes).map Scored.text).trans (List.Perm.of_eq ?_)
  rw [List.filter_map, List.map_map]
  exact List.map_id _

lemma mem_ranked {text : String} :
    text ∈ ranked word texts ↔ text ∈ texts ∧ 3 / 5 ≤ closeness text word := by
  rw [(ranked_perm word texts).mem_iff, List.mem_filter, Ratio.isClose_iff, closeness]

lemma count_ranked {text : String} (h : 3 / 5 ≤ closeness text word) :
    (ranked word texts).count text = texts.count text := by
  rw [(ranked_perm word texts).count_eq]
  exact List.count_filter (Ratio.isClose_iff.2 h)

/-- **The closest texts are a shortlist.** -/
theorem isShortlist_closest (limit : Nat) (word : String) (texts : List String) :
    IsShortlist limit word texts (closest limit word texts) := by
  rw [closest_eq_take]
  have hsplit := List.take_append_drop limit (ranked word texts)
  have hpairwise := pairwise_ranked word texts
  rw [← hsplit, List.pairwise_append] at hpairwise
  constructor
  case length_le => exact List.length_take_le _ _
  case inOrder => exact hpairwise.1
  case mem =>
    intro text h
    exact (mem_ranked.1 (List.mem_of_mem_take h)).1
  case close =>
    intro text h
    exact (mem_ranked.1 (List.mem_of_mem_take h)).2
  case count_le =>
    intro text
    calc ((ranked word texts).take limit).count text
        ≤ (ranked word texts).count text := (List.take_sublist _ _).count_le _
      _ ≤ texts.count text := by
        rw [(ranked_perm word texts).count_eq]
        exact List.filter_sublist.count_le _
  case full =>
    intro text hclose hcount
    -- what is left out stands behind what is taken
    have hrest : text ∈ (ranked word texts).drop limit := by
      have hall : (ranked word texts).count text = texts.count text := count_ranked hclose
      rw [← hsplit, List.count_append] at hall
      rw [← List.count_pos_iff]
      omega
    refine ⟨?_, fun other hother => hpairwise.2.2 other hother text hrest⟩
    have hlength := List.length_pos_of_mem hrest
    rw [List.length_drop] at hlength
    rw [List.length_take]
    omega

end Text

/-! ### Mismatches -/

namespace Fault

variable {nodes : List Node} {suggestions : List String}

/-- The hint names the first suggestion, if there is one. -/
lemma noMatchHint_names_iff : (∃ best, suggestions.head? = some best ∧
    noMatchHint nodes suggestions = "did you mean " ++ Text.quoted best ++ "?") ↔
      suggestions ≠ [] := by
  cases suggestions with
  | nil => simp
  | cons best rest => simp [noMatchHint]

/-- A hint that names a suggestion begins like no other. -/
lemma noMatchHint_cons_ne {hint : String} (best : String) (rest : List String)
    (h : hint.toList.head? ≠ some 'd') : noMatchHint nodes (best :: rest) ≠ hint := by
  rintro rfl
  refine h ?_
  rw [noMatchHint, String.toList_append, String.toList_append, List.head?_append, List.head?_append]
  rfl

/-- The hint asks to pick an option, if there is no suggestion but something is listed. -/
lemma noMatchHint_eq_pick_iff :
    noMatchHint nodes suggestions = "pick one of the possible options" ↔
      suggestions = [] ∧ nodes ≠ [] := by
  cases suggestions with
  | cons best rest =>
    have hne : noMatchHint nodes (best :: rest) ≠ "pick one of the possible options" :=
      noMatchHint_cons_ne best rest (by simp)
    simp [hne]
  | nil => cases nodes <;> simp [noMatchHint]

/-- The hint asks to remove the word, if nothing is listed. -/
lemma noMatchHint_eq_remove_iff :
    noMatchHint nodes suggestions = "nothing else is accepted here, remove the extra input" ↔
      suggestions = [] ∧ nodes = [] := by
  cases suggestions with
  | cons best rest =>
    have hne : noMatchHint nodes (best :: rest) ≠
        "nothing else is accepted here, remove the extra input" :=
      noMatchHint_cons_ne best rest (by simp)
    simp [hne]
  | nil => cases nodes <;> simp [noMatchHint]

end Fault

section

variable {root : Root} {tokens : List String} {fault : Fault}

/-- A mismatch suggests the closest of the literals of what it lists. -/
lemma eq_closest_of_noMatch {word : String} {position : Nat} {candidates : List Node}
    {suggestions consumed : List String}
    (h : parse tokens root = .error (.noMatch word position candidates suggestions consumed)) :
    suggestions = Text.closest suggestionLimit word (candidates.flatMap Node.literals) := by
  obtain ⟨gs, s, w, rest, -, -, hc⟩ := State.exists_refused h trivial
  have he := State.of_choose_eq_noMatch hc
  rw [MatchError.atFrontier] at he
  injection he with hword _ hcandidates hsuggestions _
  rw [hsuggestions, hword, hcandidates]

/-- **What a mismatch suggests.** The fault of a word that stands for nothing suggests at most five
literals of what it lists, the closest to the word first and of equally close ones the greatest,
each of them close enough and at most as often as it is listed; a close literal is left out only for
five others that are no worse. The characters that make a literal close are those of a common
subsequence, so no closeness is more than one, and they are as many at least as any piece has that
literal and word share, popular characters apart. The hint names the first suggestion if there is
one, and else asks to pick an option if there are any, or to remove the word. -/
theorem runParse_suggestions (h : (runParse tokens root).result = .error (.fault fault))
    (hcode : fault.options.get? "code" = some (.code .noMatches)) :
    ∃ word nodes suggestions hint,
      fault.options.get? "token" = some (.text word) ∧
      fault.options.get? "candidates" = some (Fault.nodes nodes) ∧
      fault.options.get? "suggestions" = some (Fault.texts suggestions) ∧
      fault.options.get? "hint" = some (.text hint) ∧
      Text.IsShortlist 5 word (nodes.flatMap Node.literals) suggestions ∧
      (∀ literal, Text.closeness literal word ≤ 1 ∧
        (∃ common : List Char, common.Sublist literal.toList ∧ common.Sublist word.toList ∧
          common.length = (Text.similarity literal word).hits) ∧
        ∀ shared : List Char, shared <:+: literal.toList → shared <:+: word.toList →
          (∀ c ∈ shared, c ∉ Text.popularIn word.toList) →
          shared.length ≤ (Text.similarity literal word).hits) ∧
      ((∃ best, suggestions.head? = some best ∧
        hint = "did you mean " ++ Text.quoted best ++ "?") ↔ suggestions ≠ []) ∧
      (hint = "pick one of the possible options" ↔ suggestions = [] ∧ nodes ≠ []) ∧
      (hint = "nothing else is accepted here, remove the extra input" ↔
        suggestions = [] ∧ nodes = []) := by
  obtain ⟨e, he, hf⟩ := runParse_eq_fault_iff.1 h
  rw [MatchError.code?_of_fault? hf] at hcode
  cases e with
  | noMatch word position candidates suggestions consumed =>
    cases hf
    have hsuggestions := eq_closest_of_noMatch he
    refine ⟨word, candidates, suggestions, _, rfl, rfl, rfl, rfl, ?_, fun literal => ?_,
      Fault.noMatchHint_names_iff, Fault.noMatchHint_eq_pick_iff, Fault.noMatchHint_eq_remove_iff⟩
    · rw [hsuggestions]
      exact Text.isShortlist_closest suggestionLimit word _
    · refine ⟨Text.closeness_le_one literal word, Text.exists_common_of_matched _ _ _,
        fun shared hs hs' hpopular => Text.length_le_matched (fun c hc => ?_) hs hs'⟩
      simpa using hpopular c hc
  | ambiguous | missingValue | blocked => cases hcode

/-- For the misspelled flag of a command of the demo grammar the flag is suggested; its alias is not
close enough. -/
theorem runParse_suggestions_flag : ∃ root fault nodes, Demo.root = .ok root ∧
    (runParse ["show", "x", "--verbsoe"] root).result = .error (.fault fault) ∧
    fault.options.get? "candidates" = some (Fault.nodes nodes) ∧
    nodes.flatMap Node.literals = ["--verbose", "-v"] ∧
    fault.options.get? "suggestions" = some (Fault.texts ["--verbose"]) ∧
    fault.options.get? "hint" = some (.text "did you mean '--verbose'?") ∧
    Text.IsShortlist 5 "--verbsoe" ["--verbose", "-v"] ["--verbose"] := by
  obtain ⟨root, s, hroot, hs, hall⟩ := exists_ok_of_any_any (e := Demo.root)
    (f := parse ["show", "x"]) (p := fun root s => decide (
      s.choose 3 "--verbsoe" = .error (.atFrontier s.frontier "--verbsoe" 3 ["show", "x"]) ∧
      (Node.listing s.frontier).flatMap Node.literals = ["--verbose", "-v"] ∧
      Text.closest suggestionLimit "--verbsoe" ["--verbose", "-v"] = ["--verbose"] ∧
      Text.quoted "--verbose" = "'--verbose'")) (by decide +kernel)
  obtain ⟨hrefused, hliterals, hclosest, hquoted⟩ := of_decide_eq_true hall
  rw [MatchError.atFrontier, hliterals, hclosest] at hrefused
  have hparse := (State.run_append hs ["--verbsoe"]).trans (State.Ends.refused hrefused).run_eq
  have he := runParse_eq_fault_iff.2 ⟨_, hparse, rfl⟩
  obtain ⟨word, nodes, suggestions, hint, hword, hnodes, hsuggestions, hhint, hshortlist, -, hbest,
    -⟩ := runParse_suggestions he rfl
  obtain rfl : "--verbsoe" = word := Value.text.inj (Option.some.inj hword)
  obtain rfl : ["--verbose"] = suggestions := Fault.texts_injective (Option.some.inj hsuggestions)
  obtain rfl : Node.listing s.frontier = nodes := Fault.nodes_injective (Option.some.inj hnodes)
  obtain ⟨best, hhead, rfl⟩ := hbest.2 (List.cons_ne_nil _ _)
  obtain rfl : "--verbose" = best := Option.some.inj hhead
  rw [hliterals] at hshortlist
  rw [hquoted] at hhint
  exact ⟨root, _, _, hroot, he, hnodes, hliterals, hsuggestions, hhint, hshortlist⟩

end

end CommandGrammar
