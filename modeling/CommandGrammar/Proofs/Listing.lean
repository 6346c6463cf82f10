import CommandGrammar.Fault.Cause
import CommandGrammar.Proofs.Completion
import CommandGrammar.Proofs.Names
import Mathlib.Data.List.Sort

/-!
What faults list. A listing holds the visible ones of its nodes, by priority and then by name, and
suggestions are literals of what is listed. Nodes that come in another order change a listing only
where they are alike in priority and name, and suggestions not at all.
-/

namespace CommandGrammar

/-! ### Listings -/

namespace Node

variable {nodes : List Node} {k m n : Node}

/-- What the place of a node in a listing depends on. Listings and completions go by one order. -/
def listingKey (n : Node) : Completion.Proposal := ⟨n.priority, n.name⟩

lemma listedBefore_eq (m n : Node) : m.listedBefore n = m.listingKey.precedes n.listingKey := rfl

lemma listedBefore_iff : m.listedBefore n = true ↔
    n.priority < m.priority ∨ m.priority = n.priority ∧ m.name ≤ n.name := by
  rw [listedBefore_eq]
  exact Completion.Proposal.precedes_iff

lemma listedBefore_trans (hkm : k.listedBefore m = true) (hmn : m.listedBefore n = true) :
    k.listedBefore n = true := by
  rw [listedBefore_eq] at hkm hmn ⊢
  exact Completion.Proposal.precedes_trans hkm hmn

lemma listedBefore_total (m n : Node) : (m.listedBefore n || n.listedBefore m) = true :=
  Completion.Proposal.precedes_total m.listingKey n.listingKey

lemma mem_listing : n ∈ listing nodes ↔ n ∈ nodes ∧ n.isHidden = false := by
  simp [listing]

lemma listing_perm (nodes : List Node) :
    (listing nodes).Perm (nodes.filter fun n => !n.isHidden) :=
  List.mergeSort_perm _ _

/-- A listing is in order. -/
lemma pairwise_listing (nodes : List Node) :
    (listing nodes).Pairwise fun m n => m.listedBefore n = true := by
  apply List.pairwise_mergeSort
  · exact fun _ _ _ => listedBefore_trans
  · exact listedBefore_total

/-- **Nodes in listing order** that have the same priorities and names have them in the same
places. -/
theorem map_listingKey_eq {xs ys : List Node} (hx : xs.Pairwise fun m n => m.listedBefore n = true)
    (hy : ys.Pairwise fun m n => m.listedBefore n = true)
    (h : (xs.map listingKey).Perm (ys.map listingKey)) :
    xs.map listingKey = ys.map listingKey := by
  have hx' : (xs.map listingKey).Pairwise fun p q => p.precedes q = true := List.pairwise_map.2 hx
  have hy' : (ys.map listingKey).Pairwise fun p q => p.precedes q = true := List.pairwise_map.2 hy
  refine h.eq_of_pairwise ?_ hx' hy'
  intro p q _ _ hpq hqp
  exact Completion.Proposal.precedes_antisymm hpq hqp

end Node

/-! ### Suggestions -/

namespace Text

section Ratio

variable {r s t : Ratio}

lemma Ratio.denominator_pos (r : Ratio) : 0 < r.denominator := by
  unfold denominator
  split <;> omega

lemma Ratio.le_trans (hrs : r.le s = true) (hst : s.le t = true) : r.le t = true := by
  rw [le, decide_eq_true_iff] at hrs hst ⊢
  refine Nat.le_of_mul_le_mul_right ?_ s.denominator_pos
  calc r.numerator * t.denominator * s.denominator
      = r.numerator * s.denominator * t.denominator := Nat.mul_right_comm _ _ _
    _ ≤ s.numerator * r.denominator * t.denominator := Nat.mul_le_mul_right _ hrs
    _ = s.numerator * t.denominator * r.denominator := Nat.mul_right_comm _ _ _
    _ ≤ t.numerator * s.denominator * r.denominator := Nat.mul_le_mul_right _ hst
    _ = t.numerator * r.denominator * s.denominator := Nat.mul_right_comm _ _ _

lemma Ratio.le_total (r s : Ratio) : r.le s = true ∨ s.le r = true := by
  rw [le, le, decide_eq_true_iff, decide_eq_true_iff]
  exact Nat.le_total _ _

end Ratio

section Scored

variable {s t u : Scored} {word : String}

lemma Scored.precedes_iff : s.precedes t = true ↔
    t.ratio.le s.ratio = true ∧ (s.ratio.le t.ratio = true → t.text ≤ s.text) := by
  unfold precedes
  by_cases hts : t.ratio.le s.ratio = true
  · by_cases hst : s.ratio.le t.ratio = true
    · simp [hts, hst]
    · simp [hts, hst]
  · simp [hts]

lemma Scored.precedes_trans (hst : s.precedes t = true) (htu : t.precedes u = true) :
    s.precedes u = true := by
  rw [precedes_iff] at hst htu ⊢
  refine ⟨Ratio.le_trans htu.1 hst.1, fun hsu => ?_⟩
  exact String.le_trans (htu.2 (Ratio.le_trans hst.1 hsu)) (hst.2 (Ratio.le_trans hsu htu.1))

lemma Scored.precedes_total (s t : Scored) : (s.precedes t || t.precedes s) = true := by
  rw [Bool.or_eq_true, precedes_iff, precedes_iff]
  by_cases hts : t.ratio.le s.ratio = true
  · by_cases hst : s.ratio.le t.ratio = true
    · simp only [hts, hst, true_and, true_implies]
      exact String.le_total t.text s.text
    · exact .inl ⟨hts, fun h => absurd h hst⟩
  · have hst := (Ratio.le_total s.ratio t.ratio).resolve_right hts
    exact .inr ⟨hst, fun h => absurd h hts⟩

/-- Texts compared to one word are told apart by their order. -/
lemma Scored.eq_of_precedes (hs : s.ratio = similarity s.text word)
    (ht : t.ratio = similarity t.text word) (hst : s.precedes t = true)
    (hts : t.precedes s = true) : s = t := by
  rw [precedes_iff] at hst hts
  have htext : s.text = t.text := String.le_antisymm (hts.2 hst.1) (hst.2 hts.1)
  have hratio : s.ratio = t.ratio := by rw [hs, ht, htext]
  cases s
  cases t
  cases hratio
  cases htext
  rfl

end Scored

variable {limit : Nat} {word : String} {texts : List String}

lemma mem_closeTexts {s : Scored} : s ∈ closeTexts word texts ↔
    s.text ∈ texts ∧ s.ratio = similarity s.text word ∧ s.ratio.isClose = true := by
  rw [closeTexts, List.mem_mergeSort, List.mem_filter, List.mem_map]
  constructor
  · rintro ⟨⟨text, ht, rfl⟩, hc⟩
    exact ⟨ht, rfl, hc⟩
  · rintro ⟨ht, hr, hc⟩
    refine ⟨⟨s.text, ht, ?_⟩, hc⟩
    rw [← hr]

/-- What is suggested is one of the texts. -/
lemma mem_of_mem_closest {text : String} (h : text ∈ closest limit word texts) :
    text ∈ texts := by
  obtain ⟨s, hs, rfl⟩ := List.mem_map.1 h
  exact (mem_closeTexts.1 (List.mem_of_mem_take hs)).1

lemma pairwise_closeTexts (word : String) (texts : List String) :
    (closeTexts word texts).Pairwise fun s t => s.precedes t = true := by
  apply List.pairwise_mergeSort
  · exact fun _ _ _ => Scored.precedes_trans
  · exact Scored.precedes_total

/-- **Suggestions do not depend on the order of the texts.** -/
theorem closest_eq_of_perm {others : List String} (h : texts.Perm others) (limit : Nat)
    (word : String) : closest limit word texts = closest limit word others := by
  have hperm : (closeTexts word texts).Perm (closeTexts word others) :=
    ((List.mergeSort_perm _ _).trans ((h.map _).filter _)).trans (List.mergeSort_perm _ _).symm
  have heq : closeTexts word texts = closeTexts word others := by
    refine hperm.eq_of_pairwise ?_ (pairwise_closeTexts word texts)
      (pairwise_closeTexts word others)
    intro s t hs ht hst hts
    exact Scored.eq_of_precedes (mem_closeTexts.1 hs).2.1 (mem_closeTexts.1 ht).2.1 hst hts
  rw [closest, closest, heq]

end Text

/-! ### Faults that agree -/

namespace Fault

lemma nodes_injective : Function.Injective nodes := by
  intro ms ns h
  exact List.map_injective_iff.2 (fun _ _ => Value.node.inj) (Value.tuple.inj h)

/-- The faults are of one kind, with one message, and have the same options but for the named
ones. -/
structure AgreesBut (names : List String) (fault other : Fault) : Prop where
  kind_eq : other.kind = fault.kind
  message_eq : other.message = fault.message
  get?_eq : ∀ name, name ∉ names → other.options.get? name = fault.options.get? name

variable {names : List String} {fault other : Fault}

lemma AgreesBut.mono {more : List String} (h : AgreesBut names fault other) (hsub : names ⊆ more) :
    AgreesBut more fault other :=
  ⟨h.kind_eq, h.message_eq, fun name hname => h.get?_eq name fun hn => hname (hsub hn)⟩

/-- Two mismatches of a word differ in what is listed and suggested. -/
lemma agreesBut_ofNoMatch (word : String) (position : Nat) (candidates candidates' : List Node)
    (suggestions suggestions' consumed : List String) :
    AgreesBut ["candidates", "suggestions", "hint"]
      (ofNoMatch word position candidates suggestions consumed)
      (ofNoMatch word position candidates' suggestions' consumed) := by
  refine ⟨rfl, rfl, fun name hname => ?_⟩
  simp only [List.mem_cons, List.not_mem_nil, or_false, not_or] at hname
  simp [ofNoMatch, Entries.get?_cons, hname]

/-- Two mismatches of a word with the same suggestions, if the one lists something exactly when the
other does, differ in what is listed. -/
lemma agreesBut_ofNoMatch_of_suggestions (word : String) (position : Nat)
    {candidates candidates' : List Node} (suggestions consumed : List String)
    (h : candidates = [] ↔ candidates' = []) :
    AgreesBut ["candidates"] (ofNoMatch word position candidates suggestions consumed)
      (ofNoMatch word position candidates' suggestions consumed) := by
  have hhint : noMatchHint candidates' suggestions = noMatchHint candidates suggestions := by
    unfold noMatchHint
    cases suggestions with
    | cons => rfl
    | nil =>
      cases candidates with
      | nil => rw [h.1 rfl]
      | cons => cases candidates' with
        | nil => cases h.2 rfl
        | cons => rfl
  refine ⟨rfl, rfl, fun name hname => ?_⟩
  rw [List.mem_singleton] at hname
  simp [ofNoMatch, Entries.get?_cons, hname, hhint]

/-- Two ambiguities of a word between equally many nodes differ in these. -/
lemma agreesBut_ofAmbiguous (word : String) (position : Nat) {candidates candidates' : List Node}
    (consumed : List String) (h : candidates'.length = candidates.length) :
    AgreesBut ["candidates"] (ofAmbiguous word position candidates consumed)
      (ofAmbiguous word position candidates' consumed) := by
  refine ⟨rfl, ?_, fun name hname => ?_⟩
  · simp only [ofAmbiguous, h]
  · rw [List.mem_singleton] at hname
    simp [ofAmbiguous, Entries.get?_cons, hname]

/-- Two missing values of parameters of one name differ in what is listed. -/
lemma agreesBut_ofMissingValue (word : String) {parameter parameter' : Node} (position : Nat)
    (consumed : List String) (h : parameter'.name = parameter.name) :
    AgreesBut ["candidates"] (ofMissingValue word parameter position consumed)
      (ofMissingValue word parameter' position consumed) := by
  refine ⟨?_, ?_, fun name hname => ?_⟩
  · rfl
  · simp only [ofMissingValue, h]
  · rw [List.mem_singleton] at hname
    simp [ofMissingValue, Entries.get?_cons, hname, h]

end Fault

/-! ### Codes of faults -/

namespace MatchError

/-- What kind of mistake the fault of the error is about; there is no fault of a grammar that cannot
be matched. -/
def code? : MatchError → Option Code
  | noMatch .. => some .noMatches
  | ambiguous .. => some .ambiguousMatch
  | missingValue .. => some .missingValue
  | blocked => none

lemma code?_of_fault? {e : MatchError} {fault : Fault} (h : e.fault? = some fault) :
    fault.options.get? "code" = e.code?.map Value.code := by
  cases e with
  | noMatch | ambiguous | missingValue =>
    cases h
    rfl
  | blocked => cases h

end MatchError

end CommandGrammar
