import CommandGrammar.Demo
import CommandGrammar.Proofs.Image
import CommandGrammar.Proofs.Listing

/-!
The order of declarations. A grammar may be rearranged at every level, as long as the positional
parameters of a level stay in order: every line then matches as before, or is at fault as before.
Only what a fault lists may come in another order, and of a mismatch only nodes that are alike in
priority and name.
-/

namespace CommandGrammar

variable {f : Node → Node} {root image : Root}

/-- The one root is the other with the nodes of each level rearranged, positional parameters kept in
order; `f` gives for each node what it has become, which looks the same and may have another
number. -/
structure Root.IsRearrangement (f : Node → Node) (root image : Root) : Prop extends
    root.IsImage Frontier.Rearranges f image where
  face_eq : ∀ n ∈ root.walk, (f n).face = { n.face with number := (f n).number }

instance (root image : Root) : Decidable (root.IsRearrangement f image) :=
  decidable_of_iff (root.IsImage Frontier.Rearranges f image ∧
      ∀ n ∈ root.walk, (f n).face = { n.face with number := (f n).number })
    ⟨fun h => ⟨h.1, h.2⟩, fun h => ⟨h.1, h.2⟩⟩

/-- The one fault tells what the other one tells, of nodes that `f` gives for its nodes. They may
come in another order, which for a mismatch is still by priority and name. -/
structure Fault.IsRearrangement (f : Node → Node) (fault other : Fault) : Prop where
  agrees : fault.AgreesBut ["candidates"] other
  candidates : ∃ ms ns, fault.options.get? "candidates" = some (nodes ms) ∧
    other.options.get? "candidates" = some (nodes ns) ∧ (ms.map f).Perm ns ∧
    (fault.kind = .noMatches → ns.map Node.listingKey = ms.map Node.listingKey)

namespace Root.IsRearrangement

variable (h : root.IsRearrangement f image)

include h

lemma isHidden_eq {n : Node} (hn : n ∈ root.walk) : (f n).isHidden = n.isHidden := by
  rw [Node.isHidden, h.face_eq n hn, Node.isHidden]

lemma listingKey_eq {n : Node} (hn : n ∈ root.walk) : (f n).listingKey = n.listingKey := by
  rw [Node.listingKey, Node.listingKey, (h.isImage n hn).name_eq, (h.isImage n hn).priority_eq]

section Listed

variable {xs ys : List Node} (hxs : Frontier.IsImage Frontier.Rearranges f root xs ys)

include hxs

/-- What is listed goes to what is listed. -/
lemma listing_perm : ((Node.listing xs).map f).Perm (Node.listing ys) := by
  have hvisible : Frontier.IsImage Frontier.Rearranges f root
      (xs.filter fun n => !n.isHidden) (ys.filter fun n => !n.isHidden) :=
    hxs.filter fun n hn => by rw [h.isHidden_eq (hxs.mem_walk n hn)]
  exact ((Node.listing_perm xs).map f).trans (hvisible.perm.trans (Node.listing_perm ys).symm)

lemma map_listingKey_listing :
    (Node.listing ys).map Node.listingKey = (Node.listing xs).map Node.listingKey := by
  have hkeys : ((Node.listing xs).map f).map Node.listingKey =
      (Node.listing xs).map Node.listingKey := by
    rw [List.map_map]
    refine List.map_congr_left fun n hn => h.listingKey_eq (hxs.mem_walk n ?_)
    exact (Node.mem_listing.1 hn).1
  refine Node.map_listingKey_eq (Node.pairwise_listing ys) (Node.pairwise_listing xs) ?_
  rw [← hkeys]
  exact ((h.listing_perm hxs).map _).symm

/-- Suggestions do not depend on the order in which nodes are listed. -/
lemma closest_eq (word : String) :
    Text.closest suggestionLimit word ((Node.listing ys).flatMap Node.literals) =
      Text.closest suggestionLimit word ((Node.listing xs).flatMap Node.literals) := by
  refine Text.closest_eq_of_perm ?_ _ _
  have hliterals : ((Node.listing xs).map f).flatMap Node.literals =
      (Node.listing xs).flatMap Node.literals := by
    rw [List.flatMap_map]
    refine List.flatMap_congr fun n hn => (h.isImage n (hxs.mem_walk n ?_)).literals_eq
    exact (Node.mem_listing.1 hn).1
  rw [← hliterals]
  exact ((h.listing_perm hxs).flatMap_right _).symm

end Listed

/-- Errors and their images tell the same, in another order at most. -/
theorem fault {e d : MatchError} (hc : root.IsClosed)
    (he : e.IsImage Frontier.Rearranges f root d) :
    ∃ fault other, e.fault? = some fault ∧ d.fault? = some other ∧
      fault.IsRearrangement f other := by
  cases he with
  | @noMatch xs ys word position consumed hxs =>
    refine ⟨_, _, rfl, rfl, ?_, _, _, rfl, rfl, h.listing_perm hxs, fun _ => ?_⟩
    · rw [h.closest_eq hxs word]
      refine Fault.agreesBut_ofNoMatch_of_suggestions word position _ consumed ?_
      rw [← List.length_eq_zero_iff, ← List.length_eq_zero_iff, ← (h.listing_perm hxs).length_eq,
        List.length_map]
    · exact h.map_listingKey_listing hxs
  | ambiguous word position consumed hxs =>
    refine ⟨_, _, rfl, rfl, ?_, _, _, rfl, rfl, hxs.perm, fun hk => by cases hk⟩
    refine Fault.agreesBut_ofAmbiguous word position consumed ?_
    rw [← hxs.perm.length_eq, List.length_map]
  | @missingValue n word position consumed hn =>
    refine ⟨_, _, rfl, rfl, ?_, _, _, rfl, rfl, ?_, fun _ => ?_⟩
    · exact Fault.agreesBut_ofMissingValue word position consumed (h.isImage n hn).name_eq
    · rw [h.isHidden_eq hn]
      split
      · exact .nil
      · exact .refl _
    · rw [h.isHidden_eq hn]
      split
      · rfl
      · exact congrArg (fun key => [key]) (h.listingKey_eq hn)
  | blocked hn hk => cases (hc _ hn).symm.trans hk

end Root.IsRearrangement

/-- **The order of declarations does not matter** but among the positional parameters of a level.
Over a rearranged grammar every line either matches as before, with the same trace, command and
bindings, or is at fault as before: the fault is of the same kind and tells the same, and the nodes
that it lists are the same, in the same order but for those that are alike in priority and name. -/
theorem parse_rearranged (hc : root.IsClosed) (h : root.IsRearrangement f image)
    (tokens : List String) :
    (∃ s t, parse tokens root = .ok s ∧ parse tokens image = .ok t ∧
      t.trace = s.trace.map f ∧ t.command = s.command.map f ∧
      t.bindings = s.bindings.map (Prod.map f id)) ∨
    ∃ e d fault other, parse tokens root = .error e ∧ parse tokens image = .error d ∧
      e.fault? = some fault ∧ d.fault? = some other ∧ fault.IsRearrangement f other := by
  have ho := h.toIsImage.parse tokens
  generalize parse tokens root = outcome at ho
  generalize parse tokens image = outcome' at ho
  cases ho with
  | ok hs => exact .inl ⟨_, _, rfl, rfl, hs.trace_eq, hs.command_eq, hs.bindings_eq⟩
  | error he =>
    obtain ⟨fault, other, hf, ho, hr⟩ := h.fault hc he
    exact .inr ⟨_, _, fault, other, rfl, rfl, hf, ho, hr⟩

namespace Demo

/-- The commands that show and set. -/
def plain : Registry := ⟨[showCommand, setCommand]⟩

/-- The commands that set and show, each with its parameters in reverse. -/
def reversed : Registry :=
  ⟨plain.commands.reverse.map fun c => .mk c.signature c.parameters.reverse c.commands⟩

end Demo

/-- With everything in reverse a line matches as before, and a word that stands for nothing is
refused as before. -/
theorem parse_rearranged_reversed : ∃ root image : Root,
    (Demo.plain.build 0).map Numbered.value = .ok root ∧
    (Demo.reversed.build 0).map Numbered.value = .ok image ∧
    root.IsClosed ∧ root.IsRearrangement image.counterpart image ∧
    (∃ s t, parse ["show", "--v", "tree"] root = .ok s ∧
      parse ["show", "--v", "tree"] image = .ok t ∧
      t.trace = s.trace.map image.counterpart) ∧
    ∃ e d fault other, parse ["nope"] root = .error e ∧ parse ["nope"] image = .error d ∧
      e.fault? = some fault ∧ d.fault? = some other ∧
      fault.IsRearrangement image.counterpart other := by
  obtain ⟨root, image, hroot, himage, hall⟩ := exists_ok_of_any_any
    (e := (Demo.plain.build 0).map Numbered.value)
    (f := fun _ => (Demo.reversed.build 0).map Numbered.value)
    (p := fun root image => decide (root.IsClosed ∧ root.IsRearrangement image.counterpart image) &&
      (parse ["show", "--v", "tree"] root).toOption.isSome &&
      (parse ["nope"] root).toOption.isNone) (by decide +kernel)
  obtain ⟨hok, herror⟩ := Bool.and_eq_true_iff.1 hall
  obtain ⟨himages, hok⟩ := Bool.and_eq_true_iff.1 hok
  obtain ⟨hc, h⟩ := of_decide_eq_true himages
  refine ⟨root, image, hroot, himage, hc, h, ?_, ?_⟩
  · rcases parse_rearranged hc h ["show", "--v", "tree"] with ⟨s, t, hs, ht, htrace, -⟩ | he
    · exact ⟨s, t, hs, ht, htrace⟩
    · obtain ⟨e, d, fault, other, he, -⟩ := he
      rw [he] at hok
      cases hok
  · rcases parse_rearranged hc h ["nope"] with ⟨s, t, hs, -⟩ | he
    · rw [hs] at herror
      cases herror
    · exact he

end CommandGrammar
