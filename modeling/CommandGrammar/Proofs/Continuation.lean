import CommandGrammar.Demo
import CommandGrammar.Proofs.Binding

/-!
Matching never goes back: a word that was taken is not looked at again. So matching a longer line
goes on where matching its beginning has ended, a word that was refused stays refused whatever
follows it, and a value that was missing may still be given.
-/

namespace CommandGrammar

namespace MatchError

/-- Nothing that follows on the line can mend the error: it is not a missing value. -/
def IsFinal : MatchError → Prop
  | noMatch .. | ambiguous .. | blocked => True
  | missingValue .. => False

end MatchError

namespace State

variable {s t : State} {position : Nat} {xs : List String} {e : MatchError}

lemma isFinal_of_choose {word : String} (h : s.choose position word = .error e) : e.IsFinal := by
  rcases choose_eq_error_iff.1 h with ⟨nodes, -, rfl⟩ | ⟨-, rfl⟩ | ⟨-, rfl⟩
  · trivial
  · trivial
  · trivial

/-- Matching a longer line goes on where matching its beginning has ended. -/
lemma run_append (h : s.run position xs = .ok t) (ys : List String) :
    s.run position (xs ++ ys) = t.run (position + xs.length) ys := by
  obtain ⟨gs, hr, rfl⟩ := run_eq_ok_iff.1 h
  exact hr.run_eq position ys

/-- A final error is one of a word that was refused, where the words before it have led. -/
lemma exists_refused (h : s.run position xs = .error e) (he : e.IsFinal) :
    ∃ gs u word rest, s.Reaches gs u ∧ wordsOf gs ++ word :: rest = xs ∧
      u.choose (position + (wordsOf gs).length) word = .error e := by
  obtain ⟨gs, u, rest, hr, rfl, hend⟩ := s.exists_ends position xs
  rw [h] at hend
  cases hend with
  | @refused word rest _ hc => exact ⟨gs, u, word, rest, hr, rfl, hc⟩
  | unvalued => exact he.elim

/-- A word that was refused stays refused. -/
lemma run_append_of_isFinal (h : s.run position xs = .error e) (he : e.IsFinal)
    (ys : List String) : s.run position (xs ++ ys) = .error e := by
  obtain ⟨gs, u, word, rest, hr, rfl, hc⟩ := exists_refused h he
  rw [List.append_assoc, hr.run_eq]
  exact (Ends.refused hc).run_eq

/-- A missing value is one of the last word, which stands for a parameter that takes it. -/
lemma exists_of_missingValue {word : String} {n : Node} {index : Nat} {consumed : List String}
    (h : s.run position xs = .error (.missingValue word n index consumed)) :
    ∃ gs u, s.Reaches gs u ∧ wordsOf gs ++ [word] = xs ∧ n.takesValue = true ∧
      ∀ value, u.Accepts ⟨n, word, some value⟩ := by
  obtain ⟨gs, u, rest, hr, rfl, hend⟩ := s.exists_ends position xs
  rw [h] at hend
  cases hend with
  | refused hc => exact (isFinal_of_choose hc).elim
  | unvalued hn hv => exact ⟨gs, u, hr, rfl, hv, fun value => ⟨choose_eq_ok_iff.1 hn, hv.symm⟩⟩

end State

/-- **Matching never goes back.** A line that matches is matched on from its state, with the places
of the words counted on. A line that does not match stays so, with the same error, when more words
follow, unless it ends where a value is missing: then any word whatever is taken as the value. -/
theorem parse_append (root : Root) (xs ys : List String) :
    (∀ s, parse xs root = .ok s → parse (xs ++ ys) root = s.run (xs.length + 1) ys) ∧
    (∀ e, parse xs root = .error e → e.IsFinal → parse (xs ++ ys) root = .error e) ∧
    ∀ word n index consumed, parse xs root = .error (.missingValue word n index consumed) →
      n.takesValue = true ∧ ∀ value, ∃ s t, parse xs.dropLast root = .ok s ∧
        parse (xs ++ [value]) root = .ok t ∧ t.trace = s.trace ++ [n] ∧
        t.bindings.get? n = some
          (if n.isRepeatable then
            .several (((s.bindings.get? n).map Binding.items).getD [] ++ [.word value])
          else .single (.word value)) := by
  refine ⟨fun s hs => ?_, fun e he hf => ?_, fun word n index consumed hm => ?_⟩
  · rw [parse, State.run_append hs, Nat.add_comm]
  · exact State.run_append_of_isFinal he hf ys
  · obtain ⟨gs, u, hr, rfl, hv, hacc⟩ := State.exists_of_missingValue hm
    refine ⟨hv, fun value => ?_⟩
    have hgs : parse (wordsOf gs) root = .ok u := parse_eq_ok_iff.2 ⟨gs, hr, rfl⟩
    have hstep : (State.start root).Reaches (gs ++ [⟨n, word, some value⟩])
        (u.record n [word, value] (.word value)) := by
      rw [State.record_eq_after u word value hv]
      exact hr.append (.cons (hacc value) (.nil _))
    refine ⟨u, u.record n [word, value] (.word value), ?_, ?_, rfl, ?_⟩
    · rw [List.dropLast_concat, hgs]
    · refine parse_eq_ok_iff.2 ⟨_, hstep, ?_⟩
      simp [Group.words]
    · exact Bindings.get?_bind_self n (.word value) u.bindings

/-- The value of a tag is missing, and may be a word that is a literal elsewhere. -/
theorem parse_append_tag : ∃ root s t n items, Demo.root = .ok root ∧
    parse ["set", "--tag", "a"] root = .ok s ∧
    parse ["set", "--tag", "a", "-t"] root = .error (.missingValue "-t" n 5 (s.tokens ++ ["-t"])) ∧
    parse ["set", "--tag", "a", "-t", "--level"] root = .ok t ∧ t.trace = s.trace ++ [n] ∧
    t.bindings.get? n = some (.several (items ++ [.word "--level"])) := by
  obtain ⟨root, s, hroot, hs, hp⟩ := exists_ok_of_any_any (e := Demo.root)
    (f := parse ["set", "--tag", "a"])
    (p := fun _ s => (s.choose 4 "-t").toOption.any fun n => n.takesValue && n.isRepeatable)
    (by decide +kernel)
  obtain ⟨n, hn, hvr⟩ := exists_ok_of_any hp
  obtain ⟨hv, hr⟩ := Bool.and_eq_true_iff.1 hvr
  have hm : parse ["set", "--tag", "a", "-t"] root =
      .error (.missingValue "-t" n 5 (s.tokens ++ ["-t"])) := by
    have hrun := (parse_append root ["set", "--tag", "a"] ["-t"]).1 s hs
    exact hrun.trans (State.Ends.unvalued hn hv).run_eq
  obtain ⟨-, hvalue⟩ := (parse_append root ["set", "--tag", "a", "-t"] []).2.2 _ _ _ _ hm
  obtain ⟨s', t, hs', ht, htrace, hget⟩ := hvalue "--level"
  have hss : s' = s := Except.ok.inj (hs'.symm.trans hs)
  subst hss
  rw [if_pos hr] at hget
  exact ⟨root, s', t, n, _, hroot, hs, hm, ht, htrace, hget⟩

end CommandGrammar
