import CommandGrammar.Main
import CommandGrammar.Proofs.Completion
import CommandGrammar.Proofs.Endings

/-!
The cursor at the end of a line. Between words a new word starts there, which is completed from
nothing; within a word that word is completed, unless its last character is blank: then a new word is
taken to start as well. Such a blank stands in a word because it was escaped, or separates no words.
-/

namespace CommandGrammar

namespace Line

/-! ### The last character -/

namespace Mode

variable {mode : Mode} {begun : List Char} {c : Char}

lemma continueWord_ne_between (begun : List Char) (c : Char) : continueWord begun c ≠ .between := by
  unfold continueWord
  split
  · simp
  · split
    · simp
    · split <;> simp

/-- Within quotes only their own mark leads out. -/
lemma step_quoted_cases (quote : Quote) (begun : List Char) (c : Char) :
    (c = quote.mark ∧ ((quoted quote begun).step c).2 = .word begun) ∨
    ((quoted quote begun).step c).2 = .quotedEscaped begun ∨
      ((quoted quote begun).step c).2 = .quoted quote (begun ++ [c]) := by
  unfold step
  dsimp only
  split
  · next hmark => exact .inl ⟨beq_iff_eq.1 hmark, rfl⟩
  · split
    · exact .inr (.inl rfl)
    · exact .inr (.inr rfl)

/-- Only a separator leads between words, and not from after a backslash. -/
lemma of_step_eq_between (h : (mode.step c).2 = .between) :
    isSeparator c = true ∧ mode.finish ≠ .error .escapedCharacter := by
  cases mode with
  | between =>
    by_cases hc : isSeparator c = true
    · exact ⟨hc, by simp [finish]⟩
    · rw [step, if_neg hc] at h
      exact absurd h (continueWord_ne_between [] c)
  | word begun =>
    by_cases hc : isSeparator c = true
    · exact ⟨hc, by simp [finish]⟩
    · rw [step, if_neg hc] at h
      exact absurd h (continueWord_ne_between begun c)
  | quoted quote begun =>
    rcases step_quoted_cases quote begun c with ⟨-, hstep⟩ | hstep | hstep
    · cases hstep.symm.trans h
    · cases hstep.symm.trans h
    · cases hstep.symm.trans h
  | escaped begun => cases h
  | quotedEscaped begun =>
    obtain ⟨more, hmore⟩ := step_quotedEscaped begun c
    rw [hmore] at h
    cases h

/-- A separator leads into a word only when it was escaped. -/
lemma of_step_eq_word (h : (mode.step c).2 = .word begun) :
    isSeparator c = false ∨ mode.finish = .error .escapedCharacter := by
  rw [← Bool.not_eq_true, ← imp_iff_not_or]
  intro hc
  cases mode with
  | between =>
    rw [step, if_pos hc] at h
    cases h
  | word started =>
    rw [step, if_pos hc] at h
    cases h
  | quoted quote started =>
    rcases step_quoted_cases quote started c with ⟨rfl, -⟩ | hstep | hstep
    · -- the mark that closes the quotes is no separator
      cases quote <;> cases hc
    · cases hstep.symm.trans h
    · cases hstep.symm.trans h
  | escaped started => rfl
  | quotedEscaped started => rfl

end Mode

/-! ### One more character -/

section Longer

variable {line : String} {words : List String}

lemma eq_empty_or_push (line : String) : line = "" ∨ ∃ (init : String) (c : Char), line = init.push c := by
  rcases line.toList.eq_nil_or_concat' with hnil | ⟨cs, c, hcs⟩
  · exact .inl (String.toList_inj.1 hnil)
  · refine .inr ⟨String.ofList cs, c, ?_⟩
    rw [← String.toList_inj, String.toList_push, String.toList_ofList, hcs]

/-- One more character shows where a line ends: it is a word of its own where the line ends between
words, and goes on with the last word where it ends in one. -/
lemma exists_split_push (h : split line = .ok words) :
    ∃ longer, split (line.push 'x') = .ok longer ∧
      (ending line = .between ∧ longer.length = words.length + 1 ∨
        (∃ begun, ending line = .word begun) ∧ longer.length = words.length) := by
  obtain ⟨last, hfinish, rfl⟩ := exists_of_split h
  rcases Mode.of_finish_eq_ok hfinish with ⟨hending, rfl⟩ | ⟨begun, hending, rfl⟩
  · have hstep : (ending line).step 'x' = (none, .word ['x']) := by rw [hending]; rfl
    refine ⟨(ended line ++ [['x']]).map String.ofList, ?_, .inl ⟨hending, by simp⟩⟩
    rw [split_push, hstep, Option.toList_none, List.append_nil]
    rfl
  · have hstep : (ending line).step 'x' = (none, .word (begun ++ ['x'])) := by rw [hending]; rfl
    refine ⟨(ended line ++ [begun ++ ['x']]).map String.ofList, ?_, .inr ⟨⟨begun, hending⟩, by simp⟩⟩
    rw [split_push, hstep, Option.toList_none, List.append_nil]
    rfl

/-- A line ends in a word when its last character separates no words, or was escaped. -/
lemma ending_push_eq_word_iff {c : Char} (h : IsWhole (line.push c)) :
    (∃ begun, ending (line.push c) = .word begun) ↔
      isSeparator c = false ∨ split line = .error .escapedCharacter := by
  rw [split_eq_error_iff]
  constructor
  · rintro ⟨begun, hword⟩
    rw [ending_push] at hword
    exact Mode.of_step_eq_word hword
  · intro hlast
    obtain ⟨last, hfinish⟩ := isWhole_iff.1 h
    rcases Mode.of_finish_eq_ok hfinish with ⟨hbetween, -⟩ | ⟨begun, hword, -⟩
    · rw [ending_push] at hbetween
      obtain ⟨hc, hne⟩ := Mode.of_step_eq_between hbetween
      rcases hlast with hlast | hlast
      · cases hc.symm.trans hlast
      · exact absurd hlast hne
    · exact ⟨begun, hword⟩

lemma isBlank_of_isSeparator {c : Char} (h : isSeparator c = true) : Text.isBlank c = true := by
  simp only [isSeparator, Bool.or_eq_true, beq_iff_eq] at h
  rcases h with ((rfl | rfl) | rfl) | rfl
  · rfl
  · rfl
  · rfl
  · rfl

end Longer

end Line

namespace Shell

open Line

/-! ### What is completed -/

variable {shell : Shell} {line : String} {words : List String}

/-- What is offered where words are completed: a fault of theirs leaves nothing. -/
def offered (run : Run (List String)) : Run (List String) :=
  match run.result with
  | .error (.fault _) => ⟨run.transcript, .ok []⟩
  | _ => run

lemma completions_of_split_ok (h : split line = .ok words) :
    shell.completions line = offered (shell.parser.complete (wordsToComplete line words)) := by
  rw [completions, h]
  rfl

lemma completions_of_split_error {unfinished : Unfinished} (h : split line = .error unfinished) :
    shell.completions line = .of (.ok []) := by
  rw [completions, h]

lemma startsWord_push (line : String) (c : Char) : startsWord (line.push c) = Text.isBlank c := by
  rw [startsWord, String.toList_push, List.getLast?_concat]

/-- Between words a new word starts. -/
lemma startsWord_of_ending (h : ending line = .between) : startsWord line = true := by
  rcases eq_empty_or_push line with rfl | ⟨init, c, rfl⟩
  · rfl
  · rw [ending_push] at h
    rw [startsWord_push]
    exact isBlank_of_isSeparator (Mode.of_step_eq_between h).1

/-- **What a line completes.** A line that cannot be split completes to nothing. Of any other, one more
character shows whether it ends between words or in one. Between words a new word is completed; in a
word that word is, unless the last character is blank, when a new one is. The last character stands in
a word exactly if it separates no words or was escaped. A fault of the words leaves nothing. -/
theorem completions_at_end (shell : Shell) (line : String) :
    (∀ unfinished, split line = .error unfinished → shell.completions line = .of (.ok [])) ∧
    ∀ words, split line = .ok words → ∃ longer, split (line.push 'x') = .ok longer ∧
      (longer.length = words.length + 1 ∨ longer.length = words.length ∧ line ≠ "") ∧
      (longer.length = words.length + 1 →
        shell.completions line = offered (shell.parser.complete (words ++ [""]))) ∧
      ∀ (init : String) (c : Char), line = init.push c →
        (longer.length = words.length ↔
          isSeparator c = false ∨ split init = .error .escapedCharacter) ∧
        (longer.length = words.length → shell.completions line =
          offered (shell.parser.complete (if Text.isBlank c then words ++ [""] else words))) := by
  refine ⟨fun _ => completions_of_split_error, fun words h => ?_⟩
  have hcompletions : shell.completions line =
      offered (shell.parser.complete (wordsToComplete line words)) := completions_of_split_ok h
  obtain ⟨longer, hlonger, hcases⟩ := exists_split_push h
  refine ⟨longer, hlonger, ?_, fun hmore => ?_, fun init c hline => ⟨?_, fun _ => ?_⟩⟩
  · rcases hcases with ⟨-, hlength⟩ | ⟨⟨begun, hending⟩, hlength⟩
    · exact .inl hlength
    · refine .inr ⟨hlength, ?_⟩
      rintro rfl
      cases hending
  · rcases hcases with ⟨hending, -⟩ | ⟨-, hlength⟩
    · rw [hcompletions, wordsToComplete, if_pos (startsWord_of_ending hending)]
    · omega
  · subst hline
    rw [← ending_push_eq_word_iff ⟨words, h⟩]
    rcases hcases with ⟨hending, hlength⟩ | ⟨hword, hlength⟩
    · rw [hlength, hending]
      simp
    · simp [hlength, hword]
  · rw [hcompletions, wordsToComplete, hline, startsWord_push]

/-- A part of a word is completed, and so is a new word after a blank, though one that was escaped. -/
theorem completions_at_end_show : ∃ grammar shell, Demo.registry.finish false 0 = .ok grammar ∧
    Shell.ofDraft false (Demo.draft grammar.root) = .ok shell ∧
    shell.completions "se" = offered (shell.parser.complete ["se"]) ∧
    shell.completions "show " = offered (shell.parser.complete ["show", ""]) ∧
    shell.completions "show a\\ " = offered (shell.parser.complete ["show", "a ", ""]) ∧
    shell.completions "show \"" = .of (.ok []) := by
  obtain ⟨grammar, hf, -⟩ := exists_ok_of_any (e := Demo.registry.finish false 0)
    (p := fun _ => true) (by decide +kernel)
  obtain ⟨shell, hshell⟩ : ∃ shell, Shell.ofDraft false (Demo.draft grammar.root) = .ok shell :=
    ⟨_, rfl⟩
  obtain ⟨hopen, -⟩ := completions_at_end shell "show \""
  obtain ⟨-, hpart⟩ := completions_at_end shell "se"
  obtain ⟨-, hnew⟩ := completions_at_end shell "show "
  obtain ⟨-, hescaped⟩ := completions_at_end shell "show a\\ "
  obtain ⟨longer, hlonger, -, -, hpart⟩ := hpart ["se"] (by decide +kernel)
  cases (by decide +kernel : split ("se".push 'x') = .ok ["sex"]).symm.trans hlonger
  obtain ⟨longer, hlonger, -, hnew, -⟩ := hnew ["show"] (by decide +kernel)
  cases (by decide +kernel : split ("show ".push 'x') = .ok ["show", "x"]).symm.trans hlonger
  obtain ⟨longer, hlonger, -, -, hescaped⟩ := hescaped ["show", "a "] (by decide +kernel)
  cases (by decide +kernel : split ("show a\\ ".push 'x') = .ok ["show", "a x"]).symm.trans hlonger
  exact ⟨grammar, shell, hf, hshell, (hpart "s" 'e' rfl).2 rfl, hnew rfl,
    (hescaped "show a\\" ' ' rfl).2 rfl, hopen .quotation (by decide +kernel)⟩

/-- Where a new word starts, it is completed at the frontier that the words lead to. -/
lemma completions_of_startsWord {s : State} (h : split line = .ok words)
    (hstarts : startsWord line = true) (hs : parse words shell.parser.root = .ok s) :
    (shell.completions line).result = .ok (Completion.atFrontier s.frontier "") := by
  have hcomplete : complete (words ++ [""]) shell.parser.root =
      .ok (Completion.atFrontier s.frontier "") := by
    rw [complete, Completion.lastWord_concat, hs]
  rw [completions_of_split_ok h, wordsToComplete, if_pos hstarts, Parser.complete, runComplete,
    hcomplete]
  rfl

/-- Where the last character of a word is blank the word is not completed, but a new one: a separator
that was escaped, and a blank that separates no words. -/
theorem exists_completions_apart : ∃ grammar shell, Demo.registry.finish false 0 = .ok grammar ∧
    Shell.ofDraft false (Demo.draft grammar.root) = .ok shell ∧
    ∀ line ∈ ["show a\\ ", "show a\u00a0"], ∃ words longer completions,
      split line = .ok words ∧ split (line.push 'x') = .ok longer ∧ longer.length = words.length ∧
      (shell.completions line).result = .ok completions ∧ "--verbose" ∈ completions ∧
      (offered (shell.parser.complete words)).result = .ok [] := by
  obtain ⟨grammar, hf, hall⟩ := exists_ok_of_any (e := Demo.registry.finish false 0)
    (p := fun grammar => (Shell.ofDraft false (Demo.draft grammar.root)).toOption.any
      fun shell : Shell => ["show a\\ ", "show a\u00a0"].all fun line => startsWord line &&
        (split line).toOption.any fun words : List String =>
          (split (line.push 'x')).toOption.any (·.length == words.length) &&
          (parse words shell.parser.root).toOption.any (·.frontier.any fun n =>
            !n.isHidden && n.literals.contains "--verbose") &&
          (offered (shell.parser.complete words)).result.toOption.any List.isEmpty)
    (by decide +kernel)
  obtain ⟨shell, hshell, hall⟩ := exists_ok_of_any hall
  refine ⟨grammar, shell, hf, hshell, fun line hline => ?_⟩
  obtain ⟨hstarts, hwords⟩ := Bool.and_eq_true_iff.1 (List.all_eq_true.1 hall line hline)
  obtain ⟨words, hwords, hrest⟩ := exists_ok_of_any hwords
  simp only [Bool.and_eq_true] at hrest
  obtain ⟨⟨hlonger, hstate⟩, hnone⟩ := hrest
  obtain ⟨longer, hlonger, hlength⟩ := exists_ok_of_any hlonger
  obtain ⟨s, hs, hverbose⟩ := exists_ok_of_any hstate
  obtain ⟨n, hn, hnode⟩ := List.any_eq_true.1 hverbose
  simp only [Bool.and_eq_true, Bool.not_eq_true', List.contains_iff_mem] at hnode
  obtain ⟨hv, hl⟩ := hnode
  obtain ⟨completions, hcompletions, hempty⟩ := exists_ok_of_any hnone
  cases List.isEmpty_iff.1 hempty
  exact ⟨words, longer, _, hwords, hlonger, beq_iff_eq.1 hlength,
    completions_of_startsWord hwords hstarts hs,
    Completion.mem_atFrontier.2 ⟨List.nil_prefix, n, hn, hv, hl⟩, hcompletions⟩

end Shell

end CommandGrammar
