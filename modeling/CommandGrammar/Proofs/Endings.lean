import CommandGrammar.Fault.Cause
import CommandGrammar.Proofs.Spelling

/-!
The ends of lines. What a line comes to is settled by where the scanner stands at its end: between
words, or in one outside quotes, the line is whole. A separator after a whole line begins afresh, so
lines that it joins have their words one after another; and a line that is not whole can be mended by
what is put after it, which is what its fault says to be missing.
-/

namespace CommandGrammar.Line

/-! ### Where the scanner stands -/

namespace Mode

variable {mode : Mode} {last : List (List Char)} {c : Char}

/-- Scanning is reading, and then ending the line. -/
lemma scan_eq (mode : Mode) (cs : List Char) :
    mode.scan cs = (mode.read cs).2.finish.map ((mode.read cs).1 ++ ·) := by
  have h := mode.scan_append cs []
  rwa [List.append_nil] at h

/-- A line is left unfinished within quotes, or after a backslash. -/
lemma finish_cases (mode : Mode) :
    (∃ last, mode.finish = .ok last) ∨
    (mode.finish = .error .quotation ∧ ∃ quote begun, mode = .quoted quote begun) ∨
    mode.finish = .error .escapedCharacter ∧
      ((∃ begun, mode = .escaped begun) ∨ ∃ begun, mode = .quotedEscaped begun) := by
  cases mode with
  | between => exact .inl ⟨_, rfl⟩
  | word begun => exact .inl ⟨_, rfl⟩
  | quoted quote begun => exact .inr (.inl ⟨rfl, quote, begun, rfl⟩)
  | escaped begun => exact .inr (.inr ⟨rfl, .inl ⟨begun, rfl⟩⟩)
  | quotedEscaped begun => exact .inr (.inr ⟨rfl, .inr ⟨begun, rfl⟩⟩)

/-- A line that can be ended ends between words or in one. -/
lemma of_finish_eq_ok (h : mode.finish = .ok last) :
    (mode = .between ∧ last = []) ∨ ∃ begun, mode = .word begun ∧ last = [begun] := by
  cases mode with
  | between =>
    cases h
    exact .inl ⟨rfl, rfl⟩
  | word begun =>
    cases h
    exact .inr ⟨begun, rfl, rfl⟩
  | quoted | escaped | quotedEscaped => cases h

/-- Within quotes a mark closes them if it is their own, and is a character like others if not. -/
lemma step_mark (quote other : Quote) (begun : List Char) :
    (quoted quote begun).step other.mark =
      (none, if other = quote then .word begun else .quoted quote (begun ++ [other.mark])) := by
  cases quote with
  | single =>
    cases other with
    | single => rfl
    | double => rfl
  | double =>
    cases other with
    | single => rfl
    | double => rfl

/-- After a backslash between double quotes any character leaves the scanner between them. -/
lemma step_quotedEscaped (begun : List Char) (c : Char) :
    ∃ more, (quotedEscaped begun).step c = (none, .quoted .double more) := by
  unfold step
  dsimp only
  split
  · exact ⟨_, rfl⟩
  · exact ⟨_, rfl⟩

/-- **A separator does what the end of the line does:** it ends the word that was begun, and leaves
the scanner between words. -/
theorem step_separator (h : mode.finish = .ok last) (hc : isSeparator c = true) :
    (mode.step c).1.toList = last ∧ (mode.step c).2 = .between := by
  rcases of_finish_eq_ok h with ⟨rfl, rfl⟩ | ⟨begun, rfl, rfl⟩
  · rw [step, if_pos hc]
    exact ⟨rfl, rfl⟩
  · rw [step, if_pos hc]
    exact ⟨rfl, rfl⟩

end Mode

section Ending

variable {line : String} {unfinished : Unfinished}

/-- The words that have ended before the end of the line. -/
def ended (line : String) : List (List Char) := (Mode.between.read line.toList).1

/-- Where the scanner stands at the end of the line. -/
def ending (line : String) : Mode := (Mode.between.read line.toList).2

/-- The line can be split. -/
def IsWhole (line : String) : Prop := ∃ words, split line = .ok words

lemma split_eq (line : String) : split line =
    (ending line).finish.map fun last => (ended line ++ last).map String.ofList := by
  rw [split, Mode.scan_eq, ending, ended]
  cases (Mode.between.read line.toList).2.finish <;> rfl

lemma split_append (a b : String) : split (a ++ b) =
    ((ending a).scan b.toList).map fun words => (ended a ++ words).map String.ofList := by
  rw [split, String.toList_append, Mode.scan_append, ending, ended]
  cases (Mode.between.read a.toList).2.scan b.toList <;> rfl

lemma ending_push (line : String) (c : Char) :
    ending (line.push c) = ((ending line).step c).2 := by
  rw [ending, String.toList_push, Mode.read_append]
  rfl

lemma ended_push (line : String) (c : Char) :
    ended (line.push c) = ended line ++ ((ending line).step c).1.toList := by
  rw [ended, String.toList_push, Mode.read_append]
  simp [Mode.read_cons, ended, ending]

lemma split_push (line : String) (c : Char) : split (line.push c) =
    ((ending line).step c).2.finish.map fun last =>
      (ended line ++ ((ending line).step c).1.toList ++ last).map String.ofList := by
  rw [split_eq, ending_push, ended_push]

lemma split_eq_error_iff :
    split line = .error unfinished ↔ (ending line).finish = .error unfinished := by
  rw [split_eq]
  cases (ending line).finish with
  | error e => simp [Except.map]
  | ok last => simp [Except.map]

lemma isWhole_iff : IsWhole line ↔ ∃ last, (ending line).finish = .ok last := by
  unfold IsWhole
  rw [split_eq]
  cases (ending line).finish with
  | error e => simp [Except.map]
  | ok last => simp [Except.map]

/-- What split a line has ended its words with the one that was begun. -/
lemma exists_of_split {words : List String} (h : split line = .ok words) :
    ∃ last, (ending line).finish = .ok last ∧ words = (ended line ++ last).map String.ofList := by
  rw [split_eq] at h
  cases hlast : (ending line).finish with
  | error e =>
    rw [hlast] at h
    cases h
  | ok last =>
    rw [hlast] at h
    cases h
    exact ⟨last, rfl, rfl⟩

end Ending

/-! ### Lines joined by a separator -/

/-- **Splitting goes part by part.** A separator after a line that can be split stands between its
words and those of what follows; where that cannot be split the whole cannot either, for the same
reason and with the same message. -/
theorem split_separated {a : String} {words : List String} (ha : split a = .ok words) {s : Char}
    (hs : s ∈ [' ', '\t', '\r', '\n']) (b : String) :
    (∀ others, split b = .ok others → split (a.push s ++ b) = .ok (words ++ others)) ∧
    ∀ unfinished, split b = .error unfinished → split (a.push s ++ b) = .error unfinished ∧
      (Fault.ofUnfinished (a.push s ++ b) unfinished).message =
        (Fault.ofUnfinished b unfinished).message := by
  have hseparator : isSeparator s = true := by
    simpa [isSeparator, or_assoc] using hs
  obtain ⟨last, hfinish, rfl⟩ := exists_of_split ha
  obtain ⟨hended, hbetween⟩ := Mode.step_separator hfinish hseparator
  have hjoined : split (a.push s ++ b) =
      (split b).map fun others => (ended a ++ last).map String.ofList ++ others := by
    rw [split_append, ending_push, hbetween, ended_push, hended, split]
    cases Mode.between.scan b.toList with
    | error e => rfl
    | ok others => simp [Except.map]
  refine ⟨fun others h => ?_, fun unfinished h => ⟨?_, rfl⟩⟩
  · rw [hjoined, h]
    rfl
  · rw [hjoined, h]
    rfl

/-- The first line ends in an empty word, and what follows a line feed has a quote that is open. -/
theorem split_separated_quoted : split "set ''" = .ok ["set", ""] ∧
    split "a\\ b" = .ok ["a b"] ∧ split ("set ''".push '\t' ++ "a\\ b") = .ok ["set", "", "a b"] ∧
    split "\"it's" = .error .quotation ∧
    split ("set ''".push '\n' ++ "\"it's") = .error .quotation := by
  have hset : split "set ''" = .ok ["set", ""] := by decide +kernel
  have hspaced : split "a\\ b" = .ok ["a b"] := by decide +kernel
  have hopen : split "\"it's" = .error .quotation := by decide +kernel
  exact ⟨hset, hspaced, (split_separated hset (by decide) "a\\ b").1 _ hspaced, hopen,
    ((split_separated hset (by decide) "\"it's").2 _ hopen).1⟩

/-! ### What a line lacks -/

/-- What the fault of a line that cannot be split says. -/
structure Reports (fault : Fault) (line text : String) : Prop where
  kind : fault.kind = .tokenizing
  message : fault.message = "cannot split input line: " ++ text
  line : fault.options.get? "line" = some (.text line)
  code : fault.options.get? "code" = some (.code .unterminatedQuote)

lemma reports_ofUnfinished (line : String) (unfinished : Unfinished) :
    Reports (Fault.ofUnfinished line unfinished) line unfinished.message :=
  ⟨rfl, rfl, rfl, rfl⟩

/-- What a line lacks, if it is not whole, and what would mend it. -/
inductive Lacks (line : String) : Option Unfinished → Prop
  | nothing {words : List String} : split line = .ok words → Lacks line none
  /-- One kind of quotes closes, and the other does not. -/
  | quotation {quote : Quote} : split line = .error .quotation →
    (∀ other : Quote, IsWhole (line.push other.mark) ↔ other = quote) →
    Reports (.ofUnfinished line .quotation) line "no closing quotation" →
      Lacks line (some .quotation)
  /-- Any character goes after the backslash, with a quote after it if there is one open. -/
  | escapedCharacter : split line = .error .escapedCharacter →
    (∀ c, split (line.push c) ≠ .error .escapedCharacter ∧
      (IsWhole (line.push c) ∨ IsWhole ((line.push c).push '"'))) →
    Reports (.ofUnfinished line .escapedCharacter) line "no escaped character" →
      Lacks line (some .escapedCharacter)

section Lacks

variable {line : String} {missing other : Option Unfinished}

lemma Lacks.unique (h : Lacks line missing) (h' : Lacks line other) : other = missing := by
  cases h <;> cases h' <;> simp_all

/-- A quotation is closed by the mark that has opened it. -/
lemma isWhole_push_mark {quote : Quote} {begun : List Char}
    (h : ending line = .quoted quote begun) (other : Quote) :
    IsWhole (line.push other.mark) ↔ other = quote := by
  rw [isWhole_iff, ending_push, h, Mode.step_mark]
  by_cases ho : other = quote
  · simp [ho, Mode.finish]
  · simp [ho, Mode.finish]

/-- Any character goes after a backslash outside quotes. -/
lemma isWhole_push_of_escaped {begun : List Char} (h : ending line = .escaped begun) (c : Char) :
    IsWhole (line.push c) := by
  rw [isWhole_iff, ending_push, h]
  exact ⟨_, rfl⟩

/-- After a backslash between double quotes any character leaves these to be closed. -/
lemma exists_ending_push {begun : List Char} (h : ending line = .quotedEscaped begun) (c : Char) :
    ∃ more, ending (line.push c) = .quoted .double more := by
  obtain ⟨more, hmore⟩ := Mode.step_quotedEscaped begun c
  exact ⟨more, by rw [ending_push, h, hmore]⟩

end Lacks

/-- **Every line is whole or can be mended.** It can be split; or one kind of quotes closes it; or any
character may follow its backslash, with double quotes after it where these are open. Its fault says
which, and carries the line as it is. -/
theorem existsUnique_lacks (line : String) : ∃! missing, Lacks line missing := by
  refine existsUnique_of_exists_of_unique ?_ fun missing other h h' => h'.unique h
  rcases (ending line).finish_cases with hok | ⟨herror, quote, begun, h⟩ | ⟨herror, h⟩
  · obtain ⟨words, hwords⟩ := isWhole_iff.2 hok
    exact ⟨none, .nothing hwords⟩
  · exact ⟨_, .quotation (split_eq_error_iff.2 herror) (isWhole_push_mark h)
      (reports_ofUnfinished line .quotation)⟩
  · refine ⟨_, .escapedCharacter (split_eq_error_iff.2 herror) (fun c => ?_)
      (reports_ofUnfinished line .escapedCharacter)⟩
    rcases h with ⟨begun, h⟩ | ⟨begun, h⟩
    · obtain ⟨words, hwords⟩ := isWhole_push_of_escaped h c
      exact ⟨by simp [hwords], .inl ⟨words, hwords⟩⟩
    · obtain ⟨more, hmore⟩ := exists_ending_push h c
      refine ⟨fun hsplit => ?_, .inr ((isWhole_push_mark hmore .double).2 rfl)⟩
      rw [split_eq_error_iff, hmore] at hsplit
      cases hsplit

end CommandGrammar.Line
