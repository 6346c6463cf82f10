import CommandGrammar.Line
import Mathlib.Data.List.Basic

/-!
Words as they are written in lines. A word may stand between single quotes, between double quotes or
behind backslashes, each of which keeps every character from having a meaning of its own; so words
that are written in any of these ways, with separators between them, are read back as they are.
-/

namespace CommandGrammar.Line

/-! ### Reading -/

namespace Mode

variable {mode : Mode} {begun : List Char} {c : Char} {cs : List Char}

/-- Reads characters: the words that they end, and where the scanner stands then. -/
def read (mode : Mode) : List Char → List (List Char) × Mode
  | [] => ([], mode)
  | c :: cs =>
    ((mode.step c).1.toList ++ ((mode.step c).2.read cs).1, ((mode.step c).2.read cs).2)

@[simp] lemma read_nil (mode : Mode) : mode.read [] = ([], mode) := rfl

lemma read_cons (mode : Mode) (c : Char) (cs : List Char) : mode.read (c :: cs) =
    ((mode.step c).1.toList ++ ((mode.step c).2.read cs).1, ((mode.step c).2.read cs).2) := rfl

lemma read_append (mode : Mode) (cs ds : List Char) : mode.read (cs ++ ds) =
    ((mode.read cs).1 ++ ((mode.read cs).2.read ds).1, ((mode.read cs).2.read ds).2) := by
  induction cs generalizing mode with
  | nil => rfl
  | cons c cs ih => rw [List.cons_append, read_cons, ih, read_cons, List.append_assoc]

/-- Characters that end no word are read one part after another. -/
lemma read_append_of_eq {middle : Mode} (h : mode.read cs = ([], middle)) (ds : List Char) :
    mode.read (cs ++ ds) = middle.read ds := by
  rw [read_append, h]
  rfl

/-- **What was read stays read:** scanning goes on where reading has led, and the words that it has
ended come first. -/
theorem scan_append (mode : Mode) (cs ds : List Char) :
    mode.scan (cs ++ ds) = ((mode.read cs).2.scan ds).map ((mode.read cs).1 ++ ·) := by
  induction cs generalizing mode with
  | nil =>
    cases h : mode.scan ds with
    | error e => simp [h, Except.map]
    | ok words => simp [h, Except.map]
  | cons c cs ih =>
    rw [List.cons_append, scan, read_cons]
    split
    · next next h =>
      rw [ih, h]
      rfl
    · next ended next h =>
      rw [ih, h]
      cases (next.read cs).2.scan ds with
      | error e => rfl
      | ok words => rfl

/-- Separators between words are passed over. -/
lemma read_between (h : ∀ c ∈ cs, isSeparator c = true) : between.read cs = ([], between) := by
  induction cs with
  | nil => rfl
  | cons c cs ih =>
    obtain ⟨hc, hcs⟩ := List.forall_mem_cons.1 h
    rw [read_cons, step, if_pos hc]
    exact ih hcs

/-- A character that is no separator begins a word. -/
lemma read_between_cons (h : isSeparator c = false) (cs : List Char) :
    between.read (c :: cs) = (word []).read (c :: cs) := by
  have hstep : between.step c = (word []).step c := by simp [step, h]
  rw [read_cons, hstep, ← read_cons]

/-- A separator ends a word, and those after it are passed over. -/
lemma read_word_of_ne_nil (h : ∀ c ∈ cs, isSeparator c = true) (hne : cs ≠ []) :
    (word begun).read cs = ([begun], between) := by
  cases cs with
  | nil => exact absurd rfl hne
  | cons c cs =>
    obtain ⟨hc, hcs⟩ := List.forall_mem_cons.1 h
    rw [read_cons, step, if_pos hc, read_between hcs]
    rfl

end Mode

/-! ### Spellings -/

/-- The ways to write a word so that no character of it has a meaning of its own. -/
inductive Spelling where
  /-- Between single quotes. -/
  | singleQuoted
  /-- Between double quotes. -/
  | doubleQuoted
  /-- With a backslash before every character. -/
  | escaped
deriving DecidableEq, Repr

namespace Spelling

/-- What stands at both ends of the word. -/
def mark : Spelling → List Char
  | singleQuoted => [Quote.single.mark]
  | doubleQuoted => [Quote.double.mark]
  | escaped => []

/-- One character of the word. A single quote leaves the single quotes and stands between double
ones. -/
def spellChar : Spelling → Char → List Char
  | singleQuoted, c =>
    if c = Quote.single.mark then
      [Quote.single.mark, Quote.double.mark, Quote.single.mark, Quote.double.mark,
        Quote.single.mark]
    else [c]
  | doubleQuoted, c => if c = Quote.double.mark ∨ c = '\\' then ['\\', c] else [c]
  | escaped, c => ['\\', c]

/-- The word as it is written. -/
def spell (spelling : Spelling) (word : List Char) : List Char :=
  spelling.mark ++ (word.flatMap spelling.spellChar ++ spelling.mark)

/-- The word can be written so: without quotes there has to be a character. -/
def CanSpell (spelling : Spelling) (word : List Char) : Prop := spelling = escaped → word ≠ []

instance (spelling : Spelling) (word : List Char) : Decidable (spelling.CanSpell word) :=
  inferInstanceAs (Decidable (spelling = escaped → word ≠ []))

/-- Where the scanner stands within the word, after a part of it. -/
def inside (begun : List Char) : Spelling → Mode
  | singleQuoted => .quoted .single begun
  | doubleQuoted => .quoted .double begun
  | escaped => .word begun

variable {spelling : Spelling} {word : List Char}

/-- A character is read for what it is, whatever it is. -/
lemma read_spellChar (spelling : Spelling) (begun : List Char) (c : Char) :
    (spelling.inside begun).read (spelling.spellChar c) = ([], spelling.inside (begun ++ [c])) := by
  cases spelling with
  | singleQuoted =>
    by_cases hc : c = Quote.single.mark
    · subst hc
      rw [spellChar, if_pos rfl]
      rfl
    · simp [spellChar, inside, Mode.read, Mode.step, hc]
  | doubleQuoted =>
    by_cases hc : c = Quote.double.mark ∨ c = '\\'
    · rw [spellChar, if_pos hc]
      rcases hc with rfl | rfl
      · rfl
      · rfl
    · rw [spellChar, if_neg hc]
      rw [not_or] at hc
      simp [inside, Mode.read, Mode.step, hc]
  | escaped => rfl

lemma read_flatMap_spellChar (spelling : Spelling) (begun word : List Char) :
    (spelling.inside begun).read (word.flatMap spelling.spellChar) =
      ([], spelling.inside (begun ++ word)) := by
  induction word generalizing begun with
  | nil => rw [List.append_nil]; rfl
  | cons c cs ih =>
    rw [List.flatMap_cons, Mode.read_append_of_eq (spelling.read_spellChar begun c), ih,
      List.append_assoc, List.singleton_append]

lemma read_mark (spelling : Spelling) (begun : List Char) :
    (Mode.word begun).read spelling.mark = ([], spelling.inside begun) := by
  cases spelling <;> rfl

lemma read_mark_inside (spelling : Spelling) (begun : List Char) :
    (spelling.inside begun).read spelling.mark = ([], .word begun) := by
  cases spelling <;> rfl

/-- A word that is written is read as it is, and goes on. -/
lemma read_spell (spelling : Spelling) (begun word : List Char) :
    (Mode.word begun).read (spelling.spell word) = ([], .word (begun ++ word)) := by
  rw [spell, Mode.read_append_of_eq (spelling.read_mark begun),
    Mode.read_append_of_eq (spelling.read_flatMap_spellChar begun word), read_mark_inside]

/-- A word that is written begins with a quote or a backslash. -/
lemma exists_spell_eq_cons (h : spelling.CanSpell word) :
    ∃ c cs, spelling.spell word = c :: cs ∧ isSeparator c = false := by
  cases spelling with
  | singleQuoted => exact ⟨_, _, rfl, rfl⟩
  | doubleQuoted => exact ⟨_, _, rfl, rfl⟩
  | escaped =>
    obtain ⟨c, cs, rfl⟩ := List.exists_cons_of_ne_nil (h rfl)
    exact ⟨_, _, rfl, rfl⟩

/-- **A word that is written after separators is read as it is.** -/
theorem read_between_spell (h : spelling.CanSpell word) :
    Mode.between.read (spelling.spell word) = ([], .word word) := by
  obtain ⟨c, cs, hcs, hc⟩ := exists_spell_eq_cons h
  rw [hcs, Mode.read_between_cons hc, ← hcs]
  exact spelling.read_spell [] word

end Spelling

/-! ### Lines -/

/-- A word as it stands in a line, with the separators after it. -/
structure WrittenWord where
  word : String
  spelling : Spelling
  gap : List Char
  canSpell : spelling.CanSpell word.toList
  isGap : ∀ c ∈ gap, isSeparator c = true

namespace WrittenWord

/-- The characters of the word and of its gap. -/
def text (w : WrittenWord) : List Char := w.spelling.spell w.word.toList ++ w.gap

variable {ws : List WrittenWord}

/-- Words are read back where separators stand between them. -/
lemma scan_flatMap_text (h : ∀ w ∈ ws.dropLast, w.gap ≠ []) :
    Mode.between.scan (ws.flatMap text) = .ok (ws.map fun w => w.word.toList) := by
  induction ws with
  | nil => rfl
  | cons w ws ih =>
    have hword := Spelling.read_between_spell w.canSpell
    rw [List.flatMap_cons, text, List.append_assoc, Mode.scan_append, hword]
    by_cases hgap : w.gap = []
    · -- only after the last word may there be no separator
      have hlast : ws = [] := by
        by_contra hne
        refine h w ?_ hgap
        rw [List.dropLast_cons_of_ne_nil hne]
        exact List.mem_cons_self
      subst hlast
      rw [hgap]
      rfl
    · have hrest : ∀ v ∈ ws.dropLast, v.gap ≠ [] := by
        intro v hv
        refine h v ?_
        rw [List.dropLast_cons_of_ne_nil fun hnil => by simp [hnil] at hv]
        exact List.mem_cons_of_mem w hv
      rw [Mode.scan_append, Mode.read_word_of_ne_nil w.isGap hgap, ih hrest]
      rfl

end WrittenWord

/-- **Written words are read back.** A line of words that are written with quotes or backslashes,
with separators between them and, as may be, before and after them, is split into these words,
whatever characters they have. -/
theorem split_written {lead : List Char} {ws : List WrittenWord}
    (hlead : ∀ c ∈ lead, isSeparator c = true) (hgaps : ∀ w ∈ ws.dropLast, w.gap ≠ []) :
    split (String.ofList (lead ++ ws.flatMap WrittenWord.text)) =
      .ok (ws.map WrittenWord.word) := by
  rw [split, String.toList_ofList, Mode.scan_append, Mode.read_between hlead,
    WrittenWord.scan_flatMap_text hgaps]
  simp [Except.map, Function.comp_def]

/-- Words with quotes, backslashes and separators, and one without characters. -/
theorem split_written_mixed : ∃ (lead : List Char) (ws : List WrittenWord),
    (∀ c ∈ lead, isSeparator c = true) ∧ (∀ w ∈ ws.dropLast, w.gap ≠ []) ∧
    String.ofList (lead ++ ws.flatMap WrittenWord.text) =
      " 'it'\"'\"'s \\ '\t\r\"\\\"\\\\'\"\n''\n\\a\\ \\\n" ∧
    split " 'it'\"'\"'s \\ '\t\r\"\\\"\\\\'\"\n''\n\\a\\ \\\n" =
      .ok ["it's \\ ", "\"\\'", "", "a \n"] := by
  have hlead : ∀ c ∈ [' '], isSeparator c = true := List.forall_mem_singleton.2 rfl
  let ws : List WrittenWord :=
    [⟨"it's \\ ", .singleQuoted, ['\t', '\r'], by decide,
        List.forall_mem_cons.2 ⟨rfl, List.forall_mem_singleton.2 rfl⟩⟩,
      ⟨"\"\\'", .doubleQuoted, ['\n'], by decide, List.forall_mem_singleton.2 rfl⟩,
      ⟨"", .singleQuoted, ['\n'], by decide, List.forall_mem_singleton.2 rfl⟩,
      ⟨"a \n", .escaped, [], by decide, List.forall_mem_nil _⟩]
  have hgaps : ∀ w ∈ ws.dropLast, w.gap ≠ [] := by decide
  have htext : String.ofList ([' '] ++ ws.flatMap WrittenWord.text) =
      " 'it'\"'\"'s \\ '\t\r\"\\\"\\\\'\"\n''\n\\a\\ \\\n" := by decide
  have hsplit := split_written hlead hgaps
  rw [htext] at hsplit
  exact ⟨[' '], ws, hlead, hgaps, htext, hsplit⟩

end CommandGrammar.Line
