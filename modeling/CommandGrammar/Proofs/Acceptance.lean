import CommandGrammar.Proofs.Descriptions
import Mathlib.Data.List.DropRight

/-!
What acceptance says of a description. Names and aliases are words, help is trimmed, and a path has
a step; but no step of a path is checked to be a word.
-/

namespace CommandGrammar

/-! ### Words and help -/

/-- The text is a word: it is not empty and has no blank. -/
def IsWord (s : String) : Prop := s.isEmpty = false ∧ Text.hasBlank s = false

instance : DecidablePred IsWord := fun _ => inferInstanceAs (Decidable (_ ∧ _))

/-- A failure to go through a list is one of its elements. -/
lemma exists_of_mapM_eq_error {ε α β : Type} {f : α → Except ε β} {xs : List α} {e : ε}
    (h : xs.mapM f = .error e) : ∃ x ∈ xs, f x = .error e := by
  induction xs with
  | nil => cases h
  | cons x xs ih =>
    rw [List.mapM_cons] at h
    cases hx : f x with
    | error d =>
      rw [hx] at h
      cases h
      exact ⟨x, List.mem_cons_self, hx⟩
    | ok y =>
      cases hxs : xs.mapM f with
      | error d =>
        rw [hx, hxs] at h
        cases h
        obtain ⟨z, hz, he⟩ := ih hxs
        exact ⟨z, List.mem_cons_of_mem x hz, he⟩
      | ok ys =>
        rw [hx, hxs] at h
        cases h

section Words

variable {field : Field} {s t : String}

lemma checkWord_of_isWord (h : IsWord s) : checkWord field s = .ok s := by
  simp [checkWord, h.1, h.2]

lemma isWord_of_checkWord (h : checkWord field s = .ok t) : t = s ∧ IsWord t := by
  unfold checkWord at h
  split at h
  · cases h
  · next hempty =>
    split at h
    · cases h
    · next hblank =>
      cases h
      exact ⟨rfl, (Bool.not_eq_true _).mp hempty, (Bool.not_eq_true _).mp hblank⟩

/-- What is no word is empty or has a blank. -/
lemma flaw_of_checkWord {flaw : Flaw} (h : checkWord field s = .error flaw) :
    ¬ IsWord s ∧ (flaw = .empty field ∨ flaw = .blank field) := by
  refine ⟨fun hword => ?_, ?_⟩
  · rw [checkWord_of_isWord hword] at h
    cases h
  · unfold checkWord at h
    split at h
    · cases h
      exact .inl rfl
    · split at h
      · cases h
        exact .inr rfl
      · cases h

lemma isWord_of_expectWord {value : Value} (h : expectWord field value = .ok t) :
    value = .text t ∧ IsWord t := by
  obtain ⟨s, hs, hword⟩ := bind_eq_ok_iff.1 h
  obtain ⟨rfl, hw⟩ := isWord_of_checkWord hword
  cases value with
  | text s' =>
    cases hs
    exact ⟨rfl, hw⟩
  | _ => cases hs

/-- Texts are checked as the words that they are. -/
lemma mapM_expectWord (words : List String) :
    (words.map Value.text).mapM (expectWord field) = words.mapM (checkWord field) := by
  rw [List.mapM_map]
  rfl

lemma mapM_checkWord_of_isWord {words : List String} (h : ∀ word ∈ words, IsWord word) :
    words.mapM (checkWord field) = .ok words := by
  induction words with
  | nil => rfl
  | cons word rest ih =>
    obtain ⟨hword, hrest⟩ := List.forall_mem_cons.1 h
    rw [List.mapM_cons, checkWord_of_isWord hword, ih hrest]
    rfl

lemma exists_mapM_checkWord_iff {words : List String} :
    (∃ checked, words.mapM (checkWord field) = .ok checked) ↔ ∀ word ∈ words, IsWord word := by
  constructor
  · rintro ⟨checked, hchecked⟩ word hword
    obtain ⟨word', hword'⟩ := exists_of_mapM_eq_ok hchecked word hword
    obtain ⟨rfl, hw⟩ := isWord_of_checkWord hword'
    exact hw
  · exact fun h => ⟨words, mapM_checkWord_of_isWord h⟩

/-- Words are given back as they are. -/
lemma eq_of_mapM_checkWord {words checked : List String}
    (h : words.mapM (checkWord field) = .ok checked) : checked = words := by
  have hsame := @mapM_checkWord_of_isWord field words (exists_mapM_checkWord_iff.1 ⟨checked, h⟩)
  exact Except.ok.inj (h.symm.trans hsame)

end Words

namespace Text

/-- The text is not empty, and no blank stands at its ends. -/
def IsTrimmed (s : String) : Prop := trim s = s ∧ s.isEmpty = false

/-- What is trimmed is not trimmed further. -/
lemma trim_trim (s : String) : trim (trim s) = trim s := by
  set cs := s.toList.dropWhile isBlank with hcs
  have htrim : trim s = String.ofList (cs.rdropWhile isBlank) := rfl
  -- a character that is left in front stood in front before the end was cut
  have hfront : (cs.rdropWhile isBlank).dropWhile isBlank = cs.rdropWhile isBlank := by
    rw [List.dropWhile_eq_self_iff]
    intro hlength
    have hprefix : cs.rdropWhile isBlank <+: cs := List.rdropWhile_prefix isBlank cs
    have hpos : 0 < cs.length := lt_of_lt_of_le hlength hprefix.length_le
    have hhead : (cs.rdropWhile isBlank)[0] = cs[0] := hprefix.getElem hlength
    rw [hhead]
    have hself : cs.dropWhile isBlank = cs := List.dropWhile_idempotent isBlank _
    exact List.dropWhile_eq_self_iff.1 hself hpos
  have hagain : trim (String.ofList (cs.rdropWhile isBlank)) =
      String.ofList (((cs.rdropWhile isBlank).dropWhile isBlank).rdropWhile isBlank) := by
    unfold trim
    rw [String.toList_ofList]
    rfl
  rw [htrim, hagain, hfront, List.rdropWhile_idempotent]

end Text

/-! ### What acceptance says -/

/-- What holds of an accepted description of a parameter. -/
structure Parameter.IsSound (p : Parameter) : Prop where
  name : IsWord p.name
  help : ∀ s ∈ p.help, Text.IsTrimmed s
  aliases : ∀ word ∈ p.aliases, IsWord word
  nodup : (p.name :: p.aliases).Nodup
  of_simple : p.kind = .simple → p.aliases = []

/-- What holds of an accepted description of a command, but for its parameters and sub-commands. -/
structure Signature.IsSound (signature : Signature) : Prop where
  name : IsWord signature.name
  help : ∀ s ∈ signature.help, Text.IsTrimmed s
  wraps : ∀ path ∈ signature.wraps, path ≠ []

namespace Description

lemma isTrimmed_of_checkHelp {value : Value} {help : Option String}
    (h : checkHelp value = .ok help) : ∀ s ∈ help, Text.IsTrimmed s := by
  unfold checkHelp at h
  split at h
  · cases h
    simp
  · split at h
    · cases h
    · next hempty =>
      cases h
      intro s hs
      cases hs
      exact ⟨Text.trim_trim _, (Bool.not_eq_true _).mp hempty⟩
  · cases h

lemma isSound_of_checkShared {name descr hidden priority : Value} {shared : Shared}
    (h : checkShared name descr hidden priority = .ok shared) :
    IsWord shared.name ∧ ∀ s ∈ shared.help, Text.IsTrimmed s := by
  obtain ⟨name', hname, h⟩ := bind_eq_ok_iff.1 h
  obtain ⟨help, hhelp, h⟩ := bind_eq_ok_iff.1 h
  obtain ⟨isHidden, -, h⟩ := bind_eq_ok_iff.1 h
  obtain ⟨priority', -, h⟩ := bind_eq_ok_iff.1 h
  cases h
  exact ⟨(isWord_of_expectWord hname).2, isTrimmed_of_checkHelp hhelp⟩

lemma isWord_of_checkAliases {seen words : List String} {values : List Value}
    (h : checkAliases seen values = .ok words) : ∀ word ∈ words, IsWord word := by
  fun_induction checkAliases seen values generalizing words with
  | case1 =>
    cases h
    exact List.forall_mem_nil _
  | case2 => cases h
  | case3 => cases h
  | case4 seen word rest hword _ ih =>
    obtain ⟨words, hwords, rfl⟩ := map_eq_ok_iff.1 h
    rw [Bool.or_eq_true, not_or, Bool.not_eq_true, Bool.not_eq_true] at hword
    exact List.forall_mem_cons.2 ⟨hword, ih hwords⟩
  | case5 => cases h

lemma isSound_of_checkParameter {draft : Parameter.Draft} {p : Parameter}
    (h : checkParameter draft = .ok p) : p.IsSound := by
  have hnodup := nodup_of_checkParameter h
  unfold checkParameter at h
  obtain ⟨shared, hshared, h⟩ := bind_eq_ok_iff.1 h
  obtain ⟨kind, -, h⟩ := bind_eq_ok_iff.1 h
  obtain ⟨values, -, h⟩ := bind_eq_ok_iff.1 h
  obtain ⟨aliases, haliases, h⟩ := bind_eq_ok_iff.1 h
  dsimp only at h
  split at h
  · cases h
  · next hsimple =>
    obtain ⟨isRequired, -, h⟩ := bind_eq_ok_iff.1 h
    obtain ⟨isRepeatable, -, h⟩ := bind_eq_ok_iff.1 h
    cases h
    obtain ⟨hname, hhelp⟩ := isSound_of_checkShared hshared
    refine ⟨hname, hhelp, isWord_of_checkAliases haliases, hnodup, fun hkind => ?_⟩
    simpa [show kind = .simple from hkind] using hsimple

lemma ne_nil_of_checkWraps {value : Value} {handler : Option Handler} {commands : List Command}
    {wraps : Option (List String)} (h : checkWraps value handler commands = .ok wraps) :
    ∀ path ∈ wraps, path ≠ [] := by
  unfold checkWraps at h
  split at h
  · cases h
    simp
  · obtain ⟨path, -, h⟩ := bind_eq_ok_iff.1 h
    dsimp only at h
    split at h
    · cases h
    · next hempty =>
      have hne : path ≠ [] := by simpa using hempty
      split at h
      · cases h
      · split at h
        · cases h
        · cases h
          intro path' hpath
          cases hpath
          exact hne

lemma isSound_of_checkCommand {draft : Command.Draft} {c : Command}
    (h : checkCommand draft = .ok c) : c.signature.IsSound := by
  unfold checkCommand at h
  obtain ⟨shared, hshared, h⟩ := bind_eq_ok_iff.1 h
  obtain ⟨parameters, -, h⟩ := bind_eq_ok_iff.1 h
  obtain ⟨values, -, h⟩ := bind_eq_ok_iff.1 h
  obtain ⟨commands, -, h⟩ := bind_eq_ok_iff.1 h
  obtain ⟨handler, -, h⟩ := bind_eq_ok_iff.1 h
  obtain ⟨wraps, hwraps, h⟩ := bind_eq_ok_iff.1 h
  cases h
  obtain ⟨hname, hhelp⟩ := isSound_of_checkShared hshared
  exact ⟨hname, hhelp, ne_nil_of_checkWraps hwraps⟩

end Description

lemma Parameter.IsAccepted.isSound {p : Parameter} (h : p.IsAccepted) : p.IsSound := by
  obtain ⟨draft, hdraft⟩ := h
  exact Description.isSound_of_checkParameter (mapError_eq_ok_iff.1 hdraft)

lemma Command.IsAccepted.isSound {c : Command} (h : c.IsAccepted) : c.signature.IsSound := by
  obtain ⟨draft, hdraft, -, -⟩ := h
  exact Description.isSound_of_checkCommand (mapError_eq_ok_iff.1 hdraft)

end CommandGrammar
