import CommandGrammar.Proofs.Descriptions
import CommandGrammar.Proofs.Displays
import CommandGrammar.Terminal
import Mathlib.Data.List.Basic

/-!
What a terminal can lay out. The lines of a text are shown in no other styles than the text itself, so
a text can be laid out in any columns when its styles can be read. A markup without brackets stands
for itself, so the cells of a table are never at fault when they hold none. A fault that lists a
help which is no markup, in turn, has a display that cannot be laid out.
-/

namespace CommandGrammar

/-! ### Checks one after another -/

section Checks

variable {ε α : Type} {xs : List α}

lemma bind_ne_ok {β : Type} {e : Except ε α} {f : α → Except ε β}
    (h : ∀ a b, f a ≠ .ok b) (b : β) : e >>= f ≠ .ok b := by
  cases e with
  | error => exact fun hb => by cases hb
  | ok a => exact h a b

/-- All checks pass exactly when each of them does. -/
lemma forM_eq_ok_iff {f : α → Except ε Unit} : xs.forM f = .ok () ↔ ∀ x ∈ xs, f x = .ok () := by
  induction xs with
  | nil => exact ⟨fun _ => by simp, fun _ => rfl⟩
  | cons x xs ih =>
    have hstep : (x :: xs).forM f = f x >>= fun _ => xs.forM f := rfl
    rw [hstep, List.forall_mem_cons, ← ih]
    cases f x with
    | error e => simp [bind, Except.bind]
    | ok => simp [bind, Except.bind]

lemma forIn_eq_ok {f : α → PUnit → Except ε (ForInStep PUnit)}
    (h : ∀ x ∈ xs, f x ⟨⟩ = .ok (.yield ⟨⟩)) : forIn xs PUnit.unit f = .ok ⟨⟩ := by
  induction xs with
  | nil => rfl
  | cons x xs ih =>
    obtain ⟨hx, hxs⟩ := List.forall_mem_cons.1 h
    rw [List.forIn_cons, hx]
    exact ih hxs

lemma exists_mapM_eq_ok {β : Type} {P : β → Prop} {f : α → Except ε β}
    (h : ∀ x ∈ xs, ∃ y, f x = .ok y ∧ P y) : ∃ ys, xs.mapM f = .ok ys ∧ ∀ y ∈ ys, P y := by
  induction xs with
  | nil => exact ⟨[], rfl, by simp⟩
  | cons x xs ih =>
    obtain ⟨⟨y, hy, hp⟩, hxs⟩ := List.forall_mem_cons.1 h
    obtain ⟨ys, hys, hps⟩ := ih hxs
    refine ⟨y :: ys, ?_, List.forall_mem_cons.2 ⟨hp, hps⟩⟩
    rw [List.mapM_cons, hy, hys]
    rfl

end Checks

/-! ### Styles of lines -/

namespace Style

/-- The text says a style. -/
def IsReadable (name : String) : Prop := ∃ style, parse name = .ok style

/-- The word is that of an attribute, or a color in hexadecimal digits. -/
def isSimpleWord (word : String) : Bool :=
  let word := Text.lower word
  !(["on", "not", "link"].contains word) &&
    ((Attribute.ofWord? word).isSome ||
      ((Color.between? "#" "" (Text.lower word).toList).map Color.isHex).getD false)

lemma exists_color_of_isHex {word : String}
    (h : ((Color.between? "#" "" (Text.lower word).toList).map Color.isHex).getD false = true) :
    ∃ color, Color.parse word = .ok color := by
  unfold Color.parse
  dsimp only
  split
  · exact ⟨_, rfl⟩
  · exact ⟨_, rfl⟩

lemma exists_addWords {words : List String} (h : ∀ word ∈ words, isSimpleWord word = true)
    (style : Style) : ∃ result, style.addWords words = .ok result := by
  induction words generalizing style with
  | nil => exact ⟨style, rfl⟩
  | cons word rest ih =>
    obtain ⟨hword, hrest⟩ := List.forall_mem_cons.1 h
    simp only [isSimpleWord, List.contains_cons, List.contains_nil, Bool.or_false, Bool.not_or,
      Bool.and_eq_true, Bool.not_eq_true', Bool.or_eq_true] at hword
    obtain ⟨⟨hon, hnot, hlink⟩, hsimple⟩ := hword
    unfold addWords
    simp only [hon, hnot, hlink, Bool.false_eq_true, if_false]
    cases ha : Attribute.ofWord? (Text.lower word) with
    | some a => exact ih hrest _
    | none =>
      rw [ha] at hsimple
      obtain ⟨color, hcolor⟩ := exists_color_of_isHex (hsimple.resolve_left Bool.false_ne_true)
      simp only [hcolor]
      exact ih hrest _

/-- Simple words say a style. -/
lemma isReadable_of_words {name : String}
    (h : ∀ word ∈ Text.blankSeparated name, isSimpleWord word = true) : IsReadable name := by
  unfold IsReadable parse
  split
  · exact ⟨_, rfl⟩
  · exact exists_addWords h {}

/-- The empty text says the style that changes nothing. -/
lemma isReadable_empty : IsReadable "" := isReadable_of_words (by decide +kernel)

end Style

namespace Styled

namespace ShownIn

variable {P : String → Prop} {text : Styled}

lemma joined {style : String} {texts : List Styled} (hs : P style)
    (h : ∀ text ∈ texts, text.ShownIn P) : (joined style texts).ShownIn P := by
  induction texts with
  | nil => exact ⟨hs, by simp [Styled.joined]⟩
  | cons text rest ih =>
    obtain ⟨htext, hrest⟩ := List.forall_mem_cons.1 h
    refine ⟨hs, fun span hspan => ?_⟩
    rcases List.mem_append.1 hspan with hspan | hspan
    · exact htext.spans span hspan
    · obtain ⟨later, hlater, rfl⟩ := List.mem_map.1 hspan
      exact (ih hrest).spans later hlater

variable (h : text.ShownIn P)

include h

lemma between (start stop : Nat) : (text.between start stop).ShownIn P := by
  refine ⟨h.style, fun span hspan => ?_⟩
  obtain ⟨whole, hwhole, hpart⟩ := List.mem_filterMap.1 hspan
  unfold Span.between? at hpart
  dsimp only at hpart
  split at hpart
  · cases hpart
    exact h.spans whole hwhole
  · cases hpart

lemma upTo (position : Nat) : (text.upTo position).ShownIn P := by
  refine ⟨h.style, fun span hspan => ?_⟩
  obtain ⟨whole, hwhole, hpart⟩ := List.mem_filterMap.1 hspan
  unfold Span.before? at hpart
  split at hpart
  · cases hpart
    exact h.spans whole hwhole
  · cases hpart

lemma refill (filled : String) : (text.refill filled).ShownIn P := by
  refine ⟨h.style, fun span hspan => ?_⟩
  obtain ⟨whole, hwhole, rfl⟩ := List.mem_map.1 hspan
  split
  · exact h.spans whole hwhole
  · exact h.spans whole hwhole

lemma cut (positions : List Nat) : ∀ part ∈ text.cut positions, part.ShownIn P := by
  have key : ∀ start, ∀ part ∈ text.partsFrom start positions, part.ShownIn P := by
    induction positions with
    | nil =>
      intro start part hpart
      rw [List.mem_singleton.1 hpart]
      exact h.between start _
    | cons stop stops ih =>
      intro start
      exact List.forall_mem_cons.2 ⟨h.between start stop, ih stop⟩
  unfold Styled.cut
  split
  · exact List.forall_mem_singleton.2 h
  · exact key 0

lemma splitLines : ∀ line ∈ text.splitLines, line.ShownIn P := by
  unfold Styled.splitLines
  split
  · exact List.forall_mem_singleton.2 h
  · intro line hline
    obtain ⟨⟨start, stop⟩, -, rfl⟩ := List.mem_map.1 hline
    exact h.between start stop

lemma expandTabs : text.expandTabs.ShownIn P := by
  unfold Styled.expandTabs
  split
  · exact h
  · refine joined h.style fun line hline => ?_
    obtain ⟨⟨part, filled⟩, hpart, rfl⟩ := List.mem_map.1 hline
    exact (h.cut _ part (List.of_mem_zip hpart).1).refill filled

lemma trimBeyond (columns : Nat) : (text.trimBeyond columns).ShownIn P := by
  unfold Styled.trimBeyond
  dsimp only
  split
  · exact h
  · exact h.upTo _

lemma fitTo (columns : Nat) (overflow : Overflow) : (text.fitTo columns overflow).ShownIn P := by
  have hkept : ∀ shown : String,
      (if shown.length < text.text.length then text.upTo shown.length else text).ShownIn P := by
    intro shown
    split
    · exact h.upTo _
    · exact h
  unfold Styled.fitTo
  dsimp only
  split
  · exact h
  · split
    · exact ⟨(hkept _).style, (hkept _).spans⟩
    · exact ⟨(hkept _).style, (hkept _).spans⟩

/-- **The lines of a text are shown in the styles of the text.** -/
theorem wrap (columns : Nat) (overflow : Overflow) :
    ∀ line ∈ text.wrap columns overflow, line.ShownIn P := by
  intro shown hshown
  obtain ⟨line, hline, hshown⟩ := List.mem_flatMap.1 hshown
  obtain ⟨part, hpart, rfl⟩ := List.mem_map.1 hshown
  have hexpanded := (h.splitLines line hline).expandTabs
  exact ((hexpanded.cut _ part hpart).trimBeyond columns).fitTo columns overflow

lemma styles (columns : Nat) (overflow : Overflow) :
    ∀ name ∈ text.styles columns overflow, P name := by
  intro name hname
  obtain ⟨line, hline, hname⟩ := List.mem_flatMap.1 hname
  have hshown := h.wrap columns overflow line hline
  rcases List.mem_cons.1 hname with rfl | hname
  · exact hshown.style
  · obtain ⟨span, hspan, rfl⟩ := List.mem_map.1 hname
    exact hshown.spans span hspan

end ShownIn

lemma checkStyle_eq_ok {name : String} (h : Style.IsReadable name) : checkStyle name = .ok () := by
  obtain ⟨style, hstyle⟩ := h
  rw [checkStyle, hstyle]

/-- A text in styles that can be read can be laid out in any columns. -/
lemma check_eq_ok {text : Styled} (h : text.ShownIn Style.IsReadable) (columns : Nat)
    (overflow : Overflow) : text.check columns overflow = .ok () :=
  forM_eq_ok_iff.2 fun name hname => checkStyle_eq_ok (h.styles columns overflow name hname)

end Styled

/-! ### Markups without brackets -/

namespace Markup

/-- Characters without an opening bracket are shown as they are. -/
lemma tokensAfter_of_notMem {cs : List Char} (h : '[' ∉ cs) (position : Nat)
    (before : List Char) :
    tokensAfter position before none cs = [.plain (before.reverse ++ cs)] := by
  induction cs generalizing position before with
  | nil => simp [tokensAfter]
  | cons c cs ih =>
    rw [List.mem_cons, not_or] at h
    have hc : (c == '[') = false := by simpa using Ne.symm h.1
    rw [tokensAfter, hc, if_neg Bool.false_ne_true, ih h.2]
    simp

lemma exists_render_eq_ok {s : String} (h : '[' ∉ s.toList) :
    ∃ text, render s = .ok ⟨text, "", []⟩ := by
  refine ⟨"" ++ String.ofList (shownChars s.toList), ?_⟩
  rw [render, tokens, tokensAfter_of_notMem h]
  simp [Progress.advance, Progress.finish, pure, Except.pure, Except.map, bind, Except.bind]

end Markup

/-! ### Tables and displays -/

namespace Table

variable {table : Table}

lemma checkStyle_eq_ok {name : String} (h : Style.IsReadable name) : checkStyle name = .ok () := by
  obtain ⟨style, hstyle⟩ := h
  unfold checkStyle
  split
  · rfl
  · rw [hstyle]

lemma exists_renderCells {cells : List String} (h : ∀ cell ∈ cells, '[' ∉ cell.toList) :
    ∃ shown, renderCells cells = .ok shown ∧ ∀ text ∈ shown, text.ShownIn Style.IsReadable := by
  refine exists_mapM_eq_ok fun cell hcell => ?_
  obtain ⟨text, htext⟩ := Markup.exists_render_eq_ok (h cell hcell)
  exact ⟨⟨text, "", []⟩, by rw [htext]; rfl, Style.isReadable_empty, by simp⟩

/-- A plain table can be laid out in any columns. -/
lemma check_eq_ok (h : table.IsPlain Style.IsReadable) (columns : Nat) :
    table.check columns = .ok () := by
  obtain ⟨firsts, hfirsts, hf⟩ := exists_renderCells (List.forall_mem_map.2 h.first)
  obtain ⟨seconds, hseconds, hs⟩ := exists_renderCells (List.forall_mem_map.2 h.second)
  unfold check
  rw [checkStyle_eq_ok h.firstStyle, checkStyle_eq_ok h.secondStyle, hfirsts, hseconds]
  simp -zeta only [bind, Except.bind]
  extract_lets rest
  -- whatever the left column holds, the rows can be laid out
  have hrest : ∀ firsts, (∀ text ∈ firsts, text.ShownIn Style.IsReadable) →
      rest firsts = .ok () := by
    intro firsts hf
    simp only [rest]
    rw [forIn_eq_ok]
    · rfl
    intro row hrow
    obtain ⟨hrow₁, hrow₂⟩ := List.of_mem_zip hrow
    simp only [Styled.check_eq_ok (hf row.1 hrow₁), Styled.check_eq_ok (hs row.2 hrow₂)]
    split
    · split
      · rfl
      · rfl
    · split
      · rfl
      · rfl
  split
  · refine hrest _ (List.forall_mem_map.2 fun _ _ => ?_)
    exact ⟨Style.isReadable_empty, by simp [Styled.empty]⟩
  · exact hrest firsts hf

/-- A table that can be laid out has markups for cells on the right. -/
lemma exists_render_of_check {columns : Nat} (h : table.check columns = .ok ()) :
    ∀ row ∈ table.rows, ∃ text, Markup.render row.2 = .ok text := by
  cases hseconds : renderCells (table.rows.map Prod.snd) with
  | error e =>
    -- the right column is read before any row is shown
    refine absurd h (bind_ne_ok (fun _ b => ?_) ())
    extract_lets rest
    have hrest : ∀ firsts b, rest firsts ≠ .ok b := by
      refine fun firsts => bind_ne_ok fun _ b hb => ?_
      rw [hseconds] at hb
      cases hb
    split
    · exact bind_ne_ok hrest b
    · exact bind_ne_ok hrest b
  | ok seconds =>
    intro row hrow
    obtain ⟨text, htext⟩ := exists_of_mapM_eq_ok hseconds row.2 (List.mem_map_of_mem hrow)
    cases hrender : Markup.render row.2 with
    | error e =>
      rw [hrender] at htext
      cases htext
    | ok shown => exact ⟨shown, rfl⟩

end Table

lemma Part.check_eq_ok {part : Part} (h : part.IsPlain Style.IsReadable) (columns : Nat) :
    part.check columns = .ok () := by
  cases part with
  | text => exact Styled.check_eq_ok h columns .fold
  | table => exact Table.check_eq_ok h columns

namespace Display

variable {display : Display}

lemma checkTitle_eq_ok (h : display.IsPlain Style.IsReadable) (columns : Nat) :
    display.checkTitle columns = .ok () := by
  refine forM_eq_ok_iff.2 (List.forall_mem_cons.2 ⟨Styled.checkStyle_eq_ok h.header.style, ?_⟩)
  refine List.forall_mem_map.2 fun span hspan => Styled.checkStyle_eq_ok ?_
  exact h.header.spans span (List.mem_of_mem_filter hspan)

/-- **A plain display can be laid out** on any terminal. -/
theorem check_eq_ok (h : display.IsPlain Style.IsReadable) (columns : Nat) :
    display.check columns = .ok () := by
  have hparts : ∀ columns, display.parts.forM (Part.check columns) = .ok () :=
    fun columns => forM_eq_ok_iff.2 fun part hpart => Part.check_eq_ok (h.parts part hpart) columns
  unfold check
  split
  · split
    · rfl
    · rw [Styled.check_eq_ok h.header, hparts]
      rfl
  · dsimp only
    split
    · rfl
    · rw [hparts, checkTitle_eq_ok h]
      rfl

/-- A display without a frame that can be laid out has markups for cells on the right. -/
lemma exists_render_of_check {columns : Nat} (h : display.check columns = .ok ())
    (hframe : display.frame = .none) (hcolumns : columns ≠ 0) {table : Table}
    (htable : .table table ∈ display.parts) :
    ∀ row ∈ table.rows, ∃ text, Markup.render row.2 = .ok text := by
  simp only [check, hframe, if_neg hcolumns] at h
  cases hheader : display.header.check columns .fold with
  | error e =>
    rw [hheader] at h
    cases h
  | ok =>
    rw [hheader] at h
    have hparts : display.parts.forM (Part.check columns) = .ok () := h
    have hcheck : (Part.table table).check columns = .ok () := forM_eq_ok_iff.1 hparts _ htable
    exact Table.exists_render_of_check hcheck

end Display

namespace Element

variable (element : Element)

lemma isReadable_errorStyle : Style.IsReadable element.errorStyle :=
  Style.isReadable_of_words (by cases element <;> decide +kernel)

lemma isReadable_warningStyle : Style.IsReadable element.warningStyle :=
  Style.isReadable_of_words (by cases element <;> decide +kernel)

end Element

namespace Console

variable {width : Int} {display : Display}

/-- A terminal lays out what passes its check. -/
lemma check_terminal_eq_ok_iff :
    (terminal width).check display = .ok () ↔ display.check width.toNat = .ok () :=
  mapError_eq_ok_iff

/-- **A terminal can be relied on:** the styles that it knows are those that can be read. -/
theorem laysOut_terminal (width : Int) : (terminal width).LaysOut Style.IsReadable where
  empty := Style.isReadable_empty
  errorStyle := Element.isReadable_errorStyle
  warningStyle := Element.isReadable_warningStyle
  plain _ h := check_terminal_eq_ok_iff.2 (Display.check_eq_ok h _)

end Console

/-- A fault that lists a help which is no markup has a display that a terminal cannot lay out. -/
theorem Fault.IsDisplayable.check_ne_ok {fault : Fault} {hooks : Hooks} {nodes : List Node}
    (h : fault.IsDisplayable nodes) {d : Display} {width : Int} {label : String} {n : Node}
    (hd : fault.display hooks (.terminal width) = .ok d)
    (hkind : fault.kind.listing? = some label)
    (hfancy : (fault.option "fancy").isTruthy = false) (hn : n ∈ nodes)
    (hvisible : n.isHidden = false) (hhelp : (Markup.render n.helpText).toOption = none)
    (hwidth : width.toNat ≠ 0) : (Console.terminal width).check d ≠ .ok () := by
  intro hcheck
  obtain ⟨hframe, hparts⟩ := h.listing_subset_of_display hd
  have hnone : d.frame = .none := by
    rw [frame, hfancy, if_neg Bool.false_ne_true] at hframe
    exact (Except.ok.inj hframe).symm
  have hlisted : n ∈ nodes.filter fun n => !n.isHidden := List.mem_filter.2 ⟨hn, by simp [hvisible]⟩
  obtain ⟨table, htable, hrow⟩ : ∃ table, Part.table table ∈
      fault.listing hooks (nodes.filter fun n => !n.isHidden) ∧
        ("  " ++ n.helpSymbol, n.helpText) ∈ table.rows := by
    unfold listing
    rw [hkind]
    cases hnodes : nodes.filter fun n => !n.isHidden with
    | nil => simp [hnodes] at hlisted
    | cons first rest =>
      refine ⟨_, List.mem_cons_of_mem _ (List.mem_singleton_self _), ?_⟩
      exact List.mem_map.2 ⟨n, hnodes ▸ hlisted, rfl⟩
  obtain ⟨text, htext⟩ := Display.exists_render_of_check (Console.check_terminal_eq_ok_iff.1 hcheck)
    hnone hwidth (hparts htable) _ hrow
  rw [htext] at hhelp
  cases hhelp

end CommandGrammar
