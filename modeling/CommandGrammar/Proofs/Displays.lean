import CommandGrammar.Fault.Cause
import CommandGrammar.Fault.Display
import CommandGrammar.Proofs.Names
import Mathlib.Data.List.Basic

/-!
What the displays of faults hold. All their styles are those of elements, which the host may change,
and the cells of their tables are names and helps of nodes. So a console that knows these styles and
takes cells without brackets lays them out; nothing else is relied on of a console.
-/

namespace CommandGrammar

/-! ### Plain displays -/

namespace Styled

/-- All styles in which the text is shown have the property. -/
structure ShownIn (P : String → Prop) (text : Styled) : Prop where
  style : P text.style
  spans : ∀ span ∈ text.spans, P span.style

namespace ShownIn

variable {P : String → Prop} {text : Styled}

lemma of_pieces {pieces : List Piece} (hnone : P "")
    (h : ∀ piece ∈ pieces, P piece.style) :
    (ofPieces pieces).ShownIn P := by
  refine ⟨hnone, ?_⟩
  have key : ∀ offset, ∀ span ∈ Piece.spans offset pieces, P span.style := by
    induction pieces with
    | nil => simp [Piece.spans]
    | cons piece rest ih =>
      obtain ⟨hpiece, hrest⟩ := List.forall_mem_cons.1 h
      intro offset
      unfold Piece.spans
      dsimp only
      split
      · exact List.forall_mem_cons.2 ⟨hpiece, ih hrest _⟩
      · exact ih hrest _
  exact key 0

end ShownIn

end Styled

section Plain

variable (known : String → Prop)

/-- The styles of the table are known, and its cells hold no opening bracket. -/
structure Table.IsPlain (table : Table) : Prop where
  firstStyle : known table.firstStyle
  secondStyle : known table.secondStyle
  first : ∀ row ∈ table.rows, '[' ∉ row.1.toList
  second : ∀ row ∈ table.rows, '[' ∉ row.2.toList

/-- The part is a text in known styles, or a plain table. -/
def Part.IsPlain : Part → Prop
  | text t => t.ShownIn known
  | table t => t.IsPlain known

/-- All of the display is in known styles, and its tables are plain. -/
structure Display.IsPlain (display : Display) : Prop where
  header : display.header.ShownIn known
  parts : ∀ part ∈ display.parts, part.IsPlain known

/-- **What is relied on of a console:** it knows the empty style and those that elements have by
default, and lays out what is plain in the styles that it knows. -/
structure Console.LaysOut (console : Console) : Prop where
  empty : known ""
  errorStyle : ∀ element : Element, known element.errorStyle
  warningStyle : ∀ element : Element, known element.warningStyle
  plain : ∀ display : Display, display.IsPlain known → console.check display = .ok ()

/-- The styles that the host gives are known. -/
def Hooks.StyledIn (hooks : Hooks) : Prop := ∀ entry ∈ hooks.styles, known entry.2

lemma Hooks.styledIn_default : Hooks.default.StyledIn known := by
  intro entry hentry
  cases hentry

end Plain

/-- Neither the name nor the help of the node has a bracket that could open a tag. -/
def Node.IsPlain (n : Node) : Prop := '[' ∉ n.name.toList ∧ '[' ∉ n.helpText.toList

instance : DecidablePred Node.IsPlain := fun _ => inferInstanceAs (Decidable (_ ∧ _))

lemma Node.IsPlain.helpSymbol {n : Node} (h : n.IsPlain) : '[' ∉ n.helpSymbol.toList := by
  unfold Node.helpSymbol
  split
  · simp [h.1]
  · simp [h.1]
  · exact h.1
  · exact h.1

lemma Entries.getD_of_forall {α : Type} {P : α → Prop} {entries : Entries α} {default : α}
    (hd : P default) (h : ∀ entry ∈ entries, P entry.2) (name : String) :
    P (entries.getD name default) := by
  induction entries with
  | nil => exact hd
  | cons entry rest ih =>
    obtain ⟨hentry, hrest⟩ := List.forall_mem_cons.1 h
    rw [Entries.getD, get?_cons]
    split
    · exact hentry
    · exact ih hrest

/-! ### Faults -/

namespace Fault

variable {fault : Fault} {hooks : Hooks} {nodes : List Node}

section Known

variable {console : Console} {known : String → Prop} (h : console.LaysOut known)
  (hh : hooks.StyledIn known)

include h hh

/-- The default styles are known, and those of the host go over them. -/
lemma known_style (element : Element) : known (fault.style hooks element) := by
  unfold style Element.style
  split
  · split
    · exact Entries.getD_of_forall (h.warningStyle element) hh _
    · exact Entries.getD_of_forall (h.errorStyle element) hh _
  · exact h.empty

lemma known_piece (element : Element) (value : Value) :
    known (fault.piece hooks element value).style := by
  unfold piece
  split
  · exact known_style h hh element
  · exact h.empty

lemma shownIn_header (label : String) : (fault.header hooks label).ShownIn known := by
  refine .of_pieces h.empty ?_
  simp only [List.forall_mem_cons, known_piece h hh, h.empty, true_and]
  simp

lemma shownIn_alone (element : Element) (value : Value) :
    (fault.piece hooks element value).alone.ShownIn known :=
  ⟨known_piece h hh element value, by simp [Piece.alone]⟩

lemma isPlain_listing (hn : ∀ n ∈ nodes, n.IsPlain) :
    ∀ part ∈ fault.listing hooks nodes, part.IsPlain known := by
  unfold listing
  split
  · next label n rest _ =>
    rw [List.forall_mem_cons, List.forall_mem_singleton]
    refine ⟨shownIn_alone h hh _ _, known_style h hh _, known_style h hh _, ?_, ?_⟩
    · rw [List.forall_mem_map]
      intro n hmem
      simp [(hn n hmem).helpSymbol]
    · rw [List.forall_mem_map]
      intro n hmem
      exact (hn n hmem).2
  · simp

lemma isPlain_hintLine : ∀ part ∈ fault.hintLine hooks, part.IsPlain known := by
  unfold hintLine
  dsimp only
  split
  · refine List.forall_mem_singleton.2 (Styled.ShownIn.of_pieces h.empty ?_)
    simp [known_piece h hh]
  · simp

end Known

/-- The fault can be displayed: it has a code, what it lists is these nodes, and it asks for no
width. -/
structure IsDisplayable (fault : Fault) (nodes : List Node) : Prop where
  code : ∃ code, fault.options.get? "code" = some (.code code)
  candidates : fault.options.get? "candidates" = some (Fault.nodes nodes) ∨
    fault.options.get? "candidates" = none ∧ nodes = []
  ratio : fault.options.get? "ratio" = none

lemma nodesAmong_map (nodes : List Node) : nodesAmong (nodes.map Value.node) = .ok nodes := by
  induction nodes with
  | nil => rfl
  | cons n ns ih =>
    rw [List.map_cons, nodesAmong, ih]
    rfl

namespace IsDisplayable

variable (h : fault.IsDisplayable nodes)

include h

lemma exists_codeLabel (hooks : Hooks) : ∃ label, fault.codeLabel hooks = .ok label := by
  obtain ⟨code, hcode⟩ := h.code
  refine ⟨hooks.label code, ?_⟩
  rw [codeLabel, option, Entries.getD, hcode]
  rfl

lemma visibleCandidates_eq : fault.visibleCandidates = .ok (nodes.filter fun n => !n.isHidden) := by
  unfold visibleCandidates Entries.getD
  rcases h.candidates with hc | ⟨hc, rfl⟩
  · rw [hc]
    simp [Fault.nodes, Value.elements?, nodesAmong_map, Except.map]
  · rw [hc]
    rfl

lemma exists_frame (console : Console) : ∃ frame, fault.frame console = .ok frame := by
  unfold frame
  split
  · rw [h.ratio]
    exact ⟨_, rfl⟩
  · exact ⟨_, rfl⟩

/-- A fault that can be displayed has a display; a console lays it out that knows the styles of the
host, if nothing that the fault lists reads as markup. -/
theorem exists_display (hooks : Hooks) (console : Console) :
    ∃ d, fault.display hooks console = .ok d ∧ ∀ known, console.LaysOut known →
      hooks.StyledIn known → (∀ n ∈ nodes, n.IsPlain) → console.check d = .ok () := by
  obtain ⟨label, hlabel⟩ := h.exists_codeLabel hooks
  obtain ⟨frame, hframe⟩ := h.exists_frame console
  refine ⟨{
    header := fault.header hooks label
    parts := .text (fault.piece hooks .message fault.messageValue).alone ::
      (fault.listing hooks (nodes.filter fun n => !n.isHidden) ++ fault.hintLine hooks)
    frame }, ?_, ?_⟩
  · rw [display, hlabel, h.visibleCandidates_eq, hframe]
    rfl
  · intro known hc hh hn
    have hlisted : ∀ n ∈ nodes.filter fun n => !n.isHidden, n.IsPlain := by
      intro n hmem
      exact hn n (List.mem_of_mem_filter hmem)
    apply hc.plain
    refine ⟨shownIn_header hc hh label, ?_⟩
    rw [List.forall_mem_cons, List.forall_mem_append]
    exact ⟨shownIn_alone hc hh _ _, isPlain_listing hc hh hlisted, isPlain_hintLine hc hh⟩

/-- The display of a fault lists the candidates that are not hidden. -/
lemma listing_subset_of_display {d : Display} {console : Console}
    (hd : fault.display hooks console = .ok d) : fault.frame console = .ok d.frame ∧
      fault.listing hooks (nodes.filter fun n => !n.isHidden) ⊆ d.parts := by
  obtain ⟨label, hlabel⟩ := h.exists_codeLabel hooks
  obtain ⟨frame, hframe⟩ := h.exists_frame console
  rw [display, hlabel, h.visibleCandidates_eq, hframe] at hd
  cases hd
  exact ⟨hframe, fun _ hpart => List.mem_cons_of_mem _ (List.mem_append_left _ hpart)⟩

end IsDisplayable

end Fault

end CommandGrammar
