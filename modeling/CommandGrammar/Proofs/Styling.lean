import CommandGrammar.Demo
import CommandGrammar.Proofs.Descriptions
import CommandGrammar.Proofs.Displays
import CommandGrammar.Proofs.Listing
import CommandGrammar.Terminal

/-!
What styles change about a display. The options for colors and for the frame, and the styles of the
host, change no text: a display without its styles depends on the other options alone, and on the
candidates that are not hidden. The spans of a text mark those of its pieces that have a style and
are not empty.
-/

namespace CommandGrammar

/-! ### Spans -/

namespace Styled

/-- The characters of the text in the span. -/
def under (text : Styled) (span : Span) : String :=
  String.ofList ((text.text.toList.drop span.start).take (span.stop - span.start))

/-- The spans of the text mark the pieces, one each and in order: each is over the characters of its
piece, in its style, and none goes on where the next one starts. -/
structure Marks (text : Styled) (pieces : List Piece) : Prop where
  covers : List.Forall₂ (fun span piece => text.under span = piece.text ∧ span.style = piece.style)
    text.spans pieces
  inside : ∀ span ∈ text.spans, span.start < span.stop ∧ span.stop ≤ text.text.length
  ordered : text.spans.Pairwise fun a b => a.stop ≤ b.start

end Styled

namespace Piece

/-- The characters of pieces in a row. -/
def chars (pieces : List Piece) : List Char := pieces.flatMap fun piece => piece.text.toList

lemma chars_cons (piece : Piece) (pieces : List Piece) :
    chars (piece :: pieces) = piece.text.toList ++ chars pieces := rfl

/-- Spans stand within their pieces, after what comes before these. -/
lemma inside_of_mem_spans {pieces : List Piece} {offset : Nat} {span : Span}
    (h : span ∈ spans offset pieces) :
    offset ≤ span.start ∧ span.start < span.stop ∧ span.stop ≤ offset + (chars pieces).length := by
  induction pieces generalizing offset with
  | nil => cases h
  | cons piece rest ih =>
    have hlength : (chars (piece :: rest)).length = piece.text.length + (chars rest).length := by
      rw [chars_cons, List.length_append, String.length_toList]
    have hlater : span ∈ spans (offset + piece.text.length) rest →
        offset ≤ span.start ∧ span.start < span.stop ∧
          span.stop ≤ offset + (chars (piece :: rest)).length := by
      intro hmem
      have hbounds := ih hmem
      omega
    rw [spans] at h
    split at h
    · next hspan =>
      rcases List.mem_cons.1 h with rfl | h
      · -- a piece with a span of its own has a character
        have hne : piece.text.length ≠ 0 := by
          intro hzero
          have hempty : piece.text = "" := String.length_eq_zero_iff.1 hzero
          simp [isSpan, hempty] at hspan
        dsimp only
        omega
      · exact hlater h
    · exact hlater h

lemma pairwise_spans (pieces : List Piece) (offset : Nat) :
    (spans offset pieces).Pairwise fun a b => a.stop ≤ b.start := by
  induction pieces generalizing offset with
  | nil => exact .nil
  | cons piece rest ih =>
    rw [spans]
    split
    · exact List.pairwise_cons.2 ⟨fun span hspan => (inside_of_mem_spans hspan).1, ih _⟩
    · exact ih _

/-- Each span is over its piece, whatever characters come before. -/
lemma covers_spans (pieces : List Piece) (before : List Char) :
    List.Forall₂
      (fun (span : Span) (piece : Piece) =>
        ((before ++ chars pieces).drop span.start).take (span.stop - span.start) =
          piece.text.toList ∧ span.style = piece.style)
      (spans before.length pieces) (pieces.filter isSpan) := by
  induction pieces generalizing before with
  | nil => exact .nil
  | cons piece rest ih =>
    have hrest := ih (before ++ piece.text.toList)
    rw [List.append_assoc, ← chars_cons, List.length_append, String.length_toList] at hrest
    rw [spans]
    split
    · next hspan =>
      rw [List.filter_cons_of_pos hspan]
      refine .cons ⟨?_, rfl⟩ hrest
      dsimp only
      rw [Nat.add_sub_cancel_left, List.drop_left, chars_cons]
      exact List.take_left' String.length_toList
    · next hspan =>
      rw [List.filter_cons_of_neg hspan]
      exact hrest

end Piece

lemma Styled.toList_ofPieces (pieces : List Piece) :
    (Styled.ofPieces pieces).text.toList = Piece.chars pieces := by
  rw [ofPieces, String.toList_join, List.flatMap_map]
  rfl

/-- **The spans of pieces in a row mark those that have a style and are not empty.** -/
theorem Styled.marks_ofPieces (pieces : List Piece) :
    (Styled.ofPieces pieces).Marks (pieces.filter Piece.isSpan) := by
  have htext := toList_ofPieces pieces
  refine ⟨?_, fun span hspan => ?_, Piece.pairwise_spans pieces 0⟩
  · refine (Piece.covers_spans pieces []).imp fun span piece h => ⟨?_, h.2⟩
    rw [under, htext]
    exact (congrArg String.ofList h.1).trans String.ofList_toList
  · have hbounds := Piece.inside_of_mem_spans hspan
    rw [← htext, String.length_toList, Nat.zero_add] at hbounds
    exact hbounds.2

/-! ### Displays without styles -/

/-- The text without styles. -/
def Styled.plain (text : Styled) : Styled := ⟨text.text, "", []⟩

/-- A text in no style, whose spans mark nothing, has no styles. -/
lemma Styled.plain_of_marks {text : Styled} (hstyle : text.style = "") (hmarks : text.Marks []) :
    text.plain = text := by
  have hspans : text.spans = [] := List.forall₂_nil_right_iff.1 hmarks.covers
  rw [plain, ← hstyle, ← hspans]

/-- The table without styles. -/
def Table.plain (table : Table) : Table := { table with firstStyle := "", secondStyle := "" }

/-- The part without styles. -/
def Part.plain : Part → Part
  | text t => .text t.plain
  | table t => .table t.plain

/-- The display without styles, and without a frame. -/
def Display.plain (display : Display) : Display where
  header := display.header.plain
  parts := display.parts.map Part.plain
  frame := .none

/-- What is shown of a value: no control characters, and nothing of a value that counts as false. -/
def Value.shown (value : Value) : String :=
  if value.isTruthy then withoutControls value.display else ""

namespace Fault

/-! ### Parts of a display -/

section

variable (fault : Fault) (hooks : Hooks)

/-- The elements of the header, each with what is shown as it. -/
def headerElements (label : String) : List (Element × Value) :=
  [(.programName, fault.options.getD "prog" hooks.program), (.code, .text label),
    (.title, .text fault.titleText)]

/-- The elements of the hint, each with what is shown as it. -/
def hintElements : List (Element × Value) :=
  [(.hintArrow, .text " → "), (.hint, fault.option "hint")]

/-- What is shown as the elements, each in its style, but for what is empty or has no style. -/
def marked (elements : List (Element × Value)) : List Piece :=
  (elements.map fun (element, value) => ⟨value.shown, fault.style hooks element⟩).filter
    Piece.isSpan

/-- The parts list the nodes: with a row for each, in order, in a table under a label. There are
none where the kind of fault lists nothing, or there is no node. -/
inductive IsListing (nodes : List Node) : List Part → Prop
  | none : fault.kind.listing? = none ∨ nodes = [] → IsListing nodes []
  | some {label : String} {heading : Styled} {table : Table} : fault.kind.listing? = some label →
    nodes ≠ [] → heading.text = label ++ ":" → heading.spans = [] →
    table.rows = nodes.map (fun n => ("  " ++ n.helpSymbol, n.helpText)) →
    IsListing nodes [.text heading, .table table]

/-- The parts show the hint after its arrow, or there is neither. -/
inductive IsHintLine : List Part → Prop
  | none : (fault.option "hint").isTruthy = false → IsHintLine []
  | some {text : Styled} : (fault.option "hint").isTruthy = true →
    text.text = " → " ++ (fault.option "hint").shown →
    text.Marks (fault.marked hooks fault.hintElements) → IsHintLine [.text text]

/-- The display shows the fault, with the label for its code, and lists the nodes. -/
structure IsShownBy (label : String) (nodes : List Node) (display : Display) : Prop where
  header_text : display.header.text =
    "[ " ++ (fault.options.getD "prog" hooks.program).shown ++ " — " ++
      (Value.text label).shown ++ " | " ++ (Value.text fault.titleText).shown ++ " ]"
  header_marks : display.header.Marks (fault.marked hooks (fault.headerElements hooks label))
  parts : ∃ message listing hint, display.parts = .text message :: (listing ++ hint) ∧
    message.text = fault.messageValue.shown ∧ message.spans = [] ∧
    fault.IsListing nodes listing ∧ fault.IsHintLine hooks hint

end

variable {fault other : Fault} {hooks hooks' : Hooks} {label : String} {nodes : List Node}

lemma text_piece (element : Element) (value : Value) :
    (fault.piece hooks element value).text = value.shown := by
  unfold piece Value.shown
  split
  · rfl
  · rfl

/-- What shows nothing has no span, with its style or without. -/
lemma filter_piece (element : Element) (value : Value) :
    [fault.piece hooks element value].filter Piece.isSpan =
      [⟨value.shown, fault.style hooks element⟩].filter Piece.isSpan := by
  unfold piece Value.shown
  split
  · rfl
  · rfl

lemma filter_pieces (elements : List (Element × Value)) :
    (elements.map fun (element, value) => fault.piece hooks element value).filter Piece.isSpan =
      fault.marked hooks elements := by
  have hcons (piece : Piece) (pieces : List Piece) : (piece :: pieces).filter Piece.isSpan =
      [piece].filter Piece.isSpan ++ pieces.filter Piece.isSpan :=
    List.filter_append [piece] pieces
  unfold marked
  induction elements with
  | nil => rfl
  | cons shown rest ih =>
    obtain ⟨element, value⟩ := shown
    rw [List.map_cons, List.map_cons, hcons (fault.piece hooks element value),
      hcons ⟨value.shown, fault.style hooks element⟩, ih, filter_piece]

/-- The texts between the elements have no style, so the spans of the header mark elements. -/
lemma marks_header : (fault.header hooks label).Marks
    (fault.marked hooks (fault.headerElements hooks label)) := by
  have hfixed (s : String) : Piece.isSpan ⟨s, ""⟩ = false := by simp [Piece.isSpan]
  have hmarks : (fault.header hooks label).Marks _ := Styled.marks_ofPieces _
  rw [← filter_pieces]
  simpa only [headerElements, List.map_cons, List.map_nil, List.filter_cons, hfixed,
    Bool.false_eq_true, if_false] using hmarks

lemma marks_hint : (Styled.ofPieces
      [fault.piece hooks .hintArrow (.text " → "), fault.piece hooks .hint (fault.option "hint")]).Marks
    (fault.marked hooks fault.hintElements) := by
  rw [← filter_pieces]
  exact Styled.marks_ofPieces _

lemma text_header : (fault.header hooks label).text =
    "[ " ++ (fault.options.getD "prog" hooks.program).shown ++ " — " ++
      (Value.text label).shown ++ " | " ++ (Value.text fault.titleText).shown ++ " ]" := by
  simp [header, Styled.ofPieces, text_piece, String.join_cons, String.append_assoc]

lemma isListing_listing : fault.IsListing nodes (fault.listing hooks nodes) := by
  unfold listing
  cases hlabel : fault.kind.listing? with
  | none => exact .none (.inl hlabel)
  | some label =>
    cases nodes with
    | nil => exact .none (.inr rfl)
    | cons n rest =>
      have hshown : (Value.text (label ++ ":")).shown = label ++ ":" := by
        -- the labels have no control characters
        revert hlabel
        cases fault.kind <;> rintro ⟨⟩ <;> decide
      exact .some hlabel (List.cons_ne_nil n rest) ((text_piece _ _).trans hshown) rfl rfl

lemma isHintLine_hintLine : fault.IsHintLine hooks (fault.hintLine hooks) := by
  unfold hintLine
  dsimp only
  split
  · next htruthy =>
    have harrow : (Value.text " → ").shown = " → " := by decide
    refine .some htruthy ?_ marks_hint
    simp [Styled.ofPieces, text_piece, harrow, String.join_cons]
  · next hfalsy => exact .none ((Bool.not_eq_true _).mp hfalsy)

/-- What display comes to: a code with a label, candidates that are nodes, and a frame. -/
lemma exists_of_display {d : Display} {console : Console}
    (h : fault.display hooks console = .ok d) : ∃ label nodes, fault.codeLabel hooks = .ok label ∧
      fault.visibleCandidates = .ok nodes ∧ fault.frame console = .ok d.frame ∧
      d.header = fault.header hooks label ∧
      d.parts = .text (fault.piece hooks .message fault.messageValue).alone ::
        (fault.listing hooks nodes ++ fault.hintLine hooks) := by
  obtain ⟨label, hlabel, h⟩ := bind_eq_ok_iff.1 h
  obtain ⟨nodes, hnodes, h⟩ := bind_eq_ok_iff.1 h
  obtain ⟨frame, hframe, h⟩ := bind_eq_ok_iff.1 h
  cases h
  exact ⟨label, nodes, hlabel, hnodes, hframe, rfl, rfl⟩

/-- **A display shows its fault:** its texts are those of the options, and its spans mark
elements. -/
theorem exists_isShownBy {d : Display} {console : Console}
    (h : fault.display hooks console = .ok d) : ∃ label nodes, fault.codeLabel hooks = .ok label ∧
      fault.visibleCandidates = .ok nodes ∧ fault.IsShownBy hooks label nodes d := by
  obtain ⟨label, nodes, hlabel, hnodes, -, hheader, hparts⟩ := exists_of_display h
  refine ⟨label, nodes, hlabel, hnodes, hheader ▸ text_header, hheader ▸ marks_header,
    _, _, _, hparts, text_piece _ _, rfl, isListing_listing, isHintLine_hintLine⟩

/-! ### Without colors -/

section Colorless

variable (h : fault.isColorful = false)

include h

lemma style_of_colorless (element : Element) : fault.style hooks element = "" := by
  rw [style, h, if_neg Bool.false_ne_true]

lemma style_piece_of_colorless (element : Element) (value : Value) :
    (fault.piece hooks element value).style = "" := by
  unfold piece
  split
  · exact style_of_colorless h element
  · rfl

lemma marked_of_colorless (elements : List (Element × Value)) :
    fault.marked hooks elements = [] := by
  refine List.filter_eq_nil_iff.2 (List.forall_mem_map.2 fun shown _ => ?_)
  simp [Piece.isSpan, style_of_colorless h]

lemma plain_header_of_colorless : (fault.header hooks label).plain = fault.header hooks label := by
  have hmarks : (fault.header hooks label).Marks _ := marks_header
  rw [marked_of_colorless h] at hmarks
  exact Styled.plain_of_marks rfl hmarks

lemma plain_alone_of_colorless (element : Element) (value : Value) :
    (fault.piece hooks element value).alone.plain = (fault.piece hooks element value).alone := by
  rw [Piece.alone, style_piece_of_colorless h, Styled.plain]

lemma plain_listing_of_colorless :
    ∀ part ∈ fault.listing hooks nodes, part.plain = part := by
  unfold listing
  split
  · refine List.forall_mem_cons.2 ⟨?_, List.forall_mem_singleton.2 ?_⟩
    · exact congrArg Part.text (plain_alone_of_colorless h _ _)
    · rw [style_of_colorless h, style_of_colorless h, Part.plain, Table.plain]
  · exact List.forall_mem_nil _

lemma plain_hintLine_of_colorless : ∀ part ∈ fault.hintLine hooks, part.plain = part := by
  unfold hintLine
  dsimp only
  split
  · refine List.forall_mem_singleton.2 (congrArg Part.text (Styled.plain_of_marks rfl ?_))
    have hmarks : (Styled.ofPieces _).Marks (fault.marked hooks fault.hintElements) := marks_hint
    rwa [marked_of_colorless h] at hmarks
  · exact List.forall_mem_nil _

/-- **A display without colors has no styles.** -/
theorem display_of_colorless {d : Display} {console : Console}
    (hd : fault.display hooks console = .ok d) : d = { d.plain with frame := d.frame } := by
  obtain ⟨label, nodes, -, -, -, hheader, hparts⟩ := exists_of_display hd
  have hall : ∀ part ∈ d.parts, part.plain = part := by
    rw [hparts]
    refine List.forall_mem_cons.2 ⟨congrArg Part.text (plain_alone_of_colorless h _ _), ?_⟩
    exact List.forall_mem_append.2 ⟨plain_listing_of_colorless h, plain_hintLine_of_colorless h⟩
  have hheader' : d.header.plain = d.header := hheader ▸ plain_header_of_colorless h
  have hparts' : d.parts.map Part.plain = d.parts :=
    (List.map_congr_left hall).trans (List.map_id' _)
  rw [Display.plain, hheader', hparts']

end Colorless

/-! ### With other styles -/

/-- Two faults with their hosts differ in what is said about styles and the frame, and in hidden
candidates. -/
structure SameButStyles (fault : Fault) (hooks : Hooks) (other : Fault) (hooks' : Hooks) :
    Prop where
  agrees : fault.AgreesBut ["colorful", "fancy", "candidates"] other
  candidates_eq : other.visibleCandidates = fault.visibleCandidates
  labels_eq : hooks'.labels = hooks.labels
  program_eq : hooks'.program = hooks.program

lemma AgreesBut.getD_eq {names : List String} (h : fault.AgreesBut names other) {name : String}
    (hname : name ∉ names) (default : Value) :
    other.options.getD name default = fault.options.getD name default := by
  rw [Entries.getD, h.get?_eq name hname, Entries.getD]

namespace SameButStyles

variable (h : fault.SameButStyles hooks other hooks')

include h

lemma codeLabel_eq : other.codeLabel hooks' = fault.codeLabel hooks := by
  have hlabel : hooks'.label = hooks.label := by
    funext code
    rw [Hooks.label, h.labels_eq, Hooks.label]
  rw [codeLabel, option, h.agrees.getD_eq (by decide), hlabel, codeLabel, option]

lemma plain_header_eq : (other.header hooks' label).plain = (fault.header hooks label).plain := by
  have htitle : other.titleText = fault.titleText := by
    rw [titleText, h.agrees.getD_eq (by decide), h.agrees.kind_eq, titleText]
  rw [Styled.plain, text_header, h.agrees.getD_eq (by decide), h.program_eq, htitle, Styled.plain,
    text_header]

lemma plain_listing_eq : (other.listing hooks' nodes).map Part.plain =
    (fault.listing hooks nodes).map Part.plain := by
  unfold listing
  rw [h.agrees.kind_eq]
  cases fault.kind.listing? with
  | none => rfl
  | some label =>
    cases nodes with
    | nil => rfl
    | cons n rest => simp [Part.plain, Styled.plain, Table.plain, Piece.alone, text_piece]

lemma plain_hintLine_eq : (other.hintLine hooks').map Part.plain =
    (fault.hintLine hooks).map Part.plain := by
  have hhint : other.option "hint" = fault.option "hint" := h.agrees.getD_eq (by decide) _
  unfold hintLine
  rw [hhint]
  dsimp only
  split
  · simp [Part.plain, Styled.plain, Styled.ofPieces, text_piece]
  · rfl

lemma plain_message_eq : Part.plain (.text (other.piece hooks' .message other.messageValue).alone) =
    Part.plain (.text (fault.piece hooks .message fault.messageValue).alone) := by
  have hmessage : other.messageValue = fault.messageValue := by
    rw [messageValue, h.agrees.message_eq, messageValue]
  simp only [Part.plain, Styled.plain, Piece.alone, text_piece, hmessage]

/-- **Styles change no text:** where both have a frame, the displays are the same without styles, or
fail alike. -/
theorem map_plain_display_eq {console console' : Console} {frame frame' : Frame}
    (hframe : fault.frame console = .ok frame) (hframe' : other.frame console' = .ok frame') :
    (other.display hooks' console').map Display.plain =
      (fault.display hooks console).map Display.plain := by
  rw [display, display, hframe, hframe', h.codeLabel_eq, h.candidates_eq]
  cases fault.codeLabel hooks with
  | error e => rfl
  | ok label =>
    cases fault.visibleCandidates with
    | error e => rfl
    | ok nodes =>
      refine congrArg Except.ok ?_
      simp only [Display.plain, List.map_cons, List.map_append, h.plain_header_eq,
        h.plain_message_eq, h.plain_listing_eq, h.plain_hintLine_eq]

end SameButStyles

/-! ### Frames -/

/-- Without a frame wanted there is none, and what is wanted is a panel. -/
lemma frame_cases (fault : Fault) (console : Console) :
    ((fault.option "fancy").isTruthy = false ∧ fault.frame console = .ok .none) ∨
    ((fault.option "fancy").isTruthy = true ∧
      ((∃ width, fault.frame console = .ok (.panel width)) ∨
        ∃ ratio e, fault.options.get? "ratio" = some ratio ∧
          scaled (console.width - 4) ratio = .error e ∧ fault.frame console = .error e)) := by
  unfold frame
  split
  · next hfancy =>
    refine .inr ⟨hfancy, ?_⟩
    split
    · next hratio => exact .inl ⟨none, rfl⟩
    · next ratio hratio =>
      cases hscaled : scaled (console.width - 4) ratio with
      | ok width => exact .inl ⟨some width, rfl⟩
      | error e => exact .inr ⟨ratio, e, hratio, hscaled, rfl⟩
  · next hfancy => exact .inl ⟨(Bool.not_eq_true _).mp hfancy, rfl⟩

/-! ### Candidates -/

lemma visibleCandidates_of_none (h : fault.options.get? "candidates" = none) :
    fault.visibleCandidates = .ok [] := by
  rw [visibleCandidates, Entries.getD, h]
  rfl

/-- Only the candidates that are not hidden count. -/
lemma visibleCandidates_of_nodes {value : Value} {nodes : List Node}
    (hvalue : fault.options.get? "candidates" = some value)
    (hnodes : value.elements? = some (nodes.map Value.node)) :
    fault.visibleCandidates = .ok (nodes.filter fun n => !n.isHidden) := by
  unfold visibleCandidates
  rw [Entries.getD, hvalue]
  dsimp only [Option.getD_some]
  rw [hnodes]
  dsimp only
  rw [nodesAmong_map]
  rfl

/-! ### The display -/

/-- How the fault is displayed on the console. The frame is a panel exactly when one is wanted, and
fails only for the ratio of its width. Of candidates the ones that are not hidden are listed. A
display shows the fault, and without colors it has no styles. -/
structure DisplaysOn (fault : Fault) (hooks : Hooks) (console : Console) : Prop where
  of_frame_eq_error : ∀ e, fault.frame console = .error e →
    (fault.option "fancy").isTruthy = true ∧ ∃ ratio,
      fault.options.get? "ratio" = some ratio ∧ scaled (console.width - 4) ratio = .error e
  candidates_of_none : fault.options.get? "candidates" = none → fault.visibleCandidates = .ok []
  candidates_of_nodes : ∀ (value : Value) (nodes : List Node),
    fault.options.get? "candidates" = some value → value.elements? = some (nodes.map Value.node) →
      fault.visibleCandidates = .ok (nodes.filter fun n => !n.isHidden)
  frame_eq_none_iff : ∀ d, fault.display hooks console = .ok d →
    (d.frame = .none ↔ (fault.option "fancy").isTruthy = false)
  shown : ∀ d, fault.display hooks console = .ok d → ∃ label nodes,
    fault.codeLabel hooks = .ok label ∧ fault.visibleCandidates = .ok nodes ∧
      fault.IsShownBy hooks label nodes d
  colorless : ∀ d, fault.display hooks console = .ok d → fault.isColorful = false →
    d = { d.plain with frame := d.frame }

lemma frame_eq_none_iff {d : Display} {console : Console}
    (h : fault.display hooks console = .ok d) :
    d.frame = .none ↔ (fault.option "fancy").isTruthy = false := by
  obtain ⟨-, -, -, -, hd, -, -⟩ := exists_of_display h
  rcases fault.frame_cases console with
    ⟨hfancy, hframe⟩ | ⟨hfancy, ⟨width, hframe⟩ | ⟨ratio, e, -, -, hframe⟩⟩
  · have hnone : d.frame = .none := Except.ok.inj (hd.symm.trans hframe)
    simp [hnone, hfancy]
  · have hpanel : d.frame = .panel width := Except.ok.inj (hd.symm.trans hframe)
    simp [hpanel, hfancy]
  · cases hd.symm.trans hframe

lemma displaysOn (fault : Fault) (hooks : Hooks) (console : Console) :
    fault.DisplaysOn hooks console where
  of_frame_eq_error e he := by
    rcases fault.frame_cases console with
      ⟨-, hframe⟩ | ⟨hfancy, ⟨width, hframe⟩ | ⟨ratio, e', hratio, hscaled, hframe⟩⟩
    · cases hframe.symm.trans he
    · cases hframe.symm.trans he
    · cases hframe.symm.trans he
      exact ⟨hfancy, ratio, hratio, hscaled⟩
  candidates_of_none := visibleCandidates_of_none
  candidates_of_nodes _ _ := visibleCandidates_of_nodes
  frame_eq_none_iff _ := frame_eq_none_iff
  shown _ := exists_isShownBy
  colorless _ hd hc := display_of_colorless hc hd

end Fault

/-- **Styles are all that is changed by the options and the styles for a display.** Where two faults
have a frame, and differ in nothing but styles, the frame and hidden candidates, their displays have
the same texts in the same places. Of candidates the ones that are not hidden are listed, one a row
and in order, and without any there is no listing. The frame is a panel exactly when one is wanted,
and fails only for the ratio of its width. A display without colors has no styles; otherwise the
spans of its header and its hint mark the elements that have a style and are not empty. -/
theorem display_styles {fault other : Fault} {hooks hooks' : Hooks}
    (h : fault.SameButStyles hooks other hooks') (console console' : Console) :
    (∀ frame frame', fault.frame console = .ok frame → other.frame console' = .ok frame' →
      (other.display hooks' console').map Display.plain =
        (fault.display hooks console).map Display.plain) ∧
    fault.DisplaysOn hooks console :=
  ⟨fun _ _ hframe hframe' => h.map_plain_display_eq hframe hframe',
    fault.displaysOn hooks console⟩

/-- Further options change the options of their names. -/
lemma Fault.agreesBut_withOptions (fault : Fault) (options : Options) :
    fault.AgreesBut (options.map Prod.fst) (fault.withOptions options) := by
  refine ⟨rfl, rfl, fun name hname => ?_⟩
  have hnone : Entries.get? options.reverse name = none := by
    rw [Entries.get?, List.lookup_eq_none_iff]
    intro entry hentry
    refine bne_iff_ne.2 fun heq => hname ?_
    rw [heq]
    exact List.mem_map_of_mem (List.mem_reverse.1 hentry)
  rw [withOptions, Entries.get?_setAll, hnone, Option.none_or]

/-- A mismatch that lists a positional parameter and a hidden one. -/
def targetMismatch : Fault where
  kind := .noMatches
  message := "no match for 'x' at first position"
  options := [("code", .code .noMatches), ("title", .text "no matches"),
    ("candidates",
      Fault.nodes [Demo.target.build 0, { Demo.target with isHidden := true }.build 1]),
    ("hint", .text "pick one of the possible options")]

/-- The same, without colors, in a panel and without the hidden parameter. -/
def plainMismatch : Fault := targetMismatch.withOptions
  [("colorful", .truth false), ("fancy", .truth true),
    ("candidates", Fault.nodes [Demo.target.build 0])]

/-- A host that changes the style of codes. -/
def redHooks : Hooks := ⟨[("code", "red")], [], .text "arbor"⟩

/-- The display in a panel has the texts of the one in colors, whose spans are over the program's
name, the code and the title. -/
theorem display_styles_target : ∃ d d',
    targetMismatch.display .default (.terminal 80) = .ok d ∧
    plainMismatch.display redHooks (.terminal 40) = .ok d' ∧
    d'.plain = d.plain ∧ d' = { d'.plain with frame := .panel none } ∧
    d.header.text = "[ arbor — 21101 | No Matches ]" ∧
    d.header.spans.map d.header.under = ["arbor", "21101", "No Matches"] := by
  obtain ⟨d, d', hd, hd', hshown⟩ := exists_ok_of_any_any
    (e := targetMismatch.display .default (.terminal 80))
    (f := fun _ => plainMismatch.display redHooks (.terminal 40))
    (p := fun d d' => decide (d'.frame = .panel none) &&
      decide (d.header.text = "[ arbor — 21101 | No Matches ]") &&
      decide (d.header.spans.map d.header.under = ["arbor", "21101", "No Matches"]))
    (by decide +kernel)
  obtain ⟨hshown, hunder⟩ := Bool.and_eq_true_iff.1 hshown
  obtain ⟨hframe, htext⟩ := Bool.and_eq_true_iff.1 hshown
  have hsame : targetMismatch.SameButStyles .default plainMismatch redHooks :=
    ⟨(targetMismatch.agreesBut_withOptions _).mono (by decide), rfl, rfl, rfl⟩
  have hself : plainMismatch.SameButStyles redHooks plainMismatch redHooks :=
    ⟨⟨rfl, rfl, fun _ _ => rfl⟩, rfl, rfl, rfl⟩
  obtain ⟨hplain, -⟩ := display_styles hsame (.terminal 80) (.terminal 40)
  obtain ⟨-, hself⟩ := display_styles hself (.terminal 40) (.terminal 40)
  have heq := hplain .none (.panel none) rfl rfl
  rw [hd, hd'] at heq
  refine ⟨d, d', hd, hd', Except.ok.inj heq, ?_, of_decide_eq_true htext, of_decide_eq_true hunder⟩
  rw [← of_decide_eq_true hframe]
  exact hself.colorless d' hd' rfl

end CommandGrammar
