/-!
Styled text: characters with a base style, and spans of them in styles of their own. It is put
together from pieces; each piece in a style becomes a span, so spans never overlap.
-/

namespace CommandGrammar

/-- The characters from `start` up to, but without, `stop`, in a style. -/
structure Span where
  start : Nat
  stop : Nat
  style : String
deriving DecidableEq, Repr

/-- Text with a base style and spans. -/
structure Styled where
  text : String
  style : String
  spans : List Span
deriving DecidableEq, Repr

/-- No text. -/
def Styled.empty : Styled := ⟨"", "", []⟩

/-- Text in one style; the empty style is none. -/
structure Piece where
  text : String
  style : String
deriving DecidableEq, Repr

/-! ### Control characters -/

/-- The character moves the cursor or rings the bell, and is never shown. -/
def isControl (c : Char) : Bool := [0x07, 0x08, 0x0b, 0x0c, 0x0d].contains c.toNat

/-- The text without control characters. -/
def withoutControls (s : String) : String :=
  String.ofList (s.toList.filter fun c => !isControl c)

/-! ### Pieces -/

namespace Piece

/-- A piece of text without its control characters. -/
def of (s style : String) : Piece := ⟨withoutControls s, style⟩

/-- The piece is a span of its own. -/
def isSpan (piece : Piece) : Bool := !piece.text.isEmpty && !piece.style.isEmpty

/-- The spans of pieces that begin at an offset. -/
def spans (offset : Nat) : List Piece → List Span
  | [] => []
  | piece :: rest =>
    let stop := offset + piece.text.length
    if piece.isSpan then ⟨offset, stop, piece.style⟩ :: spans stop rest else spans stop rest

/-- The piece on its own, its style being the base style. -/
def alone (piece : Piece) : Styled := ⟨piece.text, piece.style, []⟩

end Piece

/-- The text of pieces in a row, without a base style. -/
def Styled.ofPieces (pieces : List Piece) : Styled :=
  ⟨String.join (pieces.map Piece.text), "", Piece.spans 0 pieces⟩

end CommandGrammar
