import CommandGrammar.Display.Styled

/-!
Displays: what is shown to a user, before a console lays it out. A display has a header over its
parts, which are texts and tables; a panel draws a frame around the parts, with the header in it. How
a display is laid out is the console's own affair: it takes a display or raises an error.
-/

namespace CommandGrammar

/-- A table of two columns, each in a style. -/
structure Table where
  firstStyle : String
  secondStyle : String
  rows : List (String × String)
deriving DecidableEq, Repr

/-- A part of a display. -/
inductive Part where
  | text (text : Styled)
  | table (table : Table)
deriving DecidableEq, Repr

/-- What stands around the parts: nothing, or a panel, which may have a width of its own. -/
inductive Frame where
  | none
  | panel (width : Option Int)
deriving DecidableEq, Repr

/-- A header over parts. -/
structure Display where
  header : Styled
  parts : List Part
  frame : Frame
deriving DecidableEq, Repr

/-! ### Consoles -/

/-- Why a display cannot be laid out: the error that the console raises, of a kind that the host
knows. -/
structure LayoutError where
  kind : String
  message : String
deriving DecidableEq, Repr

/-- What faults are shown on. -/
structure Console where
  /-- In columns. -/
  width : Int
  /-- Checks that a display can be laid out. -/
  check : Display → Except LayoutError Unit

end CommandGrammar
