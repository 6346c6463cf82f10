import CommandGrammar.Text.Blank
import CommandGrammar.Text.Quoted

/-!
Integers written with the decimal digits of any script of Unicode 14. Blanks may stand around the
integer and a sign before it; single underscores may stand between its digits.
-/

namespace CommandGrammar.Text

/-- The zeros of the scripts; the other nine digits of a script follow its zero. -/
def zeros : List Nat := [
  0x30, 0x660, 0x6f0, 0x7c0, 0x966, 0x9e6, 0xa66, 0xae6, 0xb66, 0xbe6, 0xc66, 0xce6, 0xd66, 0xde6,
  0xe50, 0xed0, 0xf20, 0x1040, 0x1090, 0x17e0, 0x1810, 0x1946, 0x19d0, 0x1a80, 0x1a90, 0x1b50,
  0x1bb0, 0x1c40, 0x1c50, 0xa620, 0xa8d0, 0xa900, 0xa9d0, 0xa9f0, 0xaa50, 0xabf0, 0xff10, 0x104a0,
  0x10d30, 0x11066, 0x110f0, 0x11136, 0x111d0, 0x112f0, 0x11450, 0x114d0, 0x11650, 0x116c0, 0x11730,
  0x118e0, 0x11950, 0x11c50, 0x11d50, 0x11da0, 0x16a60, 0x16ac0, 0x16b50, 0x1d7ce, 0x1d7d8, 0x1d7e2,
  0x1d7ec, 0x1d7f6, 0x1e140, 0x1e2f0, 0x1e950, 0x1fbf0]

/-- The digit that the character stands for. -/
def digit? (c : Char) : Option Nat :=
  (zeros.find? fun first => first ≤ c.toNat && c.toNat < first + 10).map (c.toNat - ·)

/-- The digits at the start of characters that follow `digits`, the ones before, given backwards, and
what follows the digits; an underscore is passed over between two digits, and is at fault elsewhere. -/
def digitsAfter (digits : List Nat) (afterDigit : Bool) :
    List Char → Option (List Nat × List Char)
  | [] => if afterDigit then some (digits.reverse, []) else none
  | c :: cs =>
    match digit? c with
    | some d => digitsAfter (d :: digits) true cs
    | none =>
      if !afterDigit then none
      else if c == '_' then digitsAfter digits false cs
      else some (digits.reverse, c :: cs)

/-- Why a text is not read as an integer. -/
inductive IntegerError where
  | malformed (text : String)
  /-- There are more digits than are read. -/
  | tooLong (digits : Nat)
deriving DecidableEq, Repr

namespace IntegerError

/-- How many digits are read at most. -/
def longest : Nat := 4300

/-- How much of a malformed text is shown, in characters. -/
def shownLength : Nat := 200

/-- What is wrong, in words. -/
def message : IntegerError → String
  | malformed text =>
    "invalid literal for int() with base 10: " ++
      String.ofList ((quoted text).toList.take shownLength)
  | tooLong digits =>
    "Exceeds the limit (" ++ toString longest ++
      " digits) for integer string conversion: value has " ++ toString digits ++
      " digits; use sys.set_int_max_str_digits() to increase the limit"

end IntegerError

/-- The blank may stand around an integer: the ASCII separators may not. -/
def isMargin (c : Char) : Bool := isBlank c && !(0x1c ≤ c.toNat && c.toNat ≤ 0x1f)

/-- The integer that a text is. Too many digits are at fault also where more than a blank follows
them. -/
def readInteger (s : String) : Except IntegerError Int :=
  let (negative, body) := match s.toList.dropWhile isMargin with
    | '-' :: rest => (true, rest)
    | '+' :: rest => (false, rest)
    | cs => (false, cs)
  match digitsAfter [] false body with
  | none => .error (.malformed s)
  | some (digits, rest) =>
    if IntegerError.longest < digits.length then .error (.tooLong digits.length)
    else if rest.all isMargin then
      let n : Int := (digits.foldl (fun n d => 10 * n + d) 0 : Nat)
      .ok (if negative then -n else n)
    else .error (.malformed s)

end CommandGrammar.Text
