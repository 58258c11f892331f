import TemplateAttr.Text.Hex

/-!
# Json/Text — the text of a JSON string

A string spells **code units**: a character that is written as it is, or an escape.  An escape may
spell one half of a surrogate pair, and a half without the other is no text.
-/

namespace TemplateAttr

namespace JsonText

/-! ## Reading -/

/-- Whether a code unit is the first half of a pair. -/
def isHighHalf (u : Nat) : Bool := 0xD800 ≤ u && u < 0xDC00

/-- Whether a code unit is the second half of a pair. -/
def isLowHalf (u : Nat) : Bool := 0xDC00 ≤ u && u < 0xE000

/-- The character of a pair. -/
def pairChar (high low : Nat) : Char :=
  Char.ofNat (0x10000 + (high - 0xD800) * 0x400 + (low - 0xDC00))

/-- **The characters that code units spell**; none if a half stands alone. -/
def decodeUnits : List Nat → Option (List Char)
  | [] => some []
  | u :: rest =>
    if isHighHalf u then
      match rest with
      | [] => none
      | v :: rest => if isLowHalf v then (decodeUnits rest).map (pairChar u v :: ·) else none
    else if isLowHalf u then none
    else (decodeUnits rest).map (Char.ofNat u :: ·)

/-- The code unit of a backslash and one letter or mark. -/
def shortEscape? : Char → Option Char
  | '"' => some '"'
  | '\\' => some '\\'
  | '/' => some '/'
  | 'b' => some '\x08'
  | 'f' => some '\x0c'
  | 'n' => some '\n'
  | 'r' => some '\r'
  | 't' => some '\t'
  | _ => none

/-! ## Writing -/

/-- **How a character is written in a string**: quotes, backslashes and controls are escaped. -/
def escapeChar (c : Char) : List Char :=
  match c with
  | '"' => ['\\', '"']
  | '\\' => ['\\', '\\']
  | '\x08' => ['\\', 'b']
  | '\x0c' => ['\\', 'f']
  | '\n' => ['\\', 'n']
  | '\r' => ['\\', 'r']
  | '\t' => ['\\', 't']
  | _ =>
    if c.toNat < 0x20 then
      ['\\', 'u', '0', '0', hexDigit (c.toNat / 16), hexDigit (c.toNat % 16)]
    else [c]

/-- A text in quotes. -/
def quote (text : List Char) : List Char := '"' :: text.flatMap escapeChar ++ ['"']

/-- A string that spells no text. -/
def loneHalf : List Char := ['"', '\\', 'u', 'd', '8', '0', '0', '"']

end JsonText

end TemplateAttr
