import TemplateAttr.Pattern.Basic
import TemplateAttr.Pattern.CodePoint

/-!
# Pattern/Escape — escapes and flags of pattern texts

What a backslash makes of the next character, which may open a code point, and what the flags make
of a set of characters: `i` disregards case, `s` lets a dot stand for any character.
-/

namespace TemplateAttr

namespace Pattern

/-! ## Escapes -/

/-- What an escape stands for: one character, a class, or the character of a code point that
follows. -/
inductive Escape where
  | literal (c : Char)
  | named (s : CharSet)
  | codePoint (r : CodePointRead)

/-- **The meaning of a backslash before `c`**: a class, a control or a code point for some letters,
and the character itself for any ASCII mark but the angle brackets. -/
def Escape.ofChar? (c : Char) : Option Escape :=
  match c with
  | 'w' => some (.named .word)
  | 'W' => some (.named (.compl .word))
  | 'd' => some (.named .digit)
  | 'D' => some (.named (.compl .digit))
  | 's' => some (.named .blank)
  | 'S' => some (.named (.compl .blank))
  | 'a' => some (.literal '\x07')
  | 'f' => some (.literal '\x0c')
  | 't' => some (.literal '\t')
  | 'n' => some (.literal '\n')
  | 'r' => some (.literal '\r')
  | 'v' => some (.literal '\x0b')
  | 'x' => some (.codePoint (.opening 2))
  | 'u' => some (.codePoint (.opening 4))
  | 'U' => some (.codePoint (.opening 8))
  | _ =>
    if c.toNat < 0x80 && !c.isAlphanum && c != '<' && c != '>' then some (.literal c) else none

/-! ## Flags -/

/-- The flags in force. -/
structure MatchFlags where
  caseless : Bool := false
  dotAll : Bool := false

namespace MatchFlags

/-- The flags after the items of a flag list: letters are switched on before a `-`, off after. -/
def apply (flags : MatchFlags) (on : Bool) : List Char → MatchFlags
  | [] => flags
  | item :: rest =>
    if item = '-' then flags.apply false rest
    else if item = 'i' then { flags with caseless := on }.apply on rest
    else { flags with dotAll := on }.apply on rest

/-- A set of characters under the flags. -/
def fold (flags : MatchFlags) (s : CharSet) : CharSet := if flags.caseless then .caseless s else s

/-- The pattern of a dot: any character, but a line feed only if the flags say so. -/
def dot (flags : MatchFlags) : Pattern :=
  .chars (.compl (if flags.dotAll then .none else .single '\n'))

end MatchFlags

end Pattern

end TemplateAttr
