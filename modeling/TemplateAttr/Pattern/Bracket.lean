import TemplateAttr.Pattern.Depth
import TemplateAttr.Pattern.Error
import TemplateAttr.Pattern.Escape

/-!
# Pattern/Bracket — classes of characters in brackets

A class holds whatever one of its items holds: a character, a range, an escape, or a class in
brackets of its own, which may be named as in `[[:alpha:]]`.  An operator splits the items of a
bracket into operands and joins them from the left: `&&` keeps what both sides hold, `--` what the
left side alone holds, `~~` what only one of them holds.

`ClassRead.step` takes a class one character at a time.
-/

namespace TemplateAttr

namespace Pattern

/-! ## Operators -/

/-- **An operator between two operands of a class.** -/
inductive ClassOperator where
  | inter
  | diff
  | symmDiff

namespace ClassOperator

/-- The operator that a mark spells when it stands twice. -/
def ofMark? : Char → Option ClassOperator
  | '&' => some inter
  | '-' => some diff
  | '~' => some symmDiff
  | _ => none

/-- The set that an operator makes of two. -/
def apply : ClassOperator → CharSet → CharSet → CharSet
  | inter => .inter
  | diff => .diff
  | symmDiff => .symmDiff

end ClassOperator

/-! ## Brackets -/

/-- **A bracket being read**: what the operators so far have joined, the items of the operand under
way (last first), and the characters since it was opened (last first). -/
structure Bracket where
  negated : Bool
  joined : Option (Nested CharSet × ClassOperator)
  items : List (Nested CharSet)
  source : List Char

namespace Bracket

/-- A bracket just opened. -/
def start : Bracket := ⟨false, none, [], []⟩

/-- The bracket with one more item. -/
def add (b : Bracket) (s : CharSet) : Bracket := { b with items := ⟨s, 0⟩ :: b.items }

/-- The operand under way. -/
def operand (b : Bracket) : Nested CharSet :=
  ⟨b.items.foldr (fun item s => .union s item.value) .none, rowDepth (b.items.map (·.depth))⟩

/-- What the bracket holds, its complement not yet taken.  An operator is applied after case is
disregarded. -/
def content (flags : MatchFlags) (b : Bracket) : Nested CharSet :=
  match b.joined with
  | none => b.operand
  | some (left, op) =>
    ⟨op.apply (flags.fold left.value) (flags.fold b.operand.value),
      max left.depth b.operand.depth + 1⟩

/-- The set of a bracket: case is disregarded before a complement is taken. -/
def complete (flags : MatchFlags) (negated : Bool) (s : CharSet) : CharSet :=
  if negated then .compl (flags.fold s) else flags.fold s

/-- **The class of a bracket that has been closed.** -/
def toClass (flags : MatchFlags) (b : Bracket) : Nested CharSet :=
  let content := b.content flags
  ⟨complete flags b.negated content.value, content.depth + 1⟩

/-- The class that a bracket names, as `[:alpha:]` or `[:^alpha:]`, once it has been closed. -/
def namedClass? (flags : MatchFlags) (b : Bracket) : Option (Nested CharSet) :=
  match b.source with
  | ']' :: ':' :: name =>
    match name.reverse with
    | ':' :: '^' :: name => (CharSet.ofName? name).map fun s => ⟨complete flags true s, 0⟩
    | ':' :: name => (CharSet.ofName? name).map fun s => ⟨complete flags false s, 0⟩
    | _ => none
  | _ => none

end Bracket

/-! ## The class -/

/-- How far the item of a class has been read. -/
inductive ClassItem where
  /-- Right after the bracket: a `^`, hyphens and a closing bracket have their place here. -/
  | opening
  /-- After a `^` or a hyphen at the front; `hyphen` tells whether there was one. -/
  | leading (hyphen : Bool)
  /-- Between items. -/
  | between
  /-- A character that may begin a range; `bare` if it was not escaped. -/
  | char (c : Char) (bare : Bool)
  /-- A class named by an escape, which begins no range. -/
  | named (s : CharSet)
  /-- A character and a hyphen after it. -/
  | charHyphen (c : Char)
  /-- A named class and a hyphen after it. -/
  | namedHyphen (s : CharSet)
  /-- A backslash, at the start of an item or after the first end of a range. -/
  | escape (first : Option Char)
  /-- A code point, at the start of an item or after the first end of a range. -/
  | codePoint (first : Option Char) (r : CodePointRead)

/-- **A class being read**: the innermost open bracket, those around it (innermost first), and the
item under way. -/
structure ClassRead where
  bracket : Bracket
  outer : List Bracket
  item : ClassItem

namespace ClassRead

/-- A class just opened. -/
def start : ClassRead := ⟨.start, [], .opening⟩

/-- The class with one more item. -/
def add (r : ClassRead) (s : CharSet) (item : ClassItem) : ClassRead :=
  { r with bracket := r.bracket.add s, item }

/-- The class with a range, if it does not run backwards. -/
def addRange (r : ClassRead) (first last : Char) : Except PatternError ClassRead :=
  if first ≤ last then .ok (r.add (.range first last) .between) else .error .badRange

/-- The class with the operand under way ended by an operator. -/
def operate (flags : MatchFlags) (r : ClassRead) (op : ClassOperator) : ClassRead :=
  { r with
    bracket := { r.bracket with joined := some (r.bracket.content flags, op), items := [] }
    item := .between }

/-- The innermost bracket closed: an item of the one around it, or the whole class. -/
def close (flags : MatchFlags) (r : ClassRead) : ClassRead ⊕ Nested CharSet :=
  match r.outer with
  | [] => .inr (r.bracket.toClass flags)
  | b :: outer =>
    let item := (r.bracket.namedClass? flags).getD (r.bracket.toClass flags)
    .inl ⟨{ b with items := item :: b.items }, outer, .between⟩

/-- A character at the start of an item. -/
def begin (flags : MatchFlags) (r : ClassRead) (c : Char) : ClassRead ⊕ Nested CharSet :=
  if c = ']' then r.close flags
  else if c = '[' then .inl ⟨.start, r.bracket :: r.outer, .opening⟩
  else if c = '\\' then .inl { r with item := .escape none }
  else .inl { r with item := .char c true }

/-- An escaped character at the start of an item, or at the second end of a range. -/
def escaped (r : ClassRead) (first : Option Char) (d : Char) : Except PatternError ClassRead :=
  match first with
  | none => .ok { r with item := .char d false }
  | some first => r.addRange first d

/-- An escape at the start of an item, or at the second end of a range. -/
def escape (r : ClassRead) (first : Option Char) (c : Char) : Except PatternError ClassRead :=
  match Escape.ofChar? c, first with
  | none, _ => .error .unknownEscape
  | some (.literal d), first => r.escaped first d
  | some (.codePoint p), first => .ok { r with item := .codePoint first p }
  | some (.named s), none => .ok { r with item := .named s }
  | some (.named _), some _ => .error .badRange

/-- One character of an item. -/
def stepItem (flags : MatchFlags) (r : ClassRead) (c : Char) :
    Except PatternError (ClassRead ⊕ Nested CharSet) :=
  match r.item with
  | .opening =>
    if c = '^' then
      .ok (.inl { r with bracket := { r.bracket with negated := true }, item := .leading false })
    else if c = '-' then .ok (.inl (r.add (.single '-') (.leading true)))
    else if c = ']' then .ok (.inl (r.add (.single ']') .between))
    else .ok (r.begin flags c)
  | .leading hyphen =>
    if c = '-' then .ok (.inl (r.add (.single '-') (.leading true)))
    else if c = ']' && !hyphen then .ok (.inl (r.add (.single ']') .between))
    else .ok (r.begin flags c)
  | .between => .ok (r.begin flags c)
  | .char d bare =>
    match (if bare && c = d then ClassOperator.ofMark? d else none) with
    | some op => .ok (.inl (r.operate flags op))
    | none =>
      if c = '-' then .ok (.inl { r with item := .charHyphen d })
      else .ok ((r.add (.single d) .between).begin flags c)
  | .named s =>
    if c = '-' then .ok (.inl { r with item := .namedHyphen s })
    else .ok ((r.add s .between).begin flags c)
  | .charHyphen d =>
    if c = ']' then .ok (((r.add (.single d) .between).add (.single '-') .between).close flags)
    else if c = '-' then .ok (.inl ((r.add (.single d) .between).operate flags .diff))
    else if c = '\\' then .ok (.inl { r with item := .escape (some d) })
    else (r.addRange d c).map .inl
  | .namedHyphen s =>
    if c = ']' then .ok (((r.add s .between).add (.single '-') .between).close flags)
    else if c = '-' then .ok (.inl ((r.add s .between).operate flags .diff))
    else .error .badRange
  | .escape first => (r.escape first c).map .inl
  | .codePoint first p => do
    match ← p.step c with
    | .inl p => pure (.inl { r with item := .codePoint first p })
    | .inr d => (r.escaped first d).map .inl

/-- **One character of a class**: the class goes on (first case) or has ended (second case). -/
def step (flags : MatchFlags) (r : ClassRead) (c : Char) :
    Except PatternError (ClassRead ⊕ Nested CharSet) :=
  stepItem flags { r with bracket := { r.bracket with source := c :: r.bracket.source } } c

end ClassRead

end Pattern

end TemplateAttr
