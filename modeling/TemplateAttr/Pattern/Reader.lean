import TemplateAttr.Pattern.Bracket
import TemplateAttr.Pattern.Count
import TemplateAttr.Pattern.Size
import TemplateAttr.Text.Word

/-!
# Pattern/Reader — patterns from text

`Pattern.read` is a machine that takes the text one character at a time.  Its state holds the group
being read, the groups around it, and a **mode**: what the last characters have begun.

The notation has literals, `.`, `^`, `$`, classes `[…]`, groups, which may have a name, `|`, the
repetitions `*`, `+`, `?` and counts in braces, escapes, and the flags `i` (disregard case) and `s`
(a dot is any character).  An opening brace always begins a count; a closing bracket or brace on its
own is a literal.  A repetition may be repeated again.  A pattern that is nested too deep is
refused.  What is read is compiled when its size is within the limit (`compile`).
-/

namespace TemplateAttr

namespace Pattern

/-! ## Groups -/

/-- **A group being read**: the flags in force, whether it is a numbered one, the branches already
ended by `|` (last first), and the parts of the branch under way (last first).  A change of flags is
a part that is no pattern. -/
structure GroupRead where
  flags : MatchFlags
  numbered : Bool
  branches : List (Nested Pattern)
  parts : List (Nested (Option Pattern))

namespace GroupRead

/-- The empty group. -/
def start (flags : MatchFlags) (numbered : Bool) : GroupRead := ⟨flags, numbered, [], []⟩

/-- The group with one more part. -/
def push (g : GroupRead) (p : Pattern) (depth : Nat) : GroupRead :=
  { g with parts := ⟨some p, depth⟩ :: g.parts }

/-- The branch under way as a pattern. -/
def branch (g : GroupRead) : Nested Pattern :=
  ⟨sequence (g.parts.reverse.filterMap (·.value)), rowDepth (g.parts.map (·.depth))⟩

/-- The group with its branch ended by `|`. -/
def nextBranch (g : GroupRead) : GroupRead :=
  { g with branches := g.branch :: g.branches, parts := [] }

/-- What stands in the group. -/
def content (g : GroupRead) : Nested Pattern :=
  let branches := (g.branch :: g.branches).reverse
  ⟨choices (branches.map (·.value)), rowDepth (branches.map (·.depth))⟩

/-- The whole group as a pattern. -/
def toPattern (g : GroupRead) : Pattern :=
  if g.numbered then .group g.content.value else g.content.value

/-- The group with its last part repeated. -/
def repeatLast (g : GroupRead) (least : Nat) (more : Option Nat) :
    Except PatternError GroupRead :=
  match g.parts with
  | ⟨some p, depth⟩ :: rest =>
    .ok { g with parts := ⟨some (p.iterate least more), depth + 1⟩ :: rest }
  | _ => .error .nothingToRepeat

end GroupRead

/-! ## The machine -/

/-- What the characters last read have begun. -/
inductive ReadMode where
  /-- Nothing: any part may begin. -/
  | ready
  /-- A repetition, which a `?` makes reluctant — the texts that match are the same. -/
  | repeated
  /-- An escape. -/
  | escape
  /-- A code point. -/
  | codePoint (r : CodePointRead)
  /-- A group, plain unless a `?` follows. -/
  | group
  /-- A list of flags, its items so far last first. -/
  | flags (items : List Char)
  /-- The mark before the name of a group. -/
  | nameMark
  /-- The name of a group, its characters so far last first. -/
  | name (letters : List Char)
  /-- A count. -/
  | count (r : CountRead)
  /-- A class. -/
  | charClass (r : ClassRead)

/-- **The state of the machine**: the group under way, those around it (innermost first), the names
of groups so far, and the mode. -/
structure ReadState where
  group : GroupRead
  outer : List GroupRead
  names : List (List Char)
  mode : ReadMode

namespace ReadState

/-- The state before the first character. -/
def start : ReadState := ⟨.start {} false, [], [], .ready⟩

/-- One more part in the group under way, in which nothing is nested. -/
def push (s : ReadState) (p : Pattern) : ReadState :=
  { s with group := s.group.push p 0, mode := .ready }

/-- A set of characters, under the flags, as one more part. -/
def pushSet (s : ReadState) (set : CharSet) : ReadState := s.push (.chars (s.group.flags.fold set))

/-- A group opened inside the one under way. -/
def openGroup (s : ReadState) (flags : MatchFlags) (numbered : Bool) : ReadState :=
  { s with group := .start flags numbered, outer := s.group :: s.outer, mode := .ready }

/-- The group under way closed: it becomes a part of the one around it. -/
def closeGroup (s : ReadState) : Except PatternError ReadState :=
  match s.outer with
  | [] => .error .unopenedGroup
  | g :: outer =>
    let group := g.push s.group.toPattern (s.group.content.depth + 1)
    .ok { s with group, outer, mode := .ready }

/-- The last part repeated. -/
def repeatLast (s : ReadState) (least : Nat) (more : Option Nat) : Except PatternError ReadState :=
  (s.group.repeatLast least more).map fun group => { s with group, mode := .repeated }

/-- A character where any part may begin. -/
def begin (s : ReadState) (c : Char) : Except PatternError ReadState :=
  match c with
  | '\\' => .ok { s with mode := .escape }
  | '.' => .ok (s.push s.group.flags.dot)
  | '^' => .ok (s.push .textStart)
  | '$' => .ok (s.push .textEnd)
  | '|' => .ok { s with group := s.group.nextBranch, mode := .ready }
  | '(' => .ok { s with mode := .group }
  | ')' => s.closeGroup
  | '[' => .ok { s with mode := .charClass .start }
  | '*' => s.repeatLast 0 none
  | '+' => s.repeatLast 1 none
  | '?' => s.repeatLast 0 (some 1)
  | '{' =>
    match s.group.parts with
    | ⟨some _, _⟩ :: _ => .ok { s with mode := .count ⟨none, none, false⟩ }
    | _ => .error .nothingToRepeat
  | _ => .ok (s.pushSet (.single c))

/-- A character of a list of flags.  `:` opens a group under them, `)` puts them in force from here
on; no item stands twice, and no `-` last.  In place of a list there may be a name. -/
def flagItem (s : ReadState) (items : List Char) (c : Char) : Except PatternError ReadState :=
  let flags := s.group.flags.apply true items.reverse
  if c = ':' then
    if items.head? = some '-' then .error .unknownGroup else .ok (s.openGroup flags false)
  else if c = ')' then
    if items.isEmpty || items.head? = some '-' then .error .unknownGroup
    else
      let group := { s.group with flags, parts := ⟨none, 0⟩ :: s.group.parts }
      .ok { s with group, mode := .ready }
  else if (c = 'i' || c = 's' || c = '-') && !items.contains c then
    .ok { s with mode := .flags (c :: items) }
  else if items.isEmpty && c = 'P' then .ok { s with mode := .nameMark }
  else if items.isEmpty && c = '<' then .ok { s with mode := .name [] }
  else .error .unknownGroup

/-- Whether a character may stand in the name of a group, `first` if nothing stands before it. -/
def isNameChar (first : Bool) (c : Char) : Bool :=
  if first then isWordChar c && !isDecimalDigit c
  else isWordChar c || c = '.' || c = '[' || c = ']'

/-- A character of the name of a group, which no other group of the pattern has. -/
def nameItem (s : ReadState) (letters : List Char) (c : Char) : Except PatternError ReadState :=
  if c = '>' && !letters.isEmpty && !s.names.contains letters then
    .ok ({ s with names := letters :: s.names }.openGroup s.group.flags true)
  else if isNameChar letters.isEmpty c then .ok { s with mode := .name (c :: letters) }
  else .error .badGroupName

/-- **One character of a pattern text.** -/
def step (s : ReadState) (c : Char) : Except PatternError ReadState :=
  match s.mode with
  | .ready => s.begin c
  | .repeated => if c = '?' then .ok { s with mode := .ready } else s.begin c
  | .escape =>
    match Escape.ofChar? c with
    | none => .error .unknownEscape
    | some (.literal d) => .ok (s.pushSet (.single d))
    | some (.named set) => .ok (s.push (.chars set))
    | some (.codePoint r) => .ok { s with mode := .codePoint r }
  | .codePoint r => do
    match ← r.step c with
    | .inl r => pure { s with mode := .codePoint r }
    | .inr d => pure (s.pushSet (.single d))
  | .group =>
    if c = '?' then .ok { s with mode := .flags [] } else (s.openGroup s.group.flags true).begin c
  | .flags items => s.flagItem items c
  | .nameMark => if c = '<' then .ok { s with mode := .name [] } else .error .unknownGroup
  | .name letters => s.nameItem letters c
  | .count r => do
    match ← r.step c with
    | .inl r => pure { s with mode := .count r }
    | .inr (least, more) => s.repeatLast least more
  | .charClass r => do
    match ← r.step s.group.flags c with
    | .inl r => pure { s with mode := .charClass r }
    | .inr set =>
      pure { s with group := s.group.push (.chars set.value) set.depth, mode := .ready }

/-- The pattern, at the end of its text. -/
def finish (s : ReadState) : Except PatternError Pattern :=
  match s.mode with
  | .ready | .repeated =>
    if !s.outer.isEmpty then .error .unclosedGroup
    else if maxDepth < s.group.content.depth then .error .tooDeep
    else .ok s.group.content.value
  | .escape | .codePoint _ => .error .unfinishedEscape
  | .group | .flags _ | .nameMark | .name _ => .error .unclosedGroup
  | .count _ => .error .badCount
  | .charClass _ => .error .unclosedClass

end ReadState

/-- The pattern that characters spell. -/
def readChars (text : List Char) : Except PatternError Pattern := do
  let s ← text.foldlM ReadState.step ReadState.start
  s.finish

/-- **The pattern that a text spells.** -/
def read (text : String) : Except PatternError Pattern := readChars text.toList

/-- **The pattern that characters spell, to be run**: it has to be within the limit, if there is
one. -/
def compileChars (limit : Option Nat) (text : List Char) : Except PatternError Pattern := do
  let p ← readChars text
  if p.fitsIn limit then .ok p else .error .tooLarge

/-- The pattern that a text spells, to be run. -/
def compile (text : String) : Except PatternError Pattern :=
  compileChars (some sizeLimit) text.toList

/-- **What is compiled is what is read**, if that is within the limit. -/
theorem compileChars_eq_ok_iff {limit : Option Nat} {text : List Char} {p : Pattern} :
    compileChars limit text = .ok p ↔ readChars text = .ok p ∧ p.fitsIn limit = true := by
  rw [compileChars]
  cases readChars text with
  | error e => simp [bind, Except.bind]
  | ok q =>
    simp only [bind, Except.bind]
    constructor
    · intro h
      split at h
      · next hfits =>
        cases h
        exact ⟨rfl, hfits⟩
      · cases h
    · rintro ⟨hread, hfits⟩
      cases hread
      exact if_pos hfits

end Pattern

end TemplateAttr
