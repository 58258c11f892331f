import TemplateAttr.Pattern.Basic
import TemplateAttr.Pattern.Ranges
import TemplateAttr.Text.Utf8

/-!
# Pattern/Size — how large the automata of a pattern are

The **size** of a pattern is the memory of the automaton that runs it over the bytes of a text.  A
long text makes a large pattern, and a count may make a short one stand for an enormous pattern,
since its part is written out as often as the count says.  A pattern is usable only when its size is
within a limit (`fitsIn`), which is `sizeLimit` unless another one is set.

There are two automata, one that runs forwards and one that runs backwards.  They differ in how they
take a set of characters beyond ASCII: the forward one has a state for everything that may follow,
the backward one a state for everything that may have gone before.
-/

namespace TemplateAttr

namespace Pattern

/-- **A size in bytes**, of the forward and of the backward automaton. -/
@[ext]
structure Size where
  forward : Nat
  backward : Nat

namespace Size

/-- Sizes are added in each direction. -/
instance : Add Size := ⟨fun s t => ⟨s.forward + t.forward, s.backward + t.backward⟩⟩

@[simp] theorem add_forward (s t : Size) : (s + t).forward = s.forward + t.forward := rfl

@[simp] theorem add_backward (s t : Size) : (s + t).backward = s.backward + t.backward := rfl

/-- The same size in both directions. -/
def both (bytes : Nat) : Size := ⟨bytes, bytes⟩

@[simp] theorem both_forward (bytes : Nat) : (both bytes).forward = bytes := rfl

@[simp] theorem both_backward (bytes : Nat) : (both bytes).backward = bytes := rfl

/-- A size so many times. -/
def times (n : Nat) (s : Size) : Size := ⟨n * s.forward, n * s.backward⟩

@[simp] theorem times_forward (n : Nat) (s : Size) : (times n s).forward = n * s.forward := rfl

@[simp] theorem times_backward (n : Nat) (s : Size) : (times n s).backward = n * s.backward := rfl

/-- Whether a size is within a limit in both directions. -/
def within (limit : Nat) (s : Size) : Bool := s.forward ≤ limit && s.backward ≤ limit

end Size

/-! ## What an automaton consists of -/

/-- The bytes of so many states. -/
def stateBytes (states : Nat) : Nat := 32 * states

/-- The bytes of so many choices, which lead on without a byte of the text. -/
def choiceBytes (choices : Nat) : Nat := 4 * choices

/-- The bytes of so many transitions of a state that has several. -/
def transitionBytes (transitions : Nat) : Nat := 8 * transitions

/-! ## Sets of characters -/

/-- **Byte runs as a tree**, in which runs with the same beginning share it. -/
inductive ByteTree where
  | node (branches : List (ByteRange × ByteTree))

namespace ByteTree

mutual

/-- Whether two trees are the same. -/
def same : ByteTree → ByteTree → Bool
  | .node bs, .node cs => sameBranches bs cs

/-- Whether two lists of branches are the same. -/
def sameBranches : List (ByteRange × ByteTree) → List (ByteRange × ByteTree) → Bool
  | [], [] => true
  | (r, t) :: bs, (s, u) :: cs => r == s && same t u && sameBranches bs cs
  | _, _ => false

end

/-- Trees are compared branch by branch. -/
instance : BEq ByteTree := ⟨same⟩

/-- The tree with one more run before the others. -/
def insert : List ByteRange → ByteTree → ByteTree
  | [], t => t
  | r :: run, .node [] => .node [(r, insert run (.node []))]
  | r :: run, .node ((s, t) :: others) =>
    if r = s then .node ((s, insert run t) :: others)
    else .node ((r, insert run (.node [])) :: (s, t) :: others)

/-- The tree of byte runs. -/
def ofRuns (runs : List (List ByteRange)) : ByteTree := runs.foldr insert (.node [])

mutual

/-- The nodes of a tree at which no run ends. -/
def innerNodes : ByteTree → List ByteTree
  | .node [] => []
  | .node (b :: rest) => .node (b :: rest) :: branchNodes (b :: rest)

/-- The nodes below branches at which no run ends. -/
def branchNodes : List (ByteRange × ByteTree) → List ByteTree
  | [] => []
  | (_, t) :: rest => innerNodes t ++ branchNodes rest

end

/-- The number of branches at the root. -/
def width : ByteTree → Nat
  | .node branches => branches.length

end ByteTree

/-- The size of a set of characters given by its ranges: the states of a text if it has one
character, a single choice among bytes if it is ASCII, and byte runs in all other cases. -/
def Size.ofRanges (ranges : List (Nat × Nat)) : Size :=
  match ranges with
  | [(first, last)] =>
    if first = last then .both (stateBytes (Char.ofNat first).utf8Size)
    else if last < 0x80 then .both (stateBytes 2 + transitionBytes 1)
    else ofRuns (byteRuns first last)
  | ranges =>
    if ranges.all fun r => r.2 < 0x80 then .both (stateBytes 2 + transitionBytes ranges.length)
    else ofRuns (ranges.flatMap fun r => byteRuns r.1 r.2)
where
  /-- The size of byte runs: forwards, nodes with the same branches are one state; backwards, every
  branch is a state, and there is a choice among the runs. -/
  ofRuns (runs : List (List ByteRange)) : Size :=
    let nodes := (ByteTree.ofRuns runs).innerNodes
    let widths (l : List ByteTree) := l.foldl (fun n t => n + t.width) 0
    let distinct := nodes.eraseDups
    ⟨stateBytes (1 + distinct.length) + transitionBytes (widths distinct),
      stateBytes (2 + widths nodes) + choiceBytes runs.length⟩

/-! ## Patterns -/

/-- Whether nothing of a pattern is left to run. -/
def isVoid : Pattern → Bool
  | empty => true
  | seq p q => p.isVoid && q.isVoid
  | repeated _ least more => least == 0 && more == some 0
  | _ => false

/-- Whether a pattern may cover an empty stretch. -/
def mayBeEmpty : Pattern → Bool
  | empty | textStart | textEnd => true
  | chars _ => false
  | seq p q => p.mayBeEmpty && q.mayBeEmpty
  | alt p q => p.mayBeEmpty || q.mayBeEmpty
  | repeated p least _ => least == 0 || p.mayBeEmpty
  | group p => p.mayBeEmpty

/-- The set of a pattern that is nothing but a choice of characters. -/
def asSet? : Pattern → Option CharSet
  | chars s => some s
  | seq p q => if q.isVoid then p.asSet? else if p.isVoid then q.asSet? else none
  | alt p q => do return .union (← p.asSet?) (← q.asSet?)
  | _ => none

/-- The size of what a repetition adds to the parts that it repeats. -/
def loopSize (least : Nat) (more : Option Nat) (partEmpty : Bool) : Size :=
  match least, more with
  | 0, none =>
    .both (if partEmpty then stateBytes 3 + choiceBytes 4 else stateBytes 1 + choiceBytes 2)
  | _, none => .both (stateBytes 1 + choiceBytes 2)
  | 0, some 0 => .both (stateBytes 1)
  | _, some 0 => .both 0
  | 0, some 1 => .both (stateBytes 2 + choiceBytes 2)
  | 0, some m => .both (stateBytes (2 + m) + choiceBytes (2 * m))
  | _, some m => .both (stateBytes (1 + m) + choiceBytes (2 * m))

/-- How often the part of a repetition is written out. -/
def copies (least : Nat) : Option Nat → Nat
  | none => max least 1
  | some more => least + more

/-- The size of a pattern, `branch` if it stands beside others in a choice. -/
def sizeIn (branch : Bool) : Pattern → Size
  | alt p q =>
    match (alt p q).asSet? with
    | some s => .ofRanges s.ranges + .both (choiceBytes branch.toNat)
    | none => .both (if branch then 0 else stateBytes 2) + p.sizeIn true + q.sizeIn true
  | empty | textStart | textEnd => .both (stateBytes 1 + choiceBytes branch.toNat)
  | chars s => .ofRanges s.ranges + .both (choiceBytes branch.toNat)
  | seq p q =>
    if q.isVoid then p.sizeIn branch
    else if p.isVoid then q.sizeIn branch
    else p.sizeIn false + q.sizeIn false + .both (choiceBytes branch.toNat)
  | repeated p least more =>
    loopSize least more p.mayBeEmpty + (p.sizeIn false).times (copies least more) +
      .both (choiceBytes branch.toNat)
  | group p => p.sizeIn false + ⟨stateBytes 2, 0⟩ + .both (choiceBytes branch.toNat)

/-- Whether nothing is covered but from the start of the text. -/
def isAnchoredAtStart : Pattern → Bool
  | textStart => true
  | empty | chars _ | textEnd => false
  | seq p q => p.isAnchoredAtStart || (p.isVoid || p.isAnchorOnly) && q.isAnchoredAtStart
  | alt p q => p.isAnchoredAtStart && q.isAnchoredAtStart
  | repeated p least _ => 0 < least && p.isAnchoredAtStart
  | group p => p.isAnchoredAtStart

/-- Whether nothing is covered but up to the end of the text. -/
def isAnchoredAtEnd : Pattern → Bool
  | textEnd => true
  | empty | chars _ | textStart => false
  | seq p q => q.isAnchoredAtEnd || (q.isVoid || q.isAnchorOnly) && p.isAnchoredAtEnd
  | alt p q => p.isAnchoredAtEnd && q.isAnchoredAtEnd
  | repeated p least _ => 0 < least && p.isAnchoredAtEnd
  | group p => p.isAnchoredAtEnd

/-- The bytes of what stands before the pattern: a loop to begin anywhere, which one state takes the
place of where the pattern is anchored. -/
def leadBytes (anchored : Bool) : Nat :=
  if anchored then stateBytes 1 else stateBytes 3 + transitionBytes 1 + choiceBytes 2

/-- **The size of a pattern**, with what every pattern comes with: the lead, the final state and,
forwards, a group for the whole match. -/
def size (p : Pattern) : Size :=
  ⟨leadBytes p.isAnchoredAtStart + stateBytes 3, leadBytes p.isAnchoredAtEnd + stateBytes 1⟩ +
    p.sizeIn false

/-! ## The limit -/

/-- The limit on the size of a pattern, where no other one is set. -/
def sizeLimit : Nat := 10 * 1024 * 1024

/-- **Whether a pattern is within a limit**, if there is one. -/
def fitsIn (p : Pattern) (limit : Option Nat) : Bool := limit.all fun bytes => p.size.within bytes

end Pattern

end TemplateAttr
