import CommandLine.Text.Basic

/-!
# The block of a class

Of the lines that follow the head of a class, those that belong to it: its block ends before the
first statement that is indented less than its body.  Blank lines at the end are not part of it,
comments are if they are indented like the body.
-/

namespace CommandLine

/-! ## one line -/

/-- in what a character of program text stands -/
inductive LineMode where
  | code
  /-- a text that ends on its line -/
  | short (quote : Char)
  /-- a text between threefold quotes -/
  | long (quote : Char)

structure LineScan where
  mode : LineMode := .code
  /-- how many brackets are open -/
  depth : Nat := 0
  /-- does a backslash carry the statement on? -/
  continued : Bool := false

/-- is a statement complete at the end of a line? -/
def LineScan.isComplete (s : LineScan) : Bool :=
  match s.mode with
  | .long _ => false
  | _ => s.depth = 0 && !s.continued

def isQuote (c : Char) : Bool := c = '\'' || c = '"'

def isOpening (c : Char) : Bool := c = '(' || c = '[' || c = '\x7b'

def isClosing (c : Char) : Bool := c = ')' || c = ']' || c = '\x7d'

def scanLine : LineMode → Nat → List Char → LineScan
  | mode, depth, [] => { mode, depth }
  | .long q, depth, '\\' :: _ :: cs => scanLine (.long q) depth cs
  | .long q, depth, c :: d :: e :: cs =>
    if c = q ∧ d = q ∧ e = q then scanLine .code depth cs
    else scanLine (.long q) depth (d :: e :: cs)
  | .long q, depth, _ :: cs => scanLine (.long q) depth cs
  | .short q, depth, '\\' :: _ :: cs => scanLine (.short q) depth cs
  | .short q, depth, c :: cs => scanLine (if c = q then .code else .short q) depth cs
  | .code, depth, ['\\'] => { depth, continued := true }
  | .code, depth, '#' :: _ => { depth }
  | .code, depth, c :: d :: e :: cs =>
    if isQuote c ∧ d = c ∧ e = c then scanLine (.long c) depth cs
    else if isQuote c then scanLine (.short c) depth (d :: e :: cs)
    else scanLine .code
      (if isOpening c then depth + 1 else if isClosing c then depth - 1 else depth) (d :: e :: cs)
  | .code, depth, c :: cs =>
    if isQuote c then scanLine (.short c) depth cs
    else scanLine .code
      (if isOpening c then depth + 1 else if isClosing c then depth - 1 else depth) cs

/-! ## the block -/

structure BlockScan where
  /-- the indentations of the open blocks, the innermost first -/
  indents : List Nat := []
  /-- the statement that is not complete yet -/
  line : LineScan := {}
  /-- how many lines belong to the block so far -/
  length : Nat := 0

/-- the open blocks at a statement with an indentation; `none` if it is outside -/
def indentsAt (indents : List Nat) (col : Nat) : Option (List Nat) :=
  match indents with
  | [] => if col = 0 then none else some [col]
  | i :: is =>
    if i < col then some (col :: i :: is)
    else
      let left := (i :: is).dropWhile fun k => col < k
      if left.head? = some col then some left else none

def BlockScan.statement (b : BlockScan) (row : Nat) (mode : LineMode) (depth : Nat)
    (cs : List Char) : BlockScan :=
  let line := scanLine mode depth cs
  { b with line, length := if line.isComplete then row else b.length }

/-- one line; `none` if the block ends before it -/
def BlockScan.next (b : BlockScan) (row : Nat) (s : String) : Option BlockScan :=
  if !b.line.isComplete then
    some (b.statement row b.line.mode b.line.depth s.toList)
  else
    let rest := s.toList.dropWhile Text.isBlank
    let col := s.length - rest.length
    match rest with
    | [] => some b
    | '#' :: _ => some (if b.indents.getLast?.any (· ≤ col) then { b with length := row } else b)
    | rest => (indentsAt b.indents col).map fun indents =>
      BlockScan.statement { b with indents } row .code 0 rest

/-- how many lines belong to the block, from a row on -/
def blockLength : BlockScan → Nat → List String → Nat
  | b, _, [] => b.length
  | b, row, s :: ss =>
    match b.next row s with
    | some c => blockLength c (row + 1) ss
    | none => b.length

def blockLines (lines : List String) : List String := lines.take (blockLength {} 1 lines)

end CommandLine
