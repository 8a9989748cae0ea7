import CommandLine.Path

/-!
# The files around a program

A tree of files, each with its text, the directory the program runs in, its home, and the
environment.  Directories are those that hold something and those listed as empty.  A relative path
is read from the running directory; every name on the way must be there, also before a `..`.
-/

namespace CommandLine

/-- how the text of an environment file is read, with the environment at hand: its variables, of which
some have no value, and what is said about lines that cannot be read -/
abbrev EnvReader := List (String × String) → String → List (String × Option String) × String

structure Surroundings where
  /-- files with their text and empty directories, by the names from the top -/
  entries : List (List String × Option String) := []
  /-- the directory the program runs in -/
  cwd : List String := []
  home : List String := []
  env : List (String × String) := []
  readVariables : EnvReader := fun _ _ => ([], "")

namespace Surroundings

/-! ## what stands at a place -/

def isFileAt (s : Surroundings) (at' : List String) : Bool :=
  s.entries.any fun e => e.1 = at' && e.2.isSome

def isDirAt (s : Surroundings) (at' : List String) : Bool :=
  at'.isEmpty || at'.isPrefixOf s.cwd || at'.isPrefixOf s.home ||
    s.entries.any fun e => (e.1 = at' && e.2.isNone) || (at'.isPrefixOf e.1 && e.1 ≠ at')

def existsAt (s : Surroundings) (at' : List String) : Bool := s.isFileAt at' || s.isDirAt at'

/-- follows names from a place -/
def walk (s : Surroundings) : List String → List String → Option (List String)
  | at', [] => some at'
  | at', n :: ns =>
    if !s.isDirAt at' then none
    else if n = ".." then s.walk at'.dropLast ns
    else if s.existsAt (at' ++ [n]) then s.walk (at' ++ [n]) ns
    else none

def locate (s : Surroundings) (p : Path) : Option (List String) :=
  s.walk (if p.isAbsolute then [] else s.cwd) p.names

def exists? (s : Surroundings) (p : Path) : Bool := (s.locate p).isSome

def isFile (s : Surroundings) (p : Path) : Bool := (s.locate p).any s.isFileAt

def isDir (s : Surroundings) (p : Path) : Bool := (s.locate p).any s.isDirAt

/-- the text of a file, line ends of all kinds as line feeds -/
def unifyLineEnds : List Char → List Char
  | [] => []
  | '\r' :: '\n' :: cs => '\n' :: unifyLineEnds cs
  | '\r' :: cs => '\n' :: unifyLineEnds cs
  | c :: cs => c :: unifyLineEnds cs

def textAt (s : Surroundings) (at' : List String) : Option String :=
  ((s.entries.find? fun e => e.1 = at' && e.2.isSome).bind (·.2)).map fun t =>
    String.ofList (unifyLineEnds t.toList)

def text? (s : Surroundings) (p : Path) : Option String := (s.locate p).bind s.textAt

/-! ## listing -/

def namesAt (s : Surroundings) (at' : List String) : List String :=
  (Text.sort (s.entries.filterMap fun e =>
    if at'.isPrefixOf e.1 then e.1[at'.length]? else none)).eraseDups

def list (s : Surroundings) (p : Path) (keep : String → Bool) : List Path :=
  match s.locate p with
  | none => []
  | some at' =>
    if s.isDirAt at' then
      ((s.namesAt at').filter keep).map fun n => { p with names := p.names ++ [n] }
    else []

def cwdPath (s : Surroundings) : Path := ⟨.posix, "", "/", s.cwd⟩

end Surroundings

end CommandLine
