import CommandLine.Source.Files
import CommandLine.Value.Cast

/-!
# Finding the configuration file

A configuration file is named by the field `CFG`, or it is the first file in the directory `cwd`
that ends in `.conf`, or else in `.cfg`.  Inside of a package the search goes on in the directory
above, twice at most.
-/

namespace CommandLine

def configsIn (s : Surroundings) (p : Path) : List Path :=
  s.list p (Text.endsWith ".conf") ++ s.list p (Text.endsWith ".cfg")

/-- how many package markers stand beside a path: one, or none -/
def packageMarks (s : Surroundings) (p : Path) : Nat :=
  let above := p.parent
  if s.isDir above && s.exists? { above with names := above.names ++ ["__init__.py"] } then 1 else 0

/-- the configuration file for a directory; `level` is how often one may go up -/
def findConfig (s : Surroundings) : Nat → Path → Option Path
  | level, p =>
    match configsIn s p, level with
    | c :: _, _ => some c
    | [], level + 1 => if packageMarks s p ≠ 0 then findConfig s level p.parent else none
    | [], 0 => none

def searchLevel : Nat := 2

def pathOf (v : Value) : Except Error Path :=
  match castPath .posix v with
  | .ok (.path p) => .ok p
  | .ok _ => .ok (Path.ofText .posix "")
  | .error e => .error e

/-- the path of the configuration file, given the fields that name it -/
def configPath (s : Surroundings) (cfg cwd : Option Value) : Except Error (Option Path) := do
  let file ← pathOf (cfg.getD (.text ""))
  if file.isAbsolute then return some file
  let dir ← pathOf (cwd.getD (.text ""))
  let file := dir.join file
  if s.isFile file then return some file
  return findConfig s searchLevel file

end CommandLine
