import CommandLine.Component.Call
import CommandLine.Source.Files
import CommandLine.Source.Ini

/-!
# The configuration file

The values of the section `Clima` of a configuration file.  A file that is not there has none; one
without that section, or one that cannot be read, gets a warning.
-/

namespace CommandLine

/-- the sections of a file; a directory has none -/
def readSections (s : Surroundings) (p : Path) : Except Error Ini.Contents :=
  match s.text? p with
  | none => .ok {}
  | some t =>
    match Ini.read t with
    | .ok i => .ok i
    | .error e => .error (e.toError (Value.path p).shown)

def configSection : String := "Clima"

/-- the values in the section that is read; none if the file lacks it -/
def sectionValues (s : Surroundings) (p : Path) :
    Except Error (Option (List (String × String))) := do
  let i ← readSections s p
  match i.values configSection with
  | .ok vs => return vs
  | .error e => throw (e.toError "")

def readConfig {σ : Type} (s : Surroundings) (name : String) : Run σ (List (String × String)) := do
  let p := Path.ofText .posix name
  if !s.exists? p then return []
  match sectionValues s p with
  | .ok (some vs) => return vs
  | .ok none =>
    printOut ("warning: config file found at " ++ p.text ++
      ", but it was missing section named [" ++ configSection ++ "]\n")
    return []
  | .error _ =>
    printErr ("warning: clima deducted " ++ name ++
      " to be a valid config file, but could not read it.\n")
    return []

end CommandLine
