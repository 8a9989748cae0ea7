import CommandLine.Schema.Settings
import CommandLine.Source.Search
import CommandLine.Source.Secrets

/-!
# The sources of a configuration

Where the values of fields come from: the command line, the environment, the environment file, the
configuration file, the password store, and the settings themselves, in this order of strength.  All
of them are read, whichever values are used in the end.

Each source is a layer of named values.  A name has the value of the first layer that knows it; the
names come in the order in which the weakest layer, then the next one, brings them in.
-/

namespace CommandLine

/-! ## layers -/

abbrev Layer := List (String × Value)

/-- the value of the first layer that knows a name -/
def firstIn (layers : List Layer) (name : String) : Option Value :=
  layers.findSome? fun l => l.lookup name

def namesIn (layers : List Layer) : List String :=
  (layers.reverse.flatMap fun l => l.map (·.1)).eraseDups

def merged (layers : List Layer) : Layer :=
  (namesIn layers).filterMap fun n => (firstIn layers n).map (n, ·)

/-! ## the environment file -/

def readEnvFile {σ : Type} (s : Surroundings) (dir : Path) :
    Run σ (List (String × Option String)) := do
  let p := dir.join (Path.ofText .posix ".env")
  match if s.isFile p then s.text? p else none with
  | none => return []
  | some t =>
    let (found, complaints) := s.readVariables s.env t
    printErr complaints
    return found

/-- the values of the environment file in the directory that a field names, or else in the running
one -/
def envFileValues {σ : Type} (s : Surroundings) (cwd : Option Value) :
    Run σ (List (Value × Value)) := do
  let dir ← match cwd with
    | none | some .null => pure s.cwdPath
    | some v => pathOf v
  let vars ← readEnvFile s dir
  return vars.map fun (k, v) => (.text k, Value.ofOption .text v)

/-! ## all the sources -/

/-- the entries of a dictionary whose keys are names -/
def namedEntries (es : List (Value × Value)) : Layer :=
  es.filterMap fun e => match e.1 with
    | .text s => some (s, e.2)
    | _ => none

def textEntries (es : List (String × String)) : List (Value × Value) :=
  es.map fun (k, v) => (.text k, .text v)

namespace Settings

def environmentLayer (s : Settings) (around : Surroundings) : Layer :=
  namedEntries (keepFields s.fields (textEntries around.env))

/-- the variables of the environment file that are named like fields -/
def envFileLayer {σ : Type} (s : Settings) (around : Surroundings) : Run σ Layer := do
  let vars ← envFileValues around (s.get? cwdName)
  return namedEntries (keepFields s.fields vars)

/-- the values of the configuration file that are named like fields, each cast to the type of the
field's value -/
def fileLayer {σ : Type} (s : Settings) (around : Surroundings) : Run σ Layer := do
  match ← configPath around (s.get? fileName) (s.get? cwdName) with
  | none => return []
  | some p =>
    let found ← readConfig around p.text
    let cast ← castAllLike s.get (keepFields s.fields (textEntries found))
    return namedEntries cast

/-- the secrets named like fields of the schema -/
def secretLayer {σ : Type} (s : Settings) (d : Decryptor σ) (around : Surroundings) :
    Run σ Layer := do
  let found ← secrets d around around.storeIds (s.entries.map (·.1))
  return found.map fun (k, v) => (k, .text v)

/-- all the sources for values given on the command line, the strongest first -/
def layers {σ : Type} (s : Settings) (d : Decryptor σ) (around : Surroundings) (given : Layer) :
    Run σ (List Layer) := do
  let envFile ← s.envFileLayer around
  let file ← s.fileLayer around
  let secret ← s.secretLayer d around
  return [given, s.environmentLayer around, envFile, file, secret, s.entries]

end Settings

end CommandLine
