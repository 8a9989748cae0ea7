import CommandLine.Config.Configuration
import CommandLine.Config.Sources

/-!
# Drafts of a configuration

The values of all sources become a configuration in two rounds: every field is cast to its type,
then the hook of the command class may change the draft, and every field is cast once more.  What
the sources know at all is then published; a name that only the hook has set is not.
-/

namespace CommandLine

/-- the configuration in which nothing is set and the sources answer -/
def draftOf (layers : List Layer) : Configuration := { behind := Value.record (merged layers) }

/-- the configuration with the values under some names cast to the types of the schema -/
def Schema.castIn (s : Schema) : List String → Configuration → Except Error Configuration
  | [], c => .ok c
  | name :: names, c => do
    let v ← c.get name
    let w ← s.cast name v
    s.castIn names (c.set name w)

/-- how the hook of a command class changes a draft -/
abbrev DraftHook (σ : Type) := Configuration → Run σ Configuration

def Settings.draft {σ : Type} (s : Settings) (layers : List Layer) (hook : Option (DraftHook σ)) :
    Run σ Configuration := do
  let names := s.entries.map (·.1)
  let draft ← s.schema.castIn names (draftOf layers)
  match hook with
  | none => return draft
  | some change =>
    let changed ← change draft
    s.schema.castIn names changed

/-- sets the values that a draft has under some names, one after the other -/
def publish (draft : Configuration) : List Value → Run Configuration Unit
  | [] => return ()
  | .text name :: names => do
    let v ← draft.get name
    modifyState fun c => c.set name v
    publish draft names
  | v :: _ => throw (.type ("attribute name must be string, not '" ++ v.kindName ++ "'"))

end CommandLine
