import CommandLine.Source.ConfigFile

/-!
# The version of a program

The version of the package whose file brings the library in, if one can be told from the call that
does; else the version in the project file; else a first one.
-/

namespace CommandLine

/-! ## the project file -/

def projectFile : Path := Path.ofText .posix "pyproject.toml"

def projectSection : String := "tool.poetry"

def projectOption : String := "version"

def versionIn (i : Ini.Contents) : Except Error (Option String) :=
  match i.options projectSection with
  | none => .error (.missingKey (Text.quoted projectSection))
  | some os =>
    match os.lookup projectOption with
    | none => .ok none
    | some raw =>
      match Ini.Contents.expanded os projectSection projectOption raw with
      | .ok v => .ok (some (Text.removeChar '"' v))
      | .error e => .error (e.toError "")

def projectVersion (s : Surroundings) : Except Error (Option String) :=
  if s.exists? projectFile then readSections s projectFile >>= versionIn else .ok none

/-! ## the importing package -/

structure Importer where
  file : String
  line : String

/-- does the line bring the library in? -/
def Importer.importsLibrary (i : Importer) : Bool :=
  Text.hasText "clima" i.line && Text.hasText "import" i.line && !Text.hasText "core" i.line

/-- what is known of a name of a module: nothing there, a package of some name, or a refusal to
look -/
inductive ModuleSpec where
  | missing
  | package (name : String)
  | refused

def ModuleSpec.isMissing : ModuleSpec → Bool
  | missing => true
  | _ => false

/-- what is known of the modules, by name -/
abbrev ModuleFinder := String → ModuleSpec

/-- asks for a package until it is found; `none` stands for asking without end -/
def ModuleFinder.await (find : ModuleFinder) (parent : String) : Option ModuleSpec :=
  if (find parent).isMissing then find |>.await parent else some (find parent)
partial_fixpoint

/-- what is known of modules, and the versions of those that are packages of their own -/
structure Packages where
  specs : List (String × ModuleSpec)
  versions : List (String × String)

/-- what is known of a name; where nothing is, the empty name and the names of modules inside others
are refused -/
def Packages.find (p : Packages) : ModuleFinder := fun name =>
  match p.specs.lookup name with
  | some spec => spec
  | none => if name = "" || Text.hasChar '.' name then .refused else .missing

def Importer.parent (i : Importer) : String := (Path.ofText .posix i.file).parent.name

/-- the version of the package that a file belongs to, if there is one; `none` stands for asking
without end -/
def importerVersion (p : Packages) (i : Importer) : Option (Option String) :=
  if !i.importsLibrary then some none
  else
    (p.find.await i.parent).map fun spec => match spec with
      | .package name => p.versions.lookup name
      | _ => none

/-- the version of a program that nothing is known of -/
def firstVersion : String := "0.0.1"

def programVersion (s : Surroundings) (p : Packages) (importer : Option Importer) :
    Except Error String :=
  match importer.elim (some none) (importerVersion p) with
  | none => .error .endless
  | some (some v) => .ok v
  | some none => do
    let v ← projectVersion s
    return v.getD firstVersion

end CommandLine
