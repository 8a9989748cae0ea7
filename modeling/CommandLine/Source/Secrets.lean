import CommandLine.Component.Call
import CommandLine.Source.Files

/-!
# Secrets from the password store

The password store is a directory in the home of encrypted files, `name.gpg`.  A file `.gpg-id` in a
directory names the key for the files below it.  Hidden directories and files are not looked at.
The secret of a key is the text of the first file of that name, decrypted with the nearest id.
-/

namespace CommandLine

def Surroundings.store (s : Surroundings) : Path := ⟨.posix, "", "/", s.home ++ [".password-store"]⟩

/-! ## listing -/

def isHidden (name : String) : Bool := Text.startsWith "." name

/-- a directory and those below it that are not hidden, a directory before those in it; `n` bounds
the depth -/
def Surroundings.below (s : Surroundings) : Nat → Path → List Path
  | 0, p => [p]
  | n + 1, p =>
    p :: ((s.list p fun name => !isHidden name).filter s.isDir).flatMap (s.below n)

def Surroundings.depth (s : Surroundings) : Nat := ((s.entries.map (·.1.length)).max?).getD 0

def Surroundings.storeDirs (s : Surroundings) : List Path :=
  if s.isDir s.store then s.below s.depth s.store else []

def Surroundings.secretFiles (s : Surroundings) : List Path :=
  s.storeDirs.flatMap fun d =>
    s.list d fun name => !isHidden name && Text.endsWith ".gpg" name

/-- a path inside of the store, without the store itself -/
def Surroundings.inStore (s : Surroundings) (path : String) : String :=
  Text.replaceText (s.store.text ++ "/") "" path

/-! ## ids -/

/-- the ids of the directories, by their path in the store -/
def Surroundings.storeIds (s : Surroundings) : List (String × String) :=
  s.storeDirs.foldl (fun acc d =>
    let file : Path := { d with names := d.names ++ [".gpg-id"] }
    match s.text? file with
    | some id =>
      putName (Path.ofText .posix (s.inStore file.text)).parent.text (Text.trim id) acc
    | none => acc) []

/-- a path followed by the directories above it, up to the one that has no name -/
def ancestors (path : String) : List String :=
  let p := Path.ofText .posix path
  path :: (List.range (max 1 p.names.length)).map fun i =>
    ({ p with names := p.names.take (p.names.length - 1 - i) } : Path).text

/-- the id of the nearest of some directories; the search gives up at a short path -/
def nearestId {σ : Type} (ids : List (String × String)) : List String → Run σ (Option String)
  | [] => return none
  | p :: ps =>
    match ids.lookup p with
    | some id => return some id
    | none =>
      if 2 < p.length then nearestId ids ps
      else do
        printOut ("Could not find gpg-id for " ++ p ++ "\n")
        return none

def gpgId {σ : Type} (ids : List (String × String)) (path : String) : Run σ (Option String) :=
  nearestId ids (ancestors path)

/-! ## decrypting -/

/-- the decrypting program: what it prints when it is run with a command line; `none` if it fails -/
structure Decryptor (σ : Type) where
  run : List String → Run σ (Option String)

def decryptCommand (id file : String) : List String :=
  ["gpg", "--quiet", "--recipient", id, "--decrypt", file]

/-- the decrypted text; nothing without an id -/
def decryptFile {σ : Type} (d : Decryptor σ) (file : Path) (id : Option String) : Run σ String := do
  match id with
  | none => return ""
  | some id =>
    let printed ← d.run (decryptCommand id file.text)
    return (printed.map Text.trim).getD ""

/-- the secret of a key; empty if there is none -/
def decrypt {σ : Type} (d : Decryptor σ) (s : Surroundings) (ids : List (String × String))
    (key : String) : Run σ String := do
  match s.secretFiles.find? fun f => f.stem = key with
  | none => return ""
  | some f =>
    let id ← gpgId ids (s.inStore f.text)
    decryptFile d f id

def secrets {σ : Type} (d : Decryptor σ) (s : Surroundings) (ids : List (String × String)) :
    List String → Run σ (List (String × String))
  | [] => return []
  | k :: ks => do
    let secret ← decrypt d s ids k
    let rest ← secrets d s ids ks
    return if secret = "" then rest else (k, secret) :: rest

def printDecrypted {σ : Type} (d : Decryptor σ) (s : Surroundings) (ids : List (String × String))
    (key : String) : Run σ Unit := do
  let secret ← decrypt d s ids key
  printOut (secret ++ "\n")

def exampleKey : String := "pace_eden_lookup_signid"

def storeListing {σ : Type} (s : Surroundings) : Run σ Unit :=
  s.secretFiles.forM fun f => do
    let path := s.inStore f.text
    let id ← gpgId s.storeIds path
    printOut (path ++ " id -> " ++ id.getD "None" ++ "\n")

end CommandLine
