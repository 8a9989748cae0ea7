import CommandLine.Literal.Read
import CommandLine.Text.LetterCase
import CommandLine.Value.Cast

/-!
# How arguments are read

The text of an argument becomes a value by the reading that the routine's decorations choose for its
parameter: by position, else by name, else the routine's default, else as a literal.
-/

namespace CommandLine

def Reading.read (r : Reading) (s : String) : Except Error Value :=
  match r with
  | .text => .ok (.text s)
  | .int => castInt (.text s)
  | .float => castFloat (.text s)
  | .length => .ok (.int s.length)
  | .upper => .ok (.text (Text.upper s))
  | .list => .ok (.list (s.toList.map fun c => .text (String.singleton c)))
  | .literal => Literal.readText s

structure Readings where
  default : Option Reading := none
  positional : List Reading := []
  named : List (String × Reading) := []

/-- one more decoration: positions are replaced, names are added -/
def Readings.decorate (rs : Readings) : Decoration → Readings
  | .one r [] => { rs with default := some r }
  | .one r names => { rs with named := names.foldl (fun acc n => putName n r acc) rs.named }
  | .many ps named =>
    { rs with
      positional := ps
      named := named.foldl (fun acc p => putName p.1 p.2 acc) rs.named }

def Readings.of (ds : List Decoration) : Readings := ds.foldl Readings.decorate {}

/-- the reading for the parameter `name` at `index`; extra arguments have neither -/
def Readings.choose (rs : Readings) (index : Option Nat) (name : Option String) : Reading :=
  match index.bind fun i => rs.positional[i]? with
  | some r => r
  | none =>
    match name.bind fun n => rs.named.lookup n with
    | some r => r
    | none => rs.default.getD .literal

/-- what is known of how a component is called -/
structure Metadata where
  /-- can arguments be given by position? -/
  positional : Bool
  readings : Readings
  /-- has it any decoration? -/
  decorated : Bool

def Metadata.ofDecorations (positional : Bool) (ds : List Decoration) : Metadata :=
  ⟨positional, Readings.of ds, !ds.isEmpty⟩

/-- decorations of a class, those it inherits first -/
def Class.allDecorations (c : Class) : List Decoration :=
  c.lineage.reverse.flatMap (·.decorations)

/-- classes take their arguments by name only -/
def Value.metadata : Value → Metadata
  | .routine r | .method _ r => .ofDecorations true r.decorations
  | .class c => .ofDecorations false c.allDecorations
  | .object c _ =>
    let ds := c.allDecorations
    if ds.isEmpty then .ofDecorations true [] else .ofDecorations false ds
  | .kind _ => .ofDecorations false []
  | _ => .ofDecorations true []

end CommandLine
