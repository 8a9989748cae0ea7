import CommandLine.Program.Session
import CommandLine.Proofs.Bindings
import CommandLine.Proofs.Layers
import CommandLine.Proofs.Schemas

/-!
# A flag on the command line

A command line `command --f=t` gives the field `f` the text `t`.  What the command class makes of it:

* `keywords_words`    the flag is the one named value, the command is left;
* `bind_flags`        the texts of flags are read as literals (`readFlags`), whatever they spell;
* `outcome_moveByCall_flags`   the making of the class hands their values to the configuration, and
                      fails if a text cannot be read (`outcome_moveByCall_words` for the one flag).

The same holds of a command line without a flag.  `flaggedLine_words` says which command lines reach
the command class as they are given.
-/

namespace CommandLine

open Binding

/-- the word that gives a field a text -/
def inlineFlag (f t : String) : String := "--" ++ f ++ "=" ++ t

/-- a name that a flag can have: no sign ends it or is changed in it, and it is not the one under
which an initialiser takes what it makes -/
structure IsFlagName (f : String) : Prop where
  no_equals : '=' ∉ f.toList
  no_dash : '-' ∉ f.toList
  not_receiver : f ≠ "self"

/-- a command, with a flag behind it if a text is given -/
def givenWords (command f : String) (given : Option String) : List String :=
  command :: given.toList.map (inlineFlag f)

/-- the named values that a given text comes to -/
def readGiven (f : String) (given : Option String) : Except Error Layer :=
  match given with
  | none => .ok []
  | some t => (Literal.readText t).map fun r => [(f, r)]

def givenBound (command f : String) (given : Option String) (flags : Layer) : Bound where
  positional := []
  named := flags
  consumed := (givenWords command f given).take given.toList.length
  remaining := [command]
  capacity := true

theorem readGiven_some (f t : String) :
    readGiven f (some t) = (Literal.readText t).map fun r => [(f, r)] := rfl

/-! ## words -/

section
variable {command f : String} {given : Option String} {t : String}

theorem toList_inlineFlag (f t : String) :
    (inlineFlag f t).toList = '-' :: '-' :: (f.toList ++ '=' :: t.toList) := by
  unfold inlineFlag
  rw [String.toList_append, String.toList_append, String.toList_append, List.append_assoc,
    List.append_assoc]
  rfl

theorem isFlag_inlineFlag (f t : String) : isFlag (inlineFlag f t) = true := by
  unfold isFlag Text.startsWith
  rw [toList_inlineFlag]
  rfl

theorem cutAt_flagBody (hf : IsFlagName f) (t : String) :
    Text.cutAt '=' (flagBody (inlineFlag f t)) = some (f, t) := by
  unfold Text.cutAt flagBody Text.dropChars
  rw [toList_inlineFlag, String.toList_ofList]
  show (Text.cutChars '=' (f.toList ++ '=' :: t.toList)).map _ = _
  rw [cutChars_append hf.no_equals]
  show some (String.ofList f.toList, String.ofList t.toList) = _
  rw [String.ofList_toList, String.ofList_toList]

theorem normal_of_no_dash (hf : '-' ∉ f.toList) : normal f = f := by
  have hmap : f.toList.map (fun c => if c = '-' then '_' else c) = f.toList := by
    refine (List.map_congr_left fun c hc => if_neg ?_).trans (List.map_id _)
    rintro rfl
    exact hf hc
  unfold normal Text.replaceChar
  rw [hmap, String.ofList_toList]

theorem groups_words (hcommand : isFlag command = false) (hf : IsFlagName f) :
    groups (givenWords command f given) =
      .single command :: given.toList.map fun t => .flag f (.inline t) := by
  have hfirst : ∀ rest, groups (command :: rest) = .single command :: groups rest := by
    intro rest
    rw [groups.eq_def]
    simp only [hcommand, Bool.false_eq_true, if_false]
  unfold givenWords
  rw [hfirst]
  cases given with
  | none => rfl
  | some t =>
    show Group.single command :: groups [inlineFlag f t] = _
    rw [groups.eq_def]
    simp only [isFlag_inlineFlag, cutAt_flagBody hf, if_true]
    rfl

theorem keywords_words (hcommand : isFlag command = false) (hf : IsFlagName f) :
    Keywords.of [] true (givenWords command f given) =
      { named := given.toList.map fun t => (f, t), rest := [command] } := by
  unfold Keywords.of
  rw [groups_words hcommand hf]
  cases given with
  | none => rfl
  | some t =>
    show ({ named := [(normal f, t)], rest := [command] } : Keywords) = _
    rw [normal_of_no_dash hf.no_dash]
    rfl

theorem endsWith_inlineFlag (f t : String) :
    Text.endsWith "--" (inlineFlag f t) = Text.endsWith "--" t := by
  have hword : (inlineFlag f t).toList.reverse =
      t.toList.reverse ++ '=' :: (f.toList.reverse ++ ['-', '-']) := by
    rw [toList_inlineFlag]
    simp
  show ['-', '-'].isPrefixOf (inlineFlag f t).toList.reverse =
    ['-', '-'].isPrefixOf t.toList.reverse
  rw [hword]
  generalize t.toList.reverse = cs
  match cs with
  | [] => rfl
  | [c] => rfl
  | c :: d :: cs => rfl

theorem flaggedLine_of_endsWords {params : List String} (hparams : params ≠ []) {v : Value}
    (hv : endsWords v = true) (program command : Value) (rest : List Value) :
    flaggedLine params (program :: command :: v :: rest) =
      .ok (program :: command :: v :: rest) := by
  obtain ⟨p, ps, rfl⟩ := List.exists_cons_of_ne_nil hparams
  have hwords : flagWords (p :: ps) (v :: rest) = .ok (v :: rest) := by
    unfold flagWords
    rw [if_pos hv]
  unfold flaggedLine
  split
  · rfl
  · show (flagWords (p :: ps) (v :: rest) >>= _) = _
    rw [hwords]
    rfl

/-- a command line with a flag reaches the command class as it is given, unless the text ends in two
dashes: then the flag is taken for a word that a parameter is given -/
theorem flaggedLine_words {params : List String} (hparams : params ≠ []) (program : Value)
    (ht : ∀ t ∈ given, Text.endsWith "--" t = false) :
    flaggedLine params (program :: (givenWords command f given).map .text) =
      .ok (program :: (givenWords command f given).map .text) := by
  cases given with
  | none => rfl
  | some t =>
    have hends : endsWords (.text (inlineFlag f t)) = true := by
      show (isFlag (inlineFlag f t) && !Text.endsWith "--" (inlineFlag f t)) = true
      rw [isFlag_inlineFlag, endsWith_inlineFlag, ht t rfl]
      rfl
    exact flaggedLine_of_endsWords hparams hends program (.text command) []

end

/-! ## the command class -/

/-- a class whose making fills the configuration from flags, each read as a literal -/
structure Class.IsCommand (c : Class) : Prop where
  initializer : c.initializer = .configures "cli_args"
  undecorated : c.allDecorations = []

theorem lineage_prepared (form : Class) (params : List String) (help : String) :
    (form.asCommand.prepared params help).lineage =
      form.asCommand.prepared params help :: form.lineage := by
  rw [lineage_eq]
  rfl

/-- the class that a program runs its commands on -/
theorem isCommand_prepared {form : Class} (h : form.allDecorations = []) (params : List String)
    (help : String) : (form.asCommand.prepared params help).IsCommand := by
  refine ⟨?_, ?_⟩
  · unfold Class.initializer
    rw [lineage_prepared]
    rfl
  · unfold Class.allDecorations at h ⊢
    rw [lineage_prepared, List.reverse_cons, List.flatMap_append, h]
    rfl

theorem bindWith_anyName {name : String} (hname : name ≠ "") (m : Metadata) (args : List String) :
    bindWith { moreNamed := some name } m args =
      (readNamed m (Keywords.of [] true args).named).map fun named =>
        let k := Keywords.of [] true args
        { positional := [], named
          consumed := args.take (args.length - (k.rest ++ k.unknown).length)
          remaining := k.rest ++ k.unknown, capacity := true } := by
  have hany : (some name).any (· ≠ "") = true := decide_eq_true hname
  have hfill : ∀ named rest, Binding.fill m [] 0 named 0 [] rest = .ok { single := rest } :=
    fun _ _ => rfl
  unfold bindWith
  simp only [hany, List.append_nil, List.length_nil, Nat.sub_self]
  generalize Keywords.of [] true args = k
  have hothers : k.named.filter (fun p => !([] : List String).contains p.1) = k.named :=
    List.filter_eq_self.2 fun _ _ => rfl
  rw [hfill]
  simp only [hothers]
  cases readNamed m k.named with
  | error e => rfl
  | ok named => rfl

def readFlags : List (String × String) → Except Error Layer
  | [] => .ok []
  | (k, t) :: es => do
    let v ← Literal.readText t
    let vs ← readFlags es
    return (k, v) :: vs

/-- what words are bound to where every flag is taken: nothing by position, and the words that are no
flags are left -/
def flagBound (words : List String) (flags : Layer) : Bound :=
  let k := Keywords.of [] true words
  { positional := []
    named := flags
    consumed := words.take (words.length - (k.rest ++ k.unknown).length)
    remaining := k.rest ++ k.unknown
    capacity := true }

theorem readNamed_eq (es : List (String × String)) :
    readNamed ⟨false, {}, false⟩ es = (readFlags es).mapError .reading := by
  induction es with
  | nil => rfl
  | cons e es ih =>
    have hchosen : ((⟨false, {}, false⟩ : Metadata).readings.choose none (some e.1)).read e.2 =
        Literal.readText e.2 := rfl
    show (readFor ⟨false, {}, false⟩ none (some e.1) e.2 >>= fun v =>
      readNamed ⟨false, {}, false⟩ es >>= fun vs => .ok ((e.1, v) :: vs)) =
      (Literal.readText e.2 >>= fun v => readFlags es >>= fun vs =>
        .ok ((e.1, v) :: vs)).mapError .reading
    unfold readFor
    rw [ih, hchosen]
    cases Literal.readText e.2 with
    | error err => rfl
    | ok v => cases readFlags es <;> rfl

section
variable {c : Class}

/-- the text of each flag is read as a literal, whatever it spells -/
theorem bind_flags (hc : c.IsCommand) (words : List String) :
    (Value.class c).bind words =
      ((readFlags (Keywords.of [] true words).named).mapError .reading).map (flagBound words) := by
  have hspec : (Value.class c).spec = { moreNamed := some "cli_args" } := by
    show ({ c.initializer.signature with
      flagDefaults := c.initializer.signature.orderedDefaults } : Signature Value) = _
    rw [hc.initializer]
    rfl
  have hmeta : (Value.class c).metadata = ⟨false, {}, false⟩ := by
    show Metadata.ofDecorations false c.allDecorations = _
    rw [hc.undecorated]
    rfl
  unfold Value.bind
  rw [hspec, hmeta, bindWith_anyName (by decide), readNamed_eq]
  rfl

theorem instantiate_flags {σ : Type} (host : Host σ) (hc : c.IsCommand) (flags : Layer) :
    c.instantiate host [] flags =
      if (flags.lookup "self").isSome then throw (multipleValues "cli.<locals>.init" "self")
      else host.configure flags >>= fun _ => pure (.object c []) := by
  unfold Class.instantiate
  rw [hc.initializer]
  dsimp only
  split <;> rfl

theorem outcome_moveByCall_flags {σ : Type} (host : Host σ) (hc : c.IsCommand)
    (words : List String) (w : World σ) :
    outcome ((Value.class c).moveByCall host (words.map .text)) w =
      match readFlags (Keywords.of [] true words).named with
      | .error e => (.error e, w)
      | .ok flags => outcome (c.instantiate host [] flags >>= fun v => pure (.made v
          (callStep (.class c) v (flagBound words flags))
          ((flagBound words flags).remaining.map .text))) w := by
  unfold Value.moveByCall
  rw [flagTexts_texts, outcome_bind_of_ok (outcome_liftM _ w), bind_flags hc]
  cases readFlags (Keywords.of [] true words).named with
  | error e => rfl
  | ok flags =>
    show outcome ((c.instantiate host [] flags >>= fun v => pure (Result.value v)) >>= _) w = _
    simp only [bind_assoc, pure_bind]

variable {command f : String}

theorem readFlags_given (f : String) (given : Option String) :
    readFlags (given.toList.map fun t => (f, t)) = readGiven f given := by
  cases given with
  | none => rfl
  | some t =>
    show (Literal.readText t >>= fun v => .ok [(f, v)]) = (Literal.readText t).map _
    cases Literal.readText t <;> rfl

theorem flagBound_given (hcommand : isFlag command = false) (hf : IsFlagName f)
    (given : Option String) (flags : Layer) :
    flagBound (givenWords command f given) flags = givenBound command f given flags := by
  unfold flagBound givenBound
  rw [keywords_words hcommand hf]
  cases given <;> rfl

theorem outcome_moveByCall_words {σ : Type} (host : Host σ) (hc : c.IsCommand)
    (hcommand : isFlag command = false) (hf : IsFlagName f) (given : Option String)
    (w : World σ) :
    outcome ((Value.class c).moveByCall host ((givenWords command f given).map .text)) w =
      match readGiven f given with
      | .error e => (.error e, w)
      | .ok flags => outcome (host.configure flags >>= fun _ => pure (.made (.object c [])
          (callStep (.class c) (.object c []) (givenBound command f given flags))
          [.text command])) w := by
  have hreceiver : ∀ flags, readGiven f given = .ok flags → flags.lookup "self" = none := by
    intro flags h
    cases given with
    | none => exact Except.ok.inj h ▸ rfl
    | some t =>
      rw [readGiven_some] at h
      cases hr : Literal.readText t with
      | error e => rw [hr] at h; cases h
      | ok r =>
        rw [hr] at h
        rw [← Except.ok.inj h, lookup_cons_name, if_neg (Ne.symm hf.not_receiver)]
        rfl
  rw [outcome_moveByCall_flags host hc, keywords_words hcommand hf, readFlags_given]
  cases hgiven : readGiven f given with
  | error e => rfl
  | ok flags =>
    show outcome (c.instantiate host [] flags >>= _) w = _
    rw [instantiate_flags host hc, hreceiver flags hgiven, flagBound_given hcommand hf]
    simp only [Option.isSome_none, Bool.false_eq_true, if_false, bind_assoc, pure_bind]
    rfl

end

def Launch.commandClass (l : Launch) (s : Settings) : Class :=
  l.form.asCommand.prepared s.params s.help

end CommandLine
