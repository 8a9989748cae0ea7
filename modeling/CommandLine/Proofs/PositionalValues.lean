import CommandLine.Proofs.VersionWord

/-!
# Positional values

In `program command value … --flag …` the values become flags for the parameters of the schema, in the
order in which the fields are declared, up to the first word that is a flag itself.  The parameter for a
word is looked up before the word is looked at, so a flag asks for one more parameter than there are
values in front of it.  As many values as parameters are therefore fine at the end of the command line,
and out of range with a flag behind them.

* `flagWords_rest`     where the values end, the words stay as they are, if a parameter is left to look at;
* `flaggedLine_values` the whole command line;
* `launch_of_line`     what a program does from there, by the checks that come next.
-/

namespace CommandLine

open Binding

/-! ## the words -/

section
variable {ps vals rest : List String}

theorem flagWords_rest (ps : List String) (hrest : ∀ f ∈ rest.head?, endsWords (.text f) = true) :
    flagWords ps (rest.map .text) =
      if ps = [] ∧ rest ≠ [] then .error (.indexOutOfRange "list") else .ok (rest.map .text) := by
  cases rest with
  | nil =>
    rw [if_neg fun h => h.2 rfl]
    cases ps <;> rfl
  | cons f fs =>
    cases ps with
    | nil =>
      rw [if_pos ⟨rfl, List.cons_ne_nil f fs⟩]
      rfl
    | cons p ps =>
      have hends : endsWords (.text f) = true := hrest f rfl
      rw [if_neg fun h => List.cons_ne_nil p ps h.1]
      show flagWords (p :: ps) (.text f :: fs.map .text) = _
      rw [flagWords, if_pos hends]
      rfl

/-- is there a flag behind as many values as there are parameters? -/
def Overruns (ps vals rest : List String) : Prop := vals.length = ps.length ∧ rest ≠ []

instance (ps vals rest : List String) : Decidable (Overruns ps vals rest) :=
  inferInstanceAs (Decidable (_ ∧ _))

theorem flagWords_values (hlength : vals.length ≤ ps.length)
    (hvals : ∀ v ∈ vals, endsWords (.text v) = false)
    (hrest : ∀ f ∈ rest.head?, endsWords (.text f) = true) :
    flagWords ps ((vals ++ rest).map .text) =
      if Overruns ps vals rest then .error (.indexOutOfRange "list")
      else .ok ((paired ps vals ++ rest).map .text) := by
  have hdrop : (ps.drop vals.length = [] ∧ rest ≠ []) ↔ Overruns ps vals rest := by
    unfold Overruns
    rw [List.drop_eq_nil_iff]
    constructor
    · rintro ⟨hle, hne⟩
      exact ⟨Nat.le_antisymm hlength hle, hne⟩
    · rintro ⟨heq, hne⟩
      exact ⟨Nat.le_of_eq heq.symm, hne⟩
  rw [List.map_append, flagWords_words hvals hlength, flagWords_rest _ hrest]
  by_cases hover : Overruns ps vals rest
  · rw [if_pos hover, if_pos (hdrop.2 hover)]
    rfl
  · rw [if_neg hover, if_neg fun h => hover (hdrop.1 h), List.map_append]
    rfl

theorem flaggedLine_values (program command : String) (hlength : vals.length ≤ ps.length)
    (hvals : ∀ v ∈ vals, endsWords (.text v) = false)
    (hrest : ∀ f ∈ rest.head?, endsWords (.text f) = true)
    (hhelp : asksForHelp ((program :: command :: (vals ++ rest)).map .text) = false)
    (hsome : vals ++ rest ≠ []) :
    flaggedLine ps ((program :: command :: (vals ++ rest)).map .text) =
      if Overruns ps vals rest then .error (.indexOutOfRange "list")
      else .ok ((program :: command :: (paired ps vals ++ rest)).map .text) := by
  have hlong : ¬ (((program :: command :: (vals ++ rest)).map Value.text).length ≤ 2) := by
    have hpos := List.length_pos_iff.2 hsome
    simp only [List.length_map, List.length_cons]
    omega
  unfold flaggedLine
  rw [hhelp, Bool.or_false, if_neg fun h => hlong (of_decide_eq_true h)]
  show (flagWords ps ((vals ++ rest).map .text) >>= _) = _
  rw [flagWords_values hlength hvals hrest]
  split <;> rfl

end

/-! ## the program -/

def Launch.announced (l : Launch) (s : Settings) (line : List Value) (w : World Session) :
    World Session :=
  { w with
    out := w.out ++ (paramsText s.params ++ "\n")
    state := { l.registered w.state with argv := line } }

section
variable {l : Launch} {w : World Session} {s : Settings}

/-- a command line that cannot be rewritten ends the program, and stays as it is; one that can is set
before the methods are checked -/
theorem launch_of_line (hactive : l.idle = false)
    (hregistered : w.state.registry.schema = .settings s)
    (hnames : checkParamNames s.fields = .ok ()) (p : Program) :
    (∀ e, flaggedLine s.params (l.argv ++ pipedWords l.argv l.input) = .error e →
      outcome (launch p l) w = (.error e, l.announced s (l.argv ++ pipedWords l.argv l.input) w)) ∧
    ∀ line, flaggedLine s.params (l.argv ++ pipedWords l.argv l.input) = .ok line →
      (∀ e, checkMethods s.params (l.form.asCommand.methods.map (·.2)) = .error e →
        outcome (launch p l) w = (.error e, l.announced s line w)) ∧
      (checkMethods s.params (l.form.asCommand.methods.map (·.2)) = .ok () →
        outcome (launch p l) w = outcome (reporting p.failureTable
          (l.command p (l.commandClass s)) >>= fun _ => pure (.class l.form.asCommand))
            (l.ready s line w)) := by
  have hschema : ({ w with state := l.registered w.state } : World Session).state.registry.schema =
      .settings s := hregistered
  -- up to the rewriting, all programs do the same
  have hprepare : outcome (l.prepare p l.form.asCommand) { w with state := l.registered w.state } =
      outcome (do
        let line ← flaggedLine s.params (l.argv ++ pipedWords l.argv l.input)
        modifyState fun s => { s with argv := line }
        checkMethods s.params (l.form.asCommand.methods.map (·.2))
        modifyState (·.register "generated" (.class (l.commandClass s)))
        reporting p.failureTable (l.command p (l.commandClass s)))
        (l.announced s (l.argv ++ pipedWords l.argv l.input) w) := by
    unfold Launch.prepare
    rw [outcome_bind_of_ok (outcome_registeredSettings hschema)]
    show outcome (liftM (checkParamNames s.fields) >>= _) _ = _
    rw [hnames]
    rfl
  have hlaunch := outcome_launch hactive p w
  refine ⟨fun e hline => ?_, fun line hline => ⟨fun e hmethods => ?_, fun hmethods => ?_⟩⟩
  · rw [hline] at hprepare
    rw [hlaunch]
    exact outcome_bind_of_error hprepare
  · rw [hline] at hprepare
    rw [hlaunch]
    refine outcome_bind_of_error (hprepare.trans ?_)
    show outcome (liftM (checkMethods s.params (l.form.asCommand.methods.map (·.2))) >>= _) _ = _
    rw [hmethods]
    rfl
  · exact outcome_launch_ready ⟨hactive, hregistered, hnames, hmethods, hline⟩ p

end

/-- **Positional values become flags in the order of the fields.**  A command line of at most as many
values as there are parameters, none of which starts with two dashes, and behind them nothing or words
that begin with a flag: it is rewritten, each value with the flag of its parameter in front of it, unless
there are as many values as parameters and a flag behind them.  Then the list of parameters is out of
range.  At a terminal the program starts with the command line so rewritten, or it fails with the error
and leaves the command line as it was. -/
theorem positional_values_flagged (s : Settings) (program command : String)
    (vals rest : List String) (hlength : vals.length ≤ s.params.length)
    (hvals : ∀ v ∈ vals, Text.startsWith "--" v = false)
    (hrest : ∀ f ∈ rest.head?, Text.startsWith "--" f = true ∧ Text.endsWith "--" f = false)
    (hhelp : asksForHelp ((program :: command :: (vals ++ rest)).map .text) = false)
    (hsome : vals ++ rest ≠ []) :
    let argv := (program :: command :: (vals ++ rest)).map Value.text
    let line := (program :: command :: (paired s.params vals ++ rest)).map Value.text
    (Overruns s.params vals rest → flaggedLine s.params argv = .error (.indexOutOfRange "list")) ∧
    (¬ Overruns s.params vals rest → flaggedLine s.params argv = .ok line) ∧
    ∀ (p : Program) (l : Launch) (w : World Session), l.argv = argv → l.input = none →
      l.idle = false → w.state.registry.schema = .settings s →
      checkParamNames s.fields = .ok () →
      (Overruns s.params vals rest →
        outcome (launch p l) w = (.error (.indexOutOfRange "list"), l.announced s argv w)) ∧
      (¬ Overruns s.params vals rest →
        (∀ e, checkMethods s.params (l.form.asCommand.methods.map (·.2)) = .error e →
          outcome (launch p l) w = (.error e, l.announced s line w)) ∧
        (checkMethods s.params (l.form.asCommand.methods.map (·.2)) = .ok () →
          (l.ready s line w).state.argv = line ∧
          outcome (launch p l) w = outcome (reporting p.failureTable
            (l.command p (l.commandClass s)) >>= fun _ => pure (.class l.form.asCommand))
              (l.ready s line w))) := by
  intro argv line
  have hwords : ∀ v ∈ vals, endsWords (.text v) = false := by
    intro v hv
    show (Text.startsWith "--" v && _) = false
    rw [hvals v hv, Bool.false_and]
  have hends : ∀ f ∈ rest.head?, endsWords (.text f) = true := by
    intro f hf
    show (Text.startsWith "--" f && !Text.endsWith "--" f) = true
    rw [(hrest f hf).1, (hrest f hf).2]
    rfl
  have hline := flaggedLine_values program command hlength hwords hends hhelp hsome
  have hover : Overruns s.params vals rest →
      flaggedLine s.params argv = .error (.indexOutOfRange "list") := fun h => by
    rw [hline, if_pos h]
  have hfits : ¬ Overruns s.params vals rest → flaggedLine s.params argv = .ok line := fun h => by
    rw [hline, if_neg h]
  refine ⟨hover, hfits, ?_⟩
  intro p l w hargv hinput hactive hregistered hnames
  have hpiped : l.argv ++ pipedWords l.argv l.input = argv := by
    rw [hargv, hinput]
    exact List.append_nil argv
  obtain ⟨hfails, hgoes⟩ := launch_of_line hactive hregistered hnames p
  rw [hpiped] at hfails hgoes
  refine ⟨fun h => hfails _ (hover h), fun h => ?_⟩
  obtain ⟨hmethods, hready⟩ := hgoes line (hfits h)
  exact ⟨hmethods, fun hok => ⟨rfl, hready hok⟩⟩

/-- five values for five parameters and a flag behind them are out of range; with two values in front of
the flag, each gets the flag of its parameter -/
theorem positional_values_flagged_sample :
    (∃ w', outcome (launch sampleEmpty (sampleRun ["a", "b", "1", "d", "f", "--x=c"]))
        sampleTextsWorld = (.error (.indexOutOfRange "list"), w') ∧
      w'.state.argv = ["prog", "run", "a", "b", "1", "d", "f", "--x=c"].map .text) ∧
    flaggedLine sampleTexts.params (["prog", "run", "a", "b", "--x=c"].map .text) =
      .ok (["prog", "run", "--x", "a", "--y", "b", "--x=c"].map .text) := by
  have hparams : sampleTexts.params = ["x", "y", "version", "cwd", "CFG"] := by decide +kernel
  have hnames : checkParamNames sampleTexts.fields = .ok () :=
    (exists_of_isOk (by decide +kernel)).choose_spec
  constructor
  · obtain ⟨-, -, hlaunch⟩ := positional_values_flagged sampleTexts "prog" "run"
      ["a", "b", "1", "d", "f"] ["--x=c"] (by rw [hparams]; decide) (by decide) (by decide)
      (by decide) (by decide)
    obtain ⟨hfails, -⟩ := hlaunch sampleEmpty (sampleRun ["a", "b", "1", "d", "f", "--x=c"])
      sampleTextsWorld rfl rfl rfl rfl hnames
    exact ⟨_, hfails ⟨by rw [hparams]; rfl, by decide⟩, rfl⟩
  · obtain ⟨-, hline, -⟩ := positional_values_flagged sampleTexts "prog" "run"
      ["a", "b"] ["--x=c"] (by rw [hparams]; decide) (by decide) (by decide) (by decide)
      (by decide)
    rw [hparams] at hline ⊢
    exact hline (by decide)

end CommandLine
