import CommandLine.Proofs.Finishing
import CommandLine.Proofs.FlagWords
import CommandLine.Proofs.PlainWords
import CommandLine.Proofs.Sources
import CommandLine.Proofs.WrittenNumbers

/-!
# Values given as text

A value is given as its text, by a flag on the command line or by a variable of the environment.
`AsksFor` is a program in which all but one field is in order; `Launch.Leaves` says that the command
class is made, and leaves the field with a value.

* `leaves_given_iff`          the text of a flag is read as a literal, and its value is cast;
* `leaves_environment_iff`    the text of a variable is cast as it is;
* `leaves_written`            what becomes of the text of a value of the field's own type.

The two ways differ: a text that spells a literal does not come back from the command line unless the
literal is written in its own way, and no truth value but `True` comes back from the environment.
-/

namespace CommandLine

open Binding

/-- the sources of some settings can be read, and give every field but `f` a value that can be cast -/
def Settings.ReadyBut (s : Settings) (p : Program) (w : World Session) (f : String) : Prop :=
  ∃ t layers w', s.absolute p.surroundings.cwdPath = .ok t ∧
    outcome (t.layers p.decryptor p.surroundings []) { w with state := w.state.setSettings t } =
      (.ok layers, w') ∧ InOrderBut t layers f

/-- a program without a hook in which all but the field `f` is in order, and stays so when the
command line gives the field a value of its type -/
structure AsksFor (l : Launch) (p : Program) (w : World Session) (s : Settings) (f : String)
    (k : Kind) : Prop where
  hookless : l.form.draftHook? = none
  undecorated : l.form.allDecorations = []
  declares : w.state.DeclaresOnce
  registered : w.state.registry.schema = .settings s
  name : IsFlagName f
  param : f ∈ s.params
  field : f ∈ s.names
  kind : s.schema.kinds.lookup f = some k
  ready : s.ReadyBut p w f
  ready_given : ∀ r y, k.cast r = .ok y → (s.set f y).ReadyBut p w f

/-- made from a command line that gives the field a text or not, the command class leaves the command
to be run and the field with the value -/
def Launch.Leaves (l : Launch) (p : Program) (w : World Session) (s : Settings)
    (command f : String) (given : Option String) (v : Value) : Prop :=
  ∃ step w', outcome ((Value.class (l.commandClass s)).moveByCall (l.host p w.state)
      ((givenWords command f given).map .text)) w =
        (.ok (.made (.object (l.commandClass s) []) step [.text command]), w') ∧
    w'.state.config.get f = .ok v

section
variable {l : Launch} {p : Program} {w : World Session} {s : Settings} {command f : String}
  {k : Kind} {v : Value}

/-! ## from the command line to the filling -/

theorem AsksFor.leaves_iff (x : AsksFor l p w s f k) (hcommand : isFlag command = false)
    (given : Option String) :
    l.Leaves p w s command f given v ↔ ∃ flags, readGiven f given = .ok flags ∧
      ∃ w', outcome (fill p none flags) w = (.ok (), w') ∧ w'.state.config.get f = .ok v := by
  have hc : (l.commandClass s).IsCommand := isCommand_prepared x.undecorated _ _
  have hhost : (l.host p w.state).configure = fill p none := by
    show fill p l.form.draftHook? = _
    rw [x.hookless]
  unfold Launch.Leaves
  rw [outcome_moveByCall_words _ hc hcommand x.name, hhost]
  cases readGiven f given with
  | error e =>
    constructor
    · rintro ⟨step, w', h, -⟩
      cases h
    · rintro ⟨flags, h, -⟩
      cases h
  | ok flags =>
    constructor
    · rintro ⟨step, w', h, hget⟩
      obtain ⟨u, w₁, hfill, hmade⟩ := outcome_bind_eq_ok.1 h
      obtain ⟨-, rfl⟩ := Prod.mk.inj hmade
      exact ⟨flags, rfl, w₁, hfill, hget⟩
    · rintro ⟨flags', hflags, w', hfill, hget⟩
      obtain rfl := Except.ok.inj hflags
      refine ⟨callStep (.class (l.commandClass s)) (.object (l.commandClass s) [])
        (givenBound command f given flags), w', ?_, hget⟩
      show outcome (fill p none flags >>= _) w = _
      rw [outcome_bind_of_ok hfill]
      rfl

theorem AsksFor.cast_eq (x : AsksFor l p w s f k) (hk : k.isContainer = false) (r : Value) :
    s.schema.cast f r = k.cast r := by
  have hwrapped : r.wrapped k = r := by
    unfold Value.wrapped Value.isWrapped
    rw [hk, Bool.and_false]
    rfl
  unfold Schema.cast
  rw [x.kind]
  show k.cast (r.wrapped k) = _
  rw [hwrapped]

theorem AsksFor.fill_iff (x : AsksFor l p w s f k) {flags : Layer} {taken : Settings}
    (htake : s.take flags = (taken, none)) (hready : taken.ReadyBut p w f)
    (hflags : ∀ n, n ≠ f → flags.lookup n = none) {r : Value}
    (hfirst : ∀ t : Settings, t.schema = s.schema → ∀ rest,
      firstIn (flags :: t.environmentLayer p.surroundings :: rest) f = some r) :
    (∃ w', outcome (fill p none flags) w = (.ok (), w') ∧ w'.state.config.get f = .ok v) ↔
      r ≠ .null ∧ s.schema.cast f r = .ok v := by
  obtain ⟨t, layers, w₂, habs, hlayers, horder⟩ := hready
  have hschema : t.schema = s.schema := by
    have htaken := s.take_schema flags
    rw [htake] at htaken
    rw [Settings.absolute_schema habs, htaken]
  have hdecl : t.schema.form.DeclaresOnce := by
    rw [hschema]
    exact x.declares s x.registered
  have hfield : f ∈ t.names := by
    rw [Settings.names_congr hschema]
    exact x.field
  have htaken : outcome (takeFlags p flags) w =
      (.ok t, { w with state := w.state.setSettings t }) :=
    takeFlags_eq_ok.2 ⟨s, taken, x.registered, htake, habs, rfl⟩
  obtain ⟨envFile, file, secret, w₃, w₄, h₁, h₂, h₃, rfl⟩ := layers_eq.1 hlayers
  have hread : outcome (t.layers p.decryptor p.surroundings flags)
      { w with state := w.state.setSettings t } = (.ok [flags, t.environmentLayer p.surroundings,
        envFile, file, secret, t.entries], w₂) :=
    layers_eq.2 ⟨envFile, file, secret, w₃, w₄, h₁, h₂, h₃, rfl⟩
  have hfill : outcome (fill p none flags) w = outcome (t.fillFrom none [flags,
      t.environmentLayer p.surroundings, envFile, file, secret, t.entries]) w₂ := by
    unfold fill
    rw [outcome_bind_of_ok htaken, outcome_bind_of_ok hread]
  have horder' : InOrderBut t [flags, t.environmentLayer p.surroundings, envFile, file, secret,
      t.entries] f := by
    refine horder.congr hfield fun n hne => ?_
    rw [firstIn_cons, hflags n hne]
    exact (firstIn_cons [] _ n).symm
  rw [hfill, fillFrom_get_iff hdecl (by simp) horder' hfield (hfirst t hschema _), hschema]

/-! ## the two ways to give a text -/

theorem cast_of_ne_null {r : Value} (h : r ≠ .null) : s.cast f r = s.schema.cast f r := by
  unfold Settings.cast
  cases r with
  | null => exact absurd rfl h
  | _ => rfl

theorem exists_of_cast {r y : Value} (h : s.cast f r = .ok y) : ∃ u, s.schema.cast f u = .ok y := by
  by_cases hr : r = .null
  · subst hr
    obtain ⟨u, -, hu⟩ := bind_eq_ok.1 (show (s.get f >>= s.schema.cast f) = .ok y from h)
    exact ⟨u, hu⟩
  · exact ⟨r, (cast_of_ne_null hr).symm.trans h⟩

/-- the text of a flag is read as a literal, and its value is cast; nothing cannot be given -/
theorem AsksFor.leaves_given_iff (x : AsksFor l p w s f k) (hk : k.isContainer = false)
    (hcommand : isFlag command = false) (t : String) :
    l.Leaves p w s command f (some t) v ↔
      ∃ r, Literal.readText t = .ok r ∧ r ≠ .null ∧ k.cast r = .ok v := by
  have hget : ((s.get? f).isNone) = false := by
    rw [← Option.not_isSome, Settings.isSome_get_of_mem_names (x.declares s x.registered) x.field]
    rfl
  have hfill : ∀ r, (∃ w', outcome (fill p none [(f, r)]) w = (.ok (), w') ∧
      w'.state.config.get f = .ok v) ↔ r ≠ .null ∧ k.cast r = .ok v := by
    intro r
    rw [← x.cast_eq hk]
    cases hcast : s.cast f r with
    | ok y =>
      have htake : s.take [(f, r)] = (s.set f y, none) := by
        unfold Settings.take
        rw [hget, hcast]
        rfl
      obtain ⟨u, hu⟩ := exists_of_cast hcast
      rw [x.cast_eq hk] at hu
      refine x.fill_iff htake (x.ready_given u y hu) (fun n hne => ?_) fun t _ rest => ?_
      · rw [lookup_cons_name, if_neg hne]
        rfl
      · refine firstIn_of_flag ?_ _
        rw [lookup_cons_name, if_pos rfl]
    | error e =>
      have htake : s.take [(f, r)] = (s, some e) := by
        unfold Settings.take
        rw [hget, hcast]
        rfl
      constructor
      · rintro ⟨w', hrun, -⟩
        obtain ⟨t, w₁, hflags, -⟩ := outcome_bind_eq_ok.1 hrun
        obtain ⟨s', taken, hs', htake', -⟩ := takeFlags_eq_ok.1 hflags
        rw [x.registered] at hs'
        obtain rfl := Registered.settings.inj hs'
        rw [htake] at htake'
        cases (Prod.mk.inj htake').2
      · rintro ⟨hne, hx⟩
        rw [cast_of_ne_null hne, hx] at hcast
        cases hcast
  rw [x.leaves_iff hcommand, readGiven_some]
  constructor
  · rintro ⟨flags, hflags, hrun⟩
    cases hread : Literal.readText t with
    | error e => rw [hread] at hflags; cases hflags
    | ok r =>
      rw [hread] at hflags
      obtain rfl := Except.ok.inj hflags
      exact ⟨r, rfl, (hfill r).1 hrun⟩
  · rintro ⟨r, hread, hr⟩
    refine ⟨[(f, r)], ?_, (hfill r).2 hr⟩
    rw [hread]
    rfl

theorem AsksFor.leaves_environment_iff (x : AsksFor l p w s f k) (hk : k.isContainer = false)
    (hcommand : isFlag command = false) {t : String} (ht : p.surroundings.env.lookup f = some t) :
    l.Leaves p w s command f none v ↔ k.cast (.text t) = .ok v := by
  have hfirst : ∀ s' : Settings, s'.schema = s.schema → ∀ rest,
      firstIn ([] :: s'.environmentLayer p.surroundings :: rest) f = some (.text t) := by
    intro s' hschema rest
    have hfields : f ∈ s'.fields := by
      apply Settings.mem_fields_of_mem_names
      · rw [hschema]
        exact x.declares s x.registered
      · rw [Settings.names_congr hschema]
        exact x.field
    rw [firstIn_cons, firstIn_cons, lookup_environmentLayer hfields, ht]
    rfl
  have hrun := x.fill_iff (v := v) rfl x.ready (fun _ _ => rfl) hfirst
  rw [x.leaves_iff hcommand, ← x.cast_eq hk]
  constructor
  · rintro ⟨flags, hflags, h⟩
    obtain rfl := Except.ok.inj hflags
    exact (hrun.1 h).2
  · intro h
    exact ⟨[], rfl, hrun.2 ⟨by rintro ⟨⟩, h⟩⟩

end

/-! ## the text of a value -/

/-- the values that can be given as their text: truth values, whole numbers with no more digits than
the readers admit, and texts -/
inductive Written : Kind → Value → Prop where
  | bool (b : Bool) : Written .bool (.bool b)
  | int (i : Int) (h : (Nat.toDigits 10 i.natAbs).length ≤ Number.maxDigits) : Written .int (.int i)
  | text (t : String) : Written .text (.text t)

theorem cast_text_eq_ok_iff {r u : Value} :
    Kind.text.cast r = .ok u ↔ r.isWritable = true ∧ u = .text r.plain := by
  show (r.checkWritable.map _).map Value.text = _ ↔ _
  unfold Value.checkWritable
  cases r.isWritable with
  | true => exact ⟨fun h => ⟨rfl, (Except.ok.inj h).symm⟩, fun h => congrArg Except.ok h.2.symm⟩
  | false =>
    rw [if_neg Bool.false_ne_true]
    exact ⟨fun h => absurd h (by rintro ⟨⟩), fun h => absurd h.1 Bool.false_ne_true⟩

theorem Written.not_container {k : Kind} {v : Value} (h : Written k v) : k.isContainer = false := by
  cases h <;> rfl

theorem Written.read {k : Kind} {v : Value} (h : Written k v)
    (hk : k = .text → Literal.IsPlainWord v.plain ∧ v.plain ≠ "None") :
    ∃ r, Literal.readText v.plain = .ok r ∧ r ≠ .null ∧ k.cast r = .ok v := by
  cases h with
  | bool b => exact ⟨.bool b, Literal.readText_bool b, by rintro ⟨⟩, rfl⟩
  | int i hi =>
    show ∃ r, Literal.readText (Number.intText i) = .ok r ∧ _
    exact ⟨.int i, Literal.readText_intText hi, by rintro ⟨⟩, rfl⟩
  | text t =>
    obtain ⟨hword, hnone⟩ := hk rfl
    obtain ⟨r, hr, hnull, hplain⟩ := Literal.readText_word hword hnone
    refine ⟨r, hr, hnull, ?_⟩
    show r.writePlain.map Value.text = _
    rw [hplain]
    rfl

theorem Written.cast_plain {k : Kind} {v : Value} (h : Written k v) (hk : k ≠ .bool) :
    k.cast (.text v.plain) = .ok v := by
  cases h with
  | bool b => exact absurd rfl hk
  | int i hi =>
    show castInt (.text (Number.intText i)) = _
    exact castInt_intText hi
  | text t => rfl

/-- **What becomes of the text of a value.**  On the command line truth values, whole numbers and plain
words other than `None` come back.  Any text is read as a literal first, and comes back as the text
of the literal, so it is the same only if the literal is written in its own way; the filling fails if
the text spells nothing, cannot be read, or spells what cannot be written as a text.  From the
environment whole numbers and texts come back.  The command line reaches the command class as it is
given, unless the text ends in two dashes. -/
theorem leaves_written {l : Launch} {p : Program} {w : World Session} {s : Settings}
    {command f : String} {k : Kind} {v : Value} (x : AsksFor l p w s f k)
    (hcommand : isFlag command = false) (hv : Written k v) :
    ((k = .text → Literal.IsPlainWord v.plain ∧ v.plain ≠ "None") →
      ∀ u, l.Leaves p w s command f (some v.plain) u ↔ u = v) ∧
    (k = .text → Literal.namesSurrogate v.plain = false → ∀ u,
      l.Leaves p w s command f (some v.plain) u ↔ ∃ r, Literal.readText v.plain = .ok r ∧ r ≠ .null ∧
        r.isWritable = true ∧ u = .text r.plain) ∧
    (k ≠ .bool → p.surroundings.env.lookup f = some v.plain → ∀ u,
      l.Leaves p w s command f none u ↔ u = v) ∧
    (Text.endsWith "--" v.plain = false → ∀ program,
      flaggedLine s.params (program :: (givenWords command f (some v.plain)).map .text) =
        .ok (program :: (givenWords command f (some v.plain)).map .text)) := by
  have hgiven := fun u => x.leaves_given_iff (v := u) hv.not_container hcommand v.plain
  refine ⟨?_, ?_, ?_, ?_⟩
  · intro hk u
    obtain ⟨r, hread, hnull, hcast⟩ := hv.read hk
    rw [hgiven, hread]
    constructor
    · rintro ⟨r', hr, -, hu⟩
      obtain rfl := Except.ok.inj hr
      rw [hcast] at hu
      exact (Except.ok.inj hu).symm
    · rintro rfl
      exact ⟨r, rfl, hnull, hcast⟩
  · rintro rfl - u
    rw [hgiven]
    simp only [cast_text_eq_ok_iff]
  · intro hk henv u
    rw [x.leaves_environment_iff hv.not_container hcommand henv, hv.cast_plain hk]
    exact ⟨fun h => (Except.ok.inj h).symm, fun h => congrArg Except.ok h.symm⟩
  · intro hend program
    refine flaggedLine_words (List.ne_nil_of_mem x.param) program ?_
    rintro t ⟨⟩
    exact hend

def sampleLaunch : Launch := ⟨markerClass "Commands", [], none, false⟩

def sampleVariable : Program := sampleProgram [("x", "-7")] [("a.cfg", "[Clima]\n")]

def sampleAsked (k : Kind) (given : Option Value) : Settings :=
  { sampleSettings [("x", k)] [("x", .null)] with values := given.toList.map (("x", ·)) }

theorem sample_declaresOnce (k : Kind) (given : Option Value) :
    (sampleAsked k given).schema.form.DeclaresOnce := by
  show (["x", "cwd", "CFG"] : List String).Nodup
  decide

theorem sample_readyBut (k : Kind) (given : Option Value) :
    (sampleAsked k given).ReadyBut sampleVariable (sampleSession [("x", k)] [("x", .null)]) "x" := by
  have hfile : sampleVariable.surroundings.HasSection (Path.ofText .posix "/a.cfg") [] :=
    ⟨by decide +kernel, rfl⟩
  have hnames : (sampleAsked k given).names = ["x", "cwd", "CFG"] := rfl
  have hfield : "x" ∈ (sampleAsked k given).fields :=
    Settings.mem_fields_of_mem_names (sample_declaresOnce k given) (by rw [hnames]; decide)
  have hlayer : (sampleAsked k given).environmentLayer sampleVariable.surroundings =
      [("x", .text "-7")] := by
    have hkeep : keepFields (sampleAsked k given).fields [(.text "x", .text "-7")] =
        [(.text "x", .text "-7")] := List.filter_cons_of_pos (List.contains_iff_mem.2 hfield)
    show namedEntries (keepFields (sampleAsked k given).fields [(.text "x", .text "-7")]) = _
    rw [hkeep]
    rfl
  refine ⟨sampleAsked k given, _, _, ?_, layers_eq.2 ⟨[], [], [], _, _,
    outcome_envFileLayer_of_not_isFile (p := Path.ofText .posix "/") ?_ rfl (by decide +kernel) _,
    outcome_fileLayer ?_ hfile _,
    outcome_secretLayer_of_no_files _ _ (by decide +kernel) _, rfl⟩, ?_⟩
  · cases given <;> rfl
  · cases given <;> rfl
  · cases given <;> rfl
  · rw [hlayer]
    have hin : namesIn [[], [("x", .text "-7")], [], [], [], (sampleAsked k given).entries] =
        ["x", "cwd", "CFG"] := rfl
    refine ⟨?_, ?_⟩
    · intro n hn hne
      rw [hnames] at hn
      simp only [List.mem_cons, List.not_mem_nil, or_false] at hn
      rcases hn with rfl | rfl | rfl
      · exact absurd rfl hne
      · exact ⟨.path (Path.ofText .posix "/"), _, by cases given <;> rfl, by rintro ⟨⟩, rfl⟩
      · exact ⟨.path (Path.ofText .posix "/a.cfg"), _, by cases given <;> rfl, by rintro ⟨⟩, rfl⟩
    · intro n hn hno
      rw [hin, ← hnames] at hn
      exact absurd hn hno

theorem sample_asksFor (k : Kind) :
    AsksFor sampleLaunch sampleVariable (sampleSession [("x", k)] [("x", .null)])
      (sampleAsked k none) "x" k where
  hookless := rfl
  undecorated := rfl
  declares := by
    intro t ht
    obtain rfl := Registered.settings.inj ht
    exact sample_declaresOnce k none
  registered := rfl
  name := ⟨by decide, by decide, by decide⟩
  param := by
    show "x" ∈ ["x", "cwd", "CFG", "version"]
    decide
  field := by
    show "x" ∈ ["x", "cwd", "CFG"]
    decide
  kind := rfl
  ready := sample_readyBut k none
  ready_given := fun _ y _ => sample_readyBut k (some y)

/-- a negative number comes back from the command line and from the environment -/
theorem leaves_written_sample :
    sampleLaunch.Leaves sampleVariable (sampleSession [("x", .int)] [("x", .null)])
      (sampleAsked .int none) "run" "x" (some "-7") (.int (-7)) ∧
    sampleLaunch.Leaves sampleVariable (sampleSession [("x", .int)] [("x", .null)])
      (sampleAsked .int none) "run" "x" none (.int (-7)) := by
  have hcommand : isFlag "run" = false := by decide
  obtain ⟨hflag, -, hvariable, -⟩ := leaves_written (sample_asksFor .int) hcommand
    (Written.int (-7) (by decide))
  exact ⟨(hflag (by rintro ⟨⟩) (.int (-7))).2 rfl, (hvariable (by decide) rfl (.int (-7))).2 rfl⟩

/-- a text that spells a number does not come back from the command line as it was given -/
theorem not_leaves_spelled_number :
    sampleLaunch.Leaves sampleVariable (sampleSession [("x", .text)] [("x", .null)])
      (sampleAsked .text none) "run" "x" (some "1_0") (.text "10") ∧
    ¬ sampleLaunch.Leaves sampleVariable (sampleSession [("x", .text)] [("x", .null)])
      (sampleAsked .text none) "run" "x" (some "1_0") (.text "1_0") := by
  have hread : Literal.readText "1_0" = .ok (.int 10) := rfl
  have hcommand : isFlag "run" = false := by decide
  have hiff := fun v => (sample_asksFor .text).leaves_given_iff (v := v) rfl hcommand "1_0"
  refine ⟨(hiff _).2 ⟨_, hread, by rintro ⟨⟩, rfl⟩, ?_⟩
  intro h
  obtain ⟨r, hr, -, hcast⟩ := (hiff _).1 h
  rw [hread] at hr
  obtain rfl := Except.ok.inj hr
  exact absurd (Value.text.inj (Except.ok.inj hcast)) (by decide)

end CommandLine
