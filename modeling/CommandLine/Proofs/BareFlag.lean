import CommandLine.Proofs.OneFlag
import CommandLine.Proofs.VersionWord

/-!
# A bare flag

In `program command --f` the flag stands alone.  The command class takes every name, so no field is
known where flags are read, and the spelling of the name decides: `no` in front of it is cut off, and
the rest is turned off (`bareEntry`).  A switch `f` is turned on, and nothing else is changed, unless
its name begins with `no`, or is `self`, under which the class takes what it makes, or `help`, which
the command line takes for itself (`bare_flag_switches`).

* `readFlags_bare`   the one value that the flags of the command line give;
* `making_of_fill`   the class is made if the configuration can be filled from the flags;
* `bare_commands`    the command line reaches the command class as it is given.
-/

namespace CommandLine

open Binding

/-! ## the words -/

/-- a command, with a bare flag behind it if a name is given -/
def bareWords (command : String) (given : Option String) : List String :=
  command :: given.toList.map ("--" ++ ·)

/-- the value that a bare flag gives, where no name is known -/
def bareEntry (f : String) : String × Value :=
  if Text.startsWith "no" f then (Text.dropChars 2 f, .bool false) else (f, .bool true)

section
variable {command f : String} {given : Option String}

theorem groups_bareWords (hcommand : isFlag command = false)
    (hgiven : ∀ f ∈ given, IsPlainName f) :
    groups (bareWords command given) =
      .single command :: given.toList.map fun f => .flag f .bare := by
  unfold bareWords
  rw [groups_single hcommand]
  cases given with
  | none => rfl
  | some f =>
    show _ :: groups ["--" ++ f] = _
    rw [groups_bare (hgiven f rfl).no_equals (by simp)]
    rfl

theorem normal_dropChars (hf : '-' ∉ f.toList) :
    normal (Text.dropChars 2 f) = Text.dropChars 2 f := by
  refine normal_of_no_dash fun h => hf ?_
  unfold Text.dropChars at h
  rw [String.toList_ofList] at h
  exact List.mem_of_mem_drop h

theorem readFlags_bare (hcommand : isFlag command = false) (hgiven : ∀ f ∈ given, IsPlainName f) :
    readFlags (Keywords.of [] true (bareWords command given)).named =
      .ok (given.toList.map bareEntry) := by
  have hgroups := groups_bareWords hcommand hgiven
  unfold Keywords.of
  rw [hgroups]
  cases given with
  | none => rfl
  | some f =>
    have hdash := (hgiven f rfl).no_dash
    show readFlags [(normal (bareFlag [] f).1, (bareFlag [] f).2)] = .ok [bareEntry f]
    unfold bareFlag bareEntry
    cases Text.startsWith "no" f with
    | true =>
      show readFlags [(normal (Text.dropChars 2 f), "False")] = _
      rw [normal_dropChars hdash]
      rfl
    | false =>
      show readFlags [(normal f, "True")] = _
      rw [normal_of_no_dash hdash]
      rfl

/-- a call for help behind the command is none of its words -/
theorem splitFlags_help (hcommand : command ≠ "--") :
    splitFlags ([command, "--help"].map .text) false =
      .ok ⟨[.text command], [.text "-h"], [command, "--", "-h"].map .text⟩ := by
  have hmark : (Value.text command).isText "--" = false :=
    Bool.eq_false_iff.2 fun e => hcommand (Value.text.inj (isText_iff.1 e))
  have hwords : ∀ x ∈ [Value.text command] ++ [.text "--help"], x.isText "--" = false := by
    simpa using ⟨hmark, by decide⟩
  exact congrArg Except.ok (separateBy_help (fun _ => isText_iff.2 rfl) (by decide) (.inr (by decide)) hwords)

end

/-! ## making the class -/

section
variable {l : Launch} {p : Program} {w w' : World Session} {s : Settings} {program : String}
  {words : List String} {flags : Layer}

theorem making_of_fill (hform : l.form.allDecorations = [])
    (hflags : readFlags (Keywords.of [] true words).named = .ok flags)
    (hself : flags.lookup "self" = none)
    (hfill : outcome (fill p l.form.draftHook? flags)
      (l.ready s ((program :: words).map .text) w) = (.ok (), w')) :
    ∃ m, l.making p w s program words words = (.ok m, w') := by
  have hc : (l.commandClass s).IsCommand := isCommand_prepared hform _ _
  unfold Launch.making
  rw [outcome_moveByCall_flags _ hc, hflags]
  dsimp only
  rw [instantiate_flags _ hc, hself]
  simp only [Option.isSome_none, Bool.false_eq_true, if_false, bind_assoc, pure_bind]
  exact ⟨_, outcome_bind_of_ok hfill⟩

theorem making_of_self (hform : l.form.allDecorations = [])
    (hflags : readFlags (Keywords.of [] true words).named = .ok flags)
    (hself : (flags.lookup "self").isSome = true) :
    l.making p w s program words words = (.error (multipleValues "cli.<locals>.init" "self"),
      l.ready s ((program :: words).map .text) w) := by
  have hc : (l.commandClass s).IsCommand := isCommand_prepared hform _ _
  unfold Launch.making
  rw [outcome_moveByCall_flags _ hc, hflags]
  dsimp only
  rw [instantiate_flags _ hc, if_pos hself]
  rfl

end

/-! ## the command line -/

/-- a program that is started with words, at a terminal -/
def Class.started (form : Class) (words : List String) : Launch :=
  ⟨form, words.map .text, none, false⟩

/-- a program that can be prepared, one of whose commands is a method -/
structure Class.HasCommand (form : Class) (w : World Session) (s : Settings) (command : String)
    (r : Routine) : Prop where
  undecorated : form.allDecorations = []
  registered : w.state.registry.schema = .settings s
  names : checkParamNames s.fields = .ok ()
  params : s.params ≠ []
  methods : checkMethods s.params (form.asCommand.methods.map (·.2)) = .ok ()
  word : Text.isWord command.toList = true
  visible : isPublic command = true
  not_version : command ≠ versionName
  method : form.member? command = some (.plain (.routine r))
  receiver : r.receiver.isSome = true

section
variable {form : Class} {w : World Session} {s : Settings} {program command : String} {r : Routine}
  {given : Option String}

/-- a bare flag ends the words, so the command line is left as it is -/
theorem flaggedLine_bare (hparams : s.params ≠ []) (hgiven : ∀ f ∈ given, IsPlainName f) :
    flaggedLine s.params ((program :: bareWords command given).map .text) =
      .ok ((program :: bareWords command given).map .text) := by
  cases given with
  | none => rfl
  | some f =>
    have hends := endsWords_flag (hgiven f rfl)
    exact flaggedLine_of_endsWords hparams hends (.text program) (.text command) []

theorem dashes_ne_of_not_isFlag {f t : String} (h : isFlag t = false) : "--" ++ f ≠ t := by
  rintro rfl
  rw [isFlag_dashes] at h
  cases h

theorem ne_of_mem_bareWords {t y : String} (hword : Text.isWord command.toList = true)
    (ht : '-' ∈ t.toList) (hgiven : ∀ f ∈ given, "--" ++ f ≠ t) (hy : y ∈ bareWords command given) :
    y ≠ t := by
  rcases List.mem_cons.1 hy with rfl | hy
  · exact ne_of_isWord hword ht
  · obtain ⟨f, hf, rfl⟩ := List.mem_map.1 hy
    exact hgiven f (Option.mem_toList.1 hf)

theorem bare_commands (x : form.HasCommand w s command r) (program : String)
    (hgiven : ∀ f ∈ given, IsPlainName f ∧ f ≠ "help") :
    (form.started (program :: bareWords command given)).Commands w s program
      (bareWords command given) (bareWords command given) command where
  prepares := by
    refine ⟨rfl, x.registered, x.names, x.methods, ?_⟩
    show flaggedLine s.params ((program :: bareWords command given).map .text ++ []) = _
    rw [List.append_nil]
    exact flaggedLine_bare x.params fun f hf => (hgiven f hf).1
  undecorated := x.undecorated
  not_version := by
    refine Bool.eq_false_iff.2 fun h => ?_
    have hlast := (Bool.and_eq_true_iff.1 h).2
    cases given with
    | none => exact x.not_version (Value.text.inj (isText_iff.1 hlast))
    | some f =>
      have hflag : "--" ++ f ≠ versionName := dashes_ne_of_not_isFlag (by decide)
      exact hflag (Value.text.inj (isText_iff.1 hlast))
  unmarked := by
    refine fun h => ne_of_mem_bareWords x.word (by decide) (fun f hf e => ?_) h rfl
    have hempty : f = "" := (flagBody_dashes f).symm.trans (congrArg flagBody e)
    exact (hgiven f hf).1.ne_empty hempty
  not_help y hy := by
    have hmem : y ∈ bareWords command given := List.mem_of_getLast? hy
    refine ⟨ne_of_mem_bareWords x.word (by decide) (fun f _ => ?_) hmem,
      ne_of_mem_bareWords x.word (by decide) (fun f hf e => ?_) hmem⟩
    · exact dashes_ne_of_not_isFlag (by decide)
    · exact (hgiven f hf).2 ((flagBody_dashes f).symm.trans (congrArg flagBody e))
  front := by
    refine congrArg Prod.fst (splitAtSeparator_of_none fun v hv => ?_)
    obtain ⟨y, hy, rfl⟩ := List.mem_map.1 hv
    refine Bool.eq_false_iff.2 fun e => ?_
    refine ne_of_mem_bareWords x.word (t := "-") (by decide) (fun f _ => ?_) hy
      (Value.text.inj (isText_iff.1 e))
    exact dashes_ne_of_not_isFlag (by decide)
  left := by
    refine left_of_flags (not_isFlag_of_isWord x.word) fun g hg => ?_
    cases given with
    | none => cases hg
    | some f =>
      have hgroups : groups ["--" ++ f] = [.flag f .bare] :=
        groups_bare (hgiven f rfl).1.no_equals (by simp)
      obtain rfl := List.mem_singleton.1 (hgroups ▸ hg : g ∈ [Group.flag f .bare])
      rfl
  command_ne := ne_of_isWord x.word (by decide)

theorem bare_calls (given : Option String) {p : Program} {w₁ : World Session} {v : Value}
    (x : form.HasCommand w s command r) (hgiven : ∀ f ∈ given, IsPlainName f ∧ f ≠ "help")
    (hself : ∀ f ∈ given, (bareEntry f).1 ≠ "self")
    (hmember : memberFor (.object (form.asCommand.prepared s.params s.help) []) (.text command) =
      .ok (some v))
    (hfill : outcome (fill p form.draftHook? (given.toList.map bareEntry))
      ((form.started (program :: bareWords command given)).ready s
        ((program :: bareWords command given).map .text) w) = (.ok (), w₁)) :
    (form.started (program :: bareWords command given)).Calls p w s program
      (bareWords command given) v w₁ := by
  have hflags := readFlags_bare (not_isFlag_of_isWord x.word) fun f hf => (hgiven f hf).1
  have hnone : (given.toList.map bareEntry).lookup "self" = none := by
    cases given with
    | none => rfl
    | some f =>
      show [bareEntry f].lookup "self" = none
      rw [lookup_cons_name, if_neg (hself f rfl).symm]
      rfl
  obtain ⟨m, hmade⟩ := making_of_fill (l := form.started (program :: bareWords command given))
    x.undecorated hflags hnone hfill
  exact (bare_commands x program hgiven).calls hmember hmade

theorem bare_fails {f : String} (x : form.HasCommand w s command r) (program : String)
    (hf : IsPlainName f) (hself : (bareEntry f).1 = "self") (p : Program) :
    outcome (launch p (form.started (program :: bareWords command (some f)))) w =
      outcome (reporting p.failureTable
        (throw (multipleValues "cli.<locals>.init" "self") : Run Session Unit) >>=
          fun _ => pure (.class form.asCommand))
        ((form.started (program :: bareWords command (some f))).ready s
          ((program :: bareWords command (some f)).map .text) w) := by
  have hhelp : f ≠ "help" := by
    rintro rfl
    exact absurd hself (by decide)
  have hgiven : ∀ g ∈ some f, IsPlainName g ∧ g ≠ "help" := fun g hg =>
    Option.some.inj hg ▸ ⟨hf, hhelp⟩
  have hflags := readFlags_bare (not_isFlag_of_isWord x.word) fun g hg => (hgiven g hg).1
  have hsome : ([bareEntry f].lookup "self").isSome = true := by
    rw [lookup_cons_name, if_pos hself.symm]
    rfl
  exact (bare_commands x program hgiven).fails (making_of_self x.undecorated hflags hsome)

end

/-- **A bare flag.**  Where the program would call a method if it were given the command alone, it
calls the same one if it is given the flag of a switch as well, as soon as the configuration can be
filled from what the flag stands for.  Without a hook the switch is then on, and all else is as it
would be without the flag, if the name of the switch is neither `self` nor `help` and does not begin
with `no`.  If it begins with `no`, the rest of it is turned off instead: where nothing has that name,
a value is added under it, and the switch is as it would be without the flag. -/
theorem bare_flag_switches {form : Class} {p : Program} {w w₀ : World Session} {s : Settings}
    {program command f : String} {r : Routine} (x : form.HasCommand w s command r)
    (hf : s.HasSwitch f)
    (hfill : outcome (fill p form.draftHook? [])
      ((form.started [program, command]).ready s ([program, command].map .text) w) = (.ok (), w₀)) :
    let l := form.started [program, command, "--" ++ f]
    let words := [command, "--" ++ f]
    let ready := l.ready s ((program :: words).map .text) w
    let rest := Text.dropChars 2 f
    ∃ r', (r' = r ∨ r' = r.prepared s.params s.help) ∧
      let v := Value.method (.object (l.commandClass s) []) r'
      (form.started [program, command]).Calls p w s program [command] v w₀ ∧
      (f ≠ "help" → (bareEntry f).1 ≠ "self" → ∀ w₁,
        outcome (fill p form.draftHook? [bareEntry f]) ready = (.ok (), w₁) →
          l.Calls p w s program words v w₁) ∧
      (form.draftHook? = none → Text.startsWith "no" f = false → f ≠ "self" → f ≠ "help" →
        ∃ w₁, l.Calls p w s program words v w₁ ∧ w₁.state.config.get f = .ok (.bool true) ∧
          ∀ n, n ≠ f → w₁.state.config.values.lookup n = w₀.state.config.values.lookup n) ∧
      (form.draftHook? = none → Text.startsWith "no" f = true → rest ≠ "self" →
        isPublic rest = true → s.get? rest = none →
        ∃ w₁, l.Calls p w s program words v w₁ ∧ w₁.state.config.get rest = .ok (.bool false) ∧
          ∀ n, n ≠ rest → w₁.state.config.values.lookup n = w₀.state.config.values.lookup n) ∧
      (f = "self" ∨ f = "noself" → outcome (launch p l) w =
        outcome (reporting p.failureTable
          (throw (multipleValues "cli.<locals>.init" "self") : Run Session Unit) >>=
            fun _ => pure (.class form.asCommand)) ready) ∧
      (f = "help" → splitFlags (words.map .text) false =
        .ok ⟨[.text command], [.text "-h"], [command, "--", "-h"].map .text⟩) := by
  have hplain : IsPlainName f := isPlainName_of_isParamName
    (isParamName_of_mem_fields x.names (Settings.mem_fields_of_mem_names hf.once hf.field))
  obtain ⟨r', hr', hmember⟩ :=
    memberFor_method (l := form.started [program, command]) s x.visible x.method x.receiver
  have hcalls : f ≠ "help" → (bareEntry f).1 ≠ "self" → ∀ w₁,
      outcome (fill p form.draftHook? [bareEntry f])
        ((form.started [program, command, "--" ++ f]).ready s
          ([program, command, "--" ++ f].map .text) w) = (.ok (), w₁) →
      (form.started [program, command, "--" ++ f]).Calls p w s program [command, "--" ++ f]
        (.method (.object (form.asCommand.prepared s.params s.help) []) r') w₁ := by
    intro hhelp hself w₁ h
    refine bare_calls (some f) x (fun g hg => ?_) (fun g hg => ?_) hmember h
    · obtain rfl := Option.some.inj hg
      exact ⟨hplain, hhelp⟩
    · obtain rfl := Option.some.inj hg
      exact hself
  have hregistered : ∀ ws, ((form.started ws).ready s (ws.map .text) w).state.registry.schema =
      .settings s := fun _ => x.registered
  refine ⟨r', hr', bare_calls none x (by simp) (by simp) hmember hfill, hcalls,
    fun hhook hno hself hhelp => ?_, fun hhook hno hself hpublic hstranger => ?_,
    fun hname => ?_, ?_⟩
  · have hentry : bareEntry f = (f, .bool true) := by
      unfold bareEntry
      rw [hno]
      rfl
    rw [hhook] at hcalls hfill
    rw [hentry] at hcalls
    obtain ⟨w₁, hrun, hon, hothers⟩ := fill_of_switch hf (hregistered [program, command])
      (hregistered [program, command, "--" ++ f]) rfl hfill
    exact ⟨w₁, hcalls hhelp hself w₁ hrun, hon, hothers⟩
  · have hentry : bareEntry f = (Text.dropChars 2 f, .bool false) := by
      unfold bareEntry
      rw [hno]
      rfl
    have hhelp : f ≠ "help" := by
      rintro rfl
      cases hno
    rw [hhook] at hcalls hfill
    rw [hentry] at hcalls
    obtain ⟨w₁, hrun, hoff, hothers⟩ := fill_of_stranger (v := .bool false) hf.once
      (hregistered [program, command]) (hregistered [program, command, "--" ++ f]) rfl hpublic
      (by simp) hstranger hfill
    exact ⟨w₁, hcalls hhelp hself w₁ hrun, hoff, hothers⟩
  · refine bare_fails x program hplain ?_ p
    rcases hname with rfl | rfl
    · decide
    · decide
  · rintro rfl
    exact splitFlags_help (ne_of_isWord x.word (by decide))

def sampleSwitchKinds : List (String × Kind) := [("quiet", .bool), ("notify", .bool)]

def sampleSwitchFields : Layer := [("quiet", .bool false), ("notify", .bool false)]

def sampleSwitches : Settings := sampleSettings sampleSwitchKinds sampleSwitchFields

def sampleSwitchesWorld : World Session := sampleSession sampleSwitchKinds sampleSwitchFields

theorem sampleRun_hasCommand : (sampleRun []).form.HasCommand sampleSwitchesWorld sampleSwitches
    "run" sampleMethod where
  undecorated := rfl
  registered := rfl
  names := (exists_of_isOk (by decide +kernel)).choose_spec
  params := by decide +kernel
  methods := rfl
  word := by decide
  visible := by decide
  not_version := by decide
  method := rfl
  receiver := rfl

/-- of two switches, `--quiet` turns its own on, and `--notify` adds a value `tify` that is off -/
theorem bare_flag_switches_sample :
    (∃ r w₀, (sampleRun []).Calls sampleEmpty sampleSwitchesWorld sampleSwitches "prog" ["run"]
        (.method (.object ((sampleRun []).commandClass sampleSwitches) []) r) w₀ ∧
      ∃ w₁, (sampleRun ["--quiet"]).Calls sampleEmpty sampleSwitchesWorld sampleSwitches "prog"
          ["run", "--quiet"]
          (.method (.object ((sampleRun ["--quiet"]).commandClass sampleSwitches) []) r) w₁ ∧
        w₁.state.config.get "quiet" = .ok (.bool true) ∧
        w₁.state.config.values.lookup "notify" = w₀.state.config.values.lookup "notify") ∧
    (∃ r w₀, (sampleRun []).Calls sampleEmpty sampleSwitchesWorld sampleSwitches "prog" ["run"]
        (.method (.object ((sampleRun []).commandClass sampleSwitches) []) r) w₀ ∧
      ∃ w₁, (sampleRun ["--notify"]).Calls sampleEmpty sampleSwitchesWorld sampleSwitches "prog"
          ["run", "--notify"]
          (.method (.object ((sampleRun ["--notify"]).commandClass sampleSwitches) []) r) w₁ ∧
        w₁.state.config.get "tify" = .ok (.bool false) ∧
        w₁.state.config.values.lookup "notify" = w₀.state.config.values.lookup "notify") := by
  have honce : sampleSwitches.schema.form.DeclaresOnce := by decide
  have hquiet : sampleSwitches.HasSwitch "quiet" := ⟨honce, by decide +kernel, rfl, rfl⟩
  have hnotify : sampleSwitches.HasSwitch "notify" := ⟨honce, by decide +kernel, rfl, rfl⟩
  have hfill : outcome (fill sampleEmpty (sampleRun []).form.draftHook? [])
      (((sampleRun []).form.started ["prog", "run"]).ready sampleSwitches
        (["prog", "run"].map .text) sampleSwitchesWorld) = (.ok (), _) :=
    outcome_of_isOk (by decide +kernel)
  refine ⟨?_, ?_⟩
  · obtain ⟨r, -, hcalls, -, hon, -⟩ := bare_flag_switches sampleRun_hasCommand hquiet hfill
    obtain ⟨w₁, hcalls₁, hget, hothers⟩ := hon rfl (by decide) (by decide) (by decide)
    exact ⟨r, _, hcalls, w₁, hcalls₁, hget, hothers "notify" (by decide)⟩
  · obtain ⟨r, -, hcalls, -, -, hoff, -⟩ := bare_flag_switches sampleRun_hasCommand hnotify hfill
    have hstranger : sampleSwitches.get? (Text.dropChars 2 "notify") = none := by
      rw [Settings.get?_of_isPublic (by decide)]
      rfl
    obtain ⟨w₁, hcalls₁, hget, hothers⟩ := hoff rfl (by decide) (by decide) (by decide) hstranger
    exact ⟨r, _, hcalls, w₁, hcalls₁, hget, hothers "notify" (by decide)⟩

end CommandLine
