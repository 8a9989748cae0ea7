import CommandLine.Proofs.Casts
import CommandLine.Proofs.Finishing
import CommandLine.Proofs.SingleOption
import CommandLine.Proofs.Sources

/-!
# A field that only the file gives

`OnlyInFile` is a program whose configuration file holds the single line `f = v`, for a field that no
stronger source knows.  What becomes of the field is said in full by `fill_only_in_file`:

* the text is cast to the type of the field's current value, which is not the cast of the schema: a
  list, a tuple or a set gets the characters of the text, where the schema makes the text its only
  element, so that the two agree only about texts of one character;
* a field that is still to be given has no type to cast to, and the filling fails;
* the file gives nothing for a field whose name has upper case letters, since the names in the file
  lose theirs, and nothing at all if a percent sign in it cannot be expanded.
-/

namespace CommandLine

/-- a filling does with a field what a cast says: it ends with the value, or in the error -/
def EndsWith (r : Except Error Unit × World Session) (f : String) (c : Except Error Value) : Prop :=
  match c with
  | .ok x => r.1 = .ok () ∧ r.2.state.config.get f = .ok x
  | .error e => r.1 = .error e

theorem EndsWith.unique {r : Except Error Unit × World Session} {f : String}
    {c d : Except Error Value} (hc : EndsWith r f c) (hd : EndsWith r f d) : c = d := by
  cases c with
  | ok x =>
    cases d with
    | ok y => exact hc.2.symm.trans hd.2
    | error e => cases hc.1.symm.trans hd
  | error e =>
    cases d with
    | ok y => cases hd.1.symm.trans hc
    | error e' => exact congrArg Except.error (Except.error.inj (hc.symm.trans hd))

/-- a program whose file holds one line, for a field that no stronger source knows; all else is in
order -/
structure OnlyInFile (p : Program) (flags : Layer) (w : World Session) (f v : String) where
  /-- the settings after the flags -/
  s : Settings
  envFile : Layer
  secret : Layer
  /-- the worlds after the flags, after the environment file, and after the secrets -/
  w₁ : World Session
  w₂ : World Session
  w₃ : World Session
  path : Path
  taken : outcome (takeFlags p flags) w = (.ok s, w₁)
  envFile_read : outcome (s.envFileLayer p.surroundings) w₁ = (.ok envFile, w₂)
  secret_read : outcome (s.secretLayer p.decryptor p.surroundings) w₂ = (.ok secret, w₃)
  found : s.configPath? p.surroundings = .ok (some path)
  there : p.surroundings.exists? (Path.ofText .posix path.text) = true
  holds : p.surroundings.text? (Path.ofText .posix path.text) = some (singleOption f v)
  name : IsOptionName f
  line : IsOneLine v
  field : f ∈ s.names
  not_flag : flags.lookup f = none
  not_environment : (s.environmentLayer p.surroundings).lookup f = none
  not_envFile : envFile.lookup f = none
  others : InOrderBut s [flags, s.environmentLayer p.surroundings, envFile, secret, s.entries] f

section
variable {p : Program} {flags : Layer} {w : World Session} {f v : String}

theorem OnlyInFile.hasSection (x : OnlyInFile p flags w f v) {v' : String}
    (hv : onlyValue f v = .ok v') :
    p.surroundings.HasSection x.path [(Text.lower f, v')] := by
  refine ⟨x.there, ?_⟩
  rw [sectionValues_singleOption x.name x.line x.holds, hv]

theorem OnlyInFile.fileLayer_of_error (x : OnlyInFile p flags w f v) {e : Ini.IniError}
    (hv : onlyValue f v = .error e) (w₀ : World Session) :
    ∃ w', outcome (x.s.fileLayer p.surroundings) w₀ = (.ok [], w') := by
  have hbad : sectionValues p.surroundings (Path.ofText .posix x.path.text) =
      .error (e.toError "") := by
    rw [sectionValues_singleOption x.name x.line x.holds, hv]
  have hread : ∃ w', outcome (readConfig p.surroundings x.path.text) w₀ = (.ok [], w') := by
    unfold readConfig
    simp only [x.there, hbad, Bool.not_true, Bool.false_eq_true, if_false]
    exact ⟨_, rfl⟩
  obtain ⟨w', hw⟩ := hread
  refine ⟨w', ?_⟩
  show outcome (liftM (x.s.configPath? p.surroundings) >>= _) w₀ = _
  rw [x.found, outcome_bind_of_ok (outcome_liftM _ w₀)]
  show outcome (readConfig p.surroundings x.path.text >>= _) w₀ = _
  rw [outcome_bind_of_ok hw]
  rfl

theorem OnlyInFile.outcome_fill (x : OnlyInFile p flags w f v) {v' : String}
    (hv : onlyValue f v = .ok v') :
    outcome (fill p none flags) w = match x.s.fileValues [(Text.lower f, v')] with
      | .error e => (.error e, x.w₂)
      | .ok file => outcome (x.s.fillFrom none [flags, x.s.environmentLayer p.surroundings,
          x.envFile, file, x.secret, x.s.entries]) x.w₃ := by
  rw [fill_eq, outcome_bind_of_ok x.taken, outcome_bind_of_ok x.envFile_read, outcome_bind,
    outcome_fileLayer x.found (x.hasSection hv)]
  cases x.s.fileValues [(Text.lower f, v')] with
  | error e => rfl
  | ok file => exact outcome_bind_of_ok x.secret_read

theorem fileValues_single {s : Settings} (hf : f ∈ s.fields) {current : Value}
    (hg : s.get f = .ok current) (v' : String) :
    s.fileValues [(f, v')] = (castLike current (.text v')).map fun x => [(f, x)] := by
  rw [fileValues_cons_of_mem hf, hg, fileValues_nil]
  show (castLike current (.text v') >>= _) = _
  cases castLike current (.text v') <;> rfl

theorem OnlyInFile.firstIn_file (x : OnlyInFile p flags w f v) (y : Value) (n : String) :
    firstIn [flags, x.s.environmentLayer p.surroundings, x.envFile, [(f, y)], x.secret,
      x.s.entries] n = if n = f then some y else
        firstIn [flags, x.s.environmentLayer p.surroundings, x.envFile, x.secret, x.s.entries] n := by
  simp only [firstIn_cons, lookup_cons_name]
  by_cases e : n = f
  · subst e
    rw [x.not_flag, x.not_environment, x.not_envFile, if_pos rfl, if_pos rfl]
    rfl
  · rw [if_neg e, if_neg e]
    rfl

/-- the field ends with the cast of the text to the type of its current value -/
theorem OnlyInFile.endsWith_cast (x : OnlyInFile p flags w f v) (hd : w.state.DeclaresOnce)
    {k : Kind} (hk : k ∈ textKinds) (hkind : x.s.schema.kinds.lookup f = some k) {current : Value}
    (hg : x.s.get f = .ok current) {v' : String} (hv : onlyValue f v = .ok v')
    (hlower : Text.lower f = f) (htype : current.typeOf = .kind k) :
    EndsWith (outcome (fill p none flags) w) f (k.cast (.text v')) := by
  have hdecl := takeFlags_schema hd x.taken
  have hf := Settings.mem_fields_of_mem_names hdecl x.field
  rw [x.outcome_fill hv, hlower, fileValues_single hf hg, castLike_of_typeOf htype]
  cases hc : k.cast (.text v') with
  | error e => rfl
  | ok y =>
    obtain ⟨hnull, hcast⟩ := cast_cast_text hk hc
    have hschema : x.s.schema.cast f y = .ok y := by
      unfold Schema.cast
      rw [hkind]
      exact hcast
    have hothers := x.others.congr x.field (fun n hne => (x.firstIn_file y n).trans (if_neg hne))
    obtain ⟨w', hw, hget⟩ := fillFrom_of_inOrderBut hdecl (by simp) hothers x.field
      ((x.firstIn_file y f).trans (if_pos rfl)) hnull hschema x.w₃
    show EndsWith (outcome (x.s.fillFrom none [flags, x.s.environmentLayer p.surroundings,
      x.envFile, [(f, y)], x.secret, x.s.entries]) x.w₃) f (.ok y)
    rw [hw]
    exact ⟨rfl, hget⟩

end

/-- **What a field gets that only the file gives.**  The text, its percent signs expanded, is cast to
the type of the field's current value.  Where nothing is to be expanded, the name is in lower case
and the current value is of the declared type, this is the cast of the schema exactly if the type is
no container or the text is one character.  A field that is still to be given makes the filling fail;
a name with upper case letters, or a percent sign that cannot be expanded, makes the file give
nothing. -/
theorem fill_only_in_file {p : Program} {flags : Layer} {w : World Session} {f v : String}
    (x : OnlyInFile p flags w f v) (hd : w.state.DeclaresOnce) (k : Kind) (hk : k ∈ textKinds)
    (hkind : x.s.schema.kinds.lookup f = some k) (current : Value)
    (hg : x.s.get f = .ok current) :
    (∀ v', onlyValue f v = .ok v' → Text.lower f = f → current.typeOf = .kind k →
      EndsWith (outcome (fill p none flags) w) f (k.cast (.text v'))) ∧
    ('%' ∉ v.toList → Text.lower f = f → current.typeOf = .kind k →
      (EndsWith (outcome (fill p none flags) w) f (x.s.schema.cast f (.text v)) ↔
        k.isContainer = false ∨ v.length = 1)) ∧
    (∀ v', onlyValue f v = .ok v' → Text.lower f = f → current = .null →
      (outcome (fill p none flags) w).1 = .error (.takesNothing "NoneType")) ∧
    (Text.lower f ∉ x.s.fields ∨ (∃ e, onlyValue f v = .error e) →
      ∃ w', outcome (x.s.fileLayer p.surroundings) x.w₂ = (.ok [], w')) := by
  refine ⟨?_, ?_, ?_, ?_⟩
  · intro v' hv hlower htype
    exact x.endsWith_cast hd hk hkind hg hv hlower htype
  · intro hpercent hlower htype
    have hends := x.endsWith_cast hd hk hkind hg (onlyValue_of_no_percent hpercent f) hlower htype
    have hschema : x.s.schema.cast f (.text v) = k.cast ((Value.text v).wrapped k) := by
      unfold Schema.cast
      rw [hkind]
    rw [hschema, ← cast_text_eq_wrapped_iff hk]
    constructor
    · intro h
      exact hends.unique h
    · intro h
      rw [← h]
      exact hends
  · intro v' hv hlower hnull
    subst hnull
    have hf := Settings.mem_fields_of_mem_names (takeFlags_schema hd x.taken) x.field
    rw [x.outcome_fill hv, hlower, fileValues_single hf hg, castLike_null]
    rfl
  · rintro (hno | ⟨e, he⟩)
    · cases hv : onlyValue f v with
      | error e => exact x.fileLayer_of_error hv x.w₂
      | ok v' =>
        refine ⟨x.w₂, ?_⟩
        rw [outcome_fileLayer x.found (x.hasSection hv), fileValues_cons_of_not_mem hno,
          fileValues_nil]
    · exact x.fileLayer_of_error he x.w₂

def sampleOnlyInFile : OnlyInFile (sampleFile "abc") [] (sampleSession [("x", .list)] [("x", .list [])])
    "x" "abc" where
  s := sampleSettings [("x", .list)] [("x", .list [])]
  envFile := []
  secret := []
  w₁ := _
  w₂ := _
  w₃ := _
  path := Path.ofText .posix "/a.cfg"
  taken := takeFlags_eq_ok.2 ⟨_, _, rfl, rfl, rfl, rfl⟩
  envFile_read := outcome_envFileLayer_of_not_isFile rfl rfl (by decide +kernel) _
  secret_read := outcome_secretLayer_of_no_files _ _ (by decide +kernel) _
  found := rfl
  there := by decide +kernel
  holds := by decide +kernel
  name := by
    refine ⟨by decide, ?_⟩
    intro c hc
    rw [List.mem_singleton.1 (show c ∈ ['x'] from hc)]
    decide
  line := ⟨by decide, ⟨'a', by decide, by decide⟩, ⟨'c', by decide, by decide⟩⟩
  field := by decide +kernel
  not_flag := rfl
  not_environment := rfl
  not_envFile := rfl
  others := by
    have hnames : namesIn [[], [], [], [],
      (sampleSettings [("x", .list)] [("x", .list [])]).entries] = ["x", "cwd", "CFG"] := by
      decide +kernel
    refine ⟨?_, ?_⟩
    · intro n hn hne
      replace hn : n ∈ ["x", "cwd", "CFG"] := hn
      simp only [List.mem_cons, List.not_mem_nil, or_false] at hn
      rcases hn with rfl | rfl | rfl
      · exact absurd rfl hne
      · exact ⟨.path (Path.ofText .posix "/"), _, rfl, by rintro ⟨⟩, rfl⟩
      · exact ⟨.path (Path.ofText .posix "/a.cfg"), _, rfl, by rintro ⟨⟩, rfl⟩
    · intro n hn hno
      replace hn : n ∈ namesIn [[], [], [], [],
        (sampleSettings [("x", .list)] [("x", .list [])]).entries] := hn
      rw [hnames] at hn
      exact absurd hn hno

/-- the list gets the characters, and not the text as its only element -/
theorem fill_only_in_file_sample :
    EndsWith (outcome (fill (sampleFile "abc") none [])
      (sampleSession [("x", .list)] [("x", .list [])])) "x"
      (.ok (.list [.text "a", .text "b", .text "c"])) ∧
    ¬ EndsWith (outcome (fill (sampleFile "abc") none [])
      (sampleSession [("x", .list)] [("x", .list [])])) "x" (.ok (.list [.text "abc"])) := by
  have hd : (sampleSession [("x", .list)] [("x", .list [])]).state.DeclaresOnce := by
    intro t ht
    obtain rfl := Registered.settings.inj ht
    decide +kernel
  obtain ⟨hcast, hiff, -, -⟩ := fill_only_in_file sampleOnlyInFile hd .list (by decide) rfl
    (.list []) rfl
  have hlower : Text.lower "x" = "x" := by decide +kernel
  refine ⟨hcast "abc" (onlyValue_of_no_percent (by decide) "x") hlower rfl, ?_⟩
  intro h
  rcases (hiff (by decide) hlower rfl).1 h with h | h <;> cases h

end CommandLine
