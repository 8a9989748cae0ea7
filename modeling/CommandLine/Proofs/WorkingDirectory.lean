import CommandLine.Proofs.Defaults
import CommandLine.Proofs.NearestIds
import CommandLine.Proofs.OneFlag
import CommandLine.Proofs.Typing

/-!
# The working directory of a program

A schema with the field `cwd` says where a program works.  Before the sources are read, a relative directory
is made absolute in the settings, but a source that is stronger than the settings gives its own text once more
when the values are chosen, and that text is cast as it stands.  `fill_cwd` says which directory arrives: the
one of the settings, read from the running directory, if no other source has one, and otherwise the one of
the first source that has one, unchanged.  So the directory that arrives is absolute exactly if only the
settings give it or it was absolute before.
-/

namespace CommandLine

/-! ## joining -/

section
variable {a : Surroundings} {q : Path}

theorem join_of_isAbsolute (hkind : q.kind = .posix) (h : q.isAbsolute = true) :
    a.cwdPath.join q = q := by
  obtain ⟨kind, drive, root, names⟩ := q
  obtain rfl : kind = .posix := hkind
  have hroot : root ≠ "" := by
    unfold Path.isAbsolute Path.isDrivePath at h
    simpa using h
  unfold Path.join Surroundings.cwdPath
  simp [hroot]

theorem join_of_relative (hslashed : q.Slashed) (h : q.isAbsolute = false) :
    a.cwdPath.join q = ⟨.posix, "", "/", a.cwd ++ q.names⟩ := by
  have hroot : q.root = "" := by
    unfold Path.isAbsolute at h
    rw [hslashed.kind] at h
    simpa [Path.isDrivePath] using h
  unfold Path.join Surroundings.cwdPath
  simp [hroot, hslashed.drive]

theorem join_absolute (hslashed : q.Slashed) :
    (a.cwdPath.join q).isAbsolute = true ∧ (a.cwdPath.join q).kind = .posix := by
  cases h : q.isAbsolute with
  | true =>
    rw [join_of_isAbsolute hslashed.kind h]
    exact ⟨h, hslashed.kind⟩
  | false =>
    rw [join_of_relative hslashed h]
    exact ⟨rfl, rfl⟩

end

/-! ## the directory of the settings -/

namespace Settings

theorem get?_take_of_field {s : Settings} {n : String} (hd : s.schema.form.DeclaresOnce) (hn : n ∈ s.names)
    {flags : Layer} (hflags : flags.lookup n = none) : (s.take flags).1.get? n = s.get? n := by
  induction flags generalizing s with
  | nil => rfl
  | cons flag flags ih =>
    obtain ⟨m, v⟩ := flag
    rw [lookup_cons_name] at hflags
    split at hflags
    · cases hflags
    · rename_i hne
      have hmethod := not_hasMethod_of_mem_fields (mem_fields_of_mem_names hd hn)
      unfold take
      split
      · exact ih hd hn hflags
      · split
        · rename_i x _
          have hset := switched_set s m x
          have hn' : n ∈ (s.set m x).names := names_congr hset.schema ▸ hn
          rw [ih (s := s.set m x) hd hn' hflags, hset.get?_of_ne hne (isPublic_of_mem_names hn) hmethod]
        · rfl

/-- only a path can be made absolute: it is read from the running directory -/
theorem get?_absolute {s t : Settings} {a : Surroundings} (hfield : (s.get? cwdName).isSome = true)
    (hslashed : ∀ q, s.get? cwdName = some (.path q) → q.Slashed) (h : s.absolute a.cwdPath = .ok t) :
    ∃ q, s.get? cwdName = some (.path q) ∧ t.get? cwdName = some (.path (a.cwdPath.join q)) := by
  obtain ⟨v, hv⟩ := Option.isSome_iff_exists.1 hfield
  unfold absolute at h
  rw [hv] at h
  cases v with
  | path q =>
    refine ⟨q, hv, ?_⟩
    dsimp only at h
    have hkind := (hslashed q hv).kind
    cases ha : q.isAbsolute with
    | true =>
      rw [ha, if_pos rfl] at h
      rw [← Except.ok.inj h, hv, join_of_isAbsolute hkind ha]
    | false =>
      have hposix : q.kind ≠ .pureWindows := by
        rw [hkind]
        decide
      rw [ha, if_neg Bool.false_ne_true, if_neg hposix] at h
      rw [← Except.ok.inj h]
      exact (switched_set s cwdName _).get?_self (by decide)
  | _ => cases h

end Settings

/-- **The directory that a program ends up with.**  Let a schema be made with a field `cwd` annotated as a
path, and let its settings have there nothing but paths as they are read from texts, if any.  If a filling
without a hook finishes, the directory in the configuration is the supplied one, read from the running
directory, if only the settings supply it; and it is the supplied one as it stands if the flags, the
environment, the environment file, the configuration file or the secrets do.  So it is absolute, and the
running directory joined with the supplied path, exactly if only the settings supply it or it has been
supplied as an absolute path. -/
theorem fill_cwd {σ : Type} (d : Declaration) (around : Surroundings) (packages : Packages)
    (u u' : World σ) (schema : Schema)
    (hmake : outcome (d.make around packages : Run σ Schema) u = (.ok schema, u'))
    (hkind : d.kinds.lookup Settings.cwdName = some (.path .posix))
    (p : Program) (flags : Layer) (w w' : World Session) (t : Settings)
    (ht : w.state.registry.schema = .settings t) (hs : t.schema = schema)
    (hown : ∀ q, t.get? Settings.cwdName = some (.path q) → q.Slashed)
    (h : outcome (fill p none flags) w = (.ok (), w')) :
    ∃ (s : Settings) (found : List Layer) (w₁ w₂ : World Session) (source : Value) (supplied arrived : Path),
      outcome (takeFlags p flags) w = (.ok s, w₁) ∧
      outcome (s.outside p.decryptor p.surroundings) w₁ = (.ok found, w₂) ∧
      (firstIn (flags :: found) Settings.cwdName).or (t.get? Settings.cwdName) = some source ∧
      castPath .posix source = .ok (.path supplied) ∧
      w'.state.config.get Settings.cwdName = .ok (.path arrived) ∧
      arrived = (if (firstIn (flags :: found) Settings.cwdName).isSome then supplied
        else p.surroundings.cwdPath.join supplied) ∧
      ((arrived.isAbsolute = true ∧ arrived = p.surroundings.cwdPath.join supplied) ↔
        firstIn (flags :: found) Settings.cwdName = none ∨ supplied.isAbsolute = true) := by
  subst hs
  have hpublic : isPublic Settings.cwdName = true := by decide
  obtain ⟨hkinds, hholds⟩ := make_holds hmake
  have hdecl := (make_declaresOnce d around packages hmake).1
  have hfield : Settings.cwdName ∈ t.names :=
    (hholds _ ((mem_names_iff_lookup d.kinds _).2 (hkind ▸ rfl))).mem_names hpublic
  -- the filling step by step: the flags, the sources, the first value for the directory
  rw [fill_outside] at h
  obtain ⟨s, w₁, htaken, h⟩ := outcome_bind_eq_ok.1 h
  obtain ⟨found, w₂, hfound, h⟩ := outcome_bind_eq_ok.1 h
  obtain ⟨before, taken, hbefore, htake, habsolute, -⟩ := takeFlags_eq_ok.1 htaken
  obtain rfl : before = t := by
    rw [ht] at hbefore
    exact (Registered.settings.inj hbefore).symm
  have htakeSchema : taken.schema = before.schema := by
    have hkeeps := before.take_schema flags
    rwa [htake] at hkeeps
  have hschema : s.schema = before.schema := (Settings.absolute_schema habsolute).trans htakeSchema
  have hnames : Settings.cwdName ∈ s.names := by
    rw [Settings.names_congr hschema]
    exact hfield
  obtain ⟨v, x, hfirst, -, hcast, hget⟩ := get_of_fillFrom (hschema ▸ hdecl) (by simp) hnames h
  replace hcast : castPath .posix v = .ok x := by
    unfold Schema.cast at hcast
    rw [hschema, hkinds, hkind] at hcast
    have hwrapped : v.wrapped (.path .posix) = v := if_neg (by simp [Value.isWrapped, Kind.isContainer])
    rwa [← hwrapped]
  obtain ⟨arrived, rfl, harrived⟩ := castPath_eq_ok hcast
  have hlayers : firstIn (flags :: (found ++ [s.entries])) Settings.cwdName =
      (firstIn (flags :: found) Settings.cwdName).or (s.entries.lookup Settings.cwdName) := by
    rw [← List.cons_append, firstIn_append]
    exact congrArg _ ((firstIn_cons s.entries [] _).trans Option.or_none)
  rw [hlayers] at hfirst
  cases hsource : firstIn (flags :: found) Settings.cwdName with
  | some source =>
    rw [hsource] at hfirst
    obtain rfl : source = v := Option.some.inj hfirst
    refine ⟨s, found, w₁, w₂, source, arrived, arrived, htaken, hfound, ?_, hcast, hget, ?_, ?_⟩
    · rw [hsource]
      rfl
    · rw [hsource]
      rfl
    · rw [hsource, or_iff_right (by rintro ⟨⟩)]
      exact ⟨fun hboth => hboth.1, fun ha => ⟨ha, (join_of_isAbsolute harrived ha).symm⟩⟩
  | none =>
    -- no flag has the name, so the settings still have their own directory, made absolute
    have hflag : flags.lookup Settings.cwdName = none := by
      rw [firstIn_cons] at hsource
      exact (Option.or_eq_none_iff.1 hsource).1
    have hkept : taken.get? Settings.cwdName = before.get? Settings.cwdName := by
      have hkeeps := Settings.get?_take_of_field hdecl hfield hflag
      rwa [htake] at hkeeps
    have hsome := Settings.isSome_get?_of_mem_fields (Settings.mem_fields_of_mem_names hdecl hfield)
    obtain ⟨q, hq, hs⟩ := Settings.get?_absolute (hkept ▸ hsome) (hkept ▸ hown) habsolute
    rw [hkept] at hq
    have hslashed := hown q hq
    obtain ⟨habs, hposix⟩ := join_absolute (a := p.surroundings) hslashed
    have hentry : s.entries.lookup Settings.cwdName = some (.path (p.surroundings.cwdPath.join q)) := by
      rw [Settings.lookup_entries, if_pos hnames, hs]
      rfl
    rw [hsource, hentry] at hfirst
    obtain rfl := Option.some.inj hfirst
    rw [castPath_path (by decide) hposix] at hcast
    obtain rfl := Value.path.inj (Except.ok.inj hcast)
    refine ⟨s, found, w₁, w₂, .path q, q, _, htaken, hfound, ?_, castPath_path (by decide) hslashed.kind, hget,
      ?_, ?_⟩
    · rw [hsource, hq]
      rfl
    · rw [hsource]
      rfl
    · exact iff_of_true ⟨habs, rfl⟩ (.inl hsource)

def sampleDirectory : Declaration :=
  { name := "Sample"
    home := "sample"
    fields :=
      [ ⟨Settings.cwdName, some (.path .posix), some (.text "sub")⟩
      , ⟨Settings.fileName, none, some (.text "")⟩ ]
    hook := none
    source := none
    importer := none }

def sampleDirectorySchema : Schema :=
  ⟨(sampleDirectory.form.setMember Settings.cwdName (.path (Path.ofText .posix "sub"))).setMember versionName
    (.text "0.0.1"), sampleDirectory.kinds, sampleDirectory.lines⟩

theorem sampleDirectory_make : outcome (sampleDirectory.make {} ⟨[], []⟩ : Run Unit Schema) { state := () } =
    (.ok sampleDirectorySchema, { state := () }) := by
  have hsettle := settle_of_receive (k := .path .posix) (u := .text "sub") (v := .text "sub") rfl rfl rfl rfl
    (by simp)
  rw [ite_self] at hsettle
  have hcast : castDefaults sampleDirectory.given sampleDirectory.kinds sampleDirectory.form =
      .ok (sampleDirectory.form.setMember Settings.cwdName (.path (Path.ofText .posix "sub"))) := by
    have hone : castDefault (sampleDirectory.given.lookup Settings.cwdName) Settings.cwdName (.path .posix)
        sampleDirectory.form = _ := castDefault_of_member rfl (.text "sub") (.path .posix)
    rw [hsettle] at hone
    show castDefaults sampleDirectory.given [(Settings.cwdName, .path .posix)] _ = _
    unfold castDefaults
    rw [hone]
    rfl
  have hversion : programVersion {} ⟨[], []⟩ none = .ok "0.0.1" := rfl
  rw [make_of_castDefaults _ _ rfl hcast]
  show ((programVersion {} ⟨[], []⟩ none).map _, _) = _
  rw [hversion]
  rfl

/-- a relative directory that a flag gives stays relative -/
theorem fill_cwd_sample :
    (Path.ofText .posix "sub").isAbsolute = false ∧
    ∃ w', outcome (fill (sampleProgram [] []) none [(Settings.cwdName, .text "sub")])
        { state := Session.start.takeSchema sampleDirectorySchema } = (.ok (), w') ∧
      w'.state.config.get Settings.cwdName = .ok (.path (Path.ofText .posix "sub")) := by
  have hown : ∀ q, (⟨sampleDirectorySchema, []⟩ : Settings).get? Settings.cwdName = some (.path q) →
      q.Slashed := by
    intro q hq
    rw [Settings.get?_of_isPublic (by decide)] at hq
    obtain rfl : Path.ofText .posix "sub" = q := Value.path.inj (Option.some.inj hq)
    exact slashed_ofText "sub"
  have hrun := outcome_of_isOk (r := fill (sampleProgram [] []) none [(Settings.cwdName, .text "sub")])
    (w := { state := Session.start.takeSchema sampleDirectorySchema }) (by decide +kernel)
  obtain ⟨s, found, w₁, w₂, source, supplied, arrived, -, -, hsource, hsupplied, hget, harrived, -⟩ :=
    fill_cwd sampleDirectory {} ⟨[], []⟩ _ _ _ sampleDirectory_make rfl _ _ _ _ _ rfl rfl hown hrun
  have hflag : firstIn ([(Settings.cwdName, .text "sub")] :: found) Settings.cwdName =
      some (.text "sub") := firstIn_of_flag rfl found
  rw [hflag] at hsource harrived
  obtain rfl := Option.some.inj hsource
  obtain rfl := Value.path.inj (Except.ok.inj hsupplied)
  refine ⟨by decide +kernel, _, hrun, ?_⟩
  rw [hget, harrived]
  rfl

end CommandLine
