import CommandLine.Proofs.Filling

/-!
# What the sources give

`Settings.fileValues` says entry by entry what becomes of a section of the configuration file: an
entry that is named like a field is cast to the type of the value that the field has, any other entry
is left out.  A cast that fails ends the reading, whether or not another source gives the field a
value (`fileValues_cons_of_mem`, `fileValues_append`).  `outcome_fileLayer` shows that this is what
the file adds to the layers.

A variable of the environment gives the field of its name its text (`lookup_environmentLayer`).  An
environment file that is not there and an empty password store add nothing
(`outcome_envFileLayer_of_not_isFile`, `outcome_secretLayer_of_no_files`).
-/

namespace CommandLine

/-- the file at a path can be read, and its section holds these values -/
def Surroundings.HasSection (a : Surroundings) (path : Path) (vs : List (String × String)) : Prop :=
  a.exists? (Path.ofText .posix path.text) = true ∧
    sectionValues a (Path.ofText .posix path.text) = .ok (some vs)

def Settings.configPath? (s : Settings) (a : Surroundings) : Except Error (Option Path) :=
  configPath a (s.get? Settings.fileName) (s.get? Settings.cwdName)

/-- what a section gives the fields of some settings -/
def Settings.fileValues (s : Settings) (vs : List (String × String)) : Except Error Layer :=
  (castAllLike s.get (keepFields s.fields (textEntries vs))).map namedEntries

/-! ## entry by entry -/

section
variable {s : Settings} {k v : String} {vs : List (String × String)}

theorem fileValues_nil : s.fileValues [] = .ok [] := rfl

theorem fileValues_cons_of_not_mem (h : k ∉ s.fields) :
    s.fileValues ((k, v) :: vs) = s.fileValues vs := by
  have hk : ¬ s.fields.contains k = true := fun hc => h (List.contains_iff_mem.1 hc)
  have hkeep : keepFields s.fields (textEntries ((k, v) :: vs)) =
      keepFields s.fields (textEntries vs) := List.filter_cons_of_neg hk
  unfold Settings.fileValues
  rw [hkeep]

theorem fileValues_cons_of_mem (h : k ∈ s.fields) :
    s.fileValues ((k, v) :: vs) = (s.get k >>= fun current => castLike current (.text v) >>=
      fun x => (s.fileValues vs).map ((k, x) :: ·)) := by
  have hk : s.fields.contains k = true := List.contains_iff_mem.2 h
  have hkeep : keepFields s.fields (textEntries ((k, v) :: vs)) =
      (Value.text k, Value.text v) :: keepFields s.fields (textEntries vs) :=
    List.filter_cons_of_pos hk
  unfold Settings.fileValues
  rw [hkeep]
  show Except.map namedEntries (s.get k >>= fun current => castLike current (.text v) >>=
    fun x => castAllLike s.get (keepFields s.fields (textEntries vs)) >>=
      fun rest => .ok ((Value.text k, x) :: rest)) = _
  cases s.get k with
  | error e => rfl
  | ok current =>
    show Except.map namedEntries (castLike current (.text v) >>= _) =
      (castLike current (.text v) >>= _)
    cases castLike current (.text v) with
    | error e => rfl
    | ok x =>
      show Except.map namedEntries (castAllLike s.get _ >>= _) = _
      cases castAllLike s.get (keepFields s.fields (textEntries vs)) <;> rfl

theorem fileValues_append (vs ws : List (String × String)) :
    s.fileValues (vs ++ ws) =
      (s.fileValues vs >>= fun l => (s.fileValues ws).map (l ++ ·)) := by
  induction vs with
  | nil =>
    show s.fileValues ws = (s.fileValues ws).map ([] ++ ·)
    cases s.fileValues ws <;> rfl
  | cons p vs ih =>
    obtain ⟨k, v⟩ := p
    rw [List.cons_append]
    by_cases h : k ∈ s.fields
    · rw [fileValues_cons_of_mem h, fileValues_cons_of_mem h, ih]
      cases s.get k with
      | error e => rfl
      | ok current =>
        show (castLike current (.text v) >>= _) = ((castLike current (.text v) >>= _) >>= _)
        cases castLike current (.text v) with
        | error e => rfl
        | ok x =>
          cases s.fileValues vs with
          | error e => rfl
          | ok l => cases s.fileValues ws <;> rfl
    · rw [fileValues_cons_of_not_mem h, fileValues_cons_of_not_mem h, ih]

end

/-! ## the layer -/

theorem outcome_readConfig {σ : Type} {a : Surroundings} {path : Path}
    {vs : List (String × String)} (h : a.HasSection path vs) (w : World σ) :
    outcome (readConfig a path.text) w = (.ok vs, w) := by
  obtain ⟨hex, hvs⟩ := h
  unfold readConfig
  simp only [hex, hvs, Bool.not_true, Bool.false_eq_true, if_false]
  rfl

theorem outcome_fileLayer {σ : Type} {s : Settings} {a : Surroundings} {path : Path}
    {vs : List (String × String)} (hp : s.configPath? a = .ok (some path))
    (hvs : a.HasSection path vs) (w : World σ) :
    outcome (s.fileLayer a) w = (s.fileValues vs, w) := by
  show outcome (liftM (s.configPath? a) >>= _) w = _
  rw [hp, outcome_bind_of_ok (outcome_liftM _ w)]
  show outcome (readConfig a path.text >>= _) w = _
  rw [outcome_bind_of_ok (outcome_readConfig hvs w)]
  show outcome (liftM (castAllLike s.get (keepFields s.fields (textEntries vs))) >>= _) w = _
  rw [outcome_bind, outcome_liftM]
  unfold Settings.fileValues
  cases castAllLike s.get (keepFields s.fields (textEntries vs)) <;> rfl

/-! ## the environment -/

theorem lookup_environmentLayer {s : Settings} {f : String} (hf : f ∈ s.fields) (a : Surroundings) :
    (s.environmentLayer a).lookup f = (a.env.lookup f).map .text := by
  unfold Settings.environmentLayer
  induction a.env with
  | nil => rfl
  | cons p env ih =>
    obtain ⟨k, v⟩ := p
    rw [lookup_cons_name]
    by_cases hk : s.fields.contains k = true
    · have hkeep : keepFields s.fields (textEntries ((k, v) :: env)) =
          (Value.text k, Value.text v) :: keepFields s.fields (textEntries env) :=
        List.filter_cons_of_pos hk
      rw [hkeep]
      show ((k, Value.text v) :: namedEntries (keepFields s.fields (textEntries env))).lookup f = _
      rw [lookup_cons_name, ih]
      split <;> rfl
    · have hkeep : keepFields s.fields (textEntries ((k, v) :: env)) =
          keepFields s.fields (textEntries env) := List.filter_cons_of_neg hk
      have hne : f ≠ k := fun e => hk (List.contains_iff_mem.2 (e ▸ hf))
      rw [hkeep, ih, if_neg hne]

/-! ## sources that are not there -/

theorem outcome_readEnvFile_of_not_isFile {σ : Type} {a : Surroundings} {dir : Path}
    (h : a.isFile (dir.join (Path.ofText .posix ".env")) = false) (w : World σ) :
    outcome (readEnvFile a dir) w = (.ok [], w) := by
  unfold readEnvFile
  simp only [h]
  rfl

theorem outcome_envFileLayer_of_not_isFile {σ : Type} {s : Settings} {a : Surroundings} {p : Path}
    (hd : s.get? Settings.cwdName = some (.path p)) (hk : p.kind = .posix)
    (hf : a.isFile (p.join (Path.ofText .posix ".env")) = false) (w : World σ) :
    outcome (s.envFileLayer a) w = (.ok [], w) := by
  have hpath : pathOf (.path p) = .ok p := congrArg Except.ok (if_pos ⟨hk, by decide⟩)
  have hvalues : outcome (envFileValues a (some (.path p)) : Run σ (List (Value × Value))) w
      = (.ok [], w) := by
    show outcome (liftM (pathOf (.path p)) >>= fun dir => readEnvFile a dir >>= _) w = _
    rw [hpath, outcome_bind_of_ok (outcome_liftM _ w),
      outcome_bind_of_ok (outcome_readEnvFile_of_not_isFile hf w)]
    rfl
  unfold Settings.envFileLayer
  rw [hd, outcome_bind_of_ok hvalues]
  rfl

theorem outcome_secrets_of_no_files {σ : Type} (d : Decryptor σ) {a : Surroundings}
    (ids : List (String × String)) (h : a.secretFiles = []) (keys : List String) (w : World σ) :
    outcome (secrets d a ids keys) w = (.ok [], w) := by
  have hkey : ∀ key, outcome (decrypt d a ids key) w = (.ok "", w) := by
    intro key
    unfold decrypt
    rw [h]
    rfl
  induction keys with
  | nil => rfl
  | cons key keys ih =>
    unfold secrets
    rw [outcome_bind_of_ok (hkey key), outcome_bind_of_ok ih]
    rfl

theorem outcome_secretLayer_of_no_files {σ : Type} (s : Settings) (d : Decryptor σ)
    {a : Surroundings} (h : a.secretFiles = []) (w : World σ) :
    outcome (s.secretLayer d a) w = (.ok [], w) := by
  unfold Settings.secretLayer
  rw [outcome_bind_of_ok (outcome_secrets_of_no_files d _ h _ w)]
  rfl

end CommandLine
