import CommandLine.Proofs.Launching
import CommandLine.Proofs.Schemas

/-!
# How the configuration is filled

`fill` takes the flags into the settings, reads the sources, makes a draft of them, and publishes
it.  Each of the four steps is taken apart once, into what it asks for and what it leaves:

* `takeFlags_eq_ok`     the settings after the flags, and the world with them registered;
* `layers_eq`           the six layers, the strongest first;
* `draft_some_eq_ok`    one round of casts, the hook, and a second round (`draft_none_eq_ok`: without
                        a hook there is no second one);
* `fillFrom_eq_ok`      the draft and its publishing.

`Settings.names` are the fields of a schema.  They are public and stand there once each, so a draft
holds exactly one value for each of them: `held_get` says which one before the hook, and
`published_get` which one arrives in the configuration.

`sampleProgram` and `sampleSession` are small enough for a filling to be computed.
-/

namespace CommandLine

/-! ## the fields -/

def Settings.names (s : Settings) : List String := s.entries.map (·.1)

theorem Settings.names_eq (s : Settings) :
    s.names = (s.schema.form.members.filter fun m => isPublic m.1 && !m.2.isMethod).map (·.1) := by
  unfold Settings.names Settings.entries
  rw [List.map_map]
  rfl

theorem Settings.names_congr {s t : Settings} (h : s.schema = t.schema) : s.names = t.names := by
  rw [Settings.names_eq, Settings.names_eq, h]

theorem Settings.isPublic_of_mem_names {s : Settings} {n : String} (h : n ∈ s.names) :
    isPublic n = true := by
  rw [Settings.names_eq] at h
  obtain ⟨m, hm, rfl⟩ := List.mem_map.1 h
  exact (Bool.and_eq_true_iff.1 (List.mem_filter.1 hm).2).1

theorem Settings.nodup_names {s : Settings} (h : s.schema.form.DeclaresOnce) : s.names.Nodup := by
  rw [Settings.names_eq]
  exact h.sublist (List.filter_sublist.map _)

theorem Settings.mem_fields_of_mem_names {s : Settings} (hd : s.schema.form.DeclaresOnce)
    {n : String} (h : n ∈ s.names) : n ∈ s.fields := by
  have hp := Settings.isPublic_of_mem_names h
  rw [Settings.names_eq] at h
  obtain ⟨⟨n, m⟩, hm, rfl⟩ := List.mem_map.1 h
  obtain ⟨hm, hkeep⟩ := List.mem_filter.1 hm
  have hmethod : m.isMethod = false := by simpa using (Bool.and_eq_true_iff.1 hkeep).2
  unfold Settings.fields
  rw [List.mem_filter, List.mem_eraseDups, List.mem_append, hd.member hm]
  refine ⟨.inr (mem_declared_of_mem_members (List.mem_map_of_mem hm)), ?_⟩
  simp [hp, hmethod]

theorem Settings.isSome_get_of_mem_names {s : Settings} (hd : s.schema.form.DeclaresOnce)
    {n : String} (h : n ∈ s.names) : (s.get? n).isSome = true := by
  rw [Settings.names_eq] at h
  obtain ⟨⟨n, m⟩, hm, rfl⟩ := List.mem_map.1 h
  have hmember := hd.member (List.mem_filter.1 hm).1
  unfold Settings.get? Settings.object Value.attribute?
  simp only [hmember]
  cases s.values.lookup n <;> rfl

/-! ## taking the flags -/

theorem Settings.take_schema (s : Settings) (flags : Layer) :
    (s.take flags).1.schema = s.schema := by
  induction flags generalizing s with
  | nil => rfl
  | cons p flags ih =>
    obtain ⟨n, v⟩ := p
    unfold Settings.take
    split
    · exact ih s
    · split
      · rw [ih]; rfl
      · rfl

theorem Settings.absolute_schema {s t : Settings} {running : Path}
    (h : s.absolute running = .ok t) : t.schema = s.schema := by
  unfold Settings.absolute at h
  split at h
  · exact Except.ok.inj h ▸ rfl
  · split at h
    · exact Except.ok.inj h ▸ rfl
    · exact Except.ok.inj h ▸ rfl
  · cases h

theorem takeFlags_eq_ok {p : Program} {flags : Layer} {w w' : World Session} {s : Settings} :
    outcome (takeFlags p flags) w = (.ok s, w') ↔
      ∃ before taken, w.state.registry.schema = .settings before ∧
        before.take flags = (taken, none) ∧
        taken.absolute p.surroundings.cwdPath = .ok s ∧
        w' = { w with state := w.state.setSettings s } := by
  unfold takeFlags
  rw [outcome_bind_eq_ok]
  constructor
  · rintro ⟨before, v, hr, h⟩
    obtain ⟨st, v', hg, hr⟩ := outcome_bind_eq_ok.1 hr
    rw [outcome_getState] at hg
    obtain ⟨hst, rfl⟩ := Prod.mk.inj hg
    obtain rfl := Except.ok.inj hst
    cases hs : w.state.registry.schema with
    | value u => rw [hs] at hr; cases hr
    | settings t =>
      rw [hs] at hr
      obtain ⟨ht, rfl⟩ := Prod.mk.inj hr
      obtain rfl := Except.ok.inj ht
      cases ht : t.take flags with
      | mk taken failure =>
        rw [ht] at h
        obtain ⟨_, v₁, hm, h⟩ := outcome_bind_eq_ok.1 h
        rw [outcome_modifyState] at hm
        obtain ⟨-, rfl⟩ := Prod.mk.inj hm
        cases failure with
        | some e => cases h
        | none =>
          obtain ⟨settings, ha, h⟩ := outcome_liftM_bind_eq_ok.1 h
          obtain ⟨_, v₂, hm, h⟩ := outcome_bind_eq_ok.1 h
          rw [outcome_modifyState] at hm
          obtain ⟨-, rfl⟩ := Prod.mk.inj hm
          obtain ⟨hset, rfl⟩ := Prod.mk.inj h
          obtain rfl := Except.ok.inj hset
          exact ⟨t, taken, rfl, ht, ha, rfl⟩
  · rintro ⟨before, taken, hs, ht, ha, rfl⟩
    refine ⟨before, w, ?_, ?_⟩
    · exact outcome_registeredSettings hs
    · rw [ht]
      show outcome (liftM (taken.absolute p.surroundings.cwdPath) >>= _) _ = _
      rw [ha]
      rfl

theorem takeFlags_schema {p : Program} {flags : Layer} {w w' : World Session} {s : Settings}
    (hd : w.state.DeclaresOnce) (h : outcome (takeFlags p flags) w = (.ok s, w')) :
    s.schema.form.DeclaresOnce := by
  obtain ⟨before, taken, hs, ht, ha, -⟩ := takeFlags_eq_ok.1 h
  have hk : taken.schema = before.schema := by
    have := before.take_schema flags
    rwa [ht] at this
  rw [Settings.absolute_schema ha, hk]
  exact hd before hs

theorem takeFlags_congr {p₁ p₂ : Program} (h : p₁.surroundings.cwd = p₂.surroundings.cwd)
    (flags : Layer) : takeFlags p₁ flags = takeFlags p₂ flags := by
  have hc : p₁.surroundings.cwdPath = p₂.surroundings.cwdPath := by
    unfold Surroundings.cwdPath
    rw [h]
  unfold takeFlags
  rw [hc]

/-! ## reading the sources -/

theorem layers_eq {σ : Type} {s : Settings} {d : Decryptor σ} {around : Surroundings}
    {flags : Layer} {w w' : World σ} {layers : List Layer} :
    outcome (s.layers d around flags) w = (.ok layers, w') ↔
      ∃ envFile file secret w₁ w₂,
        outcome (s.envFileLayer around) w = (.ok envFile, w₁) ∧
        outcome (s.fileLayer around) w₁ = (.ok file, w₂) ∧
        outcome (s.secretLayer d around) w₂ = (.ok secret, w') ∧
        layers = [flags, s.environmentLayer around, envFile, file, secret, s.entries] := by
  unfold Settings.layers
  rw [outcome_bind_eq_ok]
  constructor
  · rintro ⟨envFile, w₁, h₁, h⟩
    obtain ⟨file, w₂, h₂, h⟩ := outcome_bind_eq_ok.1 h
    obtain ⟨secret, w₃, h₃, h⟩ := outcome_bind_eq_ok.1 h
    obtain ⟨hl, rfl⟩ := Prod.mk.inj h
    exact ⟨envFile, file, secret, w₁, w₂, h₁, h₂, h₃, (Except.ok.inj hl).symm⟩
  · rintro ⟨envFile, file, secret, w₁, w₂, h₁, h₂, h₃, rfl⟩
    refine ⟨envFile, w₁, h₁, ?_⟩
    rw [outcome_bind_of_ok h₂, outcome_bind_of_ok h₃]
    rfl

theorem firstIn_isSome_of_mem_names {s : Settings} {layers : List Layer} {f : String}
    (hl : s.entries ∈ layers) (hf : f ∈ s.names) : (firstIn layers f).isSome = true := by
  apply (mem_namesIn _ _).1
  unfold namesIn
  rw [List.mem_eraseDups]
  exact List.mem_flatMap.2 ⟨s.entries, List.mem_reverse.2 hl, hf⟩

theorem firstIn_of_flag {flags : Layer} {k : String} {v : Value} (h : flags.lookup k = some v)
    (rest : List Layer) : firstIn (flags :: rest) k = some v := by
  rw [firstIn_cons, h]
  rfl

/-! ## making a draft -/

theorem draft_none_eq_ok {σ : Type} {s : Settings} {layers : List Layer} {w w' : World σ}
    {draft : Configuration} :
    outcome (s.draft layers none) w = (.ok draft, w') ↔
      s.schema.castIn s.names (draftOf layers) = .ok draft ∧ w' = w := by
  unfold Settings.draft
  rw [outcome_liftM_bind_eq_ok]
  constructor
  · rintro ⟨held, hc, h⟩
    obtain ⟨hd, rfl⟩ := Prod.mk.inj h
    exact ⟨Except.ok.inj hd ▸ hc, rfl⟩
  · rintro ⟨hc, rfl⟩
    exact ⟨draft, hc, rfl⟩

theorem draft_some_eq_ok {σ : Type} {s : Settings} {layers : List Layer} {change : DraftHook σ}
    {w w' : World σ} {draft : Configuration} :
    outcome (s.draft layers (some change)) w = (.ok draft, w') ↔
      ∃ held left, s.schema.castIn s.names (draftOf layers) = .ok held ∧
        outcome (change held) w = (.ok left, w') ∧
        s.schema.castIn s.names left = .ok draft := by
  unfold Settings.draft
  rw [outcome_liftM_bind_eq_ok]
  constructor
  · rintro ⟨held, hc, h⟩
    obtain ⟨left, v, hl, h⟩ := outcome_bind_eq_ok.1 h
    obtain ⟨hd, rfl⟩ := Prod.mk.inj h
    exact ⟨held, left, hc, hl, hd⟩
  · rintro ⟨held, left, hc, hl, hd⟩
    refine ⟨held, hc, ?_⟩
    rw [outcome_bind_of_ok hl]
    show outcome (liftM (s.schema.castIn s.names left)) w' = _
    rw [hd]
    rfl

section
variable {c : Configuration} {layers : List Layer} {n : String}

/-- a configuration behind which the layers stand answers with the value of the first layer that
knows the name -/
theorem get_of_first {v : Value} (hb : c.behind = Value.record (merged layers))
    (hp : isPublic n = true) (hn : c.values.lookup n = none) (hf : firstIn layers n = some v)
    (hv : v ≠ .null) : c.get n = .ok v := by
  obtain ⟨values, behind⟩ := c
  obtain rfl : behind = Value.record (merged layers) := hb
  rw [Configuration.get_of_lookup_none hp hn]
  exact Configuration.answer_record (by rw [lookup_merged, hf]) hv

/-- if that value is nothing, the name is still to be given -/
theorem get_of_first_null (hb : c.behind = Value.record (merged layers))
    (hp : isPublic n = true) (hn : c.values.lookup n = none) (hf : firstIn layers n = some .null) :
    c.get n = .error (.requiredParameter n) := by
  obtain ⟨values, behind⟩ := c
  obtain rfl : behind = Value.record (merged layers) := hb
  rw [Configuration.get_of_lookup_none hp hn]
  exact Configuration.answer_record_null (by rw [lookup_merged, hf])

end

/-- the draft before the hook: each field holds the cast of the value of the first layer that knows
it, and nothing else is set -/
theorem held_get {s : Settings} {layers : List Layer} {held : Configuration}
    (hd : s.schema.form.DeclaresOnce) (hk : ∀ f ∈ s.names, (firstIn layers f).isSome = true)
    (h : s.schema.castIn s.names (draftOf layers) = .ok held) :
    held.behind = Value.record (merged layers) ∧
    (∀ f ∈ s.names, ∃ v x, firstIn layers f = some v ∧ v ≠ .null ∧
      s.schema.cast f v = .ok x ∧ held.values.lookup f = some x) ∧
    (∀ n, n ∉ s.names → held.values.lookup n = none) := by
  obtain ⟨hb, hc, ho⟩ :=
    castIn_get (fun n hn => Settings.isPublic_of_mem_names hn) (Settings.nodup_names hd) h
  refine ⟨hb, ?_, ho⟩
  intro f hf
  obtain ⟨u, x, hu, hx, hl⟩ := hc f hf
  obtain ⟨v, hv⟩ := Option.isSome_iff_exists.1 (hk f hf)
  have hp := Settings.isPublic_of_mem_names hf
  by_cases hn : v = .null
  · subst hn
    rw [get_of_first_null rfl hp rfl hv] at hu
    cases hu
  · rw [get_of_first rfl hp rfl hv hn] at hu
    obtain rfl := Except.ok.inj hu
    exact ⟨v, x, hv, hn, hx, hl⟩

/-! ## publishing a draft -/

theorem fillFrom_eq_ok {s : Settings} {hook : Option (DraftHook Session)} {layers : List Layer}
    {w w' : World Session} :
    outcome (s.fillFrom hook layers) w = (.ok (), w') ↔
      ∃ draft v names c,
        outcome (s.draft layers hook) w = (.ok draft, v) ∧
        draft.behind.elements = .ok names ∧
        outcome (publish draft names) ⟨v.out, v.err, v.state.config⟩ = (.ok (), c) ∧
        w' = ⟨c.out, c.err, { v.state with config := c.state }⟩ := by
  unfold Settings.fillFrom
  rw [outcome_bind_eq_ok]
  constructor
  · rintro ⟨draft, v, hd, h⟩
    obtain ⟨names, hn, h⟩ := outcome_liftM_bind_eq_ok.1 h
    unfold onConfig at h
    rw [outcome_runWithin] at h
    obtain ⟨hok, rfl⟩ := Prod.mk.inj h
    exact ⟨draft, v, names, _, hd, hn, Prod.ext hok rfl, rfl⟩
  · rintro ⟨draft, v, names, c, hd, hn, hc, rfl⟩
    refine ⟨draft, v, hd, ?_⟩
    rw [hn]
    show outcome (onConfig (publish draft names)) v = _
    unfold onConfig
    rw [outcome_runWithin, hc]

/-- a finished filling publishes a draft: the names of the layers get the values of the draft, and
no other value changes -/
theorem published_lookup {draft : Configuration} {layers : List Layer} {names : List Value}
    {w w' : World Configuration} (hb : draft.behind = Value.record (merged layers))
    (hn : draft.behind.elements = .ok names)
    (h : outcome (publish draft names) w = (.ok (), w')) :
    (∀ n ∈ namesIn layers, isPublic n = true →
      ∃ v, draft.get n = .ok v ∧ w'.state.values.lookup n = some v) ∧
    (∀ n, n ∉ namesIn layers → w'.state.values.lookup n = w.state.values.lookup n) := by
  rw [hb, elements_record, merged_names] at hn
  obtain rfl := Except.ok.inj hn
  obtain ⟨hin, hout⟩ := publish_lookup h
  exact ⟨fun n hmem hp => hin n hmem (ne_behindName_of_isPublic hp), hout⟩

theorem published_get {draft : Configuration} {layers : List Layer} {names : List Value}
    {w w' : World Configuration} (hb : draft.behind = Value.record (merged layers))
    (hn : draft.behind.elements = .ok names)
    (h : outcome (publish draft names) w = (.ok (), w')) :
    (∀ n ∈ namesIn layers, isPublic n = true →
      ∃ v, draft.get n = .ok v ∧ w'.state.get n = .ok v) ∧
    (∀ n, n ∉ namesIn layers → w'.state.values.lookup n = w.state.values.lookup n) := by
  obtain ⟨hin, hout⟩ := published_lookup hb hn h
  refine ⟨?_, hout⟩
  intro n hmem hp
  obtain ⟨v, hv, hl⟩ := hin n hmem hp
  exact ⟨v, hv, Configuration.get_of_lookup hl⟩

theorem fill_eq (p : Program) (hook : Option (DraftHook Session)) (flags : Layer) :
    fill p hook flags = (takeFlags p flags >>= fun s => s.envFileLayer p.surroundings >>=
      fun envFile => s.fileLayer p.surroundings >>= fun file =>
        s.secretLayer p.decryptor p.surroundings >>= fun secret => s.fillFrom hook
          [flags, s.environmentLayer p.surroundings, envFile, file, secret, s.entries]) := by
  unfold fill Settings.layers
  simp only [bind_assoc, pure_bind]

/-! ## a small program -/

/-- a program with nothing around it but an environment and the files of the topmost directory -/
def sampleProgram (env files : List (String × String)) : Program :=
  { surroundings := { entries := files.map fun (n, t) => ([n], some t), env }
    packages := ⟨[], []⟩
    decrypts := fun _ => none
    failureTable := ""
    atHand := [] }

def sampleFile (v : String) : Program := sampleProgram [] [("a.cfg", "[Clima]\nx = " ++ v ++ "\n")]

/-- settings with some fields, which also name the topmost directory and the file `a.cfg` in it -/
def sampleSettings (kinds : List (String × Kind)) (defaults : Layer) : Settings :=
  let places := [(Settings.cwdName, Value.path (Path.ofText .posix "/")),
    (Settings.fileName, Value.path (Path.ofText .posix "/a.cfg"))]
  { schema :=
      { form := { baseForm with
          name := "Sample"
          members := (defaults ++ places).map fun (n, v) => (n, .plain v)
          base := some baseForm }
        kinds
        lines := [] } }

def sampleSession (kinds : List (String × Kind)) (defaults : Layer) : World Session :=
  { state := Session.start.takeSchema (sampleSettings kinds defaults).schema }

/-- how a computed run ends: that it succeeds is all that has to be computed -/
theorem outcome_of_isOk {σ : Type} {r : Run σ Unit} {w : World σ}
    (h : (outcome r w).1.isOk = true) : outcome r w = (.ok (), (outcome r w).2) := by
  cases hr : outcome r w with
  | mk x v =>
    rw [hr] at h
    cases x with
    | ok u => rfl
    | error e => cases h

def gaveInt (i : Int) : Except Error Value → Bool
  | .ok (.int j) => i = j
  | _ => false

theorem eq_of_gaveInt {r : Except Error Value} {i : Int} (h : gaveInt i r = true) : r = .ok (.int i) := by
  unfold gaveInt at h
  split at h
  · rw [of_decide_eq_true h]
  · cases h

end CommandLine
