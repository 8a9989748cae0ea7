import CommandLine.Proofs.Dispatching
import CommandLine.Proofs.Finishing

/-!
# Fillings that differ in one flag

A filling without flags is compared with one that is given a single flag.  What is found outside of
the settings is read in the same way in both (`Settings.outside`, `Switched.outside`), since it
depends on the type of a value at most, and not on the value.  So the layers agree on every name but
that of the flag, and so do the configurations (`fillFrom_of_change`):

* `fill_of_switch`     the flag turns a switch on, and nothing else changes;
* `fill_of_stranger`   a flag that names nothing adds a value under its name, and no other.
-/

namespace CommandLine

/-! ## runs that only read -/

section
variable {α β : Type}

/-- a run that has the same result from every world, and leaves the configuration as it is -/
def ReadsOnly (r : Run Session α) : Prop :=
  ∃ x, ∀ w, ∃ w', outcome r w = (x, w') ∧ w'.state.config = w.state.config

theorem readsOnly_pure (a : α) : ReadsOnly (pure a) := ⟨_, fun _ => ⟨_, rfl, rfl⟩⟩

theorem readsOnly_liftM (e : Except Error α) : ReadsOnly (liftM e) := ⟨_, fun _ => ⟨_, rfl, rfl⟩⟩

theorem readsOnly_printOut (s : String) : ReadsOnly (printOut s) := ⟨_, fun _ => ⟨_, rfl, rfl⟩⟩

theorem readsOnly_printErr (s : String) : ReadsOnly (printErr s) := ⟨_, fun _ => ⟨_, rfl, rfl⟩⟩

theorem readsOnly_run (p : Program) (c : List String) : ReadsOnly (p.decryptor.run c) :=
  ⟨_, fun _ => ⟨_, rfl, rfl⟩⟩

theorem readsOnly_bind {r : Run Session α} {k : α → Run Session β} (hr : ReadsOnly r)
    (hk : ∀ a, ReadsOnly (k a)) : ReadsOnly (r >>= k) := by
  obtain ⟨x, hx⟩ := hr
  cases x with
  | error e =>
    refine ⟨.error e, fun w => ?_⟩
    obtain ⟨w₁, h₁, hc₁⟩ := hx w
    exact ⟨w₁, outcome_bind_of_error h₁, hc₁⟩
  | ok a =>
    obtain ⟨y, hy⟩ := hk a
    refine ⟨y, fun w => ?_⟩
    obtain ⟨w₁, h₁, hc₁⟩ := hx w
    obtain ⟨w₂, h₂, hc₂⟩ := hy w₁
    exact ⟨w₂, (outcome_bind_of_ok h₁).trans h₂, hc₂.trans hc₁⟩

end

theorem readsOnly_envFileLayer (s : Settings) (a : Surroundings) : ReadsOnly (s.envFileLayer a) := by
  have hfile : ∀ dir, ReadsOnly (readEnvFile a dir) := by
    intro dir
    unfold readEnvFile
    dsimp only
    split
    · exact readsOnly_pure _
    · exact readsOnly_bind (readsOnly_printErr _) fun _ => readsOnly_pure _
  have hvalues : ∀ cwd, ReadsOnly (envFileValues a cwd) := by
    intro cwd
    unfold envFileValues
    split
    all_goals
      refine readsOnly_bind ?_ fun dir => readsOnly_bind (hfile dir) fun _ => readsOnly_pure _
    · exact readsOnly_pure _
    · exact readsOnly_pure _
    · exact readsOnly_liftM _
  exact readsOnly_bind (hvalues _) fun _ => readsOnly_pure _

theorem readsOnly_fileLayer (s : Settings) (a : Surroundings) : ReadsOnly (s.fileLayer a) := by
  have hconfig : ∀ name, ReadsOnly (readConfig a name) := by
    intro name
    unfold readConfig
    dsimp only
    split
    · exact readsOnly_pure _
    · split
      · exact readsOnly_pure _
      · exact readsOnly_bind (readsOnly_printOut _) fun _ => readsOnly_pure _
      · exact readsOnly_bind (readsOnly_printErr _) fun _ => readsOnly_pure _
  refine readsOnly_bind (readsOnly_liftM _) fun path => ?_
  split
  · exact readsOnly_pure _
  · refine readsOnly_bind (hconfig _) fun _ => ?_
    exact readsOnly_bind (readsOnly_liftM _) fun _ => readsOnly_pure _

theorem readsOnly_nearestId (ids : List (String × String)) (ps : List String) :
    ReadsOnly (nearestId ids ps) := by
  induction ps with
  | nil => exact readsOnly_pure _
  | cons p ps ih =>
    unfold nearestId
    split
    · exact readsOnly_pure _
    · split
      · exact ih
      · exact readsOnly_bind (readsOnly_printOut _) fun _ => readsOnly_pure _

theorem readsOnly_decrypt (p : Program) (a : Surroundings) (ids : List (String × String)) (key : String) :
    ReadsOnly (decrypt p.decryptor a ids key) := by
  unfold decrypt
  split
  · exact readsOnly_pure _
  · refine readsOnly_bind (readsOnly_nearestId _ _) fun id => ?_
    unfold decryptFile
    split
    · exact readsOnly_pure _
    · exact readsOnly_bind (readsOnly_run p _) fun _ => readsOnly_pure _

theorem readsOnly_secretLayer (s : Settings) (p : Program) (a : Surroundings) :
    ReadsOnly (s.secretLayer p.decryptor a) := by
  have hsecrets : ∀ keys, ReadsOnly (secrets p.decryptor a a.storeIds keys) := by
    intro keys
    induction keys with
    | nil => exact readsOnly_pure _
    | cons key keys ih =>
      refine readsOnly_bind (readsOnly_decrypt p _ _ _) fun _ => ?_
      exact readsOnly_bind ih fun _ => readsOnly_pure _
  exact readsOnly_bind (hsecrets _) fun _ => readsOnly_pure _

/-! ## what is found outside of the settings -/

/-- the layers between the flags and the settings -/
def Settings.outside {σ : Type} (s : Settings) (d : Decryptor σ) (a : Surroundings) :
    Run σ (List Layer) := do
  let envFile ← s.envFileLayer a
  let file ← s.fileLayer a
  let secret ← s.secretLayer d a
  return [s.environmentLayer a, envFile, file, secret]

theorem layers_outside {σ : Type} (s : Settings) (d : Decryptor σ) (a : Surroundings)
    (flags : Layer) :
    s.layers d a flags = s.outside d a >>= fun found => pure (flags :: (found ++ [s.entries])) := by
  unfold Settings.layers Settings.outside
  simp only [bind_assoc, pure_bind]
  rfl

theorem readsOnly_outside (s : Settings) (p : Program) (a : Surroundings) :
    ReadsOnly (s.outside p.decryptor a) := by
  refine readsOnly_bind (readsOnly_envFileLayer s a) fun _ => ?_
  refine readsOnly_bind (readsOnly_fileLayer s a) fun _ => ?_
  exact readsOnly_bind (readsOnly_secretLayer s p a) fun _ => readsOnly_pure _

theorem mem_names_namedEntries {es : List (Value × Value)} {n : String} :
    n ∈ (namedEntries es).map (·.1) ↔ Value.text n ∈ es.map (·.1) := by
  unfold namedEntries
  induction es with
  | nil => exact ⟨fun h => absurd h List.not_mem_nil, fun h => absurd h List.not_mem_nil⟩
  | cons e es ih =>
    obtain ⟨k, v⟩ := e
    rw [List.filterMap_cons, List.map_cons, List.mem_cons]
    cases k with
    | text m =>
      rw [List.map_cons, List.mem_cons, ih, Value.text.injEq]
    | _ => simp only [ih, reduceCtorEq, false_or]

theorem mem_of_mem_keepFields {fields : List String} {es : List (Value × Value)} {n : String}
    (h : Value.text n ∈ (keepFields fields es).map (·.1)) : n ∈ fields := by
  obtain ⟨e, he, hn⟩ := List.mem_map.1 h
  have hkeep := (List.mem_filter.1 he).2
  rw [hn] at hkeep
  exact List.contains_iff_mem.1 hkeep

theorem keys_castAllLike {current : String → Except Error Value} {es cs : List (Value × Value)}
    (h : castAllLike current es = .ok cs) : cs.map (·.1) = es.map (·.1) := by
  induction es generalizing cs with
  | nil => exact Except.ok.inj h ▸ rfl
  | cons e es ih =>
    obtain ⟨k, v⟩ := e
    unfold castAllLike at h
    have hcurrent : ∃ c, (castLike c v >>= fun x => castAllLike current es >>= fun rest =>
        .ok ((k, x) :: rest)) = .ok cs := by
      cases k with
      | text n =>
        obtain ⟨c, -, h⟩ := bind_eq_ok.1 h
        exact ⟨c, h⟩
      | _ => cases h
    obtain ⟨c, h⟩ := hcurrent
    obtain ⟨x, -, h⟩ := bind_eq_ok.1 h
    obtain ⟨rest, hrest, h⟩ := bind_eq_ok.1 h
    obtain rfl := Except.ok.inj h
    rw [List.map_cons, List.map_cons, ih hrest]

theorem names_secrets {σ : Type} {d : Decryptor σ} {a : Surroundings} {ids : List (String × String)}
    {keys : List String} {w w' : World σ} {found : List (String × String)}
    (h : outcome (secrets d a ids keys) w = (.ok found, w')) : ∀ n ∈ found.map (·.1), n ∈ keys := by
  induction keys generalizing w w' found with
  | nil =>
    obtain rfl := Except.ok.inj (Prod.mk.inj h).1
    exact fun n hn => hn
  | cons key keys ih =>
    obtain ⟨secret, w₁, -, h⟩ := outcome_bind_eq_ok.1 h
    obtain ⟨rest, w₂, hrest, h⟩ := outcome_bind_eq_ok.1 h
    obtain rfl := Except.ok.inj (Prod.mk.inj h).1
    intro n hn
    split at hn
    · exact List.mem_cons_of_mem _ (ih hrest n hn)
    · rcases List.mem_cons.1 hn with rfl | hn
      · exact List.mem_cons_self
      · exact List.mem_cons_of_mem _ (ih hrest n hn)

theorem Settings.isPublic_of_mem_fields {s : Settings} {n : String} (h : n ∈ s.fields) :
    isPublic n = true :=
  (Bool.and_eq_true_iff.1 (List.mem_filter.1 h).2).1

theorem isPublic_of_outside {σ : Type} {s : Settings} {d : Decryptor σ} {a : Surroundings}
    {w w' : World σ} {found : List Layer} (h : outcome (s.outside d a) w = (.ok found, w')) :
    ∀ l ∈ found, ∀ n ∈ l.map (·.1), isPublic n = true := by
  obtain ⟨envFile, w₁, henv, h⟩ := outcome_bind_eq_ok.1 h
  obtain ⟨file, w₂, hfile, h⟩ := outcome_bind_eq_ok.1 h
  obtain ⟨secret, w₃, hsecret, h⟩ := outcome_bind_eq_ok.1 h
  obtain rfl := Except.ok.inj (Prod.mk.inj h).1
  have hkept : ∀ es n, n ∈ (namedEntries (keepFields s.fields es)).map (·.1) →
      isPublic n = true := fun es n hn =>
    Settings.isPublic_of_mem_fields (mem_of_mem_keepFields (mem_names_namedEntries.1 hn))
  have henv' : ∀ n ∈ envFile.map (·.1), isPublic n = true := by
    obtain ⟨vars, w₄, -, henv⟩ := outcome_bind_eq_ok.1 henv
    obtain rfl := Except.ok.inj (Prod.mk.inj henv).1
    exact hkept _
  have hfile' : ∀ n ∈ file.map (·.1), isPublic n = true := by
    obtain ⟨path, w₄, -, hfile⟩ := outcome_bind_eq_ok.1 hfile
    cases path with
    | none =>
      obtain rfl := Except.ok.inj (Prod.mk.inj hfile).1
      exact fun n hn => absurd hn List.not_mem_nil
    | some path =>
      obtain ⟨vs, w₅, -, hfile⟩ := outcome_bind_eq_ok.1 hfile
      obtain ⟨cast, hcast, hfile⟩ := outcome_liftM_bind_eq_ok.1 hfile
      obtain rfl := Except.ok.inj (Prod.mk.inj hfile).1
      intro n hn
      rw [mem_names_namedEntries, keys_castAllLike hcast, ← mem_names_namedEntries] at hn
      exact hkept _ n hn
  have hsecret' : ∀ n ∈ secret.map (·.1), isPublic n = true := by
    obtain ⟨texts, w₄, htexts, hsecret⟩ := outcome_bind_eq_ok.1 hsecret
    obtain rfl := Except.ok.inj (Prod.mk.inj hsecret).1
    intro n hn
    rw [List.map_map] at hn
    exact Settings.isPublic_of_mem_names (names_secrets htexts n hn)
  intro l hl
  simp only [List.mem_cons, List.not_mem_nil, or_false] at hl
  rcases hl with rfl | rfl | rfl | rfl
  · exact hkept _
  · exact henv'
  · exact hfile'
  · exact hsecret'

/-! ## settings that differ in one value -/

namespace Settings

section
variable {s : Settings} {n : String}

theorem mem_fields_iff : n ∈ s.fields ↔ isPublic n = true ∧ ((s.values.lookup n).isSome = true ∨
    ∃ m, s.schema.form.member? n = some m ∧ m.isMethod = false) := by
  unfold fields
  rw [List.mem_filter, List.mem_eraseDups, List.mem_append, mem_names_iff_lookup,
    mem_names_iff_lookup, lookup_declared, Bool.and_eq_true, Bool.or_eq_true]
  cases s.values.lookup n with
  | some v => simp
  | none => cases s.schema.form.member? n <;> simp [and_comm]

theorem get?_of_isPublic (hp : isPublic n = true) : s.get? n =
    (s.values.lookup n).or ((s.schema.form.member? n).map (Member.ofInstance s.object)) := by
  have hprivate : s.schema.form.privateNames.contains n = false := by
    refine Bool.eq_false_iff.2 fun h => ?_
    rw [not_isPublic_of_mem_privateNames (List.contains_iff_mem.1 h)] at hp
    cases hp
  unfold get? object Value.attribute?
  dsimp only
  rw [hprivate]
  cases s.values.lookup n with
  | some v => rfl
  | none => cases s.schema.form.member? n <;> rfl

theorem get_of_get? {v : Value} (h : s.get? n = some v) : s.get n = .ok v := by
  unfold get Value.attribute
  rw [show s.object.attribute? n = some v from h]

/-- is a method of the settings all that stands under a name? -/
def HasMethod (s : Settings) (n : String) : Prop :=
  s.values.lookup n = none ∧ ∃ r, s.schema.form.member? n = some (.plain (.routine r))

theorem get?_of_hasMethod (hp : isPublic n = true) (h : s.HasMethod n) :
    ∃ r, s.get? n = some (.method s.object r) ∨ s.get? n = some (.routine r) := by
  obtain ⟨hvalue, r, hr⟩ := h
  have hget : s.get? n = some (if r.receiver.isSome then .method s.object r else .routine r) := by
    rw [get?_of_isPublic hp, hvalue, hr]
    rfl
  refine ⟨r, ?_⟩
  split at hget
  · exact .inl hget
  · exact .inr hget

theorem not_hasMethod_of_mem_fields (h : n ∈ s.fields) : ¬ s.HasMethod n := by
  rintro ⟨hvalue, r, hr⟩
  rcases (mem_fields_iff.1 h).2 with hsome | ⟨m, hm, hmethod⟩
  · rw [hvalue] at hsome
    cases hsome
  · rw [hr] at hm
    obtain rfl := Option.some.inj hm
    cases hmethod

theorem isSome_get?_of_mem_fields (h : n ∈ s.fields) : (s.get? n).isSome = true := by
  obtain ⟨hp, hvalue | ⟨m, hm, -⟩⟩ := mem_fields_iff.1 h
  · obtain ⟨v, hv⟩ := Option.isSome_iff_exists.1 hvalue
    rw [get?_of_isPublic hp, hv]
    rfl
  · rw [get?_of_isPublic hp, hm]
    cases s.values.lookup n <;> rfl

theorem entries_eq (s : Settings) : s.entries = s.names.map fun n => (n, (s.get? n).getD .null) := by
  rw [names_eq, List.map_map]
  rfl

theorem lookup_entries (s : Settings) (n : String) :
    s.entries.lookup n = if n ∈ s.names then some ((s.get? n).getD .null) else none := by
  rw [entries_eq]
  induction s.names with
  | nil => rfl
  | cons k names ih =>
    rw [List.map_cons, lookup_cons_name, ih]
    by_cases h : n = k
    · rw [if_pos h, if_pos (List.mem_cons.2 (.inl h)), h]
    · have hmem : n ∈ k :: names ↔ n ∈ names := by
        rw [List.mem_cons, or_iff_right h]
      rw [if_neg h]
      simp only [hmem]

end

/-- settings with another value under one name -/
structure Switched (s t : Settings) (f : String) (v : Value) : Prop where
  schema : t.schema = s.schema
  value : t.values.lookup f = some v
  others : ∀ n, n ≠ f → t.values.lookup n = s.values.lookup n

theorem switched_set (s : Settings) (f : String) (v : Value) : s.Switched (s.set f v) f v where
  schema := rfl
  value := by
    show (putName f v s.values).lookup f = some v
    rw [lookup_putName, if_pos rfl]
  others n hn := by
    show (putName f v s.values).lookup n = _
    rw [lookup_putName, if_neg hn]

namespace Switched

variable {s t : Settings} {f n : String} {v : Value}

theorem set (h : s.Switched t f v) (hne : n ≠ f) (u : Value) :
    (s.set n u).Switched (t.set n u) f v where
  schema := h.schema
  value := by
    show (putName n u t.values).lookup f = some v
    rw [lookup_putName, if_neg hne.symm, h.value]
  others k hk := by
    show (putName n u t.values).lookup k = (putName n u s.values).lookup k
    rw [lookup_putName, lookup_putName, h.others k hk]

theorem get?_self (h : s.Switched t f v) (hp : isPublic f = true) : t.get? f = some v := by
  rw [get?_of_isPublic hp, h.value]
  rfl

/-- a value that is no method is the same in both: a method is bound to all of the settings -/
theorem get?_of_ne (h : s.Switched t f v) (hne : n ≠ f) (hp : isPublic n = true)
    (hm : ¬ s.HasMethod n) : t.get? n = s.get? n := by
  rw [get?_of_isPublic hp, get?_of_isPublic hp, h.others n hne, h.schema]
  cases hvalue : s.values.lookup n with
  | some u => rfl
  | none =>
    cases hmember : s.schema.form.member? n with
    | none => rfl
    | some m =>
      cases m with
      | plain u =>
        cases u with
        | routine r => exact absurd ⟨hvalue, r, hmember⟩ hm
        | _ => rfl
      | classMethod r =>
        show some (Value.method (.class t.schema.form) r) = some (.method (.class s.schema.form) r)
        rw [h.schema]
      | _ => rfl

theorem mem_fields (h : s.Switched t f v) (hf : f ∈ s.fields) : n ∈ t.fields ↔ n ∈ s.fields := by
  by_cases hn : n = f
  · subst hn
    have hmem : n ∈ t.fields := mem_fields_iff.2 ⟨isPublic_of_mem_fields hf, .inl (h.value ▸ rfl)⟩
    exact iff_of_true hmem hf
  · rw [mem_fields_iff, mem_fields_iff, h.others n hn, h.schema]

theorem keepFields_eq (h : s.Switched t f v) (hf : f ∈ s.fields) (es : List (Value × Value)) :
    keepFields t.fields es = keepFields s.fields es := by
  refine List.filter_congr fun e _ => ?_
  obtain ⟨k, u⟩ := e
  cases k with
  | text n =>
    refine Bool.eq_iff_iff.2 ?_
    show t.fields.contains n = true ↔ s.fields.contains n = true
    rw [List.contains_iff_mem, List.contains_iff_mem]
    exact h.mem_fields hf
  | _ => rfl

theorem lookup_entries_of_ne (h : s.Switched t f v) (hd : s.schema.form.DeclaresOnce) (hn : n ≠ f) :
    t.entries.lookup n = s.entries.lookup n := by
  rw [lookup_entries, lookup_entries, names_congr h.schema]
  by_cases hmem : n ∈ s.names
  · have hfield := mem_fields_of_mem_names hd hmem
    rw [if_pos hmem, if_pos hmem, h.get?_of_ne hn (isPublic_of_mem_names hmem)
      (not_hasMethod_of_mem_fields hfield)]
  · rw [if_neg hmem, if_neg hmem]

end Switched

end Settings

/-! ## a switch -/

theorem castAllLike_congr {current current' : String → Except Error Value}
    {es : List (Value × Value)}
    (h : ∀ n, Value.text n ∈ es.map (·.1) → ∃ c c', current n = .ok c ∧ current' n = .ok c' ∧
      ∀ u, castLike c u = castLike c' u) :
    castAllLike current es = castAllLike current' es := by
  induction es with
  | nil => rfl
  | cons e es ih =>
    obtain ⟨k, v⟩ := e
    have hrest := ih fun n hn => h n (List.mem_cons_of_mem _ hn)
    unfold castAllLike
    rw [hrest]
    cases k with
    | text n =>
      obtain ⟨c, c', hc, hc', hcast⟩ := h n List.mem_cons_self
      dsimp only
      rw [hc, hc']
      show (castLike c v >>= _) = (castLike c' v >>= _)
      rw [hcast]
    | _ => rfl

namespace Settings.Switched

variable {s t : Settings} {f n : String} {b b' : Bool} (h : s.Switched t f (.bool b))
  (hf : f ∈ s.fields) (hvalue : s.get? f = some (.bool b'))

include h hvalue

/-- a name that a path is read from is not that of the switch, and has the same value in both -/
theorem get?_of_path (hp : isPublic n = true)
    (hpath : ∀ u, s.get? n = some u → (pathOf u).isOk = true) : n ≠ f ∧ t.get? n = s.get? n := by
  have hne : n ≠ f := by
    rintro rfl
    cases hpath _ hvalue
  refine ⟨hne, h.get?_of_ne hne hp fun hm => ?_⟩
  obtain ⟨r, hget | hget⟩ := get?_of_hasMethod hp hm
  · cases hpath _ hget
  · cases hpath _ hget

theorem castAllLike_eq (es : List (Value × Value)) :
    castAllLike t.get (keepFields s.fields es) = castAllLike s.get (keepFields s.fields es) := by
  refine castAllLike_congr fun n hn => ?_
  have hfield : n ∈ s.fields := mem_of_mem_keepFields hn
  have hp := isPublic_of_mem_fields hfield
  by_cases e : n = f
  · subst e
    exact ⟨_, _, get_of_get? (h.get?_self hp), get_of_get? hvalue, fun _ => rfl⟩
  · obtain ⟨u, hu⟩ := Option.isSome_iff_exists.1 (isSome_get?_of_mem_fields hfield)
    have hsame := h.get?_of_ne e hp (not_hasMethod_of_mem_fields hfield)
    exact ⟨u, u, get_of_get? (hsame.trans hu), get_of_get? hu, fun _ => rfl⟩

include hf

theorem outside {σ : Type} (d : Decryptor σ) (a : Surroundings)
    (hcwd : t.get? cwdName = s.get? cwdName) (hfile : t.get? fileName = s.get? fileName) :
    t.outside d a = s.outside d a := by
  have hnames : t.entries.map (·.1) = s.entries.map (·.1) := names_congr h.schema
  unfold Settings.outside envFileLayer fileLayer secretLayer environmentLayer
  simp only [hcwd, hfile, hnames, h.keepFields_eq hf, h.castAllLike_eq hvalue]

end Settings.Switched

/-! ## two fillings -/

theorem firstIn_append (layers layers' : List Layer) (n : String) :
    firstIn (layers ++ layers') n = (firstIn layers n).or (firstIn layers' n) :=
  List.findSome?_append

theorem isPublic_of_firstIn {layers : List Layer}
    (h : ∀ l ∈ layers, ∀ n ∈ l.map (·.1), isPublic n = true) {n : String} {v : Value}
    (hv : firstIn layers n = some v) : isPublic n = true := by
  obtain ⟨l, hl, hlookup⟩ := List.exists_of_findSome?_eq_some hv
  exact h l hl n ((mem_names_iff_lookup l n).2 (hlookup ▸ rfl))

/-- layers that agree on all names but one give configurations that do, if the value of that name can
be published -/
theorem fillFrom_of_change {s t : Settings} {layers layers' : List Layer} {q : String} {v x : Value}
    {w w' w₁ : World Session} (hd : s.schema.form.DeclaresOnce) (hschema : t.schema = s.schema)
    (hl : s.entries ∈ layers) (hl' : t.entries ∈ layers')
    (hpublic : ∀ n u, firstIn layers n = some u → isPublic n = true)
    (hagree : ∀ n, n ≠ q → firstIn layers' n = firstIn layers n) (hq : isPublic q = true)
    (hv : firstIn layers' q = some v) (hne : v ≠ .null) (hx : s.Publishes q v x)
    (hconfig : w₁.state.config = w.state.config)
    (h : outcome (s.fillFrom none layers) w = (.ok (), w')) :
    ∃ w₁', outcome (t.fillFrom none layers') w₁ = (.ok (), w₁') ∧
      w₁'.state.config.get q = .ok x ∧
      ∀ n, n ≠ q → w₁'.state.config.values.lookup n = w'.state.config.values.lookup n := by
  have hd' : t.schema.form.DeclaresOnce := hschema ▸ hd
  obtain ⟨hknown, hunknown⟩ := lookup_of_fillFrom hd hl h
  have horder : t.InOrder layers' := by
    intro n u hu
    by_cases e : n = q
    · subst e
      rw [hv] at hu
      obtain rfl := Option.some.inj hu
      exact ⟨hq, hne, x, hx.congr hschema⟩
    · rw [hagree n e] at hu
      obtain ⟨hnull, y, hy, -⟩ := hknown n u (hpublic n u hu) hu
      exact ⟨hpublic n u hu, hnull, y, hy.congr hschema⟩
  obtain ⟨w₁', hrun⟩ := fillFrom_of_inOrder hd' hl' horder w₁
  obtain ⟨hknown', hunknown'⟩ := lookup_of_fillFrom hd' hl' hrun
  refine ⟨w₁', hrun, ?_, fun n hn => ?_⟩
  · obtain ⟨-, y, hy, hlookup⟩ := hknown' q v hq hv
    rw [hy.unique (hx.congr hschema)] at hlookup
    exact Configuration.get_of_lookup hlookup
  · cases hfirst : firstIn layers n with
    | none => rw [hunknown' n ((hagree n hn).trans hfirst), hunknown n hfirst, hconfig]
    | some u =>
      have hp := hpublic n u hfirst
      obtain ⟨-, y, hy, hlookup⟩ := hknown n u hp hfirst
      obtain ⟨-, y', hy', hlookup'⟩ := hknown' n u hp ((hagree n hn).trans hfirst)
      rw [hlookup', hlookup, hy'.unique (hy.congr hschema)]

/-- settings that find the same outside, and hold the same under every name but one -/
structure Settings.AgreesBut (s t : Settings) (p : Program) (q : String) : Prop where
  schema : t.schema = s.schema
  outside : t.outside p.decryptor p.surroundings = s.outside p.decryptor p.surroundings
  entries : ∀ n, n ≠ q → t.entries.lookup n = s.entries.lookup n

theorem fill_outside (p : Program) (flags : Layer) :
    fill p none flags = (takeFlags p flags >>= fun s => s.outside p.decryptor p.surroundings >>=
      fun found => s.fillFrom none (flags :: (found ++ [s.entries]))) := by
  unfold fill
  simp only [layers_outside, bind_assoc, pure_bind]

section
variable {p : Program} {s : Settings} {w w' w₁ : World Session} {q : String} {v x : Value}

/-- a flag that takes settings to ones that agree with them adds its own value, and nothing else -/
theorem fill_of_fill (hd : s.schema.form.DeclaresOnce)
    (hs : w.state.registry.schema = .settings s) (hs₁ : w₁.state.registry.schema = .settings s)
    (hconfig : w₁.state.config = w.state.config) (hq : isPublic q = true) (hne : v ≠ .null)
    (hx : s.Publishes q v x)
    (htake : ∀ s₀ found u u', s.absolute p.surroundings.cwdPath = .ok s₀ →
      outcome (s₀.outside p.decryptor p.surroundings) u = (.ok found, u') →
      ∃ t t₀, s.take [(q, v)] = (t, none) ∧ t.absolute p.surroundings.cwdPath = .ok t₀ ∧
        s₀.AgreesBut t₀ p q)
    (h : outcome (fill p none []) w = (.ok (), w')) :
    ∃ w₁', outcome (fill p none [(q, v)]) w₁ = (.ok (), w₁') ∧
      w₁'.state.config.get q = .ok x ∧
      ∀ n, n ≠ q → w₁'.state.config.values.lookup n = w'.state.config.values.lookup n := by
  rw [fill_outside] at h
  obtain ⟨s₀, u, hflags, hrest⟩ := outcome_bind_eq_ok.1 h
  obtain ⟨before, taken, hbefore, htaken, habsolute, rfl⟩ := takeFlags_eq_ok.1 hflags
  obtain ⟨found, u', hfound, hfill⟩ := outcome_bind_eq_ok.1 hrest
  rw [hs] at hbefore
  obtain rfl := Registered.settings.inj hbefore
  obtain rfl : s = taken := (Prod.mk.inj htaken).1
  obtain ⟨t, t₀, ht, ht₀, hagrees⟩ := htake s₀ found _ _ habsolute hfound
  have hschema : s₀.schema = s.schema := Settings.absolute_schema habsolute
  -- what is found outside is found again, from whatever world
  obtain ⟨found', hreads⟩ := readsOnly_outside s₀ p p.surroundings
  have hsame : found' = .ok found ∧ u'.state.config = w.state.config := by
    obtain ⟨u'', hu'', hc⟩ := hreads { w with state := w.state.setSettings s₀ }
    rw [hfound] at hu''
    obtain ⟨hresult, rfl⟩ := Prod.mk.inj hu''
    exact ⟨hresult.symm, hc⟩
  obtain ⟨rfl, hconfig'⟩ := hsame
  obtain ⟨v₁, hv₁, hc₁⟩ := hreads { w₁ with state := w₁.state.setSettings t₀ }
  rw [fill_outside, outcome_bind_of_ok (takeFlags_eq_ok.2 ⟨s, t, hs₁, ht, ht₀, rfl⟩),
    hagrees.outside, outcome_bind_of_ok hv₁]
  have hpublic : ∀ n u, firstIn ([] :: (found ++ [s₀.entries])) n = some u → isPublic n = true := by
    refine fun n u hu => isPublic_of_firstIn (fun l hl n hn => ?_) hu
    rcases List.mem_cons.1 hl with rfl | hl
    · cases hn
    · rcases List.mem_append.1 hl with hl | hl
      · exact isPublic_of_outside hfound l hl n hn
      · obtain rfl := List.mem_singleton.1 hl
        exact Settings.isPublic_of_mem_names hn
  refine fillFrom_of_change (hschema ▸ hd) hagrees.schema (by simp) (by simp) hpublic (fun n hn => ?_)
    hq ?_ hne (hx.congr hschema) (hc₁.trans (hconfig.trans hconfig'.symm)) hfill
  · have hlast : firstIn [t₀.entries] n = firstIn [s₀.entries] n := by
      rw [firstIn_cons, firstIn_cons, hagrees.entries n hn]
    rw [firstIn_cons, firstIn_cons, firstIn_append, firstIn_append, hlast, lookup_cons_name,
      if_neg hn]
  · rw [firstIn_cons, lookup_cons_name, if_pos rfl]
    rfl

/-- a flag that names nothing adds a value under its name, and nothing else changes -/
theorem fill_of_stranger (hd : s.schema.form.DeclaresOnce)
    (hs : w.state.registry.schema = .settings s) (hs₁ : w₁.state.registry.schema = .settings s)
    (hconfig : w₁.state.config = w.state.config) (hq : isPublic q = true) (hne : v ≠ .null)
    (hstranger : s.get? q = none) (h : outcome (fill p none []) w = (.ok (), w')) :
    ∃ w₁', outcome (fill p none [(q, v)]) w₁ = (.ok (), w₁') ∧
      w₁'.state.config.get q = .ok v ∧
      ∀ n, n ≠ q → w₁'.state.config.values.lookup n = w'.state.config.values.lookup n := by
  have hnot : q ∉ s.names := by
    intro hmem
    have hsome := Settings.isSome_get_of_mem_names hd hmem
    rw [hstranger] at hsome
    cases hsome
  have htaken : s.take [(q, v)] = (s, none) := by
    unfold Settings.take
    rw [hstranger]
    rfl
  refine fill_of_fill hd hs hs₁ hconfig hq hne (.inr ⟨hnot, rfl⟩) (fun s₀ found u u' ha _ => ?_) h
  exact ⟨s, s₀, htaken, ha, rfl, rfl, fun _ _ => rfl⟩

end

/-! ## turning a switch on -/

/-- a field of some settings is a switch that is off -/
structure Settings.HasSwitch (s : Settings) (f : String) : Prop where
  once : s.schema.form.DeclaresOnce
  field : f ∈ s.names
  kind : s.schema.kinds.lookup f = some .bool
  off : s.get? f = some (.bool false)

namespace Settings

theorem eq_of_absolute {s t : Settings} {running : Path} (h : s.absolute running = .ok t) :
    t = s ∨ ∃ path, t = s.set cwdName (.path path) := by
  unfold absolute at h
  split at h
  · exact .inl (Except.ok.inj h).symm
  · split at h
    · exact .inl (Except.ok.inj h).symm
    · exact .inr ⟨_, (Except.ok.inj h).symm⟩
  · cases h

/-- a directory that can be made absolute is a path, before and after -/
theorem pathOf_cwd_of_absolute {s t : Settings} {running : Path} (h : s.absolute running = .ok t) :
    (∀ u, s.get? cwdName = some u → (pathOf u).isOk = true) ∧
    (∀ u, t.get? cwdName = some u → (pathOf u).isOk = true) := by
  have hs : ∀ u, s.get? cwdName = some u → (pathOf u).isOk = true := by
    intro u hu
    unfold absolute at h
    rw [hu] at h
    cases u with
    | path q => rfl
    | _ => cases h
  refine ⟨hs, ?_⟩
  rcases eq_of_absolute h with rfl | ⟨path, rfl⟩
  · exact hs
  · intro u hu
    rw [(switched_set s _ _).get?_self (by decide)] at hu
    obtain rfl := Option.some.inj hu
    rfl

/-- the file is searched for only if its name is a path -/
theorem pathOf_file_of_outside {σ : Type} {s : Settings} {d : Decryptor σ} {a : Surroundings}
    {w w' : World σ} {found : List Layer} (h : outcome (s.outside d a) w = (.ok found, w')) :
    ∀ u, s.get? fileName = some u → (pathOf u).isOk = true := by
  obtain ⟨envFile, w₁, -, h⟩ := outcome_bind_eq_ok.1 h
  obtain ⟨file, w₂, hfile, -⟩ := outcome_bind_eq_ok.1 h
  obtain ⟨path, hpath, -⟩ := outcome_liftM_bind_eq_ok.1 hfile
  obtain ⟨q, hq, -⟩ := bind_eq_ok.1 hpath
  intro u hu
  rw [hu] at hq
  show (pathOf ((some u).getD (.text ""))).isOk = true
  rw [hq]
  rfl

theorem HasSwitch.cast {s : Settings} {f : String} (h : s.HasSwitch f) (b : Bool) :
    s.schema.cast f (.bool b) = .ok (.bool b) := by
  unfold Schema.cast
  rw [h.kind]
  rfl

theorem HasSwitch.take {s : Settings} {f : String} (h : s.HasSwitch f) (b : Bool) :
    s.take [(f, .bool b)] = (s.set f (.bool b), none) := by
  have hcast : s.cast f (.bool b) = .ok (.bool b) := h.cast b
  unfold Settings.take
  rw [h.off, hcast]
  rfl

theorem Switched.absolute {s s₀ t : Settings} {f : String} {b b' : Bool} {running : Path}
    (h : s.Switched t f (.bool b)) (hvalue : s.get? f = some (.bool b'))
    (ha : s.absolute running = .ok s₀) :
    ∃ t₀, t.absolute running = .ok t₀ ∧ s₀.Switched t₀ f (.bool b) := by
  obtain ⟨hne, hsame⟩ :=
    h.get?_of_path hvalue (n := cwdName) (by decide) (pathOf_cwd_of_absolute ha).1
  unfold Settings.absolute at ha ⊢
  rw [hsame]
  split at ha
  · obtain rfl := Except.ok.inj ha
    exact ⟨t, rfl, h⟩
  · split at ha
    · rename_i habsolute
      obtain rfl := Except.ok.inj ha
      exact ⟨t, if_pos habsolute, h⟩
    · rename_i habsolute
      obtain rfl := Except.ok.inj ha
      exact ⟨_, if_neg habsolute, h.set hne _⟩
  · cases ha

theorem HasSwitch.agreesBut {s s₀ : Settings} {f : String} (h : s.HasSwitch f) (b : Bool)
    {p : Program} {w w' : World Session} {found : List Layer}
    (ha : s.absolute p.surroundings.cwdPath = .ok s₀)
    (hfound : outcome (s₀.outside p.decryptor p.surroundings) w = (.ok found, w')) :
    ∃ t₀, (s.set f (.bool b)).absolute p.surroundings.cwdPath = .ok t₀ ∧ s₀.AgreesBut t₀ p f := by
  have hpublic := isPublic_of_mem_names h.field
  have hschema := absolute_schema ha
  have honce : s₀.schema.form.DeclaresOnce := hschema ▸ h.once
  have hfield : f ∈ s₀.fields :=
    mem_fields_of_mem_names honce (names_congr hschema ▸ h.field)
  have hcwd := pathOf_cwd_of_absolute ha
  have hswitched := switched_set s f (.bool b)
  obtain ⟨hne, -⟩ := hswitched.get?_of_path h.off (n := cwdName) (by decide) hcwd.1
  -- making the directory absolute leaves the switch alone
  have hoff : s₀.get? f = some (.bool false) := by
    rcases eq_of_absolute ha with rfl | ⟨path, rfl⟩
    · exact h.off
    · rw [(switched_set s _ _).get?_of_ne hne.symm hpublic
        (not_hasMethod_of_mem_fields (mem_fields_of_mem_names h.once h.field)), h.off]
  obtain ⟨t₀, ht₀, hswitched₀⟩ := hswitched.absolute h.off ha
  obtain ⟨-, hcwd₀⟩ := hswitched₀.get?_of_path hoff (n := cwdName) (by decide) hcwd.2
  obtain ⟨-, hfile₀⟩ :=
    hswitched₀.get?_of_path hoff (n := fileName) (by decide) (pathOf_file_of_outside hfound)
  exact ⟨t₀, ht₀, hswitched₀.schema, hswitched₀.outside hfield hoff p.decryptor _ hcwd₀ hfile₀,
    fun n hn => hswitched₀.lookup_entries_of_ne honce hn⟩

end Settings

theorem fill_of_switch {p : Program} {s : Settings} {w w' w₁ : World Session} {f : String}
    (hf : s.HasSwitch f) (hs : w.state.registry.schema = .settings s)
    (hs₁ : w₁.state.registry.schema = .settings s) (hconfig : w₁.state.config = w.state.config)
    (h : outcome (fill p none []) w = (.ok (), w')) :
    ∃ w₁', outcome (fill p none [(f, .bool true)]) w₁ = (.ok (), w₁') ∧
      w₁'.state.config.get f = .ok (.bool true) ∧
      ∀ n, n ≠ f → w₁'.state.config.values.lookup n = w'.state.config.values.lookup n := by
  refine fill_of_fill hf.once hs hs₁ hconfig (Settings.isPublic_of_mem_names hf.field) (by simp)
    (.inl ⟨hf.field, hf.cast true⟩) (fun s₀ found u u' ha hfound => ?_) h
  obtain ⟨t₀, ht₀, hagrees⟩ := hf.agreesBut true ha hfound
  exact ⟨s.set f (.bool true), t₀, hf.take true, ht₀, hagrees⟩

end CommandLine
