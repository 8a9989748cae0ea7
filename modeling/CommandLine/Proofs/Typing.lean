import CommandLine.Proofs.Casts
import CommandLine.Proofs.Precedence

/-!
# The types of the configuration

A cast gives a value of the type that it casts to, and the last thing that happens to
a field before it is published is a cast, whatever its value came from and whatever the hook has
made of it (`fill_get_cast`).  So every field with a type ends with a value of that type, as long as
the field is one of those that are published at all.

A field with a type is one of them.  The hook of a schema may set members but takes none away, and
each default is cast after the hook has run, so that under the name of a field with a type there
stands a value and no routine (`make_holds`).
-/

namespace CommandLine

/-! ## the fields of a schema that is made -/

/-- under the name there stands a value in the class itself, and no routine -/
def Class.Holds (c : Class) (n : String) : Prop := ∃ m, (n, m) ∈ c.members ∧ m.isMethod = false

section
variable {α : Type} {es : List (String × α)} {k n : String}

theorem mem_putName_self (k : String) (v : α) (es : List (String × α)) : (k, v) ∈ putName k v es := by
  induction es with
  | nil => exact List.mem_singleton.2 rfl
  | cons p es ih =>
    unfold putName
    by_cases hp : p.1 = k
    · rw [if_pos hp, hp]
      exact List.mem_cons_self
    · rw [if_neg hp]
      exact List.mem_cons_of_mem _ ih

theorem mem_putName_of_ne (h : n ≠ k) {x : α} (v : α) (hm : (n, x) ∈ es) :
    (n, x) ∈ putName k v es := by
  induction es with
  | nil => cases hm
  | cons p es ih =>
    unfold putName
    by_cases hp : p.1 = k
    · rw [if_pos hp]
      rcases List.mem_cons.1 hm with rfl | hm
      · exact absurd hp h
      · exact List.mem_cons_of_mem _ hm
    · rw [if_neg hp]
      rcases List.mem_cons.1 hm with rfl | hm
      · exact List.mem_cons_self
      · exact List.mem_cons_of_mem _ (ih hm)

theorem mem_names_putName (k : String) (v : α) (h : n ∈ es.map (·.1)) :
    n ∈ (putName k v es).map (·.1) := by
  rw [putName_names]
  split
  · exact h
  · exact List.mem_append_left _ h

end

/-- setting a name to something that is no routine leaves a value under every name that had one, and
under this one -/
theorem Class.Holds.setMember {c : Class} {n m : String} {v : Value}
    (hv : (Member.plain v).isMethod = false) (h : n = m ∨ c.Holds n) :
    (c.setMember m v).Holds n := by
  by_cases e : n = m
  · subst e
    exact ⟨.plain v, mem_putName_self n _ _, hv⟩
  · obtain ⟨x, hx, hm⟩ := h.resolve_left e
    exact ⟨x, mem_putName_of_ne e _ hx, hm⟩

theorem not_isMethod_of_isOf {k : Kind} {v : Value} (h : v.isOf k = true) :
    (Member.plain v).isMethod = false := by
  cases v with
  | routine r => cases k <;> cases h
  | _ => rfl

theorem mem_names_form {d : Declaration} {n : String} (h : (d.given.lookup n).isSome = true) :
    n ∈ d.form.members.map (·.1) := by
  show n ∈ (d.given.map fun e => (e.1, Member.plain e.2)).map (·.1)
  rw [List.map_map]
  exact (mem_names_iff_lookup d.given n).2 h

theorem mem_names_hooked {σ : Type} {d : Declaration} {w w' : World σ} {c : Class} {n : String}
    (hn : (d.given.lookup n).isSome = true)
    (h : outcome (d.hooked : Run σ Class) w = (.ok c, w')) : n ∈ c.members.map (·.1) :=
  (hooked_invariant (P := fun c => n ∈ c.members.map (·.1))
    (fun _ m _ hc => mem_names_putName m _ hc) (mem_names_form hn) h).1

theorem eq_null_of_ofClass {c : Class} {m : Member} (h : m.ofClass c = .null) : m = .plain .null := by
  cases m with
  | plain v => exact congrArg Member.plain h
  | _ => cases h

/-- the cast of a default leaves a value under its name, and under every name that had one -/
theorem castDefault_holds {declared : Option Value} {n m : String} {k : Kind} {c c' : Class}
    (hc : c.DeclaresOnce) (hm : m ∈ c.members.map (·.1)) (h : castDefault declared m k c = .ok c')
    (hn : n = m ∨ c.Holds n) : c'.Holds n := by
  obtain ⟨rfl, hcurrent⟩ | ⟨v, y, hy, rfl⟩ := castDefault_cases h
  · -- the field stays without a value: what stands there is nothing, and no routine
    refine hn.elim ?_ id
    rintro rfl
    obtain ⟨⟨n, x⟩, hx, rfl⟩ := List.mem_map.1 hm
    have hread : (Value.class c').attribute n = .ok (x.ofClass c') := by
      simp only [Value.attribute, Value.attribute?, hc.member hx]
    rw [hread] at hcurrent
    have hnull := eq_null_of_ofClass (Except.ok.inj hcurrent)
    exact ⟨x, hx, hnull ▸ rfl⟩
  · exact Class.Holds.setMember (not_isMethod_of_isOf (cast_isOf hy)) hn

theorem castDefault_keeps_names {declared : Option Value} {n m : String} {k : Kind} {c c' : Class}
    (h : castDefault declared m k c = .ok c') (hn : n ∈ c.members.map (·.1)) :
    n ∈ c'.members.map (·.1) := by
  obtain ⟨rfl, -⟩ | ⟨v, x, -, rfl⟩ := castDefault_cases h
  · exact hn
  · exact mem_names_putName m _ hn

theorem castDefaults_holds {given : List (String × Value)} {kinds : List (String × Kind)}
    {c c' : Class} {n : String} (hc : c.DeclaresOnce)
    (hd : ∀ m, (given.lookup m).isSome = true → m ∈ c.members.map (·.1))
    (h : castDefaults given kinds c = .ok c') (hn : n ∈ kinds.map (·.1) ∨ c.Holds n) :
    c'.Holds n := by
  induction kinds generalizing c with
  | nil =>
    obtain rfl := Except.ok.inj h
    exact hn.resolve_left (by simp)
  | cons p kinds ih =>
    obtain ⟨m, k⟩ := p
    unfold castDefaults at h
    cases hcast : castDefault (given.lookup m) m k c with
    | error e => rw [hcast] at h; cases h
    | ok c₁ =>
      rw [hcast] at h
      have hdeclared : (given.lookup m).isSome = true := by
        cases hl : given.lookup m with
        | some v => rfl
        | none => rw [hl] at hcast; cases hcast
      refine ih (castDefault_declaresOnce hc hcast)
        (fun m' hm' => castDefault_keeps_names hcast (hd m' hm')) h ?_
      by_cases e : n = m
      · exact .inr (castDefault_holds hc (hd m hdeclared) hcast (.inl e))
      · rcases hn with hn | hn
        · exact .inl ((List.mem_cons.1 hn).resolve_left e)
        · exact .inr (castDefault_holds hc (hd m hdeclared) hcast (.inr hn))

/-- a schema that is made has a value under every name that it declares with a type -/
theorem make_holds {σ : Type} {d : Declaration} {around : Surroundings} {packages : Packages}
    {w w' : World σ} {schema : Schema}
    (h : outcome (d.make around packages : Run σ Schema) w = (.ok schema, w')) :
    schema.kinds = d.kinds ∧ ∀ n ∈ d.kinds.map (·.1), schema.form.Holds n := by
  obtain ⟨c, v, hh, h⟩ := outcome_bind_eq_ok.1 h
  have hc := (hooked_declaresOnce d hh).1
  split at h
  · split at h
    · obtain ⟨_, _, -, h⟩ := outcome_bind_eq_ok.1 h
      cases h
    · cases h
  · rename_i c₁ hcast
    obtain ⟨version, -, h⟩ := outcome_liftM_bind_eq_ok.1 h
    obtain rfl := Except.ok.inj (Prod.mk.inj h).1
    refine ⟨rfl, fun n hn => Class.Holds.setMember rfl (.inr ?_)⟩
    exact castDefaults_holds hc (fun m hm => mem_names_hooked hm hh) hcast (.inl hn)

/-- a value that stands in the class of a schema under a public name is one of its fields -/
theorem Class.Holds.mem_names {s : Settings} {n : String} (h : s.schema.form.Holds n)
    (hp : isPublic n = true) : n ∈ s.names := by
  obtain ⟨m, hm, hmethod⟩ := h
  rw [Settings.names_eq]
  refine List.mem_map.2 ⟨(n, m), List.mem_filter.2 ⟨hm, ?_⟩, rfl⟩
  simp [hp, hmethod]

/-! ## what is published -/

/-- the draft that is published comes out of a round of casts, with the sources behind it -/
theorem draft_eq_castIn {σ : Type} {s : Settings} {layers : List Layer}
    {hook : Option (DraftHook σ)} {w w' : World σ} {draft : Configuration}
    (hd : s.schema.form.DeclaresOnce) (hk : ∀ change ∈ hook, change.KeepsBehind)
    (h : outcome (s.draft layers hook) w = (.ok draft, w')) :
    ∃ c, s.schema.castIn s.names c = .ok draft ∧ c.behind = Value.record (merged layers) := by
  cases hook with
  | none => exact ⟨draftOf layers, (draft_none_eq_ok.1 h).1, rfl⟩
  | some change =>
    obtain ⟨held, left, hheld, hchange, hcast⟩ := draft_some_eq_ok.1 h
    have hb : held.behind = (draftOf layers).behind :=
      (castIn_get (fun n hn => Settings.isPublic_of_mem_names hn) (Settings.nodup_names hd) hheld).1
    exact ⟨left, hcast, (hk change rfl held left w w' hchange).trans hb⟩

/-- every field ends with a value that a cast to its type has given -/
theorem fill_get_cast {p : Program} {hook : Option (DraftHook Session)} {flags : Layer}
    {w w' : World Session} {t : Settings} (ht : w.state.registry.schema = .settings t)
    (hd : t.schema.form.DeclaresOnce) (hk : ∀ change ∈ hook, change.KeepsBehind)
    (h : outcome (fill p hook flags) w = (.ok (), w')) {f : String} (hf : f ∈ t.names) :
    ∃ v x, t.schema.cast f v = .ok x ∧ w'.state.config.get f = .ok x := by
  obtain ⟨s, w₁, hs, h⟩ := outcome_bind_eq_ok.1 h
  obtain ⟨layers, w₂, hl, h⟩ := outcome_bind_eq_ok.1 h
  obtain ⟨envFile, file, secret, _, _, -, -, -, rfl⟩ := layers_eq.1 hl
  obtain ⟨draft, w₃, names, c, hdraft, hnames, hpublish, rfl⟩ := fillFrom_eq_ok.1 h
  -- taking the flags in changes values of the settings, and leaves the schema
  obtain ⟨before, taken, hbefore, htake, habs, -⟩ := takeFlags_eq_ok.1 hs
  obtain rfl : before = t := by
    rw [ht] at hbefore
    exact (Registered.settings.inj hbefore).symm
  have hschema : s.schema = before.schema := by
    have := before.take_schema flags
    rw [htake] at this
    exact (Settings.absolute_schema habs).trans this
  rw [← hschema] at hd ⊢
  rw [← Settings.names_congr hschema] at hf
  -- the draft is cast as a whole before it is published
  obtain ⟨left, hcast, hleft⟩ := draft_eq_castIn hd hk hdraft
  obtain ⟨hb, hfields, -⟩ :=
    castIn_get (fun n hn => Settings.isPublic_of_mem_names hn) (Settings.nodup_names hd) hcast
  obtain ⟨v, x, -, hx, hlook⟩ := hfields f hf
  have hmem : f ∈ namesIn
      [flags, s.environmentLayer p.surroundings, envFile, file, secret, s.entries] :=
    (mem_namesIn _ f).2 (firstIn_isSome_of_mem_names (by simp) hf)
  obtain ⟨y, hy, hget⟩ := (published_get (hb.trans hleft) hnames hpublish).1 f hmem
    (Settings.isPublic_of_mem_names hf)
  rw [Configuration.get_of_lookup hlook] at hy
  obtain rfl := Except.ok.inj hy
  exact ⟨v, x, hx, hget⟩

/-- **Every field with a type ends with a value of that type.**  Let a schema be made from a
declaration, and let settings of it be registered, whatever values earlier runs have given them.  If
a filling finishes, from whatever sources and with whatever hook on the attributes of the draft, then
the configuration has under every public name that the schema declares with a type a value of that
type. -/
theorem fill_typed {σ : Type} (d : Declaration) (around : Surroundings) (packages : Packages)
    (u u' : World σ) (schema : Schema)
    (hmake : outcome (d.make around packages : Run σ Schema) u = (.ok schema, u'))
    (p : Program) (hook : Option (DraftHook Session)) (hk : ∀ change ∈ hook, change.KeepsBehind)
    (flags : Layer) (w w' : World Session) (t : Settings)
    (ht : w.state.registry.schema = .settings t) (hs : t.schema = schema)
    (h : outcome (fill p hook flags) w = (.ok (), w')) :
    ∀ f k, d.kinds.lookup f = some k → isPublic f = true →
      ∃ x, w'.state.config.get f = .ok x ∧ x.isOf k = true := by
  intro f k hf hp
  subst hs
  obtain ⟨hkinds, hholds⟩ := make_holds hmake
  have hname : f ∈ d.kinds.map (·.1) := (mem_names_iff_lookup d.kinds f).2 (by rw [hf]; rfl)
  have hfield : f ∈ t.names := (hholds f hname).mem_names hp
  obtain ⟨v, x, hcast, hget⟩ :=
    fill_get_cast ht (make_declaresOnce d around packages hmake).1 hk h hfield
  refine ⟨x, hget, cast_isOf (v := v.wrapped k) ?_⟩
  unfold Schema.cast at hcast
  rw [hkinds, hf] at hcast
  exact hcast

def sampleDeclaration : Declaration :=
  { name := "Sample"
    home := "sample"
    fields :=
      [ ⟨"x", some .list, some (.text "q")⟩
      , ⟨"y", some .int, some (.int 4)⟩
      , ⟨Settings.cwdName, none, some (.path (Path.ofText .posix "/"))⟩
      , ⟨Settings.fileName, none, some (.path (Path.ofText .posix "/a.cfg"))⟩ ]
    hook := some [.set "y" (.text "5")]
    source := none
    importer := none }

def sampleMaking : Except Error Schema × World Unit :=
  outcome (sampleDeclaration.make (sampleProgram [] []).surroundings ⟨[], []⟩) { state := () }

def sampleMade : Schema := sampleMaking.1.toOption.getD baseSchema

theorem sampleMaking_eq : sampleMaking = (.ok sampleMade, sampleMaking.2) := by
  have hok : sampleMaking.1.isOk = true := by decide +kernel
  unfold sampleMade
  cases hm : sampleMaking with
  | mk e w =>
    rw [hm] at hok
    cases e with
    | ok s => rfl
    | error e => cases hok

/-- the environment gives texts for both fields, and the hook puts another one in the place of the
list -/
theorem fill_typed_sample :
    ∃ w' : World Session,
      outcome (fill (sampleProgram [("x", "abc"), ("y", "6")] []) sampleHooked.draftHook?
        [("k", .int 1)]) { state := Session.start.takeSchema sampleMade } = (.ok (), w') ∧
      (∃ x, w'.state.config.get "x" = .ok x ∧ x.isOf .list = true) ∧
      ∃ y, w'.state.config.get "y" = .ok y ∧ y.isOf .int = true := by
  have hrun := outcome_of_isOk (r := fill (sampleProgram [("x", "abc"), ("y", "6")] [])
      sampleHooked.draftHook? [("k", .int 1)])
    (w := { state := Session.start.takeSchema sampleMade }) (by decide +kernel)
  have htyped := fill_typed sampleDeclaration _ _ _ _ sampleMade sampleMaking_eq _ _
    (draftHook_keepsBehind sampleHooked (by decide +kernel)) _ _ _ ⟨sampleMade, []⟩ rfl rfl hrun
  exact ⟨_, hrun, htyped "x" .list (by decide +kernel) (by decide +kernel),
    htyped "y" .int (by decide +kernel) (by decide +kernel)⟩

end CommandLine
