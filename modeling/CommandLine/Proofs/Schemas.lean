import CommandLine.Program.Session
import CommandLine.Proofs.Drafts

/-!
# No name is declared twice

The members of a class are a list of names with what stands under them, and every operation that
writes to it sets a name: an old name keeps its place, a new one comes behind (`putName_names`).  So
a class that is made from a declaration declares each of its names once (`make_declaresOnce`), and
whatever schema is registered in a session that starts empty does (`declare_declaresOnce`).
-/

namespace CommandLine

/-- no name is declared twice -/
def Class.DeclaresOnce (c : Class) : Prop := (c.members.map (·.1)).Nodup

instance (c : Class) : Decidable c.DeclaresOnce := inferInstanceAs (Decidable (List.Nodup _))

/-- the registered schema declares no name twice -/
def Session.DeclaresOnce (s : Session) : Prop :=
  ∀ t, s.registry.schema = .settings t → t.schema.form.DeclaresOnce

/-! ## setting a name -/

theorem putName_names {α : Type} (k : String) (v : α) (es : List (String × α)) :
    (putName k v es).map (·.1) =
      if k ∈ es.map (·.1) then es.map (·.1) else es.map (·.1) ++ [k] := by
  induction es with
  | nil => rfl
  | cons p es ih =>
    obtain ⟨l, u⟩ := p
    unfold putName
    by_cases hl : l = k
    · subst hl
      simp
    · have hk : ¬ k = l := fun h => hl h.symm
      rw [if_neg hl, List.map_cons, List.map_cons, ih]
      by_cases hm : k ∈ es.map (·.1)
      · rw [if_pos hm, if_pos (List.mem_cons_of_mem _ hm)]
      · rw [if_neg hm, if_neg (fun h => (List.mem_cons.1 h).elim hk hm)]
        rfl

theorem nodup_putName {α : Type} (k : String) (v : α) {es : List (String × α)}
    (h : (es.map (·.1)).Nodup) : ((putName k v es).map (·.1)).Nodup := by
  rw [putName_names]
  split
  · exact h
  · rename_i hk
    refine List.nodup_append.2 ⟨h, by simp, ?_⟩
    intro a ha b hb e
    rw [List.mem_singleton.1 hb] at e
    exact hk (e ▸ ha)

theorem Class.DeclaresOnce.setMember {c : Class} (h : c.DeclaresOnce) (n : String) (v : Value) :
    (c.setMember n v).DeclaresOnce := nodup_putName n (Member.plain v) h

/-! ## members -/

theorem lineage_eq (c : Class) : c.lineage = c :: Class.lineageOfBase c.base := by
  cases c
  rw [Class.lineage]

theorem Class.DeclaresOnce.member {c : Class} (h : c.DeclaresOnce) {n : String} {m : Member}
    (hm : (n, m) ∈ c.members) : c.member? n = some m := by
  unfold Class.member?
  rw [lineage_eq, List.findSome?_cons, lookup_of_mem h hm]

theorem mem_declared_of_mem_members {c : Class} {n : String} (h : n ∈ c.members.map (·.1)) :
    n ∈ c.declared.map (·.1) := by
  have keep : ∀ (ms acc : List (String × Member)),
      n ∈ acc.map (·.1) ∨ n ∈ ms.map (·.1) →
      n ∈ (ms.foldl (fun acc m => if (acc.lookup m.1).isSome then acc else acc ++ [m]) acc).map
        (·.1) := by
    intro ms
    induction ms with
    | nil =>
      intro acc hor
      exact hor.elim id (fun hm => by cases hm)
    | cons m ms ih =>
      intro acc hor
      rw [List.foldl_cons]
      apply ih
      by_cases hl : (acc.lookup m.1).isSome = true
      · rw [if_pos hl]
        rcases hor with hor | hor
        · exact .inl hor
        · rcases List.mem_cons.1 hor with rfl | hor
          · exact .inl ((mem_names_iff_lookup acc m.1).2 hl)
          · exact .inr hor
      · rw [if_neg hl, List.map_append, List.mem_append]
        rcases hor with hor | hor
        · exact .inl (.inl hor)
        · rcases List.mem_cons.1 hor with rfl | hor
          · exact .inl (.inr List.mem_cons_self)
          · exact .inr hor
  apply keep
  right
  rw [lineage_eq, List.flatMap_cons, List.map_append]
  exact List.mem_append_left _ h

/-! ## making a schema -/

theorem nodup_defaults (d : Declaration) : (d.defaults.map (·.1)).Nodup := by
  have hnil : (([] : List (String × Value)).map (·.1)).Nodup := List.nodup_nil
  refine List.foldlRecOn (motive := fun acc : List (String × Value) => (acc.map (·.1)).Nodup)
    d.fields _ hnil ?_
  intro acc h f _
  cases hf : f.default with
  | none => simpa [hf] using h
  | some v => simpa [hf] using nodup_putName f.name v h

theorem nodup_given (d : Declaration) : (d.given.map (·.1)).Nodup := by
  unfold Declaration.given
  cases d.hook with
  | none => exact nodup_defaults d
  | some actions => exact nodup_putName hookName (hookRoutine actions) (nodup_defaults d)

theorem Declaration.form_declaresOnce (d : Declaration) : d.form.DeclaresOnce := by
  show ((d.given.map fun e => (e.1, Member.plain e.2)).map (·.1)).Nodup
  rw [List.map_map]
  exact nodup_given d

/-- an action on a class sets members and does nothing else to it, so what setting a member keeps is
kept -/
theorem action_invariant {P : Class → Prop} (hset : ∀ c n v, P c → P (c.setMember n v)) (a : Action)
    {w : World Class} (h : P w.state) : P (outcome (a.run classTarget) w).2.state := by
  cases a with
  | print v =>
    show P (outcome (liftM v.writePlain >>= _) w).2.state
    rw [outcome_bind, outcome_liftM]
    cases v.writePlain <;> exact h
  | «show» n =>
    show P (outcome (liftM (classTarget.read w.state n) >>= fun v => liftM v.writeShown >>= _) w).2.state
    rw [outcome_bind, outcome_liftM]
    cases classTarget.read w.state n with
    | error e => exact h
    | ok v =>
      show P (outcome (liftM v.writeShown >>= _) w).2.state
      rw [outcome_bind, outcome_liftM]
      cases v.writeShown <;> exact h
  | set n v => exact hset _ n v h
  | copy target source =>
    show P (outcome (liftM (classTarget.read w.state source) >>= _) w).2.state
    rw [outcome_bind, outcome_liftM]
    cases classTarget.read w.state source with
    | error e => exact h
    | ok v => exact hset _ target v h
  | raise k m => exact h
  | «return» v => exact h
  | get n =>
    show P (outcome (liftM (classTarget.read w.state n) >>= _) w).2.state
    rw [outcome_bind, outcome_liftM]
    cases classTarget.read w.state n <;> exact h

theorem actions_invariant {P : Class → Prop} (hset : ∀ c n v, P c → P (c.setMember n v))
    (as : List Action) {w : World Class} (h : P w.state) :
    P (outcome (runActions classTarget as) w).2.state := by
  induction as generalizing w with
  | nil => exact h
  | cons a as ih =>
    have ha := action_invariant hset a h
    show P (outcome (a.run classTarget >>= _) w).2.state
    rw [outcome_bind]
    cases hr : outcome (a.run classTarget) w with
    | mk x v =>
      rw [hr] at ha
      cases x with
      | error e => exact ha
      | ok r =>
        cases r with
        | none => exact ih ha
        | some u => exact ha

/-- what holds of the declared class and is kept by setting a member holds after the hook; and the hook
leaves the state outside alone -/
theorem hooked_invariant {σ : Type} {P : Class → Prop} (hset : ∀ c n v, P c → P (c.setMember n v))
    {d : Declaration} (hform : P d.form) {w w' : World σ} {c : Class}
    (h : outcome (d.hooked : Run σ Class) w = (.ok c, w')) : P c ∧ w'.state = w.state := by
  unfold Declaration.hooked at h
  cases hk : d.hook with
  | none =>
    rw [hk] at h
    cases hv : d.defaults.lookup hookName with
    | some v => rw [hv] at h; cases h
    | none =>
      rw [hv] at h
      obtain ⟨hc, rfl⟩ := Prod.mk.inj h
      exact ⟨Except.ok.inj hc ▸ hform, rfl⟩
  | some actions =>
    rw [hk] at h
    obtain ⟨⟨u, c₁⟩, v, hr, h⟩ := outcome_bind_eq_ok.1 h
    obtain ⟨hc, rfl⟩ := Prod.mk.inj h
    obtain rfl := Except.ok.inj hc
    have hs := actions_invariant hset actions (w := ⟨w.out, w.err, d.form⟩) hform
    rw [outcome_runApart] at hr
    cases hx : (outcome (runActions classTarget actions) ⟨w.out, w.err, d.form⟩).1 with
    | error e => rw [hx] at hr; cases hr
    | ok x =>
      rw [hx] at hr
      obtain ⟨hp, rfl⟩ := Prod.mk.inj hr
      have hp := (Prod.mk.inj (Except.ok.inj hp)).2
      exact ⟨hp ▸ hs, rfl⟩

theorem hooked_declaresOnce {σ : Type} (d : Declaration) {w w' : World σ} {c : Class}
    (h : outcome (d.hooked : Run σ Class) w = (.ok c, w')) :
    c.DeclaresOnce ∧ w'.state = w.state :=
  hooked_invariant (fun _ n v hc => hc.setMember n v) d.form_declaresOnce h

/-- a value is settled by one of its casts, and only nothing stays as it is -/
theorem settle_eq_ok {k : Kind} {v current : Value} {x : Option Value}
    (h : k.settle v current = .ok x) :
    (x = none ∧ current = .null) ∨ ∃ u y, k.cast u = .ok y ∧ x = some y := by
  obtain ⟨a, -, h⟩ := bind_eq_ok.1 h
  obtain ⟨b, -, h⟩ := bind_eq_ok.1 h
  split at h
  · split at h
    · exact .inl ⟨(Except.ok.inj h).symm, rfl⟩
    · obtain ⟨y, hy, rfl⟩ := map_eq_ok.1 h
      exact .inr ⟨_, y, hy, rfl⟩
  · obtain ⟨y, hy, rfl⟩ := map_eq_ok.1 h
    exact .inr ⟨_, y, hy, rfl⟩

/-- casting a default leaves the class where nothing stands in it, or sets the field to a value that a
cast has given -/
theorem castDefault_cases {declared : Option Value} {n : String} {k : Kind} {c c' : Class}
    (h : castDefault declared n k c = .ok c') :
    (c' = c ∧ (Value.class c).attribute n = .ok .null) ∨
      ∃ v x, k.cast v = .ok x ∧ c' = c.setMember n x := by
  cases declared with
  | none => cases h
  | some v =>
    obtain ⟨v, -, h⟩ := bind_eq_ok.1 h
    obtain ⟨current, hcurrent, h⟩ := bind_eq_ok.1 h
    obtain ⟨x, hx, h⟩ := bind_eq_ok.1 h
    obtain rfl := Except.ok.inj h
    obtain ⟨rfl, rfl⟩ | ⟨u, y, hy, rfl⟩ := settle_eq_ok hx
    · exact .inl ⟨rfl, hcurrent⟩
    · exact .inr ⟨u, y, hy, rfl⟩

theorem castDefault_declaresOnce {declared : Option Value} {n : String} {k : Kind} {c c' : Class}
    (hc : c.DeclaresOnce) (h : castDefault declared n k c = .ok c') : c'.DeclaresOnce := by
  obtain ⟨rfl, -⟩ | ⟨v, x, -, rfl⟩ := castDefault_cases h
  · exact hc
  · exact hc.setMember n x

theorem castDefaults_declaresOnce (given : List (String × Value)) (kinds : List (String × Kind))
    {c c' : Class} (hc : c.DeclaresOnce) (h : castDefaults given kinds c = .ok c') :
    c'.DeclaresOnce := by
  induction kinds generalizing c with
  | nil =>
    obtain rfl := Except.ok.inj h
    exact hc
  | cons p kinds ih =>
    obtain ⟨n, k⟩ := p
    unfold castDefaults at h
    cases hd : castDefault (given.lookup n) n k c with
    | error e => rw [hd] at h; cases h
    | ok c₁ =>
      rw [hd] at h
      exact ih (castDefault_declaresOnce hc hd) h

/-- a schema that is made from a declaration declares no name twice, and making it leaves the state
alone -/
theorem make_declaresOnce {σ : Type} (d : Declaration) (around : Surroundings)
    (packages : Packages) {w w' : World σ} {schema : Schema}
    (h : outcome (d.make around packages : Run σ Schema) w = (.ok schema, w')) :
    schema.form.DeclaresOnce ∧ w'.state = w.state := by
  obtain ⟨c, v, hh, h⟩ := outcome_bind_eq_ok.1 h
  obtain ⟨hc, hv⟩ := hooked_declaresOnce d hh
  split at h
  · split at h
    · obtain ⟨_, _, -, h⟩ := outcome_bind_eq_ok.1 h
      cases h
    · cases h
  · rename_i c₁ hcast
    obtain ⟨version, -, h⟩ := outcome_liftM_bind_eq_ok.1 h
    obtain ⟨hs, rfl⟩ := Prod.mk.inj h
    obtain rfl := Except.ok.inj hs
    exact ⟨(castDefaults_declaresOnce d.given d.kinds hc hcast).setMember versionName _, hv⟩

/-! ## sessions -/

theorem start_declaresOnce : Session.start.DeclaresOnce := by
  intro t h
  obtain rfl := Registered.settings.inj h
  show baseForm.DeclaresOnce
  decide

theorem declare_declaresOnce (p : Program) (d : Declaration) {w w' : World Session}
    {schema : Schema} (hw : w.state.DeclaresOnce)
    (h : outcome (declare p d) w = (.ok schema, w')) : w'.state.DeclaresOnce := by
  obtain ⟨made, v, hm, h⟩ := outcome_bind_eq_ok.1 h
  obtain ⟨hc, hv⟩ := make_declaresOnce d p.surroundings p.packages hm
  obtain ⟨-, rfl⟩ := Prod.mk.inj h
  intro t ht
  replace ht : (v.state.takeSchema made).registry.schema = .settings t := ht
  rw [hv] at ht
  unfold Session.takeSchema at ht
  by_cases hl : w.state.linked = true
  · rw [if_pos hl] at ht
    obtain rfl := Registered.settings.inj ht
    exact hc
  · rw [if_neg hl] at ht
    exact hw t ht

end CommandLine
