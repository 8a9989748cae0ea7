import CommandLine.Program.Session
import CommandLine.Proofs.Runs

/-!
# Declaring a schema and starting a program

What both do whatever the session is:

* `declare_detached`    making a schema does not touch the session, which only takes the schema in;
* `attributed_prepare`  a program that finds settings never fails for a missing attribute.
-/

namespace CommandLine

/-! ## runs that leave the state alone -/

section
variable {σ τ α β : Type}

/-- does a run neither read the state nor change it? -/
def Detached (r : Run σ α) : Prop :=
  ∀ out err, ∃ x out' err', ∀ s, outcome r ⟨out, err, s⟩ = (x, ⟨out', err', s⟩)

theorem detached_pure (a : α) : Detached (pure a : Run σ α) :=
  fun out err => ⟨.ok a, out, err, fun _ => rfl⟩

theorem detached_throw (e : Error) : Detached (throw e : Run σ α) :=
  fun out err => ⟨.error e, out, err, fun _ => rfl⟩

theorem detached_liftM (e : Except Error α) : Detached (liftM e : Run σ α) :=
  fun out err => ⟨e, out, err, fun _ => rfl⟩

theorem detached_printOut (s : String) : Detached (printOut s : Run σ Unit) :=
  fun out err => ⟨.ok (), out ++ s, err, fun _ => rfl⟩

theorem detached_runApart (state : τ) (r : Run τ α) :
    Detached (runApart state r : Run σ (α × τ)) :=
  fun out err =>
    let v := outcome r ⟨out, err, state⟩
    ⟨v.1.map (·, v.2.state), v.2.out, v.2.err, fun s => outcome_runApart state r ⟨out, err, s⟩⟩

theorem detached_bind {r : Run σ α} {k : α → Run σ β} (hr : Detached r)
    (hk : ∀ a, Detached (k a)) : Detached (r >>= k) := by
  intro out err
  obtain ⟨x, out₁, err₁, hx⟩ := hr out err
  cases x with
  | error e => exact ⟨.error e, out₁, err₁, fun s => outcome_bind_of_error (hx s)⟩
  | ok a =>
    obtain ⟨y, out₂, err₂, hy⟩ := hk a out₁ err₁
    exact ⟨y, out₂, err₂, fun s => (outcome_bind_of_ok (hx s)).trans (hy s)⟩

end

theorem detached_hooked {σ : Type} (d : Declaration) : Detached (d.hooked : Run σ Class) := by
  unfold Declaration.hooked
  split
  · exact detached_bind (detached_runApart _ _) fun _ => detached_pure _
  · exact detached_throw _
  · exact detached_pure _

theorem detached_make {σ : Type} (d : Declaration) (around : Surroundings) (packages : Packages) :
    Detached (d.make around packages : Run σ Schema) := by
  refine detached_bind (detached_hooked d) fun c => ?_
  split
  · split
    · exact detached_bind (detached_printOut _) fun _ => detached_throw _
    · exact detached_throw _
  · exact detached_bind (detached_liftM _) fun _ => detached_pure _

theorem declare_detached (p : Program) (d : Declaration) : ∃ x out err, ∀ s,
    outcome (declare p d) { state := s } = (x, ⟨out, err, x.toOption.elim s s.takeSchema⟩) := by
  obtain ⟨x, out, err, hx⟩ := detached_make (σ := Session) d p.surroundings p.packages "" ""
  refine ⟨x, out, err, fun s => ?_⟩
  cases x with
  | error e => exact outcome_bind_of_error (hx s)
  | ok schema =>
    exact outcome_bind_of_ok (hx s)

/-! ## the errors of a program

Where settings are registered, no program fails for a missing attribute: the words and the methods
have errors of other kinds, and an ordinary error of the command is reported and not passed on. -/

section
variable {σ α β : Type}

/-- does a run never fail for a missing attribute? -/
def Attributed (r : Run σ α) : Prop :=
  ∀ w e w', outcome r w = (.error e, w') → e.kind ≠ .attribute

theorem attributed_printOut (s : String) : Attributed (printOut s : Run σ Unit) := by
  intro w e w' h
  cases h

theorem attributed_modifyState (f : σ → σ) : Attributed (modifyState f) := by
  intro w e w' h
  cases h

theorem attributed_liftM {x : Except Error α} (h : ∀ e, x = .error e → e.kind ≠ .attribute) :
    Attributed (liftM x : Run σ α) := by
  intro w e w' hx
  exact h e (Prod.mk.inj hx).1

theorem attributed_bind {r : Run σ α} {k : α → Run σ β} (hr : Attributed r)
    (hk : ∀ a, Attributed (k a)) : Attributed (r >>= k) := by
  intro w e w' h
  obtain hfirst | ⟨a, v, -, hsecond⟩ := outcome_bind_eq_error.1 h
  · exact hr w e w' hfirst
  · exact hk a v e w' hsecond

theorem attributed_reporting (table : String) (r : Run σ α) : Attributed (reporting table r) := by
  intro w e w' h
  unfold reporting at h
  rw [outcome_tryCatch] at h
  split at h
  · cases h
  · split at h
    · obtain ⟨he, -⟩ := Prod.mk.inj h
      obtain rfl := Except.error.inj he
      decide
    · rename_i hk
      obtain ⟨he, -⟩ := Prod.mk.inj h
      obtain rfl := Except.error.inj he
      intro hattribute
      rw [hattribute] at hk
      exact hk rfl

end

theorem kind_of_checkParamNames {names : List String} {e : Error}
    (h : checkParamNames names = .error e) : e.kind = .value := by
  unfold checkParamNames at h
  split at h
  · cases h
  · obtain rfl := Except.error.inj h
    rfl

theorem kind_of_flagWords {params : List String} {ws : List Value} {e : Error}
    (h : flagWords params ws = .error e) : e.kind = .index := by
  induction params generalizing ws with
  | nil =>
    cases ws with
    | nil => cases h
    | cons w ws =>
      obtain rfl := Except.error.inj h
      rfl
  | cons p params ih =>
    cases ws with
    | nil => cases h
    | cons w ws =>
      unfold flagWords at h
      split at h
      · cases h
      · obtain hrest | ⟨rest, -, h⟩ := bind_eq_error.1 h
        · exact ih hrest
        · cases h

theorem kind_of_flaggedLine {params : List String} {argv : List Value} {e : Error}
    (h : flaggedLine params argv = .error e) : e.kind = .index := by
  unfold flaggedLine at h
  split at h
  · cases h
  · obtain hwords | ⟨rest, -, h⟩ := bind_eq_error.1 h
    · exact kind_of_flagWords hwords
    · cases h

theorem kind_of_checkMethods {params : List String} {rs : List Routine} {e : Error}
    (h : checkMethods params rs = .error e) : e.kind = .value := by
  induction rs with
  | nil => cases h
  | cons r rs ih =>
    unfold checkMethods at h
    split at h
    · obtain rfl := Except.error.inj h
      rfl
    · exact ih h

/-! ## the registered settings -/

theorem outcome_registeredSettings {w : World Session} {t : Settings}
    (h : w.state.registry.schema = .settings t) : outcome registeredSettings w = (.ok t, w) := by
  unfold registeredSettings
  rw [outcome_bind_of_ok (outcome_getState w), h]
  rfl

theorem outcome_registeredSettings_of_value {w : World Session} {v : Value}
    (h : w.state.registry.schema = .value v) :
    outcome registeredSettings w = (.error (v.attributeError "_fields"), w) := by
  unfold registeredSettings
  rw [outcome_bind_of_ok (outcome_getState w), h]
  rfl

/-- a program that finds settings does not fail for a missing attribute before its command runs, and
what the command fails with is reported -/
theorem attributed_prepare (l : Launch) (p : Program) (c : Class) {w w' : World Session}
    {t : Settings} (ht : w.state.registry.schema = .settings t) {e : Error}
    (h : outcome (l.prepare p c) w = (.error e, w')) : e.kind ≠ .attribute := by
  have hrest : ∀ k : Settings → Run Session Unit, (∀ t, Attributed (k t)) →
      outcome (registeredSettings >>= k) w = (.error e, w') → e.kind ≠ .attribute := by
    intro k hk hrun
    rw [outcome_bind_of_ok (outcome_registeredSettings ht)] at hrun
    exact hk t w e w' hrun
  have hvalue : ErrorKind.value ≠ .attribute := by decide
  have hindex : ErrorKind.index ≠ .attribute := by decide
  refine hrest _ (fun t => ?_) h
  refine attributed_bind (attributed_liftM fun e he => ?_) fun _ => ?_
  · rw [kind_of_checkParamNames he]
    exact hvalue
  refine attributed_bind (attributed_printOut _) fun _ => ?_
  refine attributed_bind (attributed_modifyState _) fun _ => ?_
  refine attributed_bind (attributed_liftM fun e he => ?_) fun argv => ?_
  · rw [kind_of_flaggedLine he]
    exact hindex
  refine attributed_bind (attributed_modifyState _) fun _ => ?_
  refine attributed_bind (attributed_liftM fun e he => ?_) fun _ => ?_
  · rw [kind_of_checkMethods he]
    exact hvalue
  exact attributed_bind (attributed_modifyState _) fun _ => attributed_reporting _ _

end CommandLine
