import CommandLine.Component.Act

/-!
# What a run comes to

`outcome r w` is the result of the run `r` from the world `w` together with the world it leaves.  A
run that is put together from others is taken apart here, once for each way of putting together:

* `outcome_bind`          one run after another: an error ends both;
* `outcome_bind_eq_ok`    such a run finishes exactly if both of its parts do;
* `outcome_bind_eq_error` it fails exactly if one of its parts does;
* `outcome_tryCatch`      a run with a handler for its errors;
* `outcome_liftM`         a computation that only may fail leaves the world alone;
* `outcome_runWithin`     a run on a part of the state changes nothing but that part;
* `outcome_runApart`      a run on a state of its own changes only what is printed.

After this no proof looks into the monad.
-/

namespace CommandLine

section
variable {σ τ α β : Type}

/-- two steps that may fail succeed exactly if the first does and the second does on its value -/
theorem bind_eq_ok {ε : Type} {e : Except ε α} {k : α → Except ε β} {b : β} :
    (e >>= k) = .ok b ↔ ∃ a, e = .ok a ∧ k a = .ok b := by
  cases e with
  | error e =>
    constructor
    · intro h; cases h
    · rintro ⟨a, h, -⟩; cases h
  | ok a =>
    constructor
    · intro h; exact ⟨a, rfl, h⟩
    · rintro ⟨a', h, hk⟩
      obtain rfl := Except.ok.inj h
      exact hk

/-- they fail exactly if the first does, or the second on the value of the first -/
theorem bind_eq_error {ε : Type} {x : Except ε α} {k : α → Except ε β} {e : ε} :
    (x >>= k) = .error e ↔ x = .error e ∨ ∃ a, x = .ok a ∧ k a = .error e := by
  cases x with
  | error e' =>
    constructor
    · intro h; exact .inl (congrArg _ (Except.error.inj h))
    · rintro (h | ⟨a, h, -⟩)
      · exact congrArg _ (Except.error.inj h)
      · cases h
  | ok a =>
    constructor
    · intro h; exact .inr ⟨a, rfl, h⟩
    · rintro (h | ⟨a', h, hk⟩)
      · cases h
      · obtain rfl := Except.ok.inj h
        exact hk

theorem map_eq_ok {ε : Type} {e : Except ε α} {f : α → β} {b : β} :
    e.map f = .ok b ↔ ∃ a, e = .ok a ∧ f a = b := by
  cases e with
  | error e =>
    constructor
    · intro h; cases h
    · rintro ⟨a, h, -⟩; cases h
  | ok a =>
    constructor
    · intro h; exact ⟨a, rfl, Except.ok.inj h⟩
    · rintro ⟨a', h, hf⟩
      obtain rfl := Except.ok.inj h
      exact congrArg _ hf

theorem exists_of_isOk {ε : Type} {e : Except ε α} (h : e.isOk = true) : ∃ a, e = .ok a := by
  cases e with
  | error e => cases h
  | ok a => exact ⟨a, rfl⟩

def outcome (r : Run σ α) (w : World σ) : Except Error α × World σ := r.run.run w

theorem outcome_pure (a : α) (w : World σ) : outcome (pure a : Run σ α) w = (.ok a, w) := rfl

theorem outcome_throw (e : Error) (w : World σ) :
    outcome (throw e : Run σ α) w = (.error e, w) := rfl

theorem outcome_liftM (e : Except Error α) (w : World σ) :
    outcome (liftM e : Run σ α) w = (e, w) := rfl

theorem outcome_getState (w : World σ) : outcome (getState : Run σ σ) w = (.ok w.state, w) := rfl

theorem outcome_modifyState (f : σ → σ) (w : World σ) :
    outcome (modifyState f : Run σ Unit) w = (.ok (), { w with state := f w.state }) := rfl

/-! ## one run after another -/

theorem outcome_bind (r : Run σ α) (k : α → Run σ β) (w : World σ) :
    outcome (r >>= k) w = match outcome r w with
      | (.ok a, w') => outcome (k a) w'
      | (.error e, w') => (.error e, w') := by
  show (ExceptT.bindCont k (r.run.run w).1).run (r.run.run w).2 = _
  unfold outcome
  cases r.run.run w with
  | mk x w' => cases x <;> rfl

theorem outcome_bind_of_ok {r : Run σ α} {k : α → Run σ β} {w w' : World σ} {a : α}
    (h : outcome r w = (.ok a, w')) : outcome (r >>= k) w = outcome (k a) w' := by
  rw [outcome_bind, h]

theorem outcome_bind_of_error {r : Run σ α} {k : α → Run σ β} {w w' : World σ} {e : Error}
    (h : outcome r w = (.error e, w')) : outcome (r >>= k) w = (.error e, w') := by
  rw [outcome_bind, h]

/-- a run in two parts finishes exactly if the first does and the second does from there -/
theorem outcome_bind_eq_ok {r : Run σ α} {k : α → Run σ β} {w w' : World σ} {b : β} :
    outcome (r >>= k) w = (.ok b, w') ↔
      ∃ a v, outcome r w = (.ok a, v) ∧ outcome (k a) v = (.ok b, w') := by
  constructor
  · intro h
    rw [outcome_bind] at h
    cases hr : outcome r w with
    | mk x v =>
      rw [hr] at h
      cases x with
      | ok a => exact ⟨a, v, rfl, h⟩
      | error e => cases h
  · rintro ⟨a, v, hr, hk⟩
    rw [outcome_bind_of_ok hr, hk]

/-- a run in two parts fails exactly if the first does, or the second from where the first ends -/
theorem outcome_bind_eq_error {r : Run σ α} {k : α → Run σ β} {w w' : World σ} {e : Error} :
    outcome (r >>= k) w = (.error e, w') ↔ outcome r w = (.error e, w') ∨
      ∃ a v, outcome r w = (.ok a, v) ∧ outcome (k a) v = (.error e, w') := by
  constructor
  · intro h
    rw [outcome_bind] at h
    cases hr : outcome r w with
    | mk x v =>
      rw [hr] at h
      cases x with
      | ok a => exact .inr ⟨a, v, rfl, h⟩
      | error e' =>
        obtain ⟨he, rfl⟩ := Prod.mk.inj h
        obtain rfl := Except.error.inj he
        exact .inl rfl
  · rintro (h | ⟨a, v, hr, hk⟩)
    · exact outcome_bind_of_error h
    · rw [outcome_bind_of_ok hr, hk]

/-- two runs in two parts end alike if their parts do -/
theorem outcome_bind_congr {r r' : Run σ α} {k k' : α → Run σ β} {w : World σ}
    (hr : outcome r w = outcome r' w)
    (hk : ∀ a w', outcome r w = (.ok a, w') → outcome (k a) w' = outcome (k' a) w') :
    outcome (r >>= k) w = outcome (r' >>= k') w := by
  rw [outcome_bind, outcome_bind, ← hr]
  cases h : outcome r w with
  | mk x w' =>
    cases x with
    | error e => rfl
    | ok a => exact hk a w' h

/-- an error goes to the handler, with the world that the run has left -/
theorem outcome_tryCatch (r : Run σ α) (handle : Error → Run σ α) (w : World σ) :
    outcome (tryCatch r handle) w = match outcome r w with
      | (.ok a, w') => (.ok a, w')
      | (.error e, w') => outcome (handle e) w' := by
  show (ExceptT.tryCatch r handle).run.run w = _
  unfold ExceptT.tryCatch outcome ExceptT.run StateT.run
  simp only [ExceptT.mk, bind, StateT.bind]
  cases r w with
  | mk x w' => cases x <;> rfl

/-- a computation that may fail in front of a run: it must succeed, and the run goes on from the
same world -/
theorem outcome_liftM_bind_eq_ok {e : Except Error α} {k : α → Run σ β} {w w' : World σ} {b : β} :
    outcome (liftM e >>= k) w = (.ok b, w') ↔
      ∃ a, e = .ok a ∧ outcome (k a) w = (.ok b, w') := by
  rw [outcome_bind_eq_ok]
  constructor
  · rintro ⟨a, v, he, hk⟩
    rw [outcome_liftM] at he
    obtain ⟨rfl, rfl⟩ := Prod.mk.inj he
    exact ⟨a, rfl, hk⟩
  · rintro ⟨a, rfl, hk⟩
    exact ⟨a, w, rfl, hk⟩

/-! ## runs on a part of the state -/

theorem outcome_runWithin (part : σ → τ) (store : τ → σ → σ) (r : Run τ α) (w : World σ) :
    outcome (runWithin part store r) w =
      ((outcome r ⟨w.out, w.err, part w.state⟩).1,
        ⟨(outcome r ⟨w.out, w.err, part w.state⟩).2.out,
          (outcome r ⟨w.out, w.err, part w.state⟩).2.err,
          store (outcome r ⟨w.out, w.err, part w.state⟩).2.state w.state⟩) := rfl

theorem outcome_runApart (state : τ) (r : Run τ α) (w : World σ) :
    outcome (runApart state r : Run σ (α × τ)) w =
      ((outcome r ⟨w.out, w.err, state⟩).1.map (·, (outcome r ⟨w.out, w.err, state⟩).2.state),
        { w with
          out := (outcome r ⟨w.out, w.err, state⟩).2.out
          err := (outcome r ⟨w.out, w.err, state⟩).2.err }) := rfl

end

end CommandLine
