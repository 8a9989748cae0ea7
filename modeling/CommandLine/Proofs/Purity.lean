import CommandLine.Proofs.Endings

/-!
# Runs whose result does not depend on the world

A run is blind if it has the same result from every world; it may still print.  Everything that a
command does is blind except what its host does (`blind_walk`): of a host whose actions and whose
configuration are blind, equal calls give equal results.
-/

namespace CommandLine

/-- does a run have the same result from every world? -/
def Blind {σ α : Type} (r : Run σ α) : Prop := ∀ w w', (outcome r w).1 = (outcome r w').1

/-- a host whose calls have the same result each time -/
structure Host.Pure {σ : Type} (host : Host σ) : Prop where
  act : ∀ actions values, Blind (host.act actions values)
  configure : ∀ named, Blind (host.configure named)

section
variable {σ α β : Type}

/-! ## putting runs together -/

theorem blind_pure (a : α) : Blind (pure a : Run σ α) := fun _ _ => rfl

theorem blind_throw (e : Error) : Blind (throw e : Run σ α) := fun _ _ => rfl

theorem blind_liftM (e : Except Error α) : Blind (liftM e : Run σ α) := fun _ _ => rfl

theorem blind_printOut (s : String) : Blind (printOut s : Run σ Unit) := fun _ _ => rfl

theorem blind_bind {r : Run σ α} {k : α → Run σ β} (hr : Blind r) (hk : ∀ a, Blind (k a)) :
    Blind (r >>= k) := by
  intro w w'
  have hresult := hr w w'
  rw [outcome_bind, outcome_bind]
  cases h : outcome r w with
  | mk x v =>
    cases h' : outcome r w' with
    | mk x' v' =>
      rw [h, h'] at hresult
      obtain rfl : x = x' := hresult
      cases x with
      | error e => rfl
      | ok a => exact hk a v v'

/-- a result that a blind run has once, it has always -/
theorem Blind.eq_of_eq {r : Run σ α} (hr : Blind r) {w w₁ : World σ} {x : Except Error α}
    (h : outcome r w = (x, w₁)) (w' : World σ) : ∃ w₂, outcome r w' = (x, w₂) := by
  refine ⟨(outcome r w').2, Prod.ext ?_ rfl⟩
  rw [hr w' w, h]

/-! ## commands -/

variable {host : Host σ}

theorem blind_body (h : host.Pure) (b : Body) (values : List (String × Value)) :
    Blind (b.run host values) := by
  cases b with
  | print text => exact blind_bind (blind_printOut _) fun _ => blind_pure _
  | raise kind message => exact blind_throw _
  | act actions => exact blind_bind (h.act actions values) fun _ => blind_pure _
  | _ => exact blind_pure _

theorem blind_routine (h : host.Pure) (r : Routine) (bound : Bool) (positional : List Value)
    (named : List (String × Value)) : Blind (r.call host bound positional named) := by
  have hassign : ∀ (s : Signature Value) (f : List (String × Value) → List (String × Value)),
      Blind (liftM (s.assign r.name positional named) >>= fun values =>
        r.body.run host (f values)) := by
    intro s f
    exact blind_bind (blind_liftM _) fun values => blind_body h r.body _
  unfold Routine.call
  split
  · dsimp only
    split
    · exact blind_bind (blind_throw _) fun _ => hassign _ id
    · exact hassign _ id
  · exact hassign _ (List.drop 1)
  · exact hassign _ id

theorem blind_instantiate (h : host.Pure) (c : Class) (positional : List Value)
    (named : List (String × Value)) : Blind (c.instantiate host positional named) := by
  unfold Class.instantiate
  split
  · split
    · exact blind_pure _
    · exact blind_throw _
  · rename_i r _
    have hstore : Blind (liftM (r.signature.assign (c.name ++ ".__init__") positional named) >>=
        fun values => (pure (.object c values) : Run σ Value)) :=
      blind_bind (blind_liftM _) fun _ => blind_pure _
    dsimp only
    split
    · exact blind_bind (blind_throw _) fun _ => hstore
    · exact hstore
  · have hconfigure : Blind (host.configure named >>= fun _ => pure (Value.object c [])) :=
      blind_bind (h.configure named) fun _ => blind_pure _
    dsimp only
    split
    · exact blind_bind (blind_throw _) fun _ => hconfigure
    · exact hconfigure

theorem blind_call (h : host.Pure) (v : Value) (positional : List Value)
    (named : List (String × Value)) : Blind (v.call host positional named) := by
  unfold Value.call
  split
  · exact blind_routine h _ false positional named
  · refine blind_bind (blind_routine h _ true positional named) fun res => ?_
    cases res <;> exact blind_pure _
  · exact blind_bind (blind_instantiate h _ positional named) fun _ => blind_pure _
  · exact blind_bind (blind_liftM _) fun _ => blind_pure _
  · exact blind_bind (blind_liftM _) fun _ => blind_pure _
  · exact blind_bind (blind_liftM _) fun _ => blind_pure _
  · exact blind_throw _

theorem blind_move (h : host.Pure) (v : Value) (args : List Value) : Blind (v.move host args) := by
  unfold Value.move
  split
  · refine blind_bind (blind_liftM _) fun words => ?_
    split
    · exact blind_pure _
    · exact blind_throw _
    · refine blind_bind (blind_call h v _ _) fun res => ?_
      cases res <;> exact blind_pure _
  · split
    · exact blind_pure _
    · exact blind_liftM _

theorem blind_round (h : host.Pure) (fs : Flags) (p : Progress) : Blind (p.round host fs) := by
  unfold Progress.round
  split
  · exact blind_pure _
  · exact blind_bind (blind_move h _ _) fun _ => blind_liftM _

theorem blind_rounds (h : host.Pure) (fs : Flags) {next : Progress → Run σ RunEnd}
    (hnext : ∀ q, Blind (next q)) (k : Nat) (p : Progress) : Blind (p.rounds host fs next k) := by
  induction k generalizing p with
  | zero => exact blind_pure _
  | succ k ih =>
    refine blind_bind (blind_round h fs p) fun r => ?_
    cases r with
    | finished q => exact blind_pure _
    | refused t => exact blind_pure _
    | again q =>
      dsimp only
      split
      · exact hnext q
      · exact ih q

theorem blind_runFor (h : host.Pure) (fs : Flags) (n : Nat) (p : Progress) :
    Blind (p.runFor host fs n) := by
  induction n generalizing p with
  | zero => exact blind_pure _
  | succ n ih => exact blind_rounds h fs ih _ p

theorem blind_run (h : host.Pure) (fs : Flags) (p : Progress) : Blind (p.run host fs) :=
  blind_runFor h fs _ p

theorem blind_conclude (fs : Flags) (context : List (String × Value)) (initial : Value)
    (p : Progress) : Blind (p.conclude fs context initial : Run σ Trace) := by
  have hend : ∀ t : Trace, Blind (if fs.interactive then do
      printOut (sessionText fs.verbose (sessionVariables context t.name initial p))
      return t.add { deed := .interactive, component := .null }
    else return t : Run σ Trace) := by
    intro t
    split
    · exact blind_bind (blind_printOut _) fun _ => blind_pure _
    · exact blind_pure _
  unfold Progress.conclude
  dsimp only
  split
  · exact blind_pure _
  · split
    · split
      · exact blind_bind (blind_throw _) hend
      · exact hend _
    · exact hend _

theorem blind_walk (h : host.Pure) (fs : Flags) (context : List (String × Value)) (p : Progress) :
    Blind (p.walk host fs context) := by
  refine blind_bind (blind_run h fs p) fun e => ?_
  cases e with
  | refused t => exact blind_pure _
  | finished q => exact blind_conclude fs context _ q
  | stuck q => exact blind_conclude fs context _ q

end

end CommandLine
