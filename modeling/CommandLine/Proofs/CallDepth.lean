import CommandLine.Command.Depth
import CommandLine.Proofs.Bindings
import CommandLine.Proofs.Casts

/-!
# How deep the results of calls are

A call that is given nothing by the command line leads to something that allows fewer calls in a row
(`callDepth_lt_of_call`): the value comes from a default, from the body of the routine, or out of a
set, all of which are parts of what is called.  The one exception is a method that gives itself,
which comes back without its receiver.
-/

namespace CommandLine

/-- the results are at most so deep -/
def AtMost (n : Nat) (e : Except Error Value) : Prop := ∀ u, e = .ok u → u.callDepth ≤ n

section
variable {α : Type} {n : Nat}

theorem atMost_error (e : Error) : AtMost n (.error e) := by
  intro u h
  cases h

theorem atMost_ok {u : Value} (h : u.callDepth ≤ n) : AtMost n (.ok u) := by
  intro u' h'
  obtain rfl := Except.ok.inj h'
  exact h

theorem atMost_bind {e : Except Error α} {k : α → Except Error Value} (h : ∀ a, AtMost n (k a)) :
    AtMost n (e >>= k) := by
  intro u hu
  obtain ⟨a, -, hk⟩ := bind_eq_ok.1 hu
  exact h a u hk

theorem callDepth_of_not_callable {v : Value} (h : v.isCallable = false) : v.callDepth = 0 := by
  cases v with
  | routine | method | builtin | builtinMethod | «class» | kind => cases h
  | _ => rfl

theorem callDepth_le_listDepth {v : Value} {vs : List Value} (h : v ∈ vs) :
    v.callDepth ≤ Value.listDepth vs := by
  induction vs with
  | nil => cases h
  | cons x vs ih =>
    rw [Value.listDepth]
    obtain rfl | h := List.mem_cons.1 h
    · exact Nat.le_max_left _ _
    · exact Nat.le_trans (ih h) (Nat.le_max_right _ _)

/-! ## methods of built-in types -/

theorem atMost_hasEdge (name : String) (holds : String → Bool) (v : Value) :
    AtMost n (hasEdge name holds v) := by
  have hgo : ∀ vs, AtMost n (hasEdge.go name holds vs) := by
    intro vs
    induction vs with
    | nil => exact atMost_ok (Nat.zero_le n)
    | cons v vs ih =>
      cases v with
      | text s =>
        rw [hasEdge.go]
        split
        · exact atMost_ok (Nat.zero_le n)
        · exact ih
      | _ => exact atMost_error _
  cases v with
  | text s => exact atMost_ok (Nat.zero_le n)
  | tuple vs => exact hgo vs
  | _ => exact atMost_error _

theorem atMost_searchText (s name : String) (args : List Value) :
    AtMost n (searchText s name args) := by
  unfold searchText
  refine atMost_bind fun a => ?_
  split
  split
  · exact atMost_hasEdge _ _ _
  · exact atMost_hasEdge _ _ _
  · exact atMost_ok (Nat.zero_le n)
  · dsimp only
    split
    · exact atMost_ok (Nat.zero_le n)
    · exact atMost_error _
    · exact atMost_ok (Nat.zero_le n)
  · exact atMost_error _

theorem atMost_pairTable (v w : Value) (dropped : String) : AtMost n (pairTable v w dropped) := by
  unfold pairTable
  split
  · split
    · exact atMost_error _
    · exact atMost_ok (Nat.zero_le n)
  · exact atMost_error _
  · exact atMost_error _

theorem atMost_replacementTable (args : List Value) : AtMost n (replacementTable args) := by
  unfold replacementTable
  split
  · exact atMost_error _
  · exact atMost_bind fun _ => atMost_ok (Nat.zero_le n)
  · exact atMost_error _
  · exact atMost_pairTable _ _ _
  · exact atMost_pairTable _ _ _
  · exact atMost_error _
  · exact atMost_error _
  · exact atMost_error _

theorem atMost_fillText (s : String) (args : Option (List Value)) (named : List (String × Value)) :
    AtMost n (fillText s args named) :=
  atMost_bind fun _ => atMost_ok (Nat.zero_le n)

theorem atMost_callWithNone {v : Value} {name : String} {args : List Value}
    {result : Except Error Value} (h : AtMost n result) :
    AtMost n (callWithNone v name args result) := by
  unfold callWithNone
  split
  · exact h
  · exact atMost_error _

theorem atMost_callWithOne {v : Value} {name : String} {args : List Value}
    {result : Value → Except Error Value} (h : ∀ w, AtMost n (result w)) :
    AtMost n (callWithOne v name args result) := by
  unfold callWithOne
  split
  · exact h _
  · exact atMost_error _

/-- only `pop` gives an element of a set -/
theorem atMost_callSetMethod {rebuild : List Value → Value}
    (hrebuild : ∀ zs, (rebuild zs).callDepth = 0) (v : Value) (kind : Kind) (xs : List Value)
    (name : String) (args : List Value) :
    AtMost (Value.listDepth xs) (callSetMethod v rebuild kind xs name args) := by
  have hbuilt : ∀ zs, AtMost (Value.listDepth xs) (.ok (rebuild zs)) := by
    intro zs
    exact atMost_ok (by rw [hrebuild]; exact Nat.zero_le _)
  have hnone : ∀ result, setMethodOfNone? rebuild kind xs name = some result →
      AtMost (Value.listDepth xs) result := by
    intro result h
    unfold setMethodOfNone? at h
    split at h
    · exact Option.some.inj h ▸ atMost_ok (Nat.zero_le _)
    · exact Option.some.inj h ▸ hbuilt xs
    · obtain rfl := Option.some.inj h
      cases xs with
      | nil => exact atMost_error _
      | cons x xs => exact atMost_ok (callDepth_le_listDepth List.mem_cons_self)
    · exact Option.some.inj h ▸ atMost_ok (Nat.zero_le _)
    · cases h
  have hone : ∀ result, setMethodOfOne? rebuild xs name = some result →
      ∀ w, AtMost (Value.listDepth xs) (result w) := by
    intro result h w
    unfold setMethodOfOne? at h
    split at h
    · exact Option.some.inj h ▸ atMost_bind fun _ => atMost_ok (Nat.zero_le _)
    · exact Option.some.inj h ▸ atMost_bind fun _ => atMost_ok (Nat.zero_le _)
    · obtain rfl := Option.some.inj h
      refine atMost_bind fun k => ?_
      split
      · exact atMost_ok (Nat.zero_le _)
      · exact atMost_error _
    · exact Option.some.inj h ▸ atMost_bind fun _ => atMost_ok (Nat.zero_le _)
    · exact Option.some.inj h ▸ atMost_bind fun _ => atMost_bind fun _ => atMost_ok (Nat.zero_le _)
    · exact Option.some.inj h ▸ atMost_bind fun _ => hbuilt _
    · exact Option.some.inj h ▸ atMost_bind fun _ => atMost_ok (Nat.zero_le _)
    · cases h
  unfold callSetMethod
  split
  · exact atMost_callWithNone (hnone _ (by assumption))
  · exact atMost_callWithOne (hone _ (by assumption))
  · refine atMost_bind fun zs => ?_
    split
    · exact atMost_ok (Nat.zero_le _)
    · exact hbuilt zs

theorem atMost_roundMethod (i : Int) (args : List Value) : AtMost n (roundMethod i args) := by
  unfold roundMethod
  split
  · exact atMost_ok (Nat.zero_le n)
  · split
    · exact atMost_ok (Nat.zero_le n)
    · exact atMost_error _
  · exact atMost_error _

theorem atMost_refillSet (args : List Value) (named : List (String × Value)) :
    AtMost n (refillSet args named) := by
  unfold refillSet
  dsimp only
  split
  · exact atMost_error _
  · split
    · exact atMost_ok (Nat.zero_le n)
    · exact atMost_bind fun _ => atMost_ok (Nat.zero_le n)
    · exact atMost_error _

theorem atMost_callOpenMethod (v : Value) (name : String) (args : List Value)
    (named : List (String × Value)) :
    AtMost v.heldDepth (callOpenMethod v name args named) := by
  unfold callOpenMethod
  split
  · exact atMost_error _
  · exact atMost_refillSet _ _
  · exact atMost_ok (Nat.zero_le _)
  · dsimp only
    split <;> exact atMost_error _
  · exact atMost_fillText _ _ _
  · split
    · exact atMost_error _
    · split
      · exact atMost_callWithNone (atMost_ok (Nat.zero_le _))
      · refine atMost_callWithOne fun w => ?_
        split <;> exact atMost_fillText _ _ _
      · exact atMost_replacementTable _
      · exact atMost_callWithNone (atMost_ok (Nat.zero_le _))
      · exact atMost_searchText _ _ _
      · exact atMost_callSetMethod (fun _ => rfl) _ _ _ _ _
      · exact atMost_callSetMethod (fun _ => rfl) _ _ _ _ _
      · split
        · exact atMost_roundMethod _ _
        · exact atMost_callWithNone (atMost_ok (Nat.zero_le _))
        · exact atMost_callWithNone (atMost_ok (Nat.zero_le _))

theorem atMost_callBuiltinMethod (v : Value) (name : String) (args : List Value)
    (named : List (String × Value)) :
    AtMost v.heldDepth (callBuiltinMethod v name args named) := by
  unfold callBuiltinMethod
  split
  · exact atMost_callOpenMethod v name args named
  · exact atMost_error _

/-! ## built-in functions and types -/

theorem atMost_noInstances (vs : List Value) : AtMost n (noInstances vs) := by
  induction vs with
  | nil => exact atMost_ok (Nat.zero_le n)
  | cons v vs ih => exact atMost_bind fun _ => ih

theorem atMost_noInstance (v : Value) : AtMost n (noInstance v) := by
  cases v with
  | tuple vs => exact atMost_noInstances vs
  | _ => exact atMost_error _

theorem atMost_sortedElements (v : Value) (named : List (String × Value)) :
    AtMost n (sortedElements v named) := by
  have hlist : ∀ (reversed : Bool) (xs : List Value), AtMost n (Value.sorted xs >>= fun sorted =>
      pure (.list (if reversed then sorted.reverse else sorted))) := by
    intro reversed xs
    exact atMost_bind fun _ => atMost_ok (Nat.zero_le n)
  unfold sortedElements
  refine atMost_bind fun xs => ?_
  dsimp only
  split
  · split
    · refine atMost_bind fun reversed => ?_
      split
      · exact atMost_bind fun _ => hlist _ _
      · exact hlist _ _
    · exact atMost_error _
  · exact atMost_error _

theorem atMost_divModValue (v w : Value) : AtMost n (divModValue v w) := by
  have hint : ∀ i j, AtMost n (divModInt i j) := by
    intro i j
    unfold divModInt
    split
    · exact atMost_error _
    · exact atMost_ok (Nat.zero_le n)
  have hfloat : ∀ x y, AtMost n (divModFloat x y) := by
    intro x y
    unfold divModFloat
    split
    · exact atMost_error _
    · exact atMost_ok (Nat.zero_le n)
  unfold divModValue
  split
  · exact hint _ _
  · exact hfloat _ _
  · exact atMost_bind fun _ => hfloat _ _
  · exact atMost_bind fun _ => hfloat _ _
  · exact atMost_error _

/-- a built-in function that takes anything gives nothing without arguments, and the others give
nothing that can be called -/
theorem atMost_builtin {b : Builtin} {positional : List Value}
    (h : positional.length = b.signature.args.length) : AtMost n (b.call positional []) := by
  unfold Builtin.call
  split
  · split
    · exact atMost_ok (Nat.zero_le n)
    · exact atMost_error _
  · split
    · exact atMost_ok (Nat.zero_le n)
    · exact atMost_ok (Nat.zero_le n)
    · exact atMost_ok (Nat.zero_le n)
    · exact atMost_error _
  · rw [List.eq_nil_of_length_eq_zero h]
    exact atMost_error _
  · rw [List.eq_nil_of_length_eq_zero h]
    exact atMost_error _
  · exact atMost_sortedElements _ _
  · exact atMost_divModValue _ _
  · exact atMost_noInstance _
  · rw [List.eq_nil_of_length_eq_zero h]
    exact atMost_error _
  · exact atMost_error _

theorem atMost_make (k : Kind) (positional : List Value) : AtMost n (k.make positional) := by
  unfold Kind.make
  split
  · exact atMost_bind fun _ => atMost_ok (Nat.zero_le n)
  · intro u hu
    rw [callDepth_of_not_callable (isCallable_of_isOf (cast_isOf hu))]
    exact Nat.zero_le n
  · refine atMost_ok ?_
    cases k <;> exact Nat.zero_le n

/-! ## routines -/

theorem callDepth_le_namedDepth {k : String} {v : Value} {es : List (String × Value)}
    (h : (k, v) ∈ es) : v.callDepth ≤ Value.namedDepth es := by
  induction es with
  | nil => cases h
  | cons e es ih =>
    rw [Value.namedDepth]
    obtain rfl | h := List.mem_cons.1 h
    · exact Nat.le_max_left _ _
    · exact Nat.le_trans (ih h) (Nat.le_max_right _ _)

/-- the values of the parameters are not deeper than the defaults -/
def Plain (s : Signature Value) (values : List (String × Value)) : Prop :=
  ∀ e ∈ values, e.2.callDepth ≤ s.callDepth

section
variable {s : Signature Value} {name : String} {positional : List Value}
  {values : List (String × Value)}

theorem Signature.callDepth_eq (s : Signature Value) :
    s.callDepth = max (Value.listDepth s.defaults) (Value.namedDepth s.flagDefaults) := by
  cases s
  rw [Signature.callDepth]

theorem callDepth_le_of_default {v : Value} (h : v ∈ s.defaults ∨ v = .null) :
    v.callDepth ≤ s.callDepth := by
  rw [Signature.callDepth_eq]
  obtain h | rfl := h
  · exact Nat.le_trans (callDepth_le_listDepth h) (Nat.le_max_left _ _)
  · exact Nat.zero_le _

theorem getD_mem (vs : List Value) (n : Nat) : vs.getD n .null ∈ vs ∨ vs.getD n .null = .null := by
  rw [List.getD_eq_getElem?_getD]
  cases h : vs[n]? with
  | none => exact .inr rfl
  | some v => exact .inl (List.mem_of_getElem? h)

theorem plain_positionalValues (hpositional : ∀ v ∈ positional, v ∈ s.defaults ∨ v = .null)
    {index : Nat} {ps : List String}
    (h : positionalValues name s [] index ps positional = .ok values) : Plain s values := by
  induction ps generalizing index positional values with
  | nil =>
    obtain rfl := Except.ok.inj h
    exact fun e he => absurd he List.not_mem_nil
  | cons p ps ih =>
    have hcons : ∀ {v positional' rest}, v.callDepth ≤ s.callDepth →
        (∀ v ∈ positional', v ∈ s.defaults ∨ v = .null) →
        positionalValues name s [] (index + 1) ps positional' = .ok rest →
        (p, v) :: rest = values → Plain s values := by
      rintro v positional' rest hv hrest hvalues rfl
      exact List.forall_mem_cons.2 ⟨hv, ih hrest hvalues⟩
    cases positional with
    | cons v vs =>
      rw [List.forall_mem_cons] at hpositional
      rw [positionalValues] at h
      obtain ⟨rest, hrest, h⟩ := bind_eq_ok.1 h
      exact hcons (callDepth_le_of_default hpositional.1) hpositional.2 hrest (Except.ok.inj h)
    | nil =>
      rw [positionalValues] at h
      dsimp only [List.lookup] at h
      split at h
      · cases h
      · rw [pure_bind] at h
        obtain ⟨rest, hrest, h⟩ := bind_eq_ok.1 h
        exact hcons (callDepth_le_of_default (getD_mem _ _)) hpositional hrest (Except.ok.inj h)

theorem plain_flagValues {ks : List String} (h : flagValues name s [] ks = .ok values) :
    Plain s values := by
  induction ks generalizing values with
  | nil =>
    obtain rfl := Except.ok.inj h
    exact fun e he => absurd he List.not_mem_nil
  | cons k ks ih =>
    rw [flagValues] at h
    split at h
    case h_1 v hv =>
      rw [pure_bind] at h
      obtain ⟨rest, hrest, h⟩ := bind_eq_ok.1 h
      obtain rfl := Except.ok.inj h
      refine List.forall_mem_cons.2 ⟨?_, ih hrest⟩
      have hmem : (k, v) ∈ s.flagDefaults := by
        obtain ⟨before, after, hsplit, -⟩ :=
          List.lookup_eq_some_iff.1 (hv : s.flagDefaults.lookup k = some v)
        rw [hsplit]
        exact List.mem_append_right _ List.mem_cons_self
      rw [Signature.callDepth_eq]
      exact Nat.le_trans (callDepth_le_namedDepth hmem) (Nat.le_max_right _ _)
    case h_2 => cases h

theorem plain_assign (hpositional : ∀ v ∈ positional, v ∈ s.defaults ∨ v = .null)
    (h : s.assign name positional [] = .ok values) : Plain s values := by
  unfold Signature.assign at h
  obtain ⟨args, hargs, h⟩ := bind_eq_ok.1 h
  dsimp only at h
  split at h
  · cases h
  · obtain ⟨flags, hflags, h⟩ := bind_eq_ok.1 h
    rw [List.filter_nil] at h
    split at h
    · cases h
    · obtain rfl := Except.ok.inj h
      have hmore : ∀ (n : Option String) (f : String → String × Value),
          (∀ m, (f m).2.callDepth = 0) → Plain s (n.map f).toList := by
        intro n f hf e he
        obtain ⟨m, -, rfl⟩ := Option.map_eq_some_iff.1 (Option.mem_toList.1 he)
        exact (hf m).symm ▸ Nat.zero_le _
      exact List.forall_mem_append.2 ⟨List.forall_mem_append.2 ⟨List.forall_mem_append.2
        ⟨plain_positionalValues hpositional hargs, hmore _ _ fun _ => rfl⟩,
        plain_flagValues hflags⟩, hmore _ _ fun _ => rfl⟩

end

/-! ## a call -/

/-- what a host's actions give is no deeper than the values that the actions name and those of the
parameters -/
def Host.Bounded {σ : Type} (host : Host σ) : Prop :=
  ∀ actions values n w v w', (∀ e ∈ values, e.2.callDepth ≤ n) →
    outcome (host.act actions values) w = (.ok v, w') → v.callDepth ≤ max n (Action.listDepth actions)

theorem plain_bounded (σ : Type) : (Host.plain σ).Bounded := by
  intro actions values n w v w' _ h
  obtain ⟨hv, -⟩ := Prod.mk.inj h
  obtain rfl := Except.ok.inj hv
  exact Nat.zero_le _

section
variable {σ : Type} {host : Host σ} {w w' : World σ} {values : List (String × Value)} {r : Routine}

theorem Routine.callDepth_eq (r : Routine) :
    r.callDepth = 1 + max r.signature.callDepth r.body.callDepth := by
  cases r
  rw [Routine.callDepth]

theorem callDepth_le_of_body (hhost : host.Bounded) {s : Signature Value} (hvalues : Plain s values)
    {b : Body} {v : Value} (h : outcome (b.run host values) w = (.ok (.value v), w')) :
    v.callDepth ≤ max s.callDepth b.callDepth := by
  have hpure : ∀ {u : Value}, outcome (pure (.value u) : Run σ Result) w = (.ok (.value v), w') →
      u = v := by
    intro u hu
    exact Result.value.inj (Except.ok.inj (Prod.mk.inj hu).1)
  cases b with
  | echo | tuple | list | generate =>
    obtain rfl := hpure h
    exact Nat.zero_le _
  | arg name =>
    obtain rfl := hpure h
    refine Nat.le_trans ?_ (Nat.le_max_left _ _)
    cases hname : values.lookup name with
    | none => exact Nat.zero_le _
    | some u =>
      obtain ⟨before, after, rfl, -⟩ := List.lookup_eq_some_iff.1 hname
      exact hvalues _ (List.mem_append_right _ List.mem_cons_self)
  | const u =>
    obtain rfl := hpure h
    rw [Body.callDepth]
    exact Nat.le_max_right _ _
  | print text =>
    obtain ⟨_, _, -, h⟩ := outcome_bind_eq_ok.1 h
    cases h
    exact Nat.zero_le _
  | raise | itself => cases h
  | act actions =>
    obtain ⟨u, w₁, hu, h⟩ := outcome_bind_eq_ok.1 h
    cases h
    rw [Body.callDepth]
    exact hhost actions values _ w _ _ hvalues hu

theorem callDepth_lt_of_routine (hhost : host.Bounded) {bound : Bool} {positional : List Value}
    (hpositional : ∀ v ∈ positional, v ∈ r.signature.defaults ∨ v = .null) {v : Value}
    (h : outcome (r.call host bound positional []) w = (.ok (.value v), w')) :
    v.callDepth < r.callDepth := by
  have hbody : ∀ {s : Signature Value} {values w₁ w₂}, s.callDepth = r.signature.callDepth →
      Plain s values → outcome (r.body.run host values) w₁ = (.ok (.value v), w₂) →
      v.callDepth < r.callDepth := by
    intro s values w₁ w₂ hs hvalues h
    have hle := callDepth_le_of_body hhost hvalues h
    rw [Routine.callDepth_eq, ← hs]
    omega
  unfold Routine.call at h
  split at h
  · obtain ⟨values, hvalues, h⟩ := outcome_liftM_bind_eq_ok.1 h
    exact hbody rfl (plain_assign hpositional hvalues) h
  · obtain ⟨values, hvalues, h⟩ := outcome_liftM_bind_eq_ok.1 h
    have hplain := plain_assign (s := { r.signature with args := _ :: _ }) hpositional hvalues
    refine hbody ?_ (fun e he => hplain e (List.mem_of_mem_drop he)) h
    rw [Signature.callDepth_eq, Signature.callDepth_eq]
  · obtain ⟨values, hvalues, h⟩ := outcome_liftM_bind_eq_ok.1 h
    exact hbody rfl (plain_assign hpositional hvalues) h

theorem body_of_call {bound : Bool} {positional : List Value} {named : List (String × Value)}
    {res : Result} (h : outcome (r.call host bound positional named) w = (.ok res, w')) :
    ∃ values, outcome (r.body.run host values) w = (.ok res, w') := by
  unfold Routine.call at h
  split at h
  · split at h
    · cases h
    · obtain ⟨values, -, h⟩ := outcome_liftM_bind_eq_ok.1 h
      exact ⟨values, h⟩
  · obtain ⟨values, -, h⟩ := outcome_liftM_bind_eq_ok.1 h
    exact ⟨values.drop 1, h⟩
  · obtain ⟨values, -, h⟩ := outcome_liftM_bind_eq_ok.1 h
    exact ⟨values, h⟩

theorem itself_iff_of_call {bound : Bool} {positional : List Value} {named : List (String × Value)}
    {res : Result} (h : outcome (r.call host bound positional named) w = (.ok res, w')) :
    res = .itself ↔ r.body = .itself := by
  obtain ⟨values, h⟩ := body_of_call h
  cases hbody : r.body with
  | itself =>
    rw [hbody] at h
    cases h
    exact ⟨fun _ => rfl, fun _ => rfl⟩
  | print | act =>
    rw [hbody] at h
    obtain ⟨_, _, -, h⟩ := outcome_bind_eq_ok.1 h
    cases h
    exact ⟨nofun, nofun⟩
  | _ =>
    rw [hbody] at h
    cases h <;> exact ⟨nofun, nofun⟩

theorem eq_routine_of_itself {v : Value} {positional : List Value} {named : List (String × Value)}
    (h : outcome (v.call host positional named) w = (.ok .itself, w')) :
    ∃ r, v = .routine r ∧ r.body = .itself := by
  cases v with
  | routine r => exact ⟨r, rfl, (itself_iff_of_call h).1 rfl⟩
  | method x r =>
    obtain ⟨res, _, -, h⟩ := outcome_bind_eq_ok.1 h
    cases res <;> cases h
  | «class» | kind | builtin | builtinMethod =>
    obtain ⟨_, _, -, h⟩ := outcome_bind_eq_ok.1 h
    cases h
  | _ => cases h

theorem callDepth_of_instantiate {c : Class} {positional : List Value}
    {named : List (String × Value)} {v : Value}
    (h : outcome (c.instantiate host positional named) w = (.ok v, w')) : v.callDepth = 0 := by
  unfold Class.instantiate at h
  split at h
  · split at h
    · cases h
      rfl
    · cases h
  · split at h
    · cases h
    · obtain ⟨_, -, h⟩ := outcome_liftM_bind_eq_ok.1 h
      cases h
      rfl
  · split at h
    · cases h
    · obtain ⟨_, _, -, h⟩ := outcome_bind_eq_ok.1 h
      cases h
      rfl

/-- a call that is given nothing leads to what allows fewer calls in a row, unless a method gives
itself -/
theorem callDepth_lt_of_call (hhost : host.Bounded) {v u : Value} {args : List String} {b : Bound}
    (hb : Binding.Unused v.spec args b)
    (h : outcome (v.call host b.positional b.named) w = (.ok (.value u), w')) :
    u.callDepth < v.callDepth ∨ ∃ r, u = .routine r ∧ r.body = .itself := by
  rw [hb.named] at h
  cases v with
  | routine r =>
    exact .inl (callDepth_lt_of_routine hhost hb.positional h)
  | method x r =>
    obtain ⟨result, w₁, hr, h⟩ := outcome_bind_eq_ok.1 h
    cases result with
    | itself =>
      cases h
      exact .inr ⟨r, rfl, (itself_iff_of_call hr).1 rfl⟩
    | value u =>
      cases h
      exact .inl (callDepth_lt_of_routine hhost hb.positional hr)
  | «class» c =>
    obtain ⟨o, w₁, ho, h⟩ := outcome_bind_eq_ok.1 h
    cases h
    rw [callDepth_of_instantiate ho]
    exact .inl Nat.one_pos
  | kind k =>
    obtain ⟨o, ho, h⟩ := outcome_liftM_bind_eq_ok.1 h
    cases h
    exact .inl (Nat.lt_of_le_of_lt (atMost_make k _ u ho) Nat.one_pos)
  | builtin f =>
    obtain ⟨o, ho, h⟩ := outcome_liftM_bind_eq_ok.1 h
    cases h
    exact .inl (Nat.lt_of_le_of_lt (atMost_builtin hb.count u ho) Nat.one_pos)
  | builtinMethod form x name =>
    obtain ⟨o, ho, h⟩ := outcome_liftM_bind_eq_ok.1 h
    cases h
    have hle := atMost_callBuiltinMethod x name _ _ u ho
    simp only [Value.callDepth]
    omega
  | _ => cases h

end

end

end CommandLine
