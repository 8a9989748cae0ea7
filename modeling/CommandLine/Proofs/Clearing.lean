import CommandLine.Proofs.Filling

/-!
# What clearing a session leaves

A cleared session is told apart from a new one by what is done in it afterwards.  Clearing keeps the
values that earlier runs have published, puts nothing behind them where a new session has the class
of all schemas, and cuts the registry off from the schemas that are declared later.  So

* a declaration gives the same in both, since making a schema does not touch the session
  (`declare_detached`);
* a command class that is only made gives the same in both, but a program that runs a command fails
  in the cleared session, whatever is declared before it, with an error that it never has in a new
  one (`launch_of_reset`, `launch_ne_of_unfilled`);
* a name is read alike exactly if no value that was left shows (`sameRead_iff`).

`Unnoticed` puts these together over the operations that come later, and `answers_clear_iff` says that
it is the exact condition.
-/

namespace CommandLine

/-! ## operations -/

inductive Operation where
  | declare (p : Program) (d : Declaration)
  | launch (p : Program) (l : Launch)
  | read (name : String)

inductive Gain where
  | schema (s : Schema)
  | value (v : Value)

def Operation.run : Operation → Run Session Gain
  | .declare p d => return .schema (← CommandLine.declare p d)
  | .launch p l => return .value (← CommandLine.launch p l)
  | .read name => do
    let s ← getState
    let v ← s.config.get name
    return .value v

structure Answer where
  result : Except Error Gain
  out : String
  err : String

def Operation.answer (o : Operation) (s : Session) : Answer × Session :=
  let (x, w) := outcome o.run { state := s }
  (⟨x, w.out, w.err⟩, w.state)

theorem answer_declare {p : Program} {d : Declaration} {s : Session} {x : Except Error Schema}
    {w : World Session} (h : outcome (declare p d) { state := s } = (x, w)) :
    (Operation.declare p d).answer s = (⟨x.map .schema, w.out, w.err⟩, w.state) := by
  have hrun : outcome (Operation.declare p d).run { state := s } = (x.map .schema, w) := by
    cases x with
    | error e => exact outcome_bind_of_error h
    | ok schema => exact outcome_bind_of_ok h
  unfold Operation.answer
  rw [hrun]

theorem answer_launch {p : Program} {l : Launch} {s : Session} {x : Except Error Value}
    {w : World Session} (h : outcome (launch p l) { state := s } = (x, w)) :
    (Operation.launch p l).answer s = (⟨x.map .value, w.out, w.err⟩, w.state) := by
  have hrun : outcome (Operation.launch p l).run { state := s } = (x.map .value, w) := by
    cases x with
    | error e => exact outcome_bind_of_error h
    | ok v => exact outcome_bind_of_ok h
  unfold Operation.answer
  rw [hrun]

theorem answer_read (name : String) (s : Session) :
    (Operation.read name).answer s = (⟨(s.config.get name).map .value, "", ""⟩, s) := by
  have hrun : outcome (Operation.read name).run { state := s } =
      ((s.config.get name).map .value, { state := s }) := by
    show outcome (liftM (s.config.get name) >>= fun v => pure (Gain.value v)) _ = _
    cases s.config.get name with
    | error e => rfl
    | ok v => rfl
  unfold Operation.answer
  rw [hrun]

def answers : List Operation → Session → List Answer
  | [], _ => []
  | o :: os, s => (o.answer s).1 :: answers os (o.answer s).2

def after : List Operation → Session → Session
  | [], s => s
  | o :: os, s => after os (o.answer s).2

/-! ## the condition -/

/-- the class of the last schema, after a declaration that may have failed -/
def declaredForm (p : Program) (d : Declaration) (form : Option Class) : Option Class :=
  (outcome (declare p d) { state := Session.start }).1.toOption.elim form fun s => some s.form

/-- the configuration of a cleared session, with the class of the schema declared since -/
def clearedConfig (stale : Layer) (form : Option Class) : Configuration :=
  ⟨stale, form.elim .null .class⟩

/-- the configuration of a session in which no command was run -/
def unfilledConfig (form : Option Class) : Configuration := ⟨[], .class (form.getD baseForm)⟩

/-- is a name read alike?  Before a schema is declared a value must have been left, and be the one
of the class of all schemas; after that, one that was left must be the schema's. -/
def SameRead (stale : Layer) (form : Option Class) (name : String) : Prop :=
  if isPublic name = true then
    match form with
    | none => ∃ v, stale.lookup name = some v ∧ (unfilledConfig none).answer name = .ok v
    | some c => ∀ v, stale.lookup name = some v → (unfilledConfig (some c)).answer name = .ok v
  else (clearedConfig stale form).get name = (unfilledConfig form).get name

/-- do no operations tell a cleared session from a new one?  No command may be run, and every name
must be read alike. -/
def Unnoticed (stale : Layer) : Option Class → List Operation → Prop
  | _, [] => True
  | form, .declare p d :: os => Unnoticed stale (declaredForm p d form) os
  | form, .launch _ l :: os => l.idle = true ∧ Unnoticed stale form os
  | form, .read name :: os => SameRead stale form name ∧ Unnoticed stale form os

/-! ## cleared and new sessions -/

/-- a session that was cleared: what is registered is nothing, and stays so -/
structure Session.Reset (s : Session) (stale : Layer) (form : Option Class) : Prop where
  config : s.config = clearedConfig stale form
  schema : s.registry.schema = .value .null
  linked : s.linked = false

/-- a session in which no command was run: settings are registered, and the next schema will be -/
structure Session.Unfilled (s : Session) (form : Option Class) : Prop where
  config : s.config = unfilledConfig form
  schema : ∃ t, s.registry.schema = .settings t
  linked : s.linked = true

theorem reset_clear (s : Session) : s.clear.Reset s.config.values none := ⟨rfl, rfl, rfl⟩

theorem unfilled_start : Session.start.Unfilled none := ⟨rfl, ⟨_, rfl⟩, rfl⟩

section
variable {s : Session} {stale : Layer} {form : Option Class}

theorem Session.Reset.takeSchema (h : s.Reset stale form) (schema : Schema) :
    (s.takeSchema schema).Reset stale (some schema.form) := by
  refine ⟨?_, ?_, h.linked⟩
  · show ({ s.config with behind := .class schema.form } : Configuration) = _
    rw [h.config]
    rfl
  · unfold Session.takeSchema
    rw [h.linked]
    exact h.schema

theorem Session.Unfilled.takeSchema (h : s.Unfilled form) (schema : Schema) :
    (s.takeSchema schema).Unfilled (some schema.form) := by
  refine ⟨?_, ⟨{ schema }, ?_⟩, h.linked⟩
  · show ({ s.config with behind := .class schema.form } : Configuration) = _
    rw [h.config]
    rfl
  · unfold Session.takeSchema
    rw [h.linked]
    rfl

/-! ## launching -/

def Launch.registered (l : Launch) (s : Session) : Session :=
  ({ s with argv := l.argv } : Session).register "generated" (.class l.form.asCommand)

theorem launch_of_idle {l : Launch} (h : l.idle = true) (p : Program) (s : Session) :
    (Operation.launch p l).answer s =
      (⟨.ok (.value (.class l.form.asCommand)), "", ""⟩, l.registered s) := by
  have hrun : outcome (launch p l) { state := s } =
      (.ok (.class l.form.asCommand), { state := l.registered s }) := by
    unfold launch
    rw [h]
    rfl
  exact answer_launch hrun

theorem Session.Reset.registered (h : s.Reset stale form) (l : Launch) :
    (l.registered s).Reset stale form := ⟨h.config, h.schema, h.linked⟩

theorem Session.Unfilled.registered (h : s.Unfilled form) (l : Launch) :
    (l.registered s).Unfilled form := ⟨h.config, h.schema, h.linked⟩

theorem outcome_launch {l : Launch} (h : l.idle = false) (p : Program) (w : World Session) :
    outcome (launch p l) w =
      outcome (l.prepare p l.form.asCommand >>= fun _ => pure (.class l.form.asCommand))
        { w with state := l.registered w.state } := by
  unfold launch
  rw [h]
  rfl

theorem launch_of_reset (hs : s.Reset stale form) {l : Launch} (h : l.idle = false) (p : Program) :
    (Operation.launch p l).answer s =
      (⟨.error (.noAttribute "NoneType" "_fields"), "", ""⟩, l.registered s) := by
  have hsettings : outcome registeredSettings { state := l.registered s } =
      (.error (.noAttribute "NoneType" "_fields"), { state := l.registered s }) :=
    outcome_registeredSettings_of_value (w := { state := l.registered s }) (v := .null) hs.schema
  have hrun : outcome (launch p l) { state := s } =
      (.error (.noAttribute "NoneType" "_fields"), { state := l.registered s }) :=
    (outcome_launch h p { state := s }).trans (outcome_bind_of_error (outcome_bind_of_error hsettings))
  exact answer_launch hrun

end

/-! ## programs in a session that has settings -/

/-- where settings are registered, no program ends with the error that all have in a cleared
session -/
theorem launch_ne_of_unfilled {s : Session} {form : Option Class} (hs : s.Unfilled form)
    {l : Launch} (h : l.idle = false) (p : Program) (kind name : String) :
    ((Operation.launch p l).answer s).1.result ≠ .error (.noAttribute kind name) := by
  obtain ⟨t, ht⟩ := hs.schema
  cases hrun : outcome (launch p l) { state := s } with
  | mk x w =>
    rw [answer_launch hrun]
    intro hx
    cases x with
    | ok v => cases hx
    | error e =>
      obtain rfl := Except.error.inj hx
      rw [outcome_launch h] at hrun
      obtain hprepare | ⟨a, v, -, hdone⟩ := outcome_bind_eq_error.1 hrun
      · have ht' : (l.registered s).registry.schema = .settings t := ht
        exact attributed_prepare l p _ ht' hprepare rfl
      · cases hdone

/-! ## reading -/

theorem not_isPublic_of_mem_objectNames : ∀ n ∈ objectNames, isPublic n = false := by
  -- the signs of a literal are those it is made of: decoding it in the kernel takes far longer
  unfold objectNames Text.words isPublic Text.startsWith
  rw [String.toList_append, String.toList_append, String.toList_append, String.toList_ofList,
    String.toList_ofList, String.toList_ofList, String.toList_ofList, String.toList_ofList]
  intro n hn
  obtain ⟨cs, hcs, rfl⟩ := List.mem_map.1 hn
  rw [String.toList_ofList]
  clear hn
  revert cs
  decide +kernel

theorem baseForm_attribute_ne {n : String} (hp : isPublic n = true) :
    (Value.class baseForm).attribute? n ≠ some .null := by
  have hprivate : baseForm.privateNames = objectNames := rfl
  intro h
  unfold Value.attribute? at h
  dsimp only at h
  split at h
  · rename_i m hm
    have hlookup : baseForm.members.lookup n = some m := by
      unfold Class.member? at hm
      rw [lineage_eq, List.findSome?_cons] at hm
      split at hm
      · rename_i hl
        rw [hl, hm]
      · cases hm
    obtain ⟨before, behind, hmembers, -⟩ := List.lookup_eq_some_iff.1 hlookup
    have hmem : (n, m) ∈ baseForm.members := by
      rw [hmembers]
      exact List.mem_append_right _ List.mem_cons_self
    have hnull := Option.some.inj h
    unfold baseForm at hmem
    simp only [List.mem_cons, List.not_mem_nil, or_false] at hmem
    rcases hmem with hmem | hmem | hmem | hmem | hmem | hmem
    all_goals
      obtain ⟨-, rfl⟩ := Prod.mk.inj hmem
      cases hnull
  · split at h
    · rename_i hn
      rw [hprivate] at hn
      rw [not_isPublic_of_mem_objectNames n (List.contains_iff_mem.1 hn)] at hp
      cases hp
    · split at h
      · cases h
      · cases h

theorem baseForm_answer_ne {n : String} (hp : isPublic n = true) :
    (unfilledConfig none).answer n ≠ .error (.requiredParameter n) := by
  intro he
  replace he : ((Value.class baseForm).attribute n >>= _) = Except.error _ := he
  unfold Value.attribute at he
  cases h : (Value.class baseForm).attribute? n with
  | none =>
    rw [h] at he
    cases he
  | some v =>
    rw [h] at he
    cases v
    all_goals cases he
    exact baseForm_attribute_ne hp h

theorem sameRead_iff (stale : Layer) (form : Option Class) (n : String) :
    SameRead stale form n ↔ (clearedConfig stale form).get n = (unfilledConfig form).get n := by
  unfold SameRead
  split
  · rename_i hp
    have hnew : (unfilledConfig form).get n = (unfilledConfig form).answer n :=
      Configuration.get_of_lookup_none hp rfl
    rw [hnew]
    cases hl : stale.lookup n with
    | some v =>
      have hold : (clearedConfig stale form).get n = .ok v := Configuration.get_of_lookup hl
      rw [hold]
      cases form with
      | none =>
        constructor
        · rintro ⟨u, hu, ha⟩
          obtain rfl := Option.some.inj hu
          exact ha.symm
        · intro ha
          exact ⟨v, rfl, ha.symm⟩
      | some c =>
        constructor
        · intro ha
          exact (ha v rfl).symm
        · intro ha u hu
          obtain rfl := Option.some.inj hu
          exact ha.symm
    | none =>
      have hold : (clearedConfig stale form).get n = (clearedConfig stale form).answer n :=
        Configuration.get_of_lookup_none hp hl
      rw [hold]
      cases form with
      | none =>
        constructor
        · rintro ⟨u, hu, -⟩
          cases hu
        · intro ha
          exact absurd ha.symm (baseForm_answer_ne hp)
      | some c =>
        constructor
        · intro _
          rfl
        · intro _ u hu
          cases hu
  · exact Iff.rfl

/-! ## operations in turn -/

theorem map_value_inj {x y : Except Error Value} (h : x.map Gain.value = y.map Gain.value) :
    x = y := by
  cases x with
  | error e =>
    cases y with
    | error e' => exact congrArg Except.error (Except.error.inj h)
    | ok v => cases h
  | ok u =>
    cases y with
    | error e => cases h
    | ok v => exact congrArg Except.ok (Gain.value.inj (Except.ok.inj h))

theorem answers_eq_iff {stale : Layer} (os : List Operation) {form : Option Class}
    {s t : Session} (hs : s.Reset stale form) (ht : t.Unfilled form) :
    answers os s = answers os t ↔ Unnoticed stale form os := by
  induction os generalizing form s t with
  | nil => exact ⟨fun _ => trivial, fun _ => rfl⟩
  | cons o os ih =>
    cases o with
    | declare p d =>
      obtain ⟨x, out, err, hx⟩ := declare_detached p d
      have hform : declaredForm p d form = x.toOption.elim form fun s => some s.form := by
        unfold declaredForm
        rw [hx]
      unfold answers Unnoticed
      rw [answer_declare (hx s), answer_declare (hx t), hform, List.cons_inj_right]
      cases x with
      | error e => exact ih hs ht
      | ok schema => exact ih (hs.takeSchema schema) (ht.takeSchema schema)
    | launch p l =>
      unfold answers Unnoticed
      cases hl : l.idle with
      | true =>
        rw [launch_of_idle hl, launch_of_idle hl, List.cons_inj_right, ih (hs.registered l) (ht.registered l)]
        exact (and_iff_right rfl).symm
      | false =>
        constructor
        · intro h
          rw [launch_of_reset hs hl] at h
          have hresult := congrArg Answer.result (List.cons.inj h).1
          exact absurd hresult.symm (launch_ne_of_unfilled ht hl p _ _)
        · rintro ⟨h, -⟩
          cases h
    | read n =>
      unfold answers Unnoticed
      rw [answer_read, answer_read, List.cons.injEq, ih hs ht, sameRead_iff, hs.config, ht.config]
      refine and_congr_left fun _ => ⟨fun h => ?_, fun h => by rw [h]⟩
      exact map_value_inj (congrArg Answer.result h)

/-- a cleared session stays cleared: nothing that is done in it registers settings again -/
theorem reset_after {stale : Layer} (os : List Operation) {form : Option Class} {s : Session}
    (hs : s.Reset stale form) : ∃ form', (after os s).Reset stale form' := by
  induction os generalizing form s with
  | nil => exact ⟨form, hs⟩
  | cons o os ih =>
    unfold after
    cases o with
    | declare p d =>
      obtain ⟨x, out, err, hx⟩ := declare_detached p d
      rw [answer_declare (hx s)]
      cases x with
      | error e => exact ih hs
      | ok schema => exact ih (hs.takeSchema schema)
    | launch p l =>
      cases hl : l.idle with
      | true =>
        rw [launch_of_idle hl]
        exact ih (hs.registered l)
      | false =>
        rw [launch_of_reset hs hl]
        exact ih (hs.registered l)
    | read n =>
      rw [answer_read]
      exact ih hs

/-- Whatever was done before, operations in the cleared session are answered as in a new one exactly
if they do not notice the difference; and no program runs a command in it any more, whatever is done
first. -/
theorem answers_clear_iff (earlier later : List Operation) :
    (answers later (after earlier .start).clear = answers later .start ↔
      Unnoticed (after earlier .start).config.values none later) ∧
    ∀ (p : Program) (l : Launch), l.idle = false →
      ((Operation.launch p l).answer (after later (after earlier .start).clear)).1 =
        ⟨.error (.noAttribute "NoneType" "_fields"), "", ""⟩ := by
  refine ⟨answers_eq_iff later (reset_clear _) unfilled_start, ?_⟩
  intro p l hl
  obtain ⟨form, hreset⟩ := reset_after later (reset_clear (after earlier .start))
  rw [launch_of_reset hreset hl]

def sampleOneField : Declaration :=
  { name := "Sample"
    home := "sample"
    fields := [⟨"x", some .int, some (.int 5)⟩]
    hook := none
    source := none
    importer := none }

def emptyLaunch (idle : Bool) : Launch :=
  ⟨markerClass "Commands", [.text "prog", .text "run"], none, idle⟩

/-- after a class was only made and the session cleared, the default of a field is read as in a new
session, but no command is run -/
theorem answers_clear_sample :
    let made := after [.launch (sampleProgram [] []) (emptyLaunch true)] .start
    let declared := Operation.declare (sampleProgram [] []) sampleOneField
    let run := Operation.launch (sampleProgram [] []) (emptyLaunch false)
    answers [declared, .read "x"] made.clear = answers [declared, .read "x"] .start ∧
      answers [declared, run] made.clear ≠ answers [declared, run] .start ∧
      (run.answer (after [declared] made.clear)).1 =
        ⟨.error (.noAttribute "NoneType" "_fields"), "", ""⟩ := by
  refine ⟨(answers_clear_iff _ _).1.2 ⟨?_, trivial⟩, fun h => ?_,
    (answers_clear_iff _ [.declare (sampleProgram [] []) sampleOneField]).2 _ _ rfl⟩
  · have hsome : (declaredForm (sampleProgram [] []) sampleOneField none).isSome = true := by
      decide +kernel
    obtain ⟨c, hc⟩ := Option.isSome_iff_exists.1 hsome
    rw [hc]
    intro v hv
    cases hv
  · have hidle := ((answers_clear_iff _ _).1.1 h).1
    cases hidle

end CommandLine
