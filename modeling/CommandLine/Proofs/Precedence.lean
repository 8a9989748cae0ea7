import CommandLine.Proofs.Sources

/-!
# Which value a field gets

The value of a field comes from the first source that knows it: the command line, the environment,
the environment file, the configuration file, the secrets, the settings.  It is cast to the type of
the field, the hook of the command class may change it, and if there is a hook it is cast once more.
`Precedence` says this of the drafts of one filling and of the configuration before and after it,
and `fill_precedence` that every filling that finishes has it, whatever the sources hold and
whatever the hook does to the attributes of the draft.

A hook is any run on a draft: it may fail, print, change the session, and set or remove attributes.
Only what stands behind the draft is not among the attributes (`DraftHook.KeepsBehind`).  The hook
of a command class keeps it unless one of its actions writes to the private name for it
(`draftHook_keepsBehind`).
-/

namespace CommandLine

/-! ## hooks on the attributes of a draft -/

/-- a hook that changes the attributes of a draft, and not what stands behind them -/
def DraftHook.KeepsBehind {σ : Type} (change : DraftHook σ) : Prop :=
  ∀ held left w w', outcome (change held) w = (.ok left, w') → left.behind = held.behind

/-- the name that an action writes to -/
def Action.written? : Action → Option String
  | .set name _ => some name
  | .copy target _ => some target
  | _ => none

/-- the names that a static hook of a class writes to -/
def Class.hookWrites (c : Class) : List String :=
  match c.member? hookName with
  | some (.static r) =>
    match r.body with
    | .act actions => actions.filterMap Action.written?
    | _ => []
  | _ => []

theorem behind_set_of_ne {n : String} (h : n ≠ behindName) (c : Configuration) (v : Value) :
    (c.set n v).behind = c.behind := by
  rw [Configuration.set_of_ne h]

theorem action_keeps_behind {a : Action} (h : a.written? ≠ some behindName)
    (w : World Configuration) :
    (outcome (a.run Configuration.target) w).2.state.behind = w.state.behind := by
  cases a with
  | print v =>
    show (outcome (liftM v.writePlain >>= _) w).2.state.behind = _
    rw [outcome_bind, outcome_liftM]
    cases v.writePlain <;> rfl
  | «show» n =>
    show (outcome (liftM (w.state.get n) >>= fun v => liftM v.writeShown >>= _) w).2.state.behind = _
    rw [outcome_bind, outcome_liftM]
    cases w.state.get n with
    | error e => rfl
    | ok v =>
      show (outcome (liftM v.writeShown >>= _) w).2.state.behind = _
      rw [outcome_bind, outcome_liftM]
      cases v.writeShown <;> rfl
  | set n v => exact behind_set_of_ne (fun e => h (congrArg some e)) w.state v
  | copy target source =>
    show (outcome (liftM (w.state.get source) >>= _) w).2.state.behind = _
    rw [outcome_bind, outcome_liftM]
    cases w.state.get source with
    | error e => rfl
    | ok v => exact behind_set_of_ne (fun e => h (congrArg some e)) w.state v
  | raise k m => rfl
  | «return» v => rfl
  | get n =>
    show (outcome (liftM (w.state.get n) >>= _) w).2.state.behind = _
    rw [outcome_bind, outcome_liftM]
    cases w.state.get n <;> rfl

theorem actions_keep_behind {actions : List Action}
    (h : behindName ∉ actions.filterMap Action.written?) (w : World Configuration) :
    (outcome (runActions Configuration.target actions) w).2.state.behind = w.state.behind := by
  induction actions generalizing w with
  | nil => rfl
  | cons a actions ih =>
    have hw : ∀ b ∈ a :: actions, b.written? ≠ some behindName :=
      fun b hb e => h (List.mem_filterMap.2 ⟨b, hb, e⟩)
    have ha := action_keeps_behind (hw a (by simp)) w
    show (outcome (a.run Configuration.target >>= _) w).2.state.behind = _
    rw [outcome_bind]
    cases hr : outcome (a.run Configuration.target) w with
    | mk x v =>
      rw [hr] at ha
      cases x with
      | error e => exact ha
      | ok r =>
        cases r with
        | some u => exact ha
        | none =>
          refine (ih ?_ v).trans ha
          intro hm
          obtain ⟨b, hb, e⟩ := List.mem_filterMap.1 hm
          exact hw b (by simp [hb]) e

/-- the hook of a command class works on attributes, unless it writes to the private name for what
stands behind them -/
theorem draftHook_keepsBehind (c : Class) (h : behindName ∉ c.hookWrites) :
    ∀ change ∈ c.draftHook?, change.KeepsBehind := by
  intro change hc held left w w' hrun
  unfold Class.draftHook? at hc
  unfold Class.hookWrites at h
  cases hm : c.member? hookName with
  | none => rw [hm] at hc; cases hc
  | some m =>
    rw [hm] at hc h
    cases m with
    | static r =>
      obtain rfl := Option.some.inj hc
      cases hb : r.body with
      | act actions =>
        simp only [hb] at hrun h
        obtain ⟨⟨u, changed⟩, v, hr, hret⟩ := outcome_bind_eq_ok.1 hrun
        obtain ⟨hl, rfl⟩ := Prod.mk.inj hret
        obtain rfl := Except.ok.inj hl
        rw [outcome_runApart] at hr
        have hk := actions_keep_behind h ⟨w.out, w.err, held⟩
        cases hx : (outcome (runActions Configuration.target actions) ⟨w.out, w.err, held⟩).1 with
        | error e => rw [hx] at hr; cases hr
        | ok x =>
          rw [hx] at hr
          have hs := (Prod.mk.inj (Except.ok.inj (Prod.mk.inj hr).1)).2
          rw [← hs]
          exact hk
      | _ =>
        simp only [hb] at hrun
        obtain ⟨hl, -⟩ := Prod.mk.inj hrun
        exact Except.ok.inj hl ▸ rfl
    | plain v =>
      cases v with
      | routine r =>
        obtain rfl := Option.some.inj hc
        obtain ⟨u, v, -, hret⟩ := outcome_bind_eq_ok.1 hrun
        obtain ⟨hl, -⟩ := Prod.mk.inj hret
        exact Except.ok.inj hl ▸ rfl
      | _ =>
        obtain rfl := Option.some.inj hc
        cases hrun
    | _ =>
      obtain rfl := Option.some.inj hc
      obtain ⟨hl, -⟩ := Prod.mk.inj hrun
      exact Except.ok.inj hl ▸ rfl

/-! ## precedence -/

/-- what a filling does with the settings `s` and the layers of its sources, the strongest first:
`held` is the draft before the hook and `left` the one that the hook leaves, `before` and `after`
are the configuration when the draft is published -/
structure Precedence (s : Settings) (flags : Layer) (layers : List Layer) (hooked : Bool)
    (held left before after : Configuration) : Prop where
  /-- before the hook a field holds the cast of the value of the first source that knows it -/
  first_source : ∀ f ∈ s.names, ∃ v x,
    firstIn layers f = some v ∧ s.schema.cast f v = .ok x ∧ held.get f = .ok x
  /-- and that value is something -/
  given : ∀ f ∈ s.names, firstIn layers f ≠ some .null
  /-- a field arrives as the hook leaves it, cast to its type; without a hook it is not cast again -/
  field : ∀ f ∈ s.names, ∃ v x, left.get f = .ok v ∧
    (if hooked then s.schema.cast f v else .ok v) = .ok x ∧ after.get f = .ok x
  /-- a flag that is no field is not cast: it arrives with the value that it was given, or with the
  one that the hook has set -/
  flag : ∀ k v, flags.lookup k = some v → isPublic k = true → k ∉ s.names →
    after.get k = .ok ((left.values.lookup k).getD v)
  /-- a name that no source has does not arrive, also if the hook has set it -/
  unknown : ∀ n, n ∉ namesIn layers → after.values.lookup n = before.values.lookup n

section
variable {s : Settings} {flags : Layer} {layers : List Layer} {held left draft : Configuration}
  {hooked : Bool} {names : List Value} {w w' : World Configuration}

/-- a draft that agrees with what the hook has left outside of the fields, once it is published -/
theorem precedence_of_published (hd : s.schema.form.DeclaresOnce)
    (hflags : ∀ k v, flags.lookup k = some v → firstIn layers k = some v)
    (hknown : ∀ f ∈ s.names, (firstIn layers f).isSome = true)
    (hheld : s.schema.castIn s.names (draftOf layers) = .ok held)
    (hfields : ∀ f ∈ s.names, ∃ v x, left.get f = .ok v ∧
      (if hooked then s.schema.cast f v else .ok v) = .ok x ∧ draft.get f = .ok x)
    (hothers : ∀ n, n ∉ s.names → draft.values.lookup n = left.values.lookup n)
    (hbehind : draft.behind = Value.record (merged layers))
    (hnames : draft.behind.elements = .ok names)
    (hpublish : outcome (publish draft names) w = (.ok (), w')) :
    Precedence s flags layers hooked held left w.state w'.state := by
  obtain ⟨-, hfirst, -⟩ := held_get hd hknown hheld
  obtain ⟨hin, hout⟩ := published_get hbehind hnames hpublish
  refine ⟨?_, ?_, ?_, ?_, hout⟩
  · intro f hf
    obtain ⟨v, x, hv, -, hx, hl⟩ := hfirst f hf
    exact ⟨v, x, hv, hx, Configuration.get_of_lookup hl⟩
  · intro f hf hnull
    obtain ⟨v, x, hv, hne, -⟩ := hfirst f hf
    rw [hv] at hnull
    exact hne (Option.some.inj hnull)
  · intro f hf
    obtain ⟨v, x, hv, hx, hg⟩ := hfields f hf
    obtain ⟨u, hu, ha⟩ :=
      hin f ((mem_namesIn layers f).2 (hknown f hf)) (Settings.isPublic_of_mem_names hf)
    rw [hg] at hu
    obtain rfl := Except.ok.inj hu
    exact ⟨v, x, hv, hx, ha⟩
  · intro k v hk hp hkn
    have hf := hflags k v hk
    obtain ⟨u, hu, ha⟩ := hin k ((mem_namesIn layers k).2 (by rw [hf]; rfl)) hp
    rw [ha, ← hu]
    -- a flag that is no field is read through the draft to what the hook has set or the flag gives
    cases hl : left.values.lookup k with
    | some x => exact Configuration.get_of_lookup ((hothers k hkn).trans hl)
    | none =>
      have hnone := (hothers k hkn).trans hl
      by_cases hv : v = .null
      · subst hv
        rw [get_of_first_null hbehind hp hnone hf] at hu
        cases hu
      · exact get_of_first hbehind hp hnone hf hv

end

/-- **Every filling that finishes obeys the order of the sources.**  `s` are the settings with the
flags taken in; from the environment a field gets the text of the variable of its name.  The worlds
follow each other as the sources are read and the hook runs, and in the last of them the draft is
published. -/
theorem fill_precedence (p : Program) (hook : Option (DraftHook Session)) (flags : Layer)
    (w w' : World Session) (hd : w.state.DeclaresOnce)
    (hk : ∀ change ∈ hook, change.KeepsBehind)
    (h : outcome (fill p hook flags) w = (.ok (), w')) :
    ∃ (s : Settings) (envFile file secret : Layer) (held left : Configuration)
      (w₁ w₂ w₃ w₄ w₅ : World Session),
      outcome (takeFlags p flags) w = (.ok s, w₁) ∧
      (∀ f ∈ s.names, (s.environmentLayer p.surroundings).lookup f =
        (p.surroundings.env.lookup f).map .text) ∧
      outcome (s.envFileLayer p.surroundings) w₁ = (.ok envFile, w₂) ∧
      outcome (s.fileLayer p.surroundings) w₂ = (.ok file, w₃) ∧
      outcome (s.secretLayer p.decryptor p.surroundings) w₃ = (.ok secret, w₄) ∧
      (match hook with
        | none => left = held ∧ w₅ = w₄
        | some change => outcome (change held) w₄ = (.ok left, w₅)) ∧
      Precedence s flags
        [flags, s.environmentLayer p.surroundings, envFile, file, secret, s.entries] hook.isSome
        held left w₅.state.config w'.state.config := by
  obtain ⟨s, w₁, hs, h⟩ := outcome_bind_eq_ok.1 h
  obtain ⟨layers, w₄, hl, h⟩ := outcome_bind_eq_ok.1 h
  obtain ⟨envFile, file, secret, w₂, w₃, h₁, h₂, h₃, rfl⟩ := layers_eq.1 hl
  obtain ⟨draft, w₅, names, c, hdraft, hnames, hpublish, rfl⟩ := fillFrom_eq_ok.1 h
  have hdecl := takeFlags_schema hd hs
  have hpub : ∀ n ∈ s.names, isPublic n = true := fun n hn => Settings.isPublic_of_mem_names hn
  have hknown : ∀ f ∈ s.names, (firstIn [flags, s.environmentLayer p.surroundings, envFile, file,
      secret, s.entries] f).isSome = true := fun f hf => firstIn_isSome_of_mem_names (by simp) hf
  have henv : ∀ f ∈ s.names, (s.environmentLayer p.surroundings).lookup f =
      (p.surroundings.env.lookup f).map .text :=
    fun f hf => lookup_environmentLayer (Settings.mem_fields_of_mem_names hdecl hf) _
  have hflags : ∀ k v, flags.lookup k = some v → firstIn [flags,
      s.environmentLayer p.surroundings, envFile, file, secret, s.entries] k = some v :=
    fun k v hk => firstIn_of_flag hk _
  cases hook with
  | none =>
    obtain ⟨hheld, rfl⟩ := draft_none_eq_ok.1 hdraft
    obtain ⟨hb, hfirst, -⟩ := held_get hdecl hknown hheld
    refine ⟨s, envFile, file, secret, draft, draft, w₁, w₂, w₃, w₅, w₅, hs, henv, h₁, h₂, h₃,
      ⟨rfl, rfl⟩, ?_⟩
    refine precedence_of_published hdecl hflags hknown hheld ?_ (fun _ _ => rfl) hb hnames hpublish
    intro f hf
    obtain ⟨v, x, -, -, -, hx⟩ := hfirst f hf
    have hg := Configuration.get_of_lookup hx
    exact ⟨x, x, hg, rfl, hg⟩
  | some change =>
    obtain ⟨held, left, hheld, hchange, hcast⟩ := draft_some_eq_ok.1 hdraft
    obtain ⟨hb, -, -⟩ := held_get hdecl hknown hheld
    have hleft : left.behind = held.behind := hk change rfl held left w₄ w₅ hchange
    obtain ⟨hb', hcasts, hothers⟩ := castIn_get hpub (Settings.nodup_names hdecl) hcast
    refine ⟨s, envFile, file, secret, held, left, w₁, w₂, w₃, w₄, w₅, hs, henv, h₁, h₂, h₃,
      hchange, ?_⟩
    refine precedence_of_published hdecl hflags hknown hheld ?_ hothers
      (hb'.trans (hleft.trans hb)) hnames hpublish
    intro f hf
    obtain ⟨v, x, hv, hx, hlook⟩ := hcasts f hf
    exact ⟨v, x, hv, hx, Configuration.get_of_lookup hlook⟩

/-- a command class whose hook copies a field to a name that no source has, and then changes it -/
def sampleHooked : Class :=
  { baseForm with members := [(hookName, .static
      { name := hookName, receiver := none, signature := { hookSignature with args := ["self"] },
        doc := none, body := .act [.copy "z" "x", .set "x" (.text "8")], place := none,
        decorations := [], announced := none })] }

def samplePrecedence : Program :=
  sampleProgram [("x", "7"), ("y", "6")] [("a.cfg", "[Clima]\ny = 5\n")]

def sampleTaken : Settings :=
  (sampleSettings [("x", .int), ("y", .int)] [("x", .int 3), ("y", .int 4)]).set "x" (.int 9)

/-- a filling with a flag, the environment, a file and a hook: `x` arrives as the hook has set it, `y`
as the environment gives it -/
theorem fill_precedence_sample :
    ∃ (held left before : Configuration) (w' : World Session),
      outcome (fill samplePrecedence sampleHooked.draftHook? [("x", .text "9")])
        (sampleSession [("x", .int), ("y", .int)] [("x", .int 3), ("y", .int 4)]) = (.ok (), w') ∧
      Precedence sampleTaken [("x", .text "9")]
        [[("x", .text "9")], [("x", .text "7"), ("y", .text "6")], [], [("y", .int 5)], [],
          sampleTaken.entries] true held left before w'.state.config ∧
      w'.state.config.get "x" = .ok (.int 8) ∧ w'.state.config.get "y" = .ok (.int 6) := by
  have hrun := outcome_of_isOk (r := fill samplePrecedence sampleHooked.draftHook? [("x", .text "9")])
    (w := sampleSession [("x", .int), ("y", .int)] [("x", .int 3), ("y", .int 4)])
    (by decide +kernel)
  obtain ⟨s, envFile, file, secret, held, left, w₁, w₂, w₃, w₄, w₅, hs, -, henvFile, hfile, hsecret, -,
      hp⟩ := fill_precedence _ _ _ _ _
      (by
        intro t ht
        obtain rfl := Registered.settings.inj ht
        decide +kernel)
      (draftHook_keepsBehind sampleHooked (by decide +kernel)) hrun
  rw [show outcome (takeFlags samplePrecedence [("x", .text "9")]) _ = (.ok sampleTaken, _) from
    takeFlags_eq_ok.2 ⟨_, _, rfl, rfl, rfl, rfl⟩] at hs
  obtain rfl := Except.ok.inj (Prod.mk.inj hs).1
  rw [outcome_envFileLayer_of_not_isFile rfl rfl (by decide +kernel)] at henvFile
  obtain rfl := Except.ok.inj (Prod.mk.inj henvFile).1
  have hpath : sampleTaken.configPath? samplePrecedence.surroundings =
      .ok (some (Path.ofText .posix "/a.cfg")) := rfl
  have hsection : samplePrecedence.surroundings.HasSection (Path.ofText .posix "/a.cfg") [("y", "5")] :=
    ⟨by decide +kernel, rfl⟩
  rw [outcome_fileLayer hpath hsection] at hfile
  obtain rfl := Except.ok.inj (Prod.mk.inj hfile).1
  rw [outcome_secretLayer_of_no_files _ _ (by decide +kernel)] at hsecret
  obtain rfl := Except.ok.inj (Prod.mk.inj hsecret).1
  exact ⟨held, left, _, _, hrun, hp, eq_of_gaveInt (by decide +kernel), eq_of_gaveInt (by decide +kernel)⟩

end CommandLine
