import CommandLine.Proofs.Endings
import Mathlib.Data.List.Induction

/-!
# The shape of a trace

A round leaves the trace as it is, adds a call or an access, or ends it with a failure
(`moved_of_round`); by `run_invariant` this is all that a run does to it.  So a trace is the start, the
moves, and behind them either one failure or what the flags have asked to be shown (`Trace.Shaped`).

A trace always has a last step that is no failure (`exists_lastStep`), and the command that leads along
it can be written if the arguments are texts (`command_of_texts`).
-/

namespace CommandLine

open Binding

/-! ## texts -/

def Texts (vs : List Value) : Prop := ∀ v ∈ vs, ∃ s, v = .text s

theorem texts_nil : Texts [] := fun _ h => absurd h List.not_mem_nil

theorem texts_map (ws : List String) : Texts (ws.map .text) := by
  intro v hv
  obtain ⟨s, -, rfl⟩ := List.mem_map.1 hv
  exact ⟨s, rfl⟩

theorem texts_append {xs ys : List Value} : Texts (xs ++ ys) ↔ Texts xs ∧ Texts ys :=
  List.forall_mem_append

theorem texts_cons {x : Value} {xs : List Value} : Texts (x :: xs) ↔ (∃ s, x = .text s) ∧ Texts xs :=
  List.forall_mem_cons

theorem Texts.subset {xs ys : List Value} (h : Texts ys) (hsub : ∀ x ∈ xs, x ∈ ys) : Texts xs :=
  fun x hx => h x (hsub x hx)

theorem flagTexts_of_texts {vs : List Value} (h : Texts vs) : ∃ ws, flagTexts vs = .ok ws := by
  induction vs with
  | nil => exact ⟨[], rfl⟩
  | cons v vs ih =>
    obtain ⟨⟨s, rfl⟩, hvs⟩ := texts_cons.1 h
    obtain ⟨ws, hws⟩ := ih hvs
    refine ⟨s :: ws, ?_⟩
    show (flagTexts vs >>= fun ss => .ok (s :: ss)) = _
    rw [hws]
    rfl

/-! ## what a round does to the trace -/

structure Step.IsMove (s : Step) : Prop where
  deed : s.isCall = true ∨ s.deed = .accessed
  args : Texts s.args

def Move.step? : Move → Option Step
  | .refused _ => none
  | .made _ step _ => some step
  | .same step _ _ => step

section
variable {σ : Type} {host : Host σ} {fs : Flags} {p q : Progress} {w w' : World σ} {t : Trace}

theorem after_eq_ok {behind : Option (List Value)} {m : Move} {r : Round}
    (h : p.after fs behind m = .ok r) :
    (∃ parts, r = .refused (p.trace.fail parts p.args)) ∨
      ∃ q : Progress, (r = .again q ∨ r = .finished q) ∧
        (∃ moved, joinBehind fs.separator p.component.isCallable moved p.tupled m.rest behind =
          .ok q.args) ∧
        q.trace = p.noted m.step? m.rest behind := by
  cases m with
  | refused e => exact .inl ⟨e.parts, (Except.ok.inj h).symm⟩
  | made u step rest =>
    obtain ⟨args, hargs, -⟩ := bind_eq_ok.1 h
    obtain ⟨q, hafter, -, hq, htrace, -⟩ := after_made u step hargs
    rw [hafter] at h
    exact .inr ⟨q, .inl (Except.ok.inj h).symm, ⟨_, hq ▸ hargs⟩, htrace⟩
  | same step rest asGiven =>
    obtain ⟨args, hargs, -⟩ := bind_eq_ok.1 h
    obtain ⟨q, -, hq, htrace, -, hafter⟩ := after_same step asGiven hargs
    rw [hafter] at h
    refine .inr ⟨q, ?_, ⟨false, hq ▸ hargs⟩, htrace⟩
    split at h
    · exact .inr (Except.ok.inj h).symm
    · exact .inl (Except.ok.inj h).symm

/-- a move takes its arguments from those at hand, and leaves no step only if there is nothing to do -/
theorem noted_of_move {before : List Value} {m : Move} (hbefore : Texts before)
    (h : outcome (p.component.move host before) w = (.ok m, w')) (behind : Option (List Value)) :
    Texts m.rest ∧ (p.noted m.step? m.rest behind = p.trace ∨ (∃ e, m = .refused e) ∨
      ∃ s, s.IsMove ∧ p.noted m.step? m.rest behind = p.trace.add s) := by
  cases hv : p.component.isCallable with
  | true =>
    obtain ⟨e, rfl⟩ | ⟨words, b, res, hwords, hbind, -, rfl⟩ := move_eq_ok_of_callable hv h
    · exact ⟨texts_nil, .inr (.inl ⟨e, rfl⟩)⟩
    · refine ⟨rest_callMove _ words b res ▸ texts_map _, .inr (.inr ?_)⟩
      obtain ⟨u, hu⟩ : ∃ u, (callMove p.component words b res).step? =
          some (callStep p.component u b) := by
        cases res <;> exact ⟨_, rfl⟩
      rw [hu, rest_callMove, noted_call hv]
      exact ⟨_, ⟨.inl (isCall_calledStep _ u b behind), texts_map _⟩, rfl⟩
  | false =>
    cases before with
    | nil =>
      obtain ⟨hm, -⟩ := Prod.mk.inj (h.symm.trans (outcome_move_nil host hv w))
      obtain rfl := Except.ok.inj hm
      exact ⟨texts_nil, .inl (noted_of_not_callable hv none _ behind)⟩
    | cons arg rest =>
      obtain ⟨harg, hrest⟩ := texts_cons.1 hbefore
      obtain ⟨hm, -⟩ := Prod.mk.inj ((outcome_move_cons host hv arg rest w).symm.trans h)
      obtain ⟨e, rfl⟩ | ⟨u, step, rfl, hstep⟩ := moveByAccess_eq_ok hm
      · exact ⟨texts_nil, .inr (.inl ⟨e, rfl⟩)⟩
      · refine ⟨hrest, .inr (.inr ⟨step, ⟨.inr hstep.deed, ?_⟩, noted_of_not_callable hv _ _ behind⟩)⟩
        rw [hstep.args]
        exact texts_cons.2 ⟨harg, texts_nil⟩

theorem mem_of_joinBehind {sep : String} {callable moved tupled : Bool} {rest args : List Value}
    {behind : Option (List Value)}
    (h : joinBehind sep callable moved tupled rest behind = .ok args) {v : Value} (hv : v ∈ args) :
    v ∈ rest ∨ v ∈ behindSeparator sep behind := by
  cases behind with
  | none => exact .inl (Except.ok.inj h ▸ hv)
  | some ys =>
    simp only [joinBehind] at h
    split at h
    · split at h
      · obtain rfl := Except.ok.inj h
        exact List.mem_append.1 hv
      · split at h <;> cases h
    · split at h
      · obtain rfl := Except.ok.inj h
        exact .inr (List.mem_cons_of_mem _ hv)
      · split at h
        · cases h
        · obtain rfl := Except.ok.inj h
          exact .inr hv

/-- where a run stands: it was given texts, and has only made moves -/
structure Progress.Moved (t : Trace) (p : Progress) : Prop where
  args : Texts p.args
  trace : ∃ ss, p.trace = t.addAll ss ∧ ∀ s ∈ ss, s.IsMove

theorem Progress.Moved.add (h : p.Moved t) (hq : Texts q.args) {s : Step} (hs : s.IsMove)
    (htrace : q.trace = p.trace.add s) : q.Moved t := by
  obtain ⟨ss, hss, hmoves⟩ := h.trace
  refine ⟨hq, ss ++ [s], ?_, List.forall_mem_append.2 ⟨hmoves, List.forall_mem_singleton.2 hs⟩⟩
  rw [htrace, hss]
  simp only [Trace.add, Trace.addAll, List.map_append, List.append_assoc]
  rfl

/-- how a run ends that only makes moves: with a failure behind them, or with arguments at hand -/
def RunEnd.Moved (t : Trace) : RunEnd → Prop
  | .refused t' => ∃ ss parts args, t' = (t.addAll ss).fail parts args ∧ ∀ s ∈ ss, s.IsMove
  | .finished p | .stuck p => p.Moved t

/-- what a round leads to keeps one thing while it leads on, and has another in the end -/
def Round.Keeps (I : Progress → Prop) (J : RunEnd → Prop) : Round → Prop
  | .again q => I q
  | .finished q => J (.finished q)
  | .refused t => J (.refused t)

/-- **A round makes a move, or does nothing, or fails.** -/
theorem moved_of_round (hp : p.Moved t) {r : Round}
    (h : outcome (p.round host fs) w = (.ok r, w')) : r.Keeps (Progress.Moved t) (RunEnd.Moved t) := by
  have hkeeps : ∀ {q}, q.Moved t → r = .again q ∨ r = .finished q →
      r.Keeps (Progress.Moved t) (RunEnd.Moved t) := by
    rintro q hq (rfl | rfl) <;> exact hq
  cases hshown : p.args.isEmpty && fs.shows with
  | true =>
    unfold Progress.round at h
    rw [hshown] at h
    obtain ⟨hr, -⟩ := Prod.mk.inj h
    exact hkeeps hp (.inr (Except.ok.inj hr).symm)
  | false =>
    cases hsplit : splitAtSeparator fs.separator p.args with
    | mk before behind =>
      obtain ⟨m, hmove, hafter⟩ := round_eq_ok hshown hsplit h
      have hargs := hp.args
      rw [(splitAtSeparator_eq hsplit).1, texts_append] at hargs
      obtain ⟨hrest, hnoted⟩ := noted_of_move hargs.1 hmove behind
      obtain ⟨parts, rfl⟩ | ⟨q, hr, ⟨moved, hjoin⟩, htrace⟩ := after_eq_ok hafter
      · obtain ⟨ss, hss, hmoves⟩ := hp.trace
        exact ⟨ss, parts, p.args, hss ▸ rfl, hmoves⟩
      · have hq : Texts q.args := fun v hv =>
          (mem_of_joinBehind hjoin hv).elim (hrest v) (hargs.2 v)
        obtain hsame | ⟨e, rfl⟩ | ⟨s, hs, hadd⟩ := hnoted
        · exact hkeeps ⟨hq, htrace ▸ hsame ▸ hp.trace⟩ hr
        · cases hafter
          obtain hr | hr := hr <;> cases hr
        · exact hkeeps (hp.add hq hs (htrace.trans hadd)) hr

/-! ## what a run does to it -/

section
variable {I : Progress → Prop} {J : RunEnd → Prop}

theorem rounds_invariant (hround : ∀ {p w r w'}, I p → outcome (p.round host fs) w = (.ok r, w') →
      r.Keeps I J) (hstuck : ∀ {p}, I p → J (.stuck p)) {next : Progress → Run σ RunEnd}
    (hnext : ∀ {q w e w'}, I q → outcome (next q) w = (.ok e, w') → J e) {e : RunEnd} (k : Nat)
    (hp : I p) (h : outcome (p.rounds host fs next k) w = (.ok e, w')) : J e := by
  induction k generalizing p w with
  | zero =>
    obtain ⟨he, -⟩ := Prod.mk.inj h
    exact Except.ok.inj he ▸ hstuck hp
  | succ k ih =>
    obtain ⟨r, w₁, hr, hk⟩ := outcome_bind_eq_ok.1 h
    have hkeeps := hround hp hr
    cases r with
    | finished q =>
      obtain ⟨he, -⟩ := Prod.mk.inj hk
      exact Except.ok.inj he ▸ hkeeps
    | refused t =>
      obtain ⟨he, -⟩ := Prod.mk.inj hk
      exact Except.ok.inj he ▸ hkeeps
    | again q =>
      simp only at hk
      split at hk
      · exact hnext hkeeps hk
      · exact ih hkeeps hk

/-- what every round keeps, a run keeps, and it ends as its last round does -/
theorem run_invariant (hround : ∀ {p w r w'}, I p → outcome (p.round host fs) w = (.ok r, w') →
      r.Keeps I J) (hstuck : ∀ {p}, I p → J (.stuck p)) {e : RunEnd} (hp : I p)
    (h : outcome (p.run host fs) w = (.ok e, w')) : J e := by
  have hrunFor : ∀ (n : Nat) {p w e w'}, I p → outcome (p.runFor host fs n) w = (.ok e, w') →
      J e := by
    intro n
    induction n with
    | zero =>
      intro p w e w' hp h
      obtain ⟨he, -⟩ := Prod.mk.inj h
      exact Except.ok.inj he ▸ hstuck hp
    | succ n ih =>
      intro p w e w' hp h
      exact rounds_invariant hround hstuck (fun hq hrun => ih hq hrun) _ hp h
  exact hrunFor _ hp h

end

/-! ## the shape of a trace -/

/-- the steps that the flags add behind the moves -/
def Flags.shownDeeds (fs : Flags) : List Deed :=
  (if fs.completion then [.script] else []) ++ if fs.interactive then [.interactive] else []

/-- what may stand behind the moves: one failure, or what the flags have asked to be shown -/
inductive Closing (fs : Flags) : List TraceElement → Prop where
  | failure (parts args : List Value) : Closing fs [.failure parts args]
  | shown (ss : List Step) (hdeeds : ss.map (·.deed) = fs.shownDeeds) (hargs : ∀ s ∈ ss, s.args = []) :
    Closing fs (ss.map .step)

/-- a trace: the component that it starts with, then calls and accesses, then its closing -/
def Trace.Shaped (t : Trace) (fs : Flags) (initial : Value) : Prop :=
  ∃ (moves : List Step) (closing : List TraceElement),
    t.elements = .step { deed := .start, component := initial } :: (moves.map .step ++ closing) ∧
    (∀ s ∈ moves, s.IsMove) ∧ Closing fs closing

section
variable {initial : Value} {name : Option String} {sep : String}

theorem elements_addAll (ss : List Step) :
    ((Trace.ofComponent initial name sep).addAll ss).elements =
      .step { deed := .start, component := initial } :: ss.map .step := rfl

theorem elements_add (t : Trace) (s : Step) : (t.add s).elements = t.elements ++ [.step s] := rfl

theorem elements_fail (t : Trace) (parts args : List Value) :
    (t.fail parts args).elements = t.elements ++ [.failure parts args] := rfl

theorem shaped_of_failure {ss : List Step} (hss : ∀ s ∈ ss, s.IsMove) (parts args : List Value) :
    (((Trace.ofComponent initial name sep).addAll ss).fail parts args).Shaped fs initial := by
  refine ⟨ss, _, ?_, hss, .failure parts args⟩
  rw [elements_fail, elements_addAll, List.cons_append]

/-- an interactive session is added last, if it is asked for -/
theorem shaped_of_session {ss : List Step} (hss : ∀ s ∈ ss, s.IsMove) (script : List Step)
    (hdeeds : script.map (·.deed) = if fs.completion then [.script] else [])
    (hargs : ∀ s ∈ script, s.args = []) {t₁ t : Trace}
    (ht₁ : t₁.elements =
      .step { deed := .start, component := initial } :: (ss.map .step ++ script.map .step))
    {text : String}
    (h : outcome (if fs.interactive then do
        printOut text
        return t₁.add { deed := .interactive, component := .null }
      else return t₁ : Run σ Trace) w = (.ok t, w')) : t.Shaped fs initial := by
  cases hinteractive : fs.interactive with
  | false =>
    rw [hinteractive] at h
    obtain ⟨ht, -⟩ := Prod.mk.inj h
    obtain rfl := Except.ok.inj ht
    refine ⟨ss, _, ht₁, hss, .shown script ?_ hargs⟩
    rw [hdeeds, Flags.shownDeeds, hinteractive, if_neg Bool.false_ne_true, List.append_nil]
  | true =>
    rw [hinteractive] at h
    obtain ⟨_, w₁, -, hlast⟩ := outcome_bind_eq_ok.1 h
    obtain ⟨ht, -⟩ := Prod.mk.inj hlast
    obtain rfl := Except.ok.inj ht
    refine ⟨ss, _, ?_, hss, .shown (script ++ [{ deed := .interactive, component := .null }]) ?_
      (List.forall_mem_append.2 ⟨hargs, List.forall_mem_singleton.2 rfl⟩)⟩
    · rw [elements_add, ht₁, List.map_append, ← List.append_assoc]
      rfl
    · rw [List.map_append, hdeeds, Flags.shownDeeds, hinteractive, if_pos rfl]
      rfl

/-- a script and a session are shown behind the moves, and only if no argument is left -/
theorem shaped_of_conclude (hp : p.Moved (Trace.ofComponent initial name sep))
    {context : List (String × Value)} {v : Value} {t : Trace}
    (h : outcome (p.conclude fs context v) w = (.ok t, w')) : t.Shaped fs initial := by
  obtain ⟨ss, htrace, hss⟩ := hp.trace
  unfold Progress.conclude at h
  cases hargs : p.args.isEmpty with
  | false =>
    rw [hargs] at h
    obtain ⟨ht, -⟩ := Prod.mk.inj h
    obtain rfl := Except.ok.inj ht
    exact htrace ▸ shaped_of_failure hss _ _
  | true =>
    rw [hargs] at h
    cases hcompletion : fs.completion with
    | false =>
      rw [hcompletion] at h
      refine shaped_of_session hss [] (by rw [hcompletion]; rfl)
        (fun s hs => absurd hs List.not_mem_nil) ?_ h
      rw [htrace, elements_addAll, List.map_nil, List.append_nil]
    | true =>
      rw [hcompletion] at h
      cases hname : p.trace.name with
      | none =>
        rw [hname] at h
        cases h
      | some n =>
        rw [hname] at h
        refine shaped_of_session hss [{ deed := .script, component := .text (v.script n []) }]
          (by rw [hcompletion]; rfl) (List.forall_mem_singleton.2 rfl) ?_ h
        rw [elements_add, htrace, elements_addAll]
        rfl

theorem shaped_of_walk {args : List Value} (hargs : Texts args)
    (hp : p.component = initial ∧ p.args = args ∧ p.trace = Trace.ofComponent initial name sep)
    {context : List (String × Value)} {t : Trace}
    (h : outcome (p.walk host fs context) w = (.ok t, w')) : t.Shaped fs initial := by
  obtain ⟨-, rfl, htrace⟩ := hp
  obtain ⟨e, w₁, hrun, hend⟩ := outcome_bind_eq_ok.1 h
  have hstart : p.Moved (Trace.ofComponent initial name sep) :=
    ⟨hargs, [], htrace.trans (addAll_nil _).symm, fun s hs => absurd hs List.not_mem_nil⟩
  have he : e.Moved (Trace.ofComponent initial name sep) :=
    run_invariant (fun hq hround => moved_of_round hq hround) (fun hq => hq) hstart hrun
  cases e with
  | refused t' =>
    obtain ⟨ht, -⟩ := Prod.mk.inj hend
    obtain rfl := Except.ok.inj ht
    obtain ⟨ss, parts, args, rfl, hss⟩ := he
    exact shaped_of_failure hss parts args
  | finished q => exact shaped_of_conclude he hend
  | stuck q => exact shaped_of_conclude he hend

end

/-! ## what a trace tells -/

/-- the result of a trace stands at its last step, and only failures stand behind it -/
theorem exists_lastStep (t : Trace) :
    ∃ front s back, t.elements = front ++ .step s :: back ∧ (∀ e ∈ back, e.isFailure = true) ∧
      t.lastStep = s := by
  obtain ⟨name, sep, first, later⟩ := t
  induction later using List.reverseRecOn with
  | nil => exact ⟨[], first, [], rfl, fun e he => absurd he List.not_mem_nil, rfl⟩
  | append_singleton later e ih =>
    cases e with
    | step s =>
      exact ⟨.step first :: later, s, [], rfl, fun e he => absurd he List.not_mem_nil,
        lastStep_add ⟨name, sep, first, later⟩ s⟩
    | failure parts args =>
      obtain ⟨front, s, back, helements, hback, hlast⟩ := ih
      refine ⟨front, s, back ++ [.failure parts args], ?_, ?_, ?_⟩
      · show (Trace.mk name sep first later).elements ++ [.failure parts args] = _
        rw [helements, List.append_assoc]
        rfl
      · exact List.forall_mem_append.2 ⟨hback, List.forall_mem_singleton.2 rfl⟩
      · rw [← hlast]
        simp [Trace.lastStep, Trace.steps]

theorem failed_iff (t : Trace) :
    t.failed = true ↔ ∃ front parts args, t.elements = front ++ [.failure parts args] := by
  obtain ⟨name, sep, first, later⟩ := t
  constructor
  · intro h
    induction later using List.reverseRecOn with
    | nil => cases h
    | append_singleton later e _ =>
      cases e with
      | step s => exact absurd h (Bool.eq_false_iff.1 (failed_add ⟨name, sep, first, later⟩ s))
      | failure parts args => exact ⟨.step first :: later, parts, args, rfl⟩
  · rintro ⟨front, parts, args, h⟩
    cases front with
    | nil => cases h
    | cons e front =>
      obtain ⟨-, rfl⟩ := List.cons.inj h
      exact failed_fail ⟨name, sep, first, front⟩ parts args

theorem texts_of_shaped {initial : Value} (h : t.Shaped fs initial) :
    ∀ s ∈ t.first :: t.steps, Texts s.args := by
  obtain ⟨moves, closing, helements, hmoves, hclosing⟩ := h
  obtain ⟨hfirst, hlater⟩ := List.cons.inj helements
  refine List.forall_mem_cons.2 ⟨TraceElement.step.inj hfirst ▸ texts_nil, fun s hs => ?_⟩
  obtain ⟨e, he, hstep⟩ := List.mem_filterMap.1 hs
  have he' : e = .step s := by
    cases e with
    | step s' => exact congrArg _ (Option.some.inj hstep)
    | failure parts args => cases hstep
  rw [hlater, he'] at he
  obtain he | he := List.mem_append.1 he
  · obtain ⟨s', hs', heq⟩ := List.mem_map.1 he
    exact TraceElement.step.inj heq ▸ (hmoves s' hs').args
  · cases hclosing with
    | failure parts args => cases List.mem_singleton.1 he
    | shown ss hdeeds hargs =>
      obtain ⟨s', hs', heq⟩ := List.mem_map.1 he
      rw [← TraceElement.step.inj heq, hargs s' hs']
      exact texts_nil

/-- the command of a trace can be written if its steps have used up texts -/
theorem command_of_texts (h : ∀ s ∈ t.first :: t.steps, Texts s.args) : ∃ c, t.command = .ok c := by
  have hwords : Texts t.words := by
    unfold Trace.words
    refine texts_append.2 ⟨texts_append.2 ⟨?_, ?_⟩, ?_⟩
    · split
      · split
        · exact texts_nil
        · exact texts_map [_]
      · exact texts_nil
    · intro v hv
      obtain ⟨s, hs, hmem⟩ := List.mem_flatMap.1 hv
      refine (texts_append.2 ⟨h s hs, ?_⟩ : Texts (Trace.stepWords t.separator s)) v hmem
      split
      · exact texts_map [_]
      · exact texts_nil
    · split
      · exact texts_map [_]
      · exact texts_nil
  obtain ⟨ws, hws⟩ := flagTexts_of_texts hwords
  refine ⟨Text.joinWith " " (ws.map Text.quoteArg), ?_⟩
  unfold Trace.command
  rw [hws]
  rfl

end

end CommandLine
