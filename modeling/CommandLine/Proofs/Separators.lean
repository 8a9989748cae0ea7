import CommandLine.Proofs.Purity

/-!
# Separators compose runs

A run on `xs`, then a run on `ys` from where the first has ended, is a run on `xs`, a separator, and
`ys` (`walk_separated`), if no call on `xs` has given something that can be called itself.

* `rounds_separated`   the run on all of it makes the rounds of the run on `xs`, and then stands at
                       its result with `ys` left;
* `walk_followedBy`    from there it goes on as a run does that starts at this result.

The separator goes in one of two ways: the last call on `xs` takes it, or it is dropped where the
run on `xs` has ended with an access.
-/

namespace CommandLine

open Binding

/-! ## one trace behind another -/

/-- one trace, and the later elements of another -/
def Trace.followedBy (t t' : Trace) : Trace := { t with later := t.later ++ t'.later }

theorem followedBy_add (t t' : Trace) (s : Step) :
    t.followedBy (t'.add s) = (t.followedBy t').add s := by
  unfold Trace.followedBy Trace.add
  rw [List.append_assoc]

theorem followedBy_fail (t t' : Trace) (parts args : List Value) :
    t.followedBy (t'.fail parts args) = (t.followedBy t').fail parts args := by
  unfold Trace.followedBy Trace.fail
  rw [List.append_assoc]

/-- the same results, up to a relation between the values -/
inductive Alike {α β : Type} (R : α → β → Prop) : Except Error α → Except Error β → Prop where
  | error (e : Error) : Alike R (.error e) (.error e)
  | ok {a : α} {b : β} (h : R a b) : Alike R (.ok a) (.ok b)

/-- two runs that end in one world, with results alike -/
def RunsAlike {σ α β : Type} (R : α → β → Prop) (r : Run σ α) (r' : Run σ β) : Prop :=
  ∀ w, (outcome r w).2 = (outcome r' w).2 ∧ Alike R (outcome r w).1 (outcome r' w).1

theorem runsAlike_pure {σ α β : Type} {R : α → β → Prop} {a : α} {b : β} (h : R a b) :
    RunsAlike R (pure a : Run σ α) (pure b) := fun _ => ⟨rfl, .ok h⟩

theorem runsAlike_bind {σ α β γ δ : Type} {R : α → β → Prop} {S : γ → δ → Prop} {r : Run σ α}
    {r' : Run σ β} {k : α → Run σ γ} {k' : β → Run σ δ} (hr : RunsAlike R r r')
    (hk : ∀ {a b}, R a b → RunsAlike S (k a) (k' b)) : RunsAlike S (r >>= k) (r' >>= k') := by
  intro w
  obtain ⟨hw, hx⟩ := hr w
  rw [outcome_bind, outcome_bind]
  cases h : outcome r w with
  | mk x v =>
    cases h' : outcome r' w with
    | mk x' v' =>
      rw [h, h'] at hw hx
      obtain rfl : v = v' := hw
      cases hx with
      | error e => exact ⟨rfl, .error e⟩
      | ok hab => exact hk hab v

theorem outcome_of_runsAlike {σ α β : Type} {f : β → α} {r : Run σ α} {r' : Run σ β}
    (h : RunsAlike (fun x y => x = f y) r r') (w : World σ) :
    outcome r w = ((outcome r' w).1.map f, (outcome r' w).2) := by
  obtain ⟨hw, hx⟩ := h w
  refine Prod.ext ?_ hw
  generalize (outcome r w).1 = x at hx
  generalize (outcome r' w).1 = y at hx
  cases hx with
  | error e => rfl
  | ok heq => exact congrArg _ heq

/-- a run that stands where another stands, with a trace behind it -/
def Progress.Behind (t : Trace) (p q : Progress) : Prop :=
  ∃ v args t', p.Stands v args (t.followedBy t') ∧ q.Stands v args t'

inductive Round.Behind (t : Trace) : Round → Round → Prop where
  | again {p q : Progress} (h : p.Behind t q) : Round.Behind t (.again p) (.again q)
  | finished {p q : Progress} (h : p.Behind t q) : Round.Behind t (.finished p) (.finished q)
  | refused (t' : Trace) : Round.Behind t (.refused (t.followedBy t')) (.refused t')

inductive RunEnd.Behind (t : Trace) : RunEnd → RunEnd → Prop where
  | finished {p q : Progress} (h : p.Behind t q) : RunEnd.Behind t (.finished p) (.finished q)
  | stuck {p q : Progress} (h : p.Behind t q) : RunEnd.Behind t (.stuck p) (.stuck q)
  | refused (t' : Trace) : RunEnd.Behind t (.refused (t.followedBy t')) (.refused t')

section
variable {σ : Type} {host : Host σ} {fs : Flags} {p q : Progress} {w w' : World σ} {t : Trace}

theorem noted_behind (hcomponent : p.component = q.component)
    (htrace : p.trace = t.followedBy q.trace) {step : Option Step}
    (hstep : q.component.isCallable = true → step.isSome = true) (rest : List Value)
    (behind : Option (List Value)) :
    p.noted step rest behind = t.followedBy (q.noted step rest behind) := by
  unfold Progress.noted
  rw [hcomponent, htrace]
  cases step with
  | none =>
    have hv : q.component.isCallable = false := by
      cases hv : q.component.isCallable with
      | false => rfl
      | true => cases hstep hv
    rw [hv]
    rfl
  | some s =>
    dsimp only [Option.elim]
    rw [← followedBy_add]
    split
    · rw [mark_add, followedBy_add, mark_add, ← followedBy_add]
    · rfl

theorem after_behind (h : p.Behind t q) {m : Move}
    (hm : ∀ step rest asGiven, m = .same step rest asGiven → q.component.isCallable = true →
      step.isSome = true) (behind : Option (List Value)) :
    Alike (Round.Behind t) (p.after fs behind m) (q.after fs behind m) := by
  obtain ⟨v, args, t', ⟨hpv, hpargs, hptrace, hplist⟩, ⟨hqv, hqargs, rfl, hqlist⟩⟩ := h
  have hcomponent : p.component = q.component := hpv.trans hqv.symm
  cases m with
  | refused e =>
    show Alike _ (.ok (Round.refused (p.trace.fail e.parts p.args)))
      (.ok (Round.refused (q.trace.fail e.parts q.args)))
    rw [hptrace, hpargs, hqargs, ← followedBy_fail]
    exact .ok (.refused _)
  | made u step rest =>
    obtain ⟨args', hjoin⟩ := joinBehind_list fs.separator v.isCallable true rest behind
    obtain ⟨p', hp, hpu, hpargs', hptrace', hptupled⟩ :=
      after_made (p := p) u step (by rw [movesOn_of_list hplist, hplist, hpv, hjoin])
    obtain ⟨q', hq, hqu, hqargs', hqtrace', hqtupled⟩ :=
      after_made (p := q) u step (by rw [movesOn_of_list hqlist, hqlist, hqv, hjoin])
    rw [hplist] at hptupled
    rw [hqlist] at hqtupled
    rw [noted_behind hcomponent hptrace (fun _ => rfl), ← hqtrace'] at hptrace'
    rw [hp, hq]
    exact .ok (.again ⟨u, args', q'.trace, ⟨hpu, hpargs', hptrace', hptupled⟩,
      ⟨hqu, hqargs', rfl, hqtupled⟩⟩)
  | same step rest asGiven =>
    obtain ⟨args', hjoin⟩ := joinBehind_list fs.separator v.isCallable false rest behind
    obtain ⟨p', hpv', hpargs', hptrace', hptupled, hp⟩ :=
      after_same (p := p) step asGiven (by rw [hplist, hpv, hjoin])
    obtain ⟨q', hqv', hqargs', hqtrace', hqtupled, hq⟩ :=
      after_same (p := q) step asGiven (by rw [hqlist, hqv, hjoin])
    rw [hplist] at hptupled
    rw [hqlist] at hqtupled
    rw [noted_behind hcomponent hptrace (hm _ _ _ rfl), ← hqtrace'] at hptrace'
    have hbehind : p'.Behind t q' := ⟨v, args', q'.trace,
      ⟨hpv'.trans hpv, hpargs', hptrace', hptupled⟩, ⟨hqv'.trans hqv, hqargs', rfl, hqtupled⟩⟩
    rw [hp, hq, hptupled, hqtupled, hplist, hqlist, hpargs, hqargs]
    by_cases hdone : asGiven = true ∧ args'.length = args.length ∧
      staysTupled false p.component.isCallable rest behind = false
    · rw [if_pos hdone, if_pos (hcomponent ▸ hdone)]
      exact .ok (.finished hbehind)
    · rw [if_neg hdone, if_neg (hcomponent ▸ hdone)]
      exact .ok (.again hbehind)

theorem step_isSome_of_move {v : Value} {before rest : List Value} {step : Option Step}
    {asGiven : Bool} (h : outcome (v.move host before) w = (.ok (.same step rest asGiven), w'))
    (hv : v.isCallable = true) : step.isSome = true := by
  obtain ⟨e, he⟩ | ⟨words, b, res, -, -, -, hm⟩ := move_eq_ok_of_callable hv h
  · cases he
  · cases res with
    | value u => cases hm
    | itself =>
      cases hm
      rfl

theorem round_behind (host : Host σ) (hfs : fs.shows = false) (h : p.Behind t q) :
    RunsAlike (Round.Behind t) (p.round host fs) (q.round host fs) := by
  intro w
  have hbehind := h
  obtain ⟨v, args, t', hp, hq⟩ := h
  cases hsplit : splitAtSeparator fs.separator args with
  | mk before behind =>
    cases hmove : outcome (v.move host before) w with
    | mk x w' =>
      have hpmove : outcome (p.component.move host before) w = (x, w') := hp.component ▸ hmove
      have hqmove : outcome (q.component.move host before) w = (x, w') := hq.component ▸ hmove
      cases x with
      | error e =>
        rw [outcome_round_of_error (not_shown hfs) (hp.args ▸ hsplit) hpmove,
          outcome_round_of_error (not_shown hfs) (hq.args ▸ hsplit) hqmove]
        exact ⟨rfl, .error e⟩
      | ok m =>
        rw [outcome_round_of_ok (not_shown hfs) (hp.args ▸ hsplit) hpmove,
          outcome_round_of_ok (not_shown hfs) (hq.args ▸ hsplit) hqmove]
        refine ⟨rfl, after_behind hbehind ?_ behind⟩
        rintro step rest asGiven rfl
        exact step_isSome_of_move hqmove

/-! ## runs -/

theorem rounds_behind (host : Host σ) (hfs : fs.shows = false)
    {next : Progress → Run σ RunEnd}
    (hnext : ∀ {p q : Progress}, p.Behind t q → RunsAlike (RunEnd.Behind t) (next p) (next q))
    (k : Nat) (h : p.Behind t q) :
    RunsAlike (RunEnd.Behind t) (p.rounds host fs next k) (q.rounds host fs next k) := by
  induction k generalizing p q with
  | zero => exact runsAlike_pure (.stuck h)
  | succ k ih =>
    have hlength : ∀ {p q : Progress}, p.Behind t q → p.args.length = q.args.length := by
      rintro p q ⟨v, args, t', hp, hq⟩
      rw [hp.args, hq.args]
    refine runsAlike_bind (round_behind host hfs h) fun hr => ?_
    cases hr with
    | finished hq => exact runsAlike_pure (.finished hq)
    | refused t' => exact runsAlike_pure (.refused t')
    | again hq =>
      dsimp only
      rw [hlength h, hlength hq]
      split
      · exact hnext hq
      · exact ih hq

theorem runFor_behind (host : Host σ) (hfs : fs.shows = false) (n : Nat) (h : p.Behind t q) :
    RunsAlike (RunEnd.Behind t) (p.runFor host fs n) (q.runFor host fs n) := by
  induction n generalizing p q with
  | zero => exact runsAlike_pure (.stuck h)
  | succ n ih =>
    have hpatience : p.patience host = q.patience host := by
      obtain ⟨v, args, t', hp, hq⟩ := h
      unfold Progress.patience
      rw [hp.component, hq.component]
    show RunsAlike _ (p.rounds host fs _ (p.patience host)) (q.rounds host fs _ (q.patience host))
    rw [hpatience]
    exact rounds_behind host hfs ih _ h

theorem run_behind (host : Host σ) (hfs : fs.shows = false) (h : p.Behind t q) :
    RunsAlike (RunEnd.Behind t) (p.run host fs) (q.run host fs) := by
  have hlength : p.args.length = q.args.length := by
    obtain ⟨v, args, t', hp, hq⟩ := h
    rw [hp.args, hq.args]
  unfold Progress.run
  rw [hlength]
  exact runFor_behind host hfs _ h

theorem final_behind (h : p.Behind t q) : p.final = t.followedBy q.final := by
  obtain ⟨v, args, t', hp, hq⟩ := h
  unfold Progress.final
  rw [hp.args, hp.trace, hq.args, hq.trace]
  split
  · rfl
  · exact (followedBy_fail _ _ _ _).symm

theorem walk_behind (host : Host σ) (hfs : fs.shows = false) (context : List (String × Value))
    (h : p.Behind t q) :
    RunsAlike (fun x y => x = t.followedBy y) (p.walk host fs context) (q.walk host fs context) := by
  rw [walk_eq host hfs, walk_eq host hfs]
  refine runsAlike_bind (run_behind host hfs h) fun hend => ?_
  cases hend with
  | refused t' => exact runsAlike_pure rfl
  | finished hq => exact runsAlike_pure (final_behind hq)
  | stuck hq => exact runsAlike_pure (final_behind hq)

end

/-! ## the run before the separator -/

/-- the trace of a run behind which a separator follows: a call takes it -/
def Trace.closed (t : Trace) : Trace := if t.lastStep.isCall then t.mark else t

theorem closed_access {t : Trace} {s : Step} {arg u : Value} (hs : s.IsAccess arg u) :
    (t.add s).closed = t.add s := by
  unfold Trace.closed
  rw [lastStep_add, Step.isCall, hs.deed]
  rfl

theorem closed_call (t : Trace) (v u : Value) {b : Bound} (hb : b.remaining = [])
    (ys : List Value) :
    (t.add (calledStep v u b none)).closed = t.add (calledStep v u b (some ys)) := by
  unfold Trace.closed
  rw [lastStep_add, isCall_calledStep, if_pos rfl, mark_add]
  unfold calledStep
  rw [hb]
  rfl

/-- a run that stands where another stands, with a separator and more arguments in front of it -/
def Progress.Ahead (sep : String) (ys : List Value) (p q : Progress) : Prop :=
  ∃ v xs t, p.Stands v xs t ∧ q.Stands v (xs ++ .text sep :: ys) t ∧
    (∀ x ∈ xs, x.isText sep = false) ∧ (xs = [] → v.isCallable = false → t.closed = t)

section
variable {σ : Type} {host : Host σ} {fs : Flags} {p p' q : Progress} {w w' w₁ : World σ}
  {ys : List Value}

/-- the run with more arguments goes on where the other has ended -/
def GoesOn (host : Host σ) (fs : Flags) (ys : List Value) (q : Progress) (w₁ : World σ)
    (x : Except Error RunEnd × World σ) : Prop :=
  ∃ z : Progress, x = outcome (z.run host fs) w₁ ∧ z.Stands q.component ys q.trace.closed

theorem length_of_ahead {sep : String} (h : p.Ahead sep ys p') :
    p'.args.length = p.args.length + (ys.length + 1) := by
  obtain ⟨v, xs, t, hp, hp', -, -⟩ := h
  rw [hp.args, hp'.args, List.length_append, List.length_cons]

/-- what a call has given cannot be called, if that holds for all calls of the whole run -/
theorem not_callable_of_called
    (hcalls : ∀ s ∈ q.trace.steps, s.isCall = true → s.component.isCallable = false) {t : Trace}
    {v u : Value} {b : Bound} {behind : Option (List Value)} {ss : List Step}
    (hq : q.trace = (t.add (calledStep v u b behind)).addAll ss) : u.isCallable = false := by
  refine hcalls (calledStep v u b behind) ?_ (isCall_calledStep v u b behind)
  rw [hq, steps_addAll, steps_add, List.append_assoc]
  exact List.mem_append_right _ (List.mem_append_left _ (List.mem_singleton.2 rfl))

theorem rounds_separated (hfs : fs.shows = false)
    (hcalls : ∀ s ∈ q.trace.steps, s.isCall = true → s.component.isCallable = false) {n : Nat}
    (hnext : ∀ {p p' : Progress} {w : World σ}, p.Ahead fs.separator ys p' → p.args.length < n →
      outcome (p.run host fs) w = (.ok (.finished q), w₁) →
        GoesOn host fs ys q w₁ (outcome (p'.run host fs) w))
    (k : Nat) (h : p.Ahead fs.separator ys p') (hn : p.args.length ≤ n)
    (hrun : outcome (p.rounds host fs (Progress.run host fs) k) w = (.ok (.finished q), w₁)) :
    GoesOn host fs ys q w₁ (outcome (p'.rounds host fs (Progress.run host fs) k) w) := by
  induction k generalizing p p' w with
  | zero => cases hrun
  | succ k ih =>
    have hends : Ends host fs p w (.ok (.finished q)) w₁ := by
      obtain hends | ⟨s, hs⟩ :=
        ends_of_rounds (fun q w x w' _ h => ends_of_run h) (k + 1) (Nat.le_refl _) hrun
      · exact hends
      · cases hs
    obtain ⟨v, xs, t, hp, hp', hxs, hclosed⟩ := h
    have hsplit : splitAtSeparator fs.separator xs = (xs, none) := splitAtSeparator_of_none hxs
    cases hends with
    | finished hr =>
      cases turns_of_round hfs hp hr with
      | idle hv hq =>
        -- the separator is dropped where the other run has ended
        obtain ⟨z, hz, hstands⟩ := outcome_round_drop host _ hfs hv hp'
        refine ⟨z, ?_, ?_⟩
        · rw [outcome_rounds_of_again hz, hstands.args, hp'.args, if_pos]
          exact Nat.lt_succ_self _
        · rw [hq.component, hq.trace, hclosed rfl hv]
          exact hstands
      | settled hv _ _ _ _ hq =>
        rw [not_callable_of_called hcalls (hq.trace.trans (addAll_nil _).symm)] at hv
        cases hv
    | @again _ p₁ _ w' _ _ hr hends' =>
      rw [outcome_rounds_of_again hr] at hrun
      have hle := length_args_le hr
      -- both runs use up the same arguments
      have hgo : ∀ {p₁' : Progress}, p₁.Ahead fs.separator ys p₁' →
          outcome (p'.round host fs) w = (.ok (.again p₁'), w') →
            GoesOn host fs ys q w₁ (outcome (p'.rounds host fs (Progress.run host fs) (k + 1)) w) := by
        intro p₁' hahead hr'
        have hlength := length_of_ahead hahead
        have hlength' : p'.args.length = p.args.length + (ys.length + 1) :=
          length_of_ahead ⟨v, xs, t, hp, hp', hxs, hclosed⟩
        rw [outcome_rounds_of_again hr']
        by_cases hless : p₁.args.length < p.args.length
        · rw [if_pos hless] at hrun
          rw [if_pos (by omega)]
          exact hnext hahead (by omega) hrun
        · rw [if_neg hless] at hrun
          rw [if_neg (by omega)]
          exact ih hahead (by omega) hrun
      cases turns_of_round hfs hp hr with
      | dropped hv hq =>
        have hno := hxs _ List.mem_cons_self
        rw [isText_iff.2 rfl] at hno
        cases hno
      | accessed hv harg hmove hstep hq =>
        obtain ⟨p₁', hr', hq'⟩ := outcome_round_access host _ hfs hv hp' harg hmove
        refine hgo ⟨_, _, _, hq, hq', ?_, ?_⟩ hr'
        · exact fun x hx => hxs x (List.mem_cons_of_mem _ hx)
        · exact fun _ _ => closed_access hstep
      | @called _ before behind words b u _ _ hv hsplit₁ hwords hbind hcall hq =>
        obtain ⟨rfl, rfl⟩ := Prod.mk.inj (hsplit.symm.trans hsplit₁)
        obtain ⟨p₁', hr', hq'⟩ :=
          outcome_round_call hfs hv hp' (splitAtSeparator_append hxs) hwords hbind hcall
        cases hremaining : b.remaining with
        | nil =>
          rw [hremaining] at hq hq'
          obtain ⟨ss, hss⟩ := Ends.addAll hfs hq hends'
          have hu := not_callable_of_called hcalls hss
          obtain ⟨q₀, hidle, hq₀⟩ := outcome_round_idle host w' hfs hu hq
          obtain ⟨hend, rfl⟩ := hends'.unique (.finished hidle)
          obtain rfl := RunEnd.finished.inj (Except.ok.inj hend)
          refine ⟨p₁', ?_, ?_⟩
          · rw [outcome_rounds_of_again hr', hq'.args, hp'.args, if_pos]
            rw [List.length_append]
            exact Nat.lt_add_left _ (Nat.lt_succ_self _)
          · rw [hq₀.component, hq₀.trace, closed_call t v u hremaining]
            exact hq'
        | cons a rest =>
          have hstep : calledStep v u b (some ys) = calledStep v u b none := by
            unfold calledStep
            rw [hremaining]
            rfl
          rw [hstep, hremaining] at hq'
          rw [hremaining] at hq
          refine hgo ⟨u, _, _, hq, hq', ?_, fun hnil => nomatch hnil⟩ hr'
          rintro x hx
          rw [← hremaining] at hx
          obtain ⟨word, hword, rfl⟩ := List.mem_map.1 hx
          refine hxs _ ?_
          rw [eq_map_of_flagTexts hwords]
          exact List.mem_map_of_mem (mem_of_mem_remaining hbind hword)
      | renewed hv _ _ _ _ hq =>
        obtain ⟨ss, hss⟩ := Ends.addAll hfs hq hends'
        rw [not_callable_of_called hcalls hss] at hv
        cases hv

theorem run_separated (hfs : fs.shows = false)
    (hcalls : ∀ s ∈ q.trace.steps, s.isCall = true → s.component.isCallable = false)
    (h : p.Ahead fs.separator ys p')
    (hrun : outcome (p.run host fs) w = (.ok (.finished q), w₁)) :
    GoesOn host fs ys q w₁ (outcome (p'.run host fs) w) := by
  induction hn : p.args.length using Nat.strongRecOn generalizing p p' w with
  | ind n ih =>
    have hpatience : p'.patience host = p.patience host := by
      obtain ⟨v, xs, t, hp, hp', -, -⟩ := h
      unfold Progress.patience
      rw [hp.component, hp'.component]
    rw [outcome_run] at hrun ⊢
    rw [hpatience]
    exact rounds_separated hfs hcalls (fun hahead hless hrun => ih _ hless hahead hrun rfl) _ h
      (Nat.le_of_eq hn) hrun

/-! ## both runs -/

theorem mark_eq {t : Trace} (h : t.failed = false) :
    t.mark.failed = false ∧ t.mark.result = t.result := by
  cases hlater : t.later.getLast? with
  | none =>
    have hnil : t.later = [] := List.getLast?_eq_none_iff.1 hlater
    simp [Trace.mark, Trace.failed, Trace.result, Trace.lastStep, Trace.steps, hnil]
  | some e =>
    cases e with
    | failure parts args =>
      unfold Trace.failed at h
      rw [hlater] at h
      cases h
    | step s =>
      obtain ⟨l, hl⟩ := List.getLast?_eq_some_iff.1 hlater
      have ht : t = ({ t with later := l } : Trace).add s := by
        unfold Trace.add
        rw [← hl]
      rw [ht, mark_add, result_add, result_add]
      exact ⟨failed_add _ _, rfl⟩

theorem closed_eq {t : Trace} (h : t.failed = false) :
    t.closed.failed = false ∧ t.closed.result = t.result := by
  unfold Trace.closed
  split
  · exact mark_eq h
  · exact ⟨h, rfl⟩

theorem steps_followedBy (t t' : Trace) : (t.followedBy t').steps = t.steps ++ t'.steps :=
  List.filterMap_append

theorem failed_followedBy {t : Trace} (h : t.failed = false) (t' : Trace) :
    (t.followedBy t').failed = t'.failed := by
  unfold Trace.failed Trace.followedBy at *
  rw [List.getLast?_append]
  cases hlast : t'.later.getLast? with
  | some e => rfl
  | none => exact h

theorem result_followedBy {t t' : Trace} (h : t.result = t'.first.component) :
    (t.followedBy t').result = t'.result := by
  unfold Trace.result Trace.lastStep at *
  rw [steps_followedBy]
  cases hsteps : t'.steps with
  | nil =>
    rw [List.append_nil]
    exact h
  | cons s ss => simp [List.getLastD_eq_getLast?, List.getLast?_cons]

theorem first_of_walk (hfs : fs.shows = false) {context : List (String × Value)}
    {name : Option String} {v : Value} {args : List Value} {t : Trace}
    (h : (outcome ((Progress.start fs name v args).walk host fs context) w).1 = .ok t) :
    t.first.component = v := by
  have hbehind : (Progress.start fs name v args).Behind (Trace.ofComponent v name fs.separator)
      (Progress.start fs name v args) :=
    ⟨v, args, _, ⟨rfl, rfl, rfl, rfl⟩, start_stands fs name v args⟩
  have halike := (walk_behind host hfs context hbehind w).2
  rw [h] at halike
  cases halike with
  | ok heq => rw [heq]; rfl

/-- **A separator composes runs.**  Let the run on `xs` from a component end at `q` without an error,
and let none of its calls give something that can be called.  Then the run on `xs`, the separator and
`ys` ends as the run on `ys` ends that starts at the component of `q`: with the same error, or with
the same result and failure, the later elements of its trace behind those of the run on `xs`, the
last call of which has taken the separator.  If all calls are pure, it does not matter from which
world the run on `ys` is started. -/
theorem walk_separated (host : Host σ) (hfs : fs.shows = false) (context : List (String × Value))
    (name : Option String) (v : Value) {xs : List Value}
    (hxs : ∀ x ∈ xs, x.isText fs.separator = false) (ys : List Value)
    (hrun : outcome ((Progress.start fs name v xs).run host fs) w = (.ok (.finished q), w₁))
    (hcalls : ∀ s ∈ q.trace.steps, s.isCall = true → s.component.isCallable = false) :
    let both := (Progress.start fs name v (xs ++ .text fs.separator :: ys)).walk host fs context
    let second := (Progress.start fs name q.component ys).walk host fs context
    outcome both w =
        ((outcome second w₁).1.map q.trace.closed.followedBy, (outcome second w₁).2) ∧
      (∀ t, (outcome second w₁).1 = .ok t →
        (q.trace.closed.followedBy t).result = t.result ∧
        (q.trace.closed.followedBy t).failed = t.failed ∧
        (q.trace.closed.followedBy t).steps = q.trace.closed.steps ++ t.steps) ∧
      (host.Pure → ∀ w', (outcome second w').1 = (outcome second w₁).1) := by
  intro both second
  have hstart := start_stands fs name v xs
  have hends : Ends host fs (Progress.start fs name v xs) w (.ok (.finished q)) w₁ := by
    obtain hends | ⟨s, hs⟩ := ends_of_run hrun
    · exact hends
    · cases hs
  have hresult : q.trace.closed.result = q.component ∧ q.trace.closed.failed = false := by
    obtain ⟨ss, hss⟩ := hends.addAll hfs hstart
    have hfailed : q.trace.failed = false := hss ▸ failed_addAll rfl ss
    obtain ⟨hclosed, hsame⟩ := closed_eq hfailed
    exact ⟨hsame.trans (hends.result hfs hstart rfl), hclosed⟩
  refine ⟨?_, fun t ht => ⟨?_, ?_, steps_followedBy _ _⟩, fun hpure w' => ?_⟩
  · have hahead : (Progress.start fs name v xs).Ahead fs.separator ys
        (Progress.start fs name v (xs ++ .text fs.separator :: ys)) :=
      ⟨v, xs, _, hstart, start_stands fs name v _, hxs, fun _ _ => rfl⟩
    obtain ⟨z, hz, hstands⟩ := run_separated hfs hcalls hahead hrun
    have hbehind : z.Behind q.trace.closed (Progress.start fs name q.component ys) := by
      refine ⟨q.component, ys, _, ?_, start_stands fs name q.component ys⟩
      unfold Trace.followedBy
      rw [show (Trace.ofComponent q.component name fs.separator).later = [] from rfl,
        List.append_nil]
      exact hstands
    calc outcome both w = outcome (z.walk host fs context) w₁ := by
          unfold both
          rw [walk_eq host hfs, walk_eq host hfs, outcome_bind, outcome_bind, hz]
      _ = _ := outcome_of_runsAlike (walk_behind host hfs context hbehind) w₁
  · exact result_followedBy (hresult.1.trans (first_of_walk hfs ht).symm)
  · exact failed_followedBy hresult.2 t
  · exact blind_walk hpure fs context _ w' w₁

end

/-! ### a sample -/

def sampleCall : Value :=
  .routine ⟨"f", none, { args := ["a"], defaults := [.int 1] }, none,
    .const (.dict [(.text "k", .int 5)]), none, [.one .text []], none⟩

def sampleCalled : Progress where
  component := .dict [(.text "k", .int 5)]
  args := []
  trace := (Trace.ofComponent sampleCall none "-").add
    (callStep sampleCall (.dict [(.text "k", .int 5)])
      ⟨[.text "x"], [], ["x"], [], false⟩)
  atStart := false
  made := .dict [(.text "k", .int 5)]

/-- the routine is called with `x` and takes the separator, then `k` picks an entry of the table -/
theorem walk_separated_sample :
    (outcome ((Progress.start {} none sampleCall [.text "x", .text "-", .text "k"]).walk
        (Host.plain Unit) {} []) ⟨"", "", ()⟩).1 =
      (outcome ((Progress.start {} none sampleCalled.component [.text "k"]).walk
        (Host.plain Unit) {} []) ⟨"", "", ()⟩).1.map sampleCalled.trace.closed.followedBy := by
  have hrun : outcome ((Progress.start {} none sampleCall [.text "x"]).run (Host.plain Unit) {})
      ⟨"", "", ()⟩ = (.ok (.finished sampleCalled), ⟨"", "", ()⟩) := rfl
  have hxs : ∀ x ∈ [Value.text "x"], x.isText ({} : Flags).separator = false := by
    intro x hx
    obtain rfl := List.mem_singleton.1 hx
    decide
  have hcalls : ∀ s ∈ sampleCalled.trace.steps, s.isCall = true →
      s.component.isCallable = false := by
    intro s hs _
    obtain rfl := List.mem_singleton.1 hs
    rfl
  exact congrArg Prod.fst
    (walk_separated (Host.plain Unit) rfl [] none sampleCall hxs [.text "k"] hrun hcalls).1

end CommandLine
