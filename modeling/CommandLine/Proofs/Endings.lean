import CommandLine.Proofs.Rounds

/-!
# How the rounds of a command end

* `length_args_le`   no round makes arguments;
* `outcome_run`      a run is a series of rounds that use up no argument, and then a run again, so how
                     the number of arguments bounds it does not matter;
* `Ends`             the rounds one after another, without any bound: `ends_of_run` says that a run
                     ends as they do, unless it gets stuck;
* `Leads`            the places where a run comes to stand.
-/

namespace CommandLine

open Binding

section
variable {σ : Type} {host : Host σ} {fs : Flags} {p : Progress} {w w' : World σ}
  {before : List Value} {behind : Option (List Value)}

/-! ## no round makes arguments -/

theorem length_rest_le {v : Value} {m : Move}
    (h : outcome (v.move host before) w = (.ok m, w')) : m.rest.length ≤ before.length := by
  cases hv : v.isCallable with
  | true =>
    obtain ⟨e, rfl⟩ | ⟨words, b, res, hwords, hbind, -, rfl⟩ := move_eq_ok_of_callable hv h
    · exact Nat.zero_le _
    · have hle := length_remaining_le hbind
      rw [length_flagTexts hwords] at hle
      rwa [rest_callMove, List.length_map]
  | false =>
    cases before with
    | nil =>
      obtain ⟨hm, -⟩ := Prod.mk.inj (h.symm.trans (outcome_move_nil host hv w))
      obtain rfl := Except.ok.inj hm
      exact Nat.le_refl _
    | cons arg rest =>
      rw [outcome_move_cons host hv] at h
      obtain ⟨hm, -⟩ := Prod.mk.inj h
      obtain ⟨e, rfl⟩ | ⟨u, step, rfl, -⟩ := moveByAccess_eq_ok hm
      · exact Nat.zero_le _
      · exact Nat.le_succ _

theorem length_joinBehind_le {sep : String} {callable moved tupled : Bool} {rest args : List Value}
    (h : joinBehind sep callable moved tupled rest behind = .ok args) :
    args.length ≤ (rest ++ behindSeparator sep behind).length := by
  cases behind with
  | none =>
    obtain rfl := Except.ok.inj h
    exact Nat.le_of_eq (congrArg _ (List.append_nil rest).symm)
  | some ys =>
    have hcases : args = rest ++ .text sep :: ys ∨ args = ys ∨ args = .text sep :: ys := by
      simp only [joinBehind] at h
      split at h
      · split at h
        · exact .inl (Except.ok.inj h).symm
        · split at h <;> cases h
      · split at h
        · exact .inr (.inl (Except.ok.inj h).symm)
        · split at h
          · cases h
          · exact .inr (.inr (Except.ok.inj h).symm)
    rw [behindSeparator, List.length_append, List.length_cons]
    obtain rfl | rfl | rfl := hcases
    · exact Nat.le_of_eq List.length_append
    · omega
    · rw [List.length_cons]
      omega

/-- the arguments of the next round are those that the move has left, joined with those behind the
separator, and it stands where the move has led -/
theorem after_eq_again {m : Move} {q : Progress} (h : p.after fs behind m = .ok (.again q)) :
    (∃ moved, joinBehind fs.separator p.component.isCallable moved p.tupled m.rest behind =
      .ok q.args) ∧
    q.tupled = staysTupled p.tupled p.component.isCallable m.rest behind ∧
    ((∃ step rest, m = .made q.component step rest) ∨
      ∃ step rest asGiven, m = .same step rest asGiven ∧ q.component = p.component ∧
        ¬ (asGiven = true ∧ q.args.length = p.args.length ∧ q.tupled = p.tupled)) := by
  cases m with
  | refused e => cases h
  | made u step rest =>
    obtain ⟨args, hargs, h⟩ := bind_eq_ok.1 h
    injection h with h
    injection h with h
    obtain rfl := h
    exact ⟨⟨_, hargs⟩, rfl, .inl ⟨step, rest, rfl⟩⟩
  | same step rest asGiven =>
    obtain ⟨args, hargs, -⟩ := bind_eq_ok.1 h
    obtain ⟨q', hcomponent, hq', -, htupled, hafter⟩ := after_same step asGiven hargs
    rw [hafter, ← hq'] at h
    split at h
    · cases h
    · rename_i hmore
      injection h with h
      injection h with h
      obtain rfl := h
      exact ⟨⟨false, hq' ▸ hargs⟩, htupled, .inr ⟨step, rest, asGiven, rfl, hcomponent, hmore⟩⟩

theorem length_args_le {q : Progress} (h : outcome (p.round host fs) w = (.ok (.again q), w')) :
    q.args.length ≤ p.args.length := by
  cases hshown : p.args.isEmpty && fs.shows with
  | true =>
    unfold Progress.round at h
    rw [hshown] at h
    cases h
  | false =>
    cases hsplit : splitAtSeparator fs.separator p.args with
    | mk before behind =>
      obtain ⟨m, hmove, hafter⟩ := round_eq_ok hshown hsplit h
      obtain ⟨⟨moved, hjoin⟩, -, -⟩ := after_eq_again hafter
      have hle := length_joinBehind_le hjoin
      have hrest := length_rest_le hmove
      rw [(splitAtSeparator_eq hsplit).1]
      rw [List.length_append] at hle ⊢
      omega

/-! ## rounds after each other -/

theorem outcome_rounds_congr {next next' : Progress → Run σ RunEnd} {n : Nat}
    (hnext : ∀ q w, q.args.length < n → outcome (next q) w = outcome (next' q) w) (k : Nat)
    (hp : p.args.length ≤ n) (w : World σ) :
    outcome (p.rounds host fs next k) w = outcome (p.rounds host fs next' k) w := by
  induction k generalizing p w with
  | zero => rfl
  | succ k ih =>
    refine outcome_bind_congr rfl fun r w' hr => ?_
    cases r with
    | finished q => rfl
    | refused t => rfl
    | again q =>
      have hle := length_args_le hr
      by_cases hless : q.args.length < p.args.length
      · simp only [hless, if_true]
        exact hnext q w' (by omega)
      · simp only [hless, if_false]
        exact ih (by omega) w'

theorem outcome_runFor {n : Nat} (h : p.args.length < n) (w : World σ) :
    outcome (p.runFor host fs n) w = outcome (p.run host fs) w := by
  induction n using Nat.strongRecOn generalizing p w with
  | ind n ih =>
    cases n with
    | zero => exact absurd h (Nat.not_lt_zero _)
    | succ n =>
      refine outcome_rounds_congr (fun q w hq => ?_) _ (Nat.le_refl _) w
      rw [ih n (by omega) (by omega) w, ih p.args.length h hq w]

/-- **A run is a series of rounds that use up no argument, and then a run again.** -/
theorem outcome_run (host : Host σ) (fs : Flags) (p : Progress) (w : World σ) :
    outcome (p.run host fs) w =
      outcome (p.rounds host fs (Progress.run host fs) (p.patience host)) w :=
  outcome_rounds_congr (fun _ w hq => outcome_runFor hq w) _ (Nat.le_refl _) w

section
variable {next : Progress → Run σ RunEnd} {k : Nat}

theorem outcome_rounds_of_error {e : Error}
    (h : outcome (p.round host fs) w = (.error e, w')) :
    outcome (p.rounds host fs next (k + 1)) w = (.error e, w') :=
  outcome_bind_of_error h

theorem outcome_rounds_of_finished {q : Progress}
    (h : outcome (p.round host fs) w = (.ok (.finished q), w')) :
    outcome (p.rounds host fs next (k + 1)) w = (.ok (.finished q), w') :=
  outcome_bind_of_ok h

theorem outcome_rounds_of_refused {t : Trace}
    (h : outcome (p.round host fs) w = (.ok (.refused t), w')) :
    outcome (p.rounds host fs next (k + 1)) w = (.ok (.refused t), w') :=
  outcome_bind_of_ok h

theorem outcome_rounds_of_again {q : Progress}
    (h : outcome (p.round host fs) w = (.ok (.again q), w')) :
    outcome (p.rounds host fs next (k + 1)) w =
      if q.args.length < p.args.length then outcome (next q) w'
      else outcome (q.rounds host fs next k) w' := by
  have hbind : outcome (p.rounds host fs next (k + 1)) w =
      outcome (if q.args.length < p.args.length then next q else q.rounds host fs next k) w' :=
    outcome_bind_of_ok h
  rw [hbind]
  split <;> rfl

end

/-- how rounds end that go on for as long as they lead on -/
inductive Ends (host : Host σ) (fs : Flags) :
    Progress → World σ → Except Error RunEnd → World σ → Prop where
  | error {p : Progress} {w w' : World σ} {e : Error}
    (h : outcome (p.round host fs) w = (.error e, w')) : Ends host fs p w (.error e) w'
  | finished {p q : Progress} {w w' : World σ}
    (h : outcome (p.round host fs) w = (.ok (.finished q), w')) :
    Ends host fs p w (.ok (.finished q)) w'
  | refused {p : Progress} {t : Trace} {w w' : World σ}
    (h : outcome (p.round host fs) w = (.ok (.refused t), w')) :
    Ends host fs p w (.ok (.refused t)) w'
  | again {p q : Progress} {w w' w'' : World σ} {x : Except Error RunEnd}
    (h : outcome (p.round host fs) w = (.ok (.again q), w')) (hq : Ends host fs q w' x w'') :
    Ends host fs p w x w''

/-- there is one way in which rounds can end -/
theorem Ends.unique {x y : Except Error RunEnd} {w₁ w₂ : World σ} (hx : Ends host fs p w x w₁)
    (hy : Ends host fs p w y w₂) : x = y ∧ w₁ = w₂ := by
  induction hx with
  | error h =>
    cases hy with
    | error h' => cases h.symm.trans h'; exact ⟨rfl, rfl⟩
    | finished h' => cases h.symm.trans h'
    | refused h' => cases h.symm.trans h'
    | again h' _ => cases h.symm.trans h'
  | finished h =>
    cases hy with
    | error h' => cases h.symm.trans h'
    | finished h' => cases h.symm.trans h'; exact ⟨rfl, rfl⟩
    | refused h' => cases h.symm.trans h'
    | again h' _ => cases h.symm.trans h'
  | refused h =>
    cases hy with
    | error h' => cases h.symm.trans h'
    | finished h' => cases h.symm.trans h'
    | refused h' => cases h.symm.trans h'; exact ⟨rfl, rfl⟩
    | again h' _ => cases h.symm.trans h'
  | again h _ ih =>
    cases hy with
    | error h' => cases h.symm.trans h'
    | finished h' => cases h.symm.trans h'
    | refused h' => cases h.symm.trans h'
    | again h' hq => cases h.symm.trans h'; exact ih hq

theorem ends_of_rounds {n : Nat}
    (hnext : ∀ q w x w', q.args.length < n → outcome (q.run host fs) w = (x, w') →
      Ends host fs q w x w' ∨ ∃ s, x = .ok (.stuck s))
    (k : Nat) (hp : p.args.length ≤ n) {x : Except Error RunEnd}
    (h : outcome (p.rounds host fs (Progress.run host fs) k) w = (x, w')) :
    Ends host fs p w x w' ∨ ∃ s, x = .ok (.stuck s) := by
  induction k generalizing p w with
  | zero => exact .inr ⟨p, (Prod.mk.inj h).1.symm⟩
  | succ k ih =>
    cases hr : outcome (p.round host fs) w with
    | mk y v =>
      cases y with
      | error e =>
        cases (outcome_rounds_of_error hr).symm.trans h
        exact .inl (.error hr)
      | ok r =>
        cases r with
        | finished q =>
          cases (outcome_rounds_of_finished hr).symm.trans h
          exact .inl (.finished hr)
        | refused t =>
          cases (outcome_rounds_of_refused hr).symm.trans h
          exact .inl (.refused hr)
        | again q =>
          have hle := length_args_le hr
          rw [outcome_rounds_of_again hr] at h
          have hq : Ends host fs q v x w' ∨ ∃ s, x = .ok (.stuck s) := by
            split at h
            · exact hnext q v x w' (by omega) h
            · exact ih (by omega) h
          exact hq.imp_left (.again hr)

/-- a run goes on for as long as its rounds lead on, unless it is stopped before -/
theorem ends_of_run {x : Except Error RunEnd} (h : outcome (p.run host fs) w = (x, w')) :
    Ends host fs p w x w' ∨ ∃ s, x = .ok (.stuck s) := by
  induction hn : p.args.length using Nat.strongRecOn generalizing p w x w' with
  | ind n ih =>
    rw [outcome_run] at h
    exact ends_of_rounds (fun q w x w' hq hrun => ih _ hq hrun rfl) _ (Nat.le_of_eq hn) h

def Trace.addAll (t : Trace) (ss : List Step) : Trace :=
  { t with later := t.later ++ ss.map .step }

theorem addAll_nil (t : Trace) : t.addAll [] = t := by
  unfold Trace.addAll
  rw [List.map_nil, List.append_nil]

theorem addAll_add (t : Trace) (s : Step) (ss : List Step) :
    (t.add s).addAll ss = t.addAll (s :: ss) := by
  unfold Trace.addAll Trace.add
  rw [List.append_assoc]
  rfl

theorem steps_addAll (t : Trace) (ss : List Step) : (t.addAll ss).steps = t.steps ++ ss := by
  induction ss generalizing t with
  | nil => rw [addAll_nil, List.append_nil]
  | cons s ss ih => rw [← addAll_add, ih, steps_add, List.append_assoc, List.singleton_append]

theorem Ends.addAll (hfs : fs.shows = false) {v : Value} {args : List Value} {t : Trace}
    (hp : p.Stands v args t) {q : Progress} (h : Ends host fs p w (.ok (.finished q)) w') :
    ∃ ss, q.trace = t.addAll ss := by
  generalize hx : (Except.ok (.finished q) : Except Error RunEnd) = x at h
  induction h generalizing v args t with
  | error h => cases hx
  | refused h => cases hx
  | finished h =>
    obtain rfl := RunEnd.finished.inj (Except.ok.inj hx)
    cases turns_of_round hfs hp h with
    | idle hv hq => exact ⟨[], hq.trace.trans (addAll_nil t).symm⟩
    | settled hv hsplit hwords hbind hcall hq => exact ⟨[_], hq.trace⟩
  | @again _ p' _ _ _ _ h _ ih =>
    have hadd : ∀ {u args' s}, p'.Stands u args' (t.add s) → ∃ ss, q.trace = t.addAll ss := by
      intro u args' s hq
      obtain ⟨ss, hss⟩ := ih hq hx
      exact ⟨s :: ss, hss.trans (addAll_add t s ss)⟩
    cases turns_of_round hfs hp h with
    | dropped hv hq => exact ih hq hx
    | accessed hv harg hmove hstep hq => exact hadd hq
    | called hv hsplit hwords hbind hcall hq => exact hadd hq
    | renewed hv hsplit hwords hbind hcall hq => exact hadd hq

theorem failed_addAll {t : Trace} (h : t.failed = false) (ss : List Step) :
    (t.addAll ss).failed = false := by
  induction ss generalizing t with
  | nil => rwa [addAll_nil]
  | cons s ss ih =>
    rw [← addAll_add]
    exact ih (failed_add t s)

theorem Ends.result (hfs : fs.shows = false) {v : Value} {args : List Value} {t : Trace}
    (hp : p.Stands v args t) (ht : t.result = v) {q : Progress}
    (h : Ends host fs p w (.ok (.finished q)) w') : q.trace.result = q.component := by
  generalize hx : (Except.ok (.finished q) : Except Error RunEnd) = x at h
  induction h generalizing v args t with
  | error h => cases hx
  | refused h => cases hx
  | finished h =>
    obtain rfl := RunEnd.finished.inj (Except.ok.inj hx)
    cases turns_of_round hfs hp h with
    | idle hv hq => rw [hq.trace, ht, hq.component]
    | settled hv hsplit hwords hbind hcall hq =>
      rw [hq.trace, result_add, hq.component]
      rfl
  | again h _ ih =>
    cases turns_of_round hfs hp h with
    | dropped hv hq => exact ih hq ht hx
    | accessed hv harg hmove hstep hq => exact ih hq ((result_add _ _).trans hstep.component) hx
    | called hv hsplit hwords hbind hcall hq => exact ih hq (result_add _ _) hx
    | renewed hv hsplit hwords hbind hcall hq => exact ih hq (result_add _ _) hx

/-! ## the trace of a run -/

/-- the trace that a run comes to: with a failure if it has arguments left -/
def Progress.final (p : Progress) : Trace :=
  if p.args.isEmpty then p.trace
  else p.trace.fail (CommandError.leftOver p.args).parts p.args

theorem conclude_eq (hfs : fs.shows = false) (context : List (String × Value)) (initial : Value)
    (p : Progress) : (p.conclude fs context initial : Run σ Trace) = pure p.final := by
  have hflags : fs.completion = false ∧ fs.interactive = false := by
    simp only [Flags.shows, Bool.or_eq_false_iff] at hfs
    exact ⟨hfs.2, hfs.1.1.2⟩
  unfold Progress.conclude Progress.final
  simp only [hflags]
  cases p.args <;> rfl

def RunEnd.final : RunEnd → Trace
  | .refused t => t
  | .finished p | .stuck p => p.final

theorem walk_eq (host : Host σ) (hfs : fs.shows = false) (context : List (String × Value))
    (p : Progress) :
    p.walk host fs context = p.run host fs >>= fun e => pure e.final := by
  unfold Progress.walk
  congr
  funext e
  cases e with
  | refused t => rfl
  | finished q => exact conclude_eq hfs context _ q
  | stuck q => exact conclude_eq hfs context _ q

theorem start_stands (fs : Flags) (name : Option String) (v : Value) (args : List Value) :
    (Progress.start fs name v args).Stands v args (Trace.ofComponent v name fs.separator) :=
  ⟨rfl, rfl, rfl, rfl⟩

/-! ## the places on the way -/

inductive Leads (host : Host σ) (fs : Flags) :
    Progress → World σ → Progress → World σ → Prop where
  | refl (p : Progress) (w : World σ) : Leads host fs p w p w
  | again {p q r : Progress} {w w' w'' : World σ}
    (h : outcome (p.round host fs) w = (.ok (.again q), w')) (hq : Leads host fs q w' r w'') :
    Leads host fs p w r w''

end

end CommandLine
