import CommandLine.Proofs.CallDepth
import CommandLine.Proofs.Endings

/-!
# A run is never stopped before its end

A run that uses up no argument is given only so many rounds (`Progress.patience`).  They are enough,
whatever the flags ask for: each of them is a call (`length_args_lt`) that is given nothing, so it
leads to what allows fewer calls in a row (`callDepth_lt_of_call`), or the component is a routine that
gives itself.  Such a routine may find the arguments in another order than it leaves them in, flags
being put last, but the second time their order is settled and the run has ended.

* `enough_of_again`   each round leaves enough patience for the next;
* `ends_run`          a run ends as its rounds do.
-/

namespace CommandLine

open Binding

section
variable {σ : Type} {host : Host σ} {fs : Flags} {p q : Progress} {w w' : World σ}

theorem not_shown_of_again (h : outcome (p.round host fs) w = (.ok (.again q), w')) :
    (p.args.isEmpty && fs.shows) = false := by
  cases hshown : p.args.isEmpty && fs.shows with
  | false => rfl
  | true =>
    unfold Progress.round at h
    rw [hshown] at h
    cases h

/-- a round that leads on from what cannot be called uses up an argument -/
theorem length_args_lt (hv : p.component.isCallable = false)
    (h : outcome (p.round host fs) w = (.ok (.again q), w')) : q.args.length < p.args.length := by
  cases hsplit : splitAtSeparator fs.separator p.args with
  | mk before behind =>
    obtain ⟨m, hmove, hafter⟩ := round_eq_ok (not_shown_of_again h) hsplit h
    cases before with
    | nil =>
      obtain ⟨hm, -⟩ := Prod.mk.inj ((outcome_move_nil host hv w).symm.trans hmove)
      obtain rfl := Except.ok.inj hm
      obtain ⟨q', -, -, -, -, hq'⟩ := after_idle fs hv behind
      rw [hq'] at hafter
      split at hafter
      · cases hafter
      · rename_i hlength
        injection hafter with hafter
        injection hafter with hafter
        exact Nat.lt_of_le_of_ne (length_args_le h) (hafter ▸ hlength)
    | cons arg rest =>
      obtain ⟨hm, -⟩ := Prod.mk.inj ((outcome_move_cons host hv arg rest w).symm.trans hmove)
      obtain ⟨e, rfl⟩ | ⟨u, step, rfl, -⟩ := moveByAccess_eq_ok hm
      · cases hafter
      · obtain ⟨⟨moved, hjoin⟩, -, -⟩ := after_eq_again hafter
        have hle := length_joinBehind_le hjoin
        rw [(splitAtSeparator_eq hsplit).1, List.cons_append, List.length_cons]
        exact Nat.lt_succ_of_le hle

/-- if no argument has gone, the call has left all that stood before the separator -/
theorem joinBehind_all {sep : String} {moved tupled : Bool} {rest args before : List Value}
    {behind : Option (List Value)} (h : joinBehind sep true moved tupled rest behind = .ok args)
    (hrest : rest.length ≤ before.length)
    (hlength : args.length = (before ++ behindSeparator sep behind).length) :
    rest.length = before.length ∧ args = rest ++ behindSeparator sep behind ∧
      takesSeparator true rest behind = false := by
  rw [List.length_append] at hlength
  cases behind with
  | none =>
    obtain rfl := Except.ok.inj h
    exact ⟨hlength, (List.append_nil rest).symm, Bool.and_false _⟩
  | some ys =>
    rw [behindSeparator, List.length_cons] at hlength
    cases rest with
    | nil =>
      obtain rfl := Except.ok.inj h
      omega
    | cons x xs =>
      cases tupled with
      | true => cases h
      | false =>
        obtain rfl := Except.ok.inj h
        rw [List.length_append, List.length_cons (a := Value.text sep)] at hlength
        exact ⟨by omega, rfl, rfl⟩

/-- a round that uses up no argument is a call that is given none, and the arguments that it leaves
come as a list, in an order that stays -/
theorem unused_of_again (h : outcome (p.round host fs) w = (.ok (.again q), w'))
    (hlength : q.args.length = p.args.length) :
    ∃ before behind words b, splitAtSeparator fs.separator p.args = (before, behind) ∧
      flagTexts before = .ok words ∧ p.component.bind words = .ok b ∧
      Unused p.component.spec words b ∧ q.tupled = false ∧
      splitAtSeparator fs.separator q.args = (b.remaining.map .text, behind) ∧
      (outcome (p.component.call host b.positional b.named) w = (.ok (.value q.component), w') ∨
        outcome (p.component.call host b.positional b.named) w = (.ok .itself, w') ∧
          q.component = p.component ∧ ¬ (b.remaining = words ∧ p.tupled = false)) := by
  have hv : p.component.isCallable = true := by
    cases hv : p.component.isCallable with
    | true => rfl
    | false => exact absurd (length_args_lt hv h) (by omega)
  cases hsplit : splitAtSeparator fs.separator p.args with
  | mk before behind =>
    obtain ⟨m, hmove, hafter⟩ := round_eq_ok (not_shown_of_again h) hsplit h
    obtain ⟨hargs, hbefore⟩ := splitAtSeparator_eq hsplit
    obtain ⟨⟨moved, hjoin⟩, htupled, hnext⟩ := after_eq_again hafter
    obtain ⟨e, rfl⟩ | ⟨words, b, res, hwords, hbind, hcall, rfl⟩ := move_eq_ok_of_callable hv hmove
    · cases hafter
    have hle := length_rest_le hmove
    rw [hargs] at hlength
    rw [hv, rest_callMove] at hjoin
    rw [rest_callMove] at hle
    obtain ⟨hrest, hq, htakes⟩ := joinBehind_all hjoin hle hlength
    rw [List.length_map, ← length_flagTexts hwords] at hrest
    have hlist : q.tupled = false := by
      rw [htupled, rest_callMove, hv, staysTupled, htakes]
      exact Bool.and_false _
    have hall : ∀ x ∈ b.remaining.map Value.text, x.isText fs.separator = false := by
      intro x hx
      obtain ⟨s, hs, rfl⟩ := List.mem_map.1 hx
      refine hbefore _ ?_
      rw [eq_map_of_flagTexts hwords]
      exact List.mem_map_of_mem (mem_of_mem_remaining hbind hs)
    refine ⟨before, behind, words, b, rfl, hwords, hbind, unused_of_length hbind hrest, hlist,
      hq ▸ splitAtSeparator_behind hall behind, ?_⟩
    obtain ⟨step, rest, hm⟩ | ⟨step, rest, asGiven, hm, hcomponent, hmore⟩ := hnext
    · cases res with
      | value u =>
        cases hm
        exact .inl hcall
      | itself => cases hm
    · cases res with
      | value u => cases hm
      | itself =>
        cases hm
        refine .inr ⟨hcall, hcomponent, fun hsame => hmore ⟨beq_iff_eq.2 hsame.1, ?_, ?_⟩⟩
        · rw [hargs, hlength]
        · rw [hlist, hsame.2]

/-- at a routine that gives itself, the words in an order that stays -/
def Progress.Renewed (fs : Flags) (p : Progress) : Prop :=
  ∃ r words, p.component = .routine r ∧ r.body = .itself ∧ p.tupled = false ∧
    (splitAtSeparator fs.separator p.args).1 = words.map .text ∧ Settled words

/-- there the next round is the last, unless it uses up an argument -/
theorem length_args_lt_of_renewed (hp : p.Renewed fs)
    (h : outcome (p.round host fs) w = (.ok (.again q), w')) : q.args.length < p.args.length := by
  obtain ⟨r, words', hr, hbody, hlist, hwords', hsettled⟩ := hp
  refine Nat.lt_of_le_of_ne (length_args_le h) fun hlength => ?_
  obtain ⟨before, behind, words, b, hsplit, hwords, -, hb, -, -, hcall⟩ := unused_of_again h hlength
  obtain rfl : words = words' := by
    rw [hsplit] at hwords'
    rw [show before = _ from hwords', flagTexts_texts] at hwords
    exact (Except.ok.inj hwords).symm
  obtain hcall | ⟨-, -, hmore⟩ := hcall
  · rw [hr] at hcall
    cases (itself_iff_of_call hcall).2 hbody
  · exact absurd ⟨hb.remaining_of_settled hsettled, hlist⟩ hmore

/-- are so many rounds enough? -/
inductive Enough (fs : Flags) (p : Progress) : Nat → Prop where
  | access {k : Nat} (hv : p.component.isCallable = false) : Enough fs p (k + 1)
  | call {k : Nat} (hk : p.component.callDepth + 2 ≤ k) : Enough fs p k
  /-- the next round is the last -/
  | settled {k : Nat} (hp : p.Renewed fs) : Enough fs p (k + 1)

theorem not_enough_zero : ¬ Enough fs p 0 := by
  intro h
  cases h with
  | call hk => exact absurd hk (Nat.not_succ_le_zero _)

theorem enough_of_again (hhost : host.Bounded) {k : Nat} (hp : Enough fs p (k + 1))
    (h : outcome (p.round host fs) w = (.ok (.again q), w'))
    (hlength : q.args.length = p.args.length) : Enough fs q k := by
  cases hp with
  | access hv => exact absurd (length_args_lt hv h) (by omega)
  | settled hp => exact absurd (length_args_lt_of_renewed hp h) (by omega)
  | call hk =>
    obtain ⟨before, behind, words, b, -, -, -, hb, htupled, hsplit', hcall⟩ :=
      unused_of_again h hlength
    have hagain : ∀ {r}, q.component = .routine r → r.body = .itself → Enough fs q k := by
      intro r hr hbody
      obtain ⟨k, rfl⟩ : ∃ j, k = j + 1 := Nat.exists_eq_add_one.2 (by omega)
      exact .settled ⟨r, b.remaining, hr, hbody, htupled, congrArg Prod.fst hsplit', hb.settled⟩
    obtain hcall | ⟨hcall, hcomponent, -⟩ := hcall
    · obtain hlt | ⟨r, hr, hbody⟩ := callDepth_lt_of_call hhost hb hcall
      · exact .call (by omega)
      · exact hagain hr hbody
    · obtain ⟨r, hr, hbody⟩ := eq_routine_of_itself hcall
      exact hagain (hcomponent.trans hr) hbody

theorem not_stuck_of_rounds (hhost : host.Bounded) {n k : Nat}
    (hnext : ∀ (q : Progress) w s w', q.args.length < n →
      outcome (q.run host fs) w ≠ (.ok (.stuck s), w'))
    (hp : p.args.length ≤ n) (hk : Enough fs p k) (s : Progress) :
    outcome (p.rounds host fs (Progress.run host fs) k) w ≠ (.ok (.stuck s), w') := by
  induction k generalizing p w with
  | zero => exact absurd hk not_enough_zero
  | succ k ih =>
    intro h
    cases hr : outcome (p.round host fs) w with
    | mk y w₁ =>
      cases y with
      | error e => cases (outcome_rounds_of_error hr).symm.trans h
      | ok r =>
        cases r with
        | finished q => cases (outcome_rounds_of_finished hr).symm.trans h
        | refused t => cases (outcome_rounds_of_refused hr).symm.trans h
        | again q =>
          have hle := length_args_le hr
          rw [outcome_rounds_of_again hr] at h
          split at h
          · exact hnext q w₁ s w' (by omega) h
          · exact ih (by omega) (enough_of_again hhost hk hr (by omega)) h

theorem not_stuck (hhost : host.Bounded) (s : Progress) :
    outcome (p.run host fs) w ≠ (.ok (.stuck s), w') := by
  induction hn : p.args.length using Nat.strongRecOn generalizing p w w' s with
  | ind n ih =>
    rw [outcome_run]
    refine not_stuck_of_rounds hhost (fun q w s w' hq => ih _ hq s rfl) (Nat.le_of_eq hn) ?_ s
    exact .call (by unfold Progress.patience; omega)

/-- **A run ends as its rounds do.** -/
theorem ends_run (hhost : host.Bounded) {x : Except Error RunEnd}
    (h : outcome (p.run host fs) w = (x, w')) : Ends host fs p w x w' := by
  obtain h' | ⟨s, rfl⟩ := ends_of_run h
  · exact h'
  · exact absurd h (not_stuck hhost s)

theorem outcome_run_of_ends (hhost : host.Bounded) {x : Except Error RunEnd}
    (h : Ends host fs p w x w') : outcome (p.run host fs) w = (x, w') := by
  cases hrun : outcome (p.run host fs) w with
  | mk y w₁ =>
    obtain ⟨rfl, rfl⟩ := (ends_run hhost hrun).unique h
    rfl

end

end CommandLine
