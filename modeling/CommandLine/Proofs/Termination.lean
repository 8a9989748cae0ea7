import CommandLine.Proofs.Patience
import Mathlib.Order.WellFounded

/-!
# Every run comes to an end

A run goes on round after round for as long as they lead on (`Ends`), and nothing about it falls with
each of them: a call may use up no argument, a separator may be put back, and the arguments may change
their order.  What falls is, in this order,

* the number of arguments, which no round raises;
* the calls in a row that use up none of them, if they cannot go on for ever (`FiniteCalls`);
* for a routine that gives itself, the one round in which its words may still change their order
  (`Progress.Renewed`).

So a run stops from every component all of whose calls are finite (`run_stops`), whatever the arguments,
the separator and the other flags are.  The components of a program whose methods give what is named in
them are of this kind (`finiteCalls_of_bounded`).
-/

namespace CommandLine

open Binding

section
variable {σ : Type} {host : Host σ} {fs : Flags} {p q : Progress} {v : Value} {w w' : World σ}

/-- a call that uses up none of the words it finds can give the component `u` -/
def IdleCall (host : Host σ) (v u : Value) : Prop :=
  ∃ words b w w', v.bind words = .ok b ∧ b.remaining.length = words.length ∧
    outcome (v.call host b.positional b.named) w = (.ok (.value u), w')

/-- calls in a row that use up nothing come to an end.  A routine that gives itself is no longer
counted: what it gives is not another component. -/
def FiniteCalls (host : Host σ) (v : Value) : Prop :=
  ∀ chain : Nat → Value, chain 0 = v → ∃ n, ¬ IdleCall host (chain n) (chain (n + 1))

/-- the components that a command can come to from `v`: parts of what cannot be called, and what
calls give -/
inductive Reaches (host : Host σ) (v : Value) : Value → Prop where
  | start : Reaches host v v
  | part {u arg x : Value} {step : Step} {rest : List Value} (hu : Reaches host v u)
    (hcallable : u.isCallable = false) (h : u.moveByAccess arg rest = .ok (.made x step rest)) :
    Reaches host v x
  | result {u x : Value} {words : List String} {b : Bound} {w w' : World σ}
    (hu : Reaches host v u) (hbind : u.bind words = .ok b)
    (h : outcome (u.call host b.positional b.named) w = (.ok (.value x), w')) : Reaches host v x

/-! ## where rounds lead -/

theorem reaches_of_again (hp : Reaches host v p.component)
    (h : outcome (p.round host fs) w = (.ok (.again q), w')) : Reaches host v q.component := by
  cases hsplit : splitAtSeparator fs.separator p.args with
  | mk before behind =>
    obtain ⟨m, hmove, hafter⟩ := round_eq_ok (not_shown_of_again h) hsplit h
    obtain ⟨-, -, ⟨step, rest, rfl⟩ | ⟨step, rest, asGiven, -, hsame, -⟩⟩ := after_eq_again hafter
    · cases hv : p.component.isCallable with
      | true =>
        obtain ⟨e, hm⟩ | ⟨words, b, res, -, hbind, hcall, hm⟩ := move_eq_ok_of_callable hv hmove
        · cases hm
        · cases res with
          | itself => cases hm
          | value u =>
            injection hm with hu
            exact .result hp hbind (hu ▸ hcall)
      | false =>
        cases before with
        | nil => cases hmove.symm.trans (outcome_move_nil host hv w)
        | cons arg others =>
          obtain ⟨hm, -⟩ := Prod.mk.inj ((outcome_move_cons host hv arg others w).symm.trans hmove)
          obtain ⟨e, he⟩ | ⟨u, step', hu, -⟩ := moveByAccess_eq_ok hm
          · cases he
          · cases hu
            exact .part hp hv hm
    · exact hsame ▸ hp

/-- a round that uses up no argument makes a call, or comes back to a routine that gives itself -/
theorem idleCall_or_renewed (h : outcome (p.round host fs) w = (.ok (.again q), w'))
    (hlength : q.args.length = p.args.length) :
    IdleCall host p.component q.component ∨ q.Renewed fs := by
  obtain ⟨before, behind, words, b, -, -, hbind, hb, htupled, hsplit, hcall⟩ :=
    unused_of_again h hlength
  obtain hcall | ⟨hcall, hcomponent, -⟩ := hcall
  · exact .inl ⟨words, b, w, w', hbind, by rw [hb.remaining, hb.length], hcall⟩
  · obtain ⟨r, hr, hbody⟩ := eq_routine_of_itself hcall
    exact .inr ⟨r, b.remaining, hcomponent.trans hr, hbody, htupled, congrArg Prod.fst hsplit,
      hb.settled⟩

/-! ## rounds stop -/

/-- rounds lead on only finitely often, whatever the world is -/
def Progress.Stops (host : Host σ) (fs : Flags) (p : Progress) : Prop :=
  ∀ w, ∃ x w', Ends host fs p w x w'

/-- a run stops if all the runs stop that a round leads to -/
theorem stops_of_again
    (h : ∀ w q w', outcome (p.round host fs) w = (.ok (.again q), w') → q.Stops host fs) :
    p.Stops host fs := by
  intro w
  cases hr : outcome (p.round host fs) w with
  | mk y w' =>
    cases y with
    | error e => exact ⟨_, _, .error hr⟩
    | ok r =>
      cases r with
      | finished q => exact ⟨_, _, .finished hr⟩
      | refused t => exact ⟨_, _, .refused hr⟩
      | again q =>
        obtain ⟨x, w'', hq⟩ := h w q w' hr w'
        exact ⟨x, w'', .again hr hq⟩

theorem acc_of_finiteCalls (h : FiniteCalls host v) : Acc (fun u v => IdleCall host v u) v := by
  by_contra hacc
  obtain ⟨chain, hstart, hchain⟩ := not_acc_iff_exists_descending_chain.1 hacc
  obtain ⟨n, hn⟩ := h chain hstart
  exact hn (hchain n)

/-- the calls in a row that use up nothing are followed to their end; `hless` takes over where an
argument is used up -/
theorem stops_of_acc {n : Nat}
    (hless : ∀ q : Progress, q.args.length < n → Reaches host v q.component → q.Stops host fs)
    {u : Value} (hacc : Acc (fun u v => IdleCall host v u) u) :
    ∀ p : Progress, p.component = u → p.args.length = n → Reaches host v p.component →
      p.Stops host fs := by
  induction hacc with
  | intro u _ ih =>
    rintro p rfl rfl hp
    refine stops_of_again fun w q w' hq => ?_
    have hreach := reaches_of_again hp hq
    obtain hlt | hlength := Nat.lt_or_eq_of_le (length_args_le hq)
    · exact hless q hlt hreach
    · obtain hcall | hrenewed := idleCall_or_renewed hq hlength
      · exact ih q.component hcall q rfl hlength hreach
      · refine stops_of_again fun w₁ q' w₂ hq' => ?_
        have hlt := length_args_lt_of_renewed hrenewed hq'
        exact hless q' (by omega) (reaches_of_again hreach hq')

theorem stops_of_finiteCalls (h : ∀ u, Reaches host v u → FiniteCalls host u)
    (hp : Reaches host v p.component) : p.Stops host fs := by
  induction hn : p.args.length using Nat.strongRecOn generalizing p with
  | ind n ih =>
    exact stops_of_acc (fun q hq hreach => ih _ hq hreach rfl)
      (acc_of_finiteCalls (h _ hp)) p rfl hn hp

/-! ## the calls of a program are finite -/

theorem not_idleCall_of_itself {r : Routine} (hbody : r.body = .itself) (u : Value) :
    ¬ IdleCall host (.routine r) u := by
  rintro ⟨words, b, w, w', -, -, hcall⟩
  cases (itself_iff_of_call hcall).2 hbody

/-- where methods give what is named in them, all calls are finite -/
theorem finiteCalls_of_bounded (hhost : host.Bounded) (v : Value) : FiniteCalls host v := by
  intro chain hchain
  induction hn : v.callDepth using Nat.strongRecOn generalizing v chain with
  | ind n ih =>
    by_cases hfirst : IdleCall host (chain 0) (chain 1)
    · obtain ⟨words, b, w, w', hbind, hlength, hcall⟩ := hfirst
      obtain hlt | ⟨r, hr, hbody⟩ :=
        callDepth_lt_of_call hhost (unused_of_length hbind hlength) hcall
      · obtain ⟨k, hk⟩ := ih _ (hn ▸ hchain ▸ hlt) (chain 1) (fun n => chain (n + 1)) rfl rfl
        exact ⟨k + 1, hk⟩
      · exact ⟨1, hr ▸ not_idleCall_of_itself hbody _⟩
    · exact ⟨0, hfirst⟩

/-- **The rounds of a command come to an end**, whatever its arguments, its separator and its flags
are, if at every component that it can come to the calls in a row that use up nothing are finite.
Where methods give what is named in them, the run is given rounds enough to come to this end. -/
theorem run_stops (host : Host σ) (fs : Flags) (p : Progress)
    (h : ∀ u, Reaches host p.component u → FiniteCalls host u) (w : World σ) :
    ∃ x w', Ends host fs p w x w' ∧ (host.Bounded → outcome (p.run host fs) w = (x, w')) := by
  obtain ⟨x, w', hends⟩ := stops_of_finiteCalls h .start w
  exact ⟨x, w', hends, fun hhost => outcome_run_of_ends hhost hends⟩

end

def sampleRenewed : Value :=
  .list [.routine ⟨"f", none, { args := [] }, none, .itself, none, [], none⟩]

/-- the routine puts the flag that it does not know behind the other word, and finds nothing new in the
round after that; the separator and what stands behind it stay -/
theorem run_stops_sample :
    ∃ q w', Ends (Host.plain Unit) { separator := "+" }
        (Progress.start { separator := "+" } none sampleRenewed
          (["0", "--x", "1", "a", "+", "b"].map .text)) ⟨"", "", ()⟩ (.ok (.finished q)) w' ∧
      q.args = ["a", "--x", "1", "+", "b"].map .text := by
  obtain ⟨x, w', hends, hrun⟩ := run_stops (Host.plain Unit) { separator := "+" }
    (Progress.start { separator := "+" } none sampleRenewed
      (["0", "--x", "1", "a", "+", "b"].map .text))
    (fun u _ => finiteCalls_of_bounded (plain_bounded Unit) u) ⟨"", "", ()⟩
  have hx := (congrArg Prod.fst (hrun (plain_bounded Unit))).symm
  obtain ⟨q, rfl, hq⟩ : ∃ q, x = .ok (.finished q) ∧ q.args = ["a", "--x", "1", "+", "b"].map .text :=
    ⟨_, hx.trans rfl, rfl⟩
  exact ⟨q, w', hends, hq⟩

end CommandLine
