import CommandLine.Command.Outcome
import CommandLine.Proofs.Bindings

/-!
# One round of a command

What a round does is said here once for each kind of component; after this no proof looks into
`Progress.round`.

* `outcome_round_idle`, `outcome_round_drop`, `outcome_round_access`   at something that cannot be
  called nothing is left to do, a separator is dropped, or a part is accessed;
* `outcome_round_call`, `outcome_round_itself`   what can be called is called with the arguments
  before the separator;
* `Turns`, `turns_of_round`   there is nothing else that a round does.

`Stands` says where a run stands, up to what only an interactive session looks at.
-/

namespace CommandLine

open Binding

/-! ## traces -/

section
variable (t : Trace) (s : Step)

theorem mark_add : (t.add s).mark = t.add { s with separated := true } := by
  simp [Trace.mark, Trace.add, TraceElement.mark]

theorem steps_add : (t.add s).steps = t.steps ++ [s] := by
  simp [Trace.steps, Trace.add]

theorem lastStep_add : (t.add s).lastStep = s := by
  simp [Trace.lastStep, steps_add]

theorem result_add : (t.add s).result = s.component := by
  rw [Trace.result, lastStep_add]

theorem failed_add : (t.add s).failed = false := by
  simp [Trace.failed, Trace.add, TraceElement.isFailure]

theorem failed_fail (parts args : List Value) : (t.fail parts args).failed = true := by
  simp [Trace.failed, Trace.fail, TraceElement.isFailure]

end

/-! ## separators -/

section
variable {sep : String} {x : Value} {xs ys : List Value}

theorem isText_iff : x.isText sep = true ↔ x = .text sep := by
  cases x <;> simp [Value.isText]

theorem splitAtSeparator_cons (h : x.isText sep = false) :
    splitAtSeparator sep (x :: xs) =
      (x :: (splitAtSeparator sep xs).1, (splitAtSeparator sep xs).2) := by
  rw [splitAtSeparator, h]
  rfl

theorem splitAtSeparator_separator :
    splitAtSeparator sep (.text sep :: xs) = ([], some xs) := by
  rw [splitAtSeparator, isText_iff.2 rfl]
  rfl

theorem splitAtSeparator_of_none (h : ∀ x ∈ xs, x.isText sep = false) :
    splitAtSeparator sep xs = (xs, none) := by
  induction xs with
  | nil => rfl
  | cons x xs ih =>
    rw [List.forall_mem_cons] at h
    rw [splitAtSeparator_cons h.1, ih h.2]

theorem splitAtSeparator_append (h : ∀ x ∈ xs, x.isText sep = false) :
    splitAtSeparator sep (xs ++ .text sep :: ys) = (xs, some ys) := by
  induction xs with
  | nil => exact splitAtSeparator_separator
  | cons x xs ih =>
    rw [List.forall_mem_cons] at h
    rw [List.cons_append, splitAtSeparator_cons h.1, ih h.2]

/-- the separator with what stands behind it, if there is one -/
def behindSeparator (sep : String) : Option (List Value) → List Value
  | none => []
  | some ys => .text sep :: ys

theorem splitAtSeparator_behind (h : ∀ x ∈ xs, x.isText sep = false) (behind : Option (List Value)) :
    splitAtSeparator sep (xs ++ behindSeparator sep behind) = (xs, behind) := by
  cases behind with
  | none =>
    rw [behindSeparator, List.append_nil]
    exact splitAtSeparator_of_none h
  | some ys => exact splitAtSeparator_append h

theorem splitAtSeparator_eq {behind : Option (List Value)}
    (h : splitAtSeparator sep xs = (ys, behind)) :
    xs = ys ++ behindSeparator sep behind ∧ ∀ y ∈ ys, y.isText sep = false := by
  induction xs generalizing ys with
  | nil =>
    obtain ⟨rfl, rfl⟩ := Prod.mk.inj h
    exact ⟨rfl, fun y hy => absurd hy List.not_mem_nil⟩
  | cons x xs ih =>
    cases hx : x.isText sep with
    | true =>
      obtain rfl := isText_iff.1 hx
      rw [splitAtSeparator_separator] at h
      obtain ⟨rfl, rfl⟩ := Prod.mk.inj h
      exact ⟨rfl, fun y hy => absurd hy List.not_mem_nil⟩
    | false =>
      rw [splitAtSeparator_cons hx] at h
      obtain ⟨rfl, rfl⟩ := Prod.mk.inj h
      obtain ⟨hxs, hall⟩ := ih rfl
      exact ⟨congrArg (x :: ·) hxs, List.forall_mem_cons.2 ⟨hx, hall⟩⟩

end

/-! ## the mark in front of the flags -/

section
variable {α : Type} {isMark : α → Bool} {xs ys : List α}

theorem splitLast_of_none (h : ∀ x ∈ xs, isMark x = false) : splitLast isMark xs = none := by
  induction xs with
  | nil => rfl
  | cons x xs ih =>
    rw [List.forall_mem_cons] at h
    rw [splitLast, ih h.2]
    show (if isMark x then _ else _) = _
    rw [h.1]
    rfl

theorem splitLast_append {m : α} (hm : isMark m = true) (h : ∀ y ∈ ys, isMark y = false) :
    splitLast isMark (xs ++ m :: ys) = some (xs, ys) := by
  induction xs with
  | nil =>
    show splitLast isMark (m :: ys) = _
    rw [splitLast, splitLast_of_none h]
    exact if_pos hm
  | cons x xs ih =>
    show splitLast isMark (x :: (xs ++ m :: ys)) = _
    rw [splitLast, ih]

theorem splitLast_cases (isMark : α → Bool) (xs : List α) :
    (splitLast isMark xs = none ∧ ∀ x ∈ xs, isMark x = false) ∨
    ∃ a m b, splitLast isMark xs = some (a, b) ∧ xs = a ++ m :: b ∧ isMark m = true ∧
      ∀ y ∈ b, isMark y = false := by
  induction xs with
  | nil => exact .inl ⟨rfl, fun x hx => absurd hx List.not_mem_nil⟩
  | cons x xs ih =>
    rcases ih with ⟨-, hnone⟩ | ⟨a, m, b, -, rfl, hm, hb⟩
    · cases hx : isMark x with
      | true =>
        have hsplit : splitLast isMark ([] ++ x :: xs) = _ := splitLast_append hx hnone
        exact .inr ⟨[], x, xs, hsplit, rfl, hx, hnone⟩
      | false =>
        have hall : ∀ y ∈ x :: xs, isMark y = false := List.forall_mem_cons.2 ⟨hx, hnone⟩
        exact .inl ⟨splitLast_of_none hall, hall⟩
    · have hsplit : splitLast isMark ((x :: a) ++ m :: b) = _ := splitLast_append hm hb
      exact .inr ⟨x :: a, m, b, hsplit, rfl, hm, hb⟩

end

section
variable {α : Type} {is : α → String → Bool} {word : String → α} {args flags : List α}

theorem separateBy_marked (hword : ∀ s, is (word s) s = true) (h : ∀ x ∈ flags, is x "--" = false) :
    separateBy is word (args ++ word "--" :: flags) = ⟨args, flags, args ++ word "--" :: flags⟩ := by
  have hasks : asksHelp is (args ++ word "--" :: flags) = false := by
    unfold asksHelp
    rw [List.any_append, List.any_cons, hword, Bool.true_or, Bool.or_true]
    exact Bool.and_false _
  have hsplit : splitLast (fun x => is x "--") (args ++ word "--" :: flags) = _ :=
    splitLast_append (hword "--") h
  unfold separateBy
  simp only [hasks, hsplit, Bool.false_eq_true, if_false]

/-- a call for help at the end of a line without a mark is moved behind one -/
theorem separateBy_help (hword : ∀ s, is (word s) s = true) (hother : is (word "-h") "--" = false)
    {call : α} (hcall : is call "-h" = true ∨ is call "--help" = true)
    (h : ∀ x ∈ args ++ [call], is x "--" = false) :
    separateBy is word (args ++ [call]) = ⟨args, [word "-h"], args ++ [word "--", word "-h"]⟩ := by
  have hasks : asksHelp is (args ++ [call]) = true := by
    unfold asksHelp
    rw [List.getLast?_concat, Option.any_some, Bool.or_eq_true_iff.2 hcall, List.any_eq_false.2 (by simpa using h)]
    rfl
  have hflags : ∀ x ∈ [word "-h"], is x "--" = false := List.forall_mem_singleton.2 hother
  have hsplit : splitLast (fun x => is x "--") (args ++ [word "--", word "-h"]) = _ :=
    splitLast_append (hword "--") hflags
  unfold separateBy
  simp only [hasks, if_true, List.dropLast_concat, hsplit]

theorem separateBy_plain (h : ∀ x ∈ args, is x "--" = false)
    (hlast : ∀ x ∈ args.getLast?, is x "-h" = false ∧ is x "--help" = false) :
    separateBy is word args = ⟨args, [], args⟩ := by
  have hasks : asksHelp is args = false := by
    unfold asksHelp
    cases hx : args.getLast? with
    | none => rfl
    | some x =>
      obtain ⟨hshort, hlong⟩ := hlast x hx
      rw [Option.any_some, hshort, hlong]
      rfl
  unfold separateBy
  simp only [hasks, splitLast_of_none h, Bool.false_eq_true, if_false]

end

/-- words without the mark that do not end with a call for help hold no flags of the command line
itself -/
theorem splitFlags_unmarked {words : List Value} (hmark : ∀ x ∈ words, x.isText "--" = false)
    (hlast : ∀ x ∈ words.getLast?, x.isText "-h" = false ∧ x.isText "--help" = false) :
    splitFlags words false = .ok ⟨words, [], words⟩ :=
  congrArg Except.ok (separateBy_plain hmark hlast)

/-! ## parts of a component -/

/-- the step that accesses a part -/
structure Step.IsAccess (s : Step) (arg part : Value) : Prop where
  deed : s.deed = .accessed
  args : s.args = [arg]
  component : s.component = part
  separated : s.separated = false

theorem moveByAccess_eq_ok {v arg : Value} {rest : List Value} {m : Move}
    (h : v.moveByAccess arg rest = .ok m) :
    (∃ e, m = .refused e) ∨ ∃ u step, m = .made u step rest ∧ Step.IsAccess step arg u := by
  unfold Value.moveByAccess at h
  split at h
  all_goals
    obtain ⟨found, -, h⟩ := bind_eq_ok.1 h
    split at h <;> obtain rfl := Except.ok.inj h
    · exact .inr ⟨_, _, rfl, ⟨rfl, rfl, rfl, rfl⟩⟩
    · exact .inl ⟨_, rfl⟩

/-- what a move leaves of the arguments replaced -/
def Move.leaving (rest : List Value) : Move → Move
  | .made u s _ => .made u s rest
  | m => m

/-- whether an argument picks a part does not depend on the arguments behind it -/
theorem moveByAccess_leaving (v arg : Value) (rest : List Value) :
    v.moveByAccess arg rest = (v.moveByAccess arg []).map (Move.leaving rest) := by
  unfold Value.moveByAccess
  split
  · rename_i xs
    cases indexed xs arg with
    | error e => rfl
    | ok found => cases found <;> rfl
  · rename_i xs
    cases indexed xs arg with
    | error e => rfl
    | ok found => cases found <;> rfl
  · rename_i es
    cases entryFor es arg with
    | error e => rfl
    | ok found => cases found <;> rfl
  · cases memberFor v arg with
    | error e => rfl
    | ok found => cases found <;> rfl

theorem moveByAccess_made {v arg u : Value} {step : Step} {rest : List Value}
    (h : v.moveByAccess arg rest = .ok (.made u step rest)) (rest' : List Value) :
    v.moveByAccess arg rest' = .ok (.made u step rest') := by
  rw [moveByAccess_leaving] at h ⊢
  obtain ⟨m, hm, hleaving⟩ := map_eq_ok.1 h
  rw [hm]
  cases m with
  | made u' step' rest'' =>
    injection hleaving with hu hstep
    rw [hu, hstep]
    rfl
  | refused e => cases hleaving
  | same step' rest'' asGiven => cases hleaving

/-! ## one round -/

section
variable {σ : Type} {host : Host σ} {fs : Flags} {p : Progress} {w w' : World σ}
  {before : List Value} {behind : Option (List Value)}

theorem not_shown (h : fs.shows = false) : (p.args.isEmpty && fs.shows) = false := by
  rw [h, Bool.and_false]

theorem outcome_round_of_ok (h : (p.args.isEmpty && fs.shows) = false)
    (hsplit : splitAtSeparator fs.separator p.args = (before, behind)) {m : Move}
    (hmove : outcome (p.component.move host before) w = (.ok m, w')) :
    outcome (p.round host fs) w = (p.after fs behind m, w') := by
  unfold Progress.round
  rw [h, hsplit]
  exact outcome_bind_of_ok hmove

theorem outcome_round_of_error (h : (p.args.isEmpty && fs.shows) = false)
    (hsplit : splitAtSeparator fs.separator p.args = (before, behind)) {e : Error}
    (hmove : outcome (p.component.move host before) w = (.error e, w')) :
    outcome (p.round host fs) w = (.error e, w') := by
  unfold Progress.round
  rw [h, hsplit]
  exact outcome_bind_of_error hmove

/-- a round that is not given up is a move, and what follows from it -/
theorem round_eq_ok (h : (p.args.isEmpty && fs.shows) = false)
    (hsplit : splitAtSeparator fs.separator p.args = (before, behind)) {r : Round}
    (hround : outcome (p.round host fs) w = (.ok r, w')) :
    ∃ m, outcome (p.component.move host before) w = (.ok m, w') ∧ p.after fs behind m = .ok r := by
  unfold Progress.round at hround
  rw [h, hsplit] at hround
  obtain ⟨m, v, hm, hafter⟩ := outcome_bind_eq_ok.1 hround
  obtain ⟨hr, rfl⟩ := Prod.mk.inj hafter
  exact ⟨m, hm, hr⟩

def Progress.noted (p : Progress) (step : Option Step) (rest : List Value)
    (behind : Option (List Value)) : Trace :=
  let t := step.elim p.trace p.trace.add
  if takesSeparator p.component.isCallable rest behind then t.mark else t

theorem movesOn_of_list (h : p.tupled = false) (step : Step) : p.movesOn step = true := by
  unfold Progress.movesOn
  rw [h]
  rfl

theorem after_made (u : Value) (step : Step) {rest args : List Value}
    (h : joinBehind fs.separator p.component.isCallable (p.movesOn step) p.tupled rest behind =
      .ok args) :
    ∃ q, p.after fs behind (.made u step rest) = .ok (.again q) ∧ q.component = u ∧
      q.args = args ∧ q.trace = p.noted (some step) rest behind ∧
      q.tupled = staysTupled p.tupled p.component.isCallable rest behind := by
  refine ⟨{
    component := u
    args
    trace := p.noted (some step) rest behind
    tupled := staysTupled p.tupled p.component.isCallable rest behind
    atStart := false
    made := if p.component.isCallable && p.atStart then u else p.made }, ?_, rfl, rfl, rfl, rfl⟩
  simp only [Progress.after, h]
  rfl

/-- a move that changes neither the component nor anything about the arguments ends the run -/
theorem after_same (step : Option Step) {rest args : List Value} (asGiven : Bool)
    (h : joinBehind fs.separator p.component.isCallable false p.tupled rest behind = .ok args) :
    ∃ q : Progress, q.component = p.component ∧ q.args = args ∧
      q.trace = p.noted step rest behind ∧
      q.tupled = staysTupled p.tupled p.component.isCallable rest behind ∧
      p.after fs behind (.same step rest asGiven) =
        if asGiven = true ∧ args.length = p.args.length ∧ q.tupled = p.tupled
        then .ok (.finished q) else .ok (.again q) := by
  refine ⟨{ p with
    args
    trace := p.noted step rest behind
    tupled := staysTupled p.tupled p.component.isCallable rest behind
    made := if p.component.isCallable && p.atStart then p.component else p.made },
    rfl, rfl, rfl, rfl, ?_⟩
  have hnoted : p.noted step rest behind =
      if takesSeparator p.component.isCallable rest behind then
        (step.elim p.trace p.trace.add).mark else step.elim p.trace p.trace.add := rfl
  simp only [Progress.after, h, hnoted]
  cases step <;> simp only [bind, Except.bind, pure, Except.pure, Option.elim, Bool.and_eq_true,
    decide_eq_true_eq, and_assoc]

/-- the arguments behind a call, which takes the separator if it leaves nothing before it -/
def behindCall (sep : String) (rest : List Value) : Option (List Value) → List Value
  | none => rest
  | some ys => if rest.isEmpty then ys else rest ++ .text sep :: ys

theorem behindCall_cons (sep : String) (x : Value) (rest : List Value)
    (behind : Option (List Value)) :
    behindCall sep (x :: rest) behind = x :: rest ++ behindSeparator sep behind := by
  cases behind with
  | none => exact (List.append_nil _).symm
  | some ys => rfl

theorem joinBehind_list (sep : String) (callable moved : Bool) (rest : List Value)
    (behind : Option (List Value)) :
    ∃ args, joinBehind sep callable moved false rest behind = .ok args := by
  cases behind with
  | none => exact ⟨_, rfl⟩
  | some ys => cases callable <;> cases moved <;> cases rest <;> exact ⟨_, rfl⟩

theorem joinBehind_call (sep : String) (moved : Bool) (rest : List Value)
    (behind : Option (List Value)) :
    joinBehind sep true moved false rest behind = .ok (behindCall sep rest behind) := by
  cases behind with
  | none => rfl
  | some ys => cases rest <;> rfl

theorem joinBehind_access {sep : String} {xs rest : List Value}
    (h : splitAtSeparator sep xs = (rest, behind)) :
    joinBehind sep false true false rest behind = .ok xs := by
  obtain ⟨rfl, -⟩ := splitAtSeparator_eq h
  cases behind with
  | none => exact congrArg _ (List.append_nil rest).symm
  | some ys => cases rest <;> rfl

theorem joinBehind_idle (sep : String) (tupled : Bool) (behind : Option (List Value)) :
    joinBehind sep false false tupled [] behind = .ok (behind.getD []) := by
  cases behind <;> rfl

/-- where a run stands that was given its arguments as a list -/
structure Progress.Stands (p : Progress) (v : Value) (args : List Value) (t : Trace) : Prop where
  component : p.component = v
  args : p.args = args
  trace : p.trace = t
  tupled : p.tupled = false

section
variable {v : Value} {args : List Value} {t : Trace}

/-! ### what cannot be called -/

theorem noted_of_not_callable (hv : p.component.isCallable = false) (step : Option Step)
    (rest : List Value) (behind : Option (List Value)) :
    p.noted step rest behind = step.elim p.trace p.trace.add := by
  unfold Progress.noted takesSeparator
  rw [hv]
  rfl

theorem staysTupled_of_not_callable (tupled : Bool) (rest : List Value)
    (behind : Option (List Value)) : staysTupled tupled false rest behind = tupled := by
  unfold staysTupled
  rw [Bool.not_false, Bool.true_or, Bool.and_true]

theorem outcome_move_nil (host : Host σ) (hv : v.isCallable = false) (w : World σ) :
    outcome (v.move host []) w = (.ok (.same none [] true), w) := by
  unfold Value.move
  rw [hv]
  rfl

theorem outcome_move_cons (host : Host σ) (hv : v.isCallable = false) (arg : Value)
    (rest : List Value) (w : World σ) :
    outcome (v.move host (arg :: rest)) w = (v.moveByAccess arg rest, w) := by
  unfold Value.move
  rw [hv]
  rfl

/-- without an argument before the separator, only a separator can go -/
theorem after_idle (fs : Flags) (hv : p.component.isCallable = false) (behind : Option (List Value)) :
    ∃ q : Progress, q.component = p.component ∧ q.args = behind.getD [] ∧ q.trace = p.trace ∧
      q.tupled = p.tupled ∧ p.after fs behind (.same none [] true) =
        if q.args.length = p.args.length then .ok (.finished q) else .ok (.again q) := by
  have hjoin : joinBehind fs.separator p.component.isCallable false p.tupled [] behind =
      .ok (behind.getD []) := by
    rw [hv, joinBehind_idle]
  obtain ⟨q, hcomponent, hargs, htrace, htupled, hafter⟩ := after_same none true hjoin
  rw [noted_of_not_callable hv] at htrace
  rw [hv, staysTupled_of_not_callable] at htupled
  refine ⟨q, hcomponent, hargs, htrace, htupled, ?_⟩
  rw [hafter, hargs]
  simp only [htupled, true_and, and_true]

theorem outcome_round_idle (host : Host σ) (w : World σ) (hfs : fs.shows = false)
    (hv : v.isCallable = false) (hp : p.Stands v [] t) :
    ∃ q, outcome (p.round host fs) w = (.ok (.finished q), w) ∧ q.Stands v [] t := by
  obtain ⟨rfl, hargs, rfl, htupled⟩ := hp
  have hsplit : splitAtSeparator fs.separator p.args = ([], none) := by rw [hargs]; rfl
  obtain ⟨q, hcomponent, hq, htrace, hq', hafter⟩ := after_idle fs hv none
  refine ⟨q, ?_, hcomponent, hq, htrace, hq'.trans htupled⟩
  rw [outcome_round_of_ok (not_shown hfs) hsplit (outcome_move_nil host hv w), hafter,
    if_pos (by rw [hq, hargs]; rfl)]

theorem outcome_round_drop (host : Host σ) (w : World σ) (hfs : fs.shows = false)
    (hv : v.isCallable = false) (hp : p.Stands v (.text fs.separator :: args) t) :
    ∃ q, outcome (p.round host fs) w = (.ok (.again q), w) ∧ q.Stands v args t := by
  obtain ⟨rfl, hargs, rfl, htupled⟩ := hp
  have hsplit : splitAtSeparator fs.separator p.args = ([], some args) := by
    rw [hargs, splitAtSeparator_separator]
  obtain ⟨q, hcomponent, hq, htrace, hq', hafter⟩ := after_idle fs hv (some args)
  have hlength : q.args.length ≠ p.args.length := by
    rw [hq, hargs, List.length_cons]
    exact Nat.ne_of_lt (Nat.lt_succ_self _)
  refine ⟨q, ?_, hcomponent, hq, htrace, hq'.trans htupled⟩
  rw [outcome_round_of_ok (not_shown hfs) hsplit (outcome_move_nil host hv w), hafter, if_neg hlength]

theorem outcome_round_access (host : Host σ) (w : World σ) (hfs : fs.shows = false)
    (hv : v.isCallable = false) {arg u : Value} {step : Step} (hp : p.Stands v (arg :: args) t)
    (harg : arg.isText fs.separator = false)
    (hmove : ∀ rest, v.moveByAccess arg rest = .ok (.made u step rest)) :
    ∃ q, outcome (p.round host fs) w = (.ok (.again q), w) ∧ q.Stands u args (t.add step) := by
  obtain ⟨rfl, hargs, rfl, htupled⟩ := hp
  have hsplit : splitAtSeparator fs.separator p.args =
      (arg :: (splitAtSeparator fs.separator args).1, (splitAtSeparator fs.separator args).2) := by
    rw [hargs, splitAtSeparator_cons harg]
  have hjoin : joinBehind fs.separator p.component.isCallable (p.movesOn step) p.tupled
      (splitAtSeparator fs.separator args).1 (splitAtSeparator fs.separator args).2 = .ok args := by
    rw [movesOn_of_list htupled, hv, htupled]
    exact joinBehind_access rfl
  obtain ⟨q, hafter, hcomponent, hq, htrace, hq'⟩ := after_made u step hjoin
  rw [noted_of_not_callable hv] at htrace
  rw [hv, staysTupled_of_not_callable, htupled] at hq'
  refine ⟨q, ?_, hcomponent, hq, htrace, hq'⟩
  have houtcome := outcome_move_cons host hv arg (splitAtSeparator fs.separator args).1 w
  rw [hmove] at houtcome
  rw [outcome_round_of_ok (not_shown hfs) hsplit houtcome]
  exact congrArg (·, w) hafter

/-! ### what can be called -/

def calledStep (v u : Value) (b : Bound) (behind : Option (List Value)) : Step :=
  { callStep v u b with separated := b.remaining.isEmpty && behind.isSome }

def Step.isCall (s : Step) : Bool := s.deed = .called || s.deed = .instantiated

theorem isCall_callStep (v u : Value) (b : Bound) : (callStep v u b).isCall = true := by
  unfold Step.isCall callStep
  cases v.isClass <;> rfl

theorem isCall_calledStep (v u : Value) (b : Bound) (behind : Option (List Value)) :
    (calledStep v u b behind).isCall = true := isCall_callStep v u b

theorem noted_call (hv : p.component.isCallable = true) (u : Value) (b : Bound)
    (behind : Option (List Value)) :
    p.noted (some (callStep p.component u b)) (b.remaining.map .text) behind =
      p.trace.add (calledStep p.component u b behind) := by
  have htakes : takesSeparator true (b.remaining.map Value.text) behind =
      (b.remaining.isEmpty && behind.isSome) := by
    unfold takesSeparator
    rw [List.isEmpty_map, Bool.true_and]
  unfold Progress.noted calledStep
  rw [hv, htakes]
  cases b.remaining.isEmpty && behind.isSome with
  | true => exact mark_add _ _
  | false => rfl

section
variable {words : List String} {b : Bound}

/-- the move that a call makes, by what it gives -/
def callMove (v : Value) (words : List String) (b : Bound) : Result → Move
  | .itself => .same (some (callStep v v b)) (b.remaining.map .text) (b.remaining == words)
  | .value u => .made u (callStep v u b) (b.remaining.map .text)

theorem outcome_move_call (hv : v.isCallable = true) (hwords : flagTexts before = .ok words)
    (hbind : v.bind words = .ok b) {res : Result}
    (hcall : outcome (v.call host b.positional b.named) w = (.ok res, w')) :
    outcome (v.move host before) w = (.ok (callMove v words b res), w') := by
  unfold Value.move Value.moveByCall
  rw [hv, if_pos rfl, hwords, outcome_bind_of_ok (outcome_liftM _ w), hbind,
    outcome_bind_of_ok hcall]
  cases res <;> rfl

def Move.rest : Move → List Value
  | .refused _ => []
  | .made _ _ rest => rest
  | .same _ rest _ => rest

theorem rest_callMove (v : Value) (words : List String) (b : Bound) (res : Result) :
    (callMove v words b res).rest = b.remaining.map .text := by
  cases res <;> rfl

theorem move_eq_ok_of_callable (hv : v.isCallable = true) {m : Move}
    (h : outcome (v.move host before) w = (.ok m, w')) :
    (∃ e, m = .refused e) ∨ ∃ words b res, flagTexts before = .ok words ∧ v.bind words = .ok b ∧
      outcome (v.call host b.positional b.named) w = (.ok res, w') ∧ m = callMove v words b res := by
  have hmove := h
  unfold Value.move Value.moveByCall at h
  rw [hv, if_pos rfl] at h
  obtain ⟨words, hwords, h⟩ := outcome_liftM_bind_eq_ok.1 h
  cases hbind : v.bind words with
  | error e =>
    rw [hbind] at h
    cases e with
    | command e =>
      obtain ⟨hm, -⟩ := Prod.mk.inj h
      exact .inl ⟨e, (Except.ok.inj hm).symm⟩
    | reading e => cases h
  | ok b =>
    rw [hbind] at h
    obtain ⟨res, w₁, hcall, -⟩ := outcome_bind_eq_ok.1 h
    obtain ⟨hm, rfl⟩ := Prod.mk.inj (hmove.symm.trans (outcome_move_call hv hwords hbind hcall))
    exact .inr ⟨words, b, res, hwords, hbind, hcall, Except.ok.inj hm⟩

theorem outcome_round_call (hfs : fs.shows = false) (hv : v.isCallable = true)
    (hp : p.Stands v args t) (hsplit : splitAtSeparator fs.separator args = (before, behind))
    (hwords : flagTexts before = .ok words) (hbind : v.bind words = .ok b) {u : Value}
    (hcall : outcome (v.call host b.positional b.named) w = (.ok (.value u), w')) :
    ∃ q, outcome (p.round host fs) w = (.ok (.again q), w') ∧
      q.Stands u (behindCall fs.separator (b.remaining.map .text) behind)
        (t.add (calledStep v u b behind)) := by
  obtain ⟨rfl, rfl, rfl, htupled⟩ := hp
  have hjoin : joinBehind fs.separator p.component.isCallable
      (p.movesOn (callStep p.component u b)) p.tupled (b.remaining.map .text) behind =
        .ok (behindCall fs.separator (b.remaining.map .text) behind) := by
    rw [hv, htupled, joinBehind_call]
  obtain ⟨q, hafter, hcomponent, hq, htrace, hq'⟩ := after_made u (callStep p.component u b) hjoin
  rw [noted_call hv] at htrace
  rw [htupled] at hq'
  refine ⟨q, ?_, hcomponent, hq, htrace, hq'⟩
  rw [outcome_round_of_ok (not_shown hfs) hsplit (outcome_move_call hv hwords hbind hcall)]
  exact congrArg (·, w') hafter

theorem outcome_round_itself (hfs : fs.shows = false) (hv : v.isCallable = true)
    (hp : p.Stands v args t) (hsplit : splitAtSeparator fs.separator args = (before, behind))
    (hwords : flagTexts before = .ok words) (hbind : v.bind words = .ok b)
    (hcall : outcome (v.call host b.positional b.named) w = (.ok .itself, w')) :
    ∃ q : Progress, q.Stands v (behindCall fs.separator (b.remaining.map .text) behind)
        (t.add (calledStep v v b behind)) ∧
      outcome (p.round host fs) w = (.ok (if b.remaining = words ∧ q.args.length = args.length
        then .finished q else .again q), w') := by
  obtain ⟨rfl, rfl, rfl, htupled⟩ := hp
  have hjoin : joinBehind fs.separator p.component.isCallable false p.tupled
      (b.remaining.map .text) behind =
        .ok (behindCall fs.separator (b.remaining.map .text) behind) := by
    rw [hv, htupled, joinBehind_call]
  obtain ⟨q, hcomponent, hq, htrace, hq', hafter⟩ :=
    after_same (some (callStep p.component p.component b)) (b.remaining == words) hjoin
  rw [noted_call hv] at htrace
  have hlist : q.tupled = p.tupled := by
    rw [hq', htupled]
    rfl
  refine ⟨q, ⟨hcomponent, hq, htrace, hlist.trans htupled⟩, ?_⟩
  rw [outcome_round_of_ok (not_shown hfs) hsplit (outcome_move_call hv hwords hbind hcall)]
  show (p.after fs behind _, w') = _
  rw [callMove, hafter, hq]
  simp only [beq_iff_eq, hlist, and_true]
  split <;> rfl

end

/-! ### all that a round can do -/

/-- what a round does where it is not given up, by the kind of the component it stands at -/
inductive Turns (host : Host σ) (fs : Flags) (v : Value) (t : Trace) (w : World σ) :
    List Value → Round → World σ → Prop where
  | refused {args parts : List Value} {w' : World σ} :
    Turns host fs v t w args (.refused (t.fail parts args)) w'
  /-- nothing is left to do -/
  | idle {q : Progress} (hv : v.isCallable = false) (hq : q.Stands v [] t) :
    Turns host fs v t w [] (.finished q) w
  /-- a separator stands where no call takes it -/
  | dropped {ys : List Value} {q : Progress} (hv : v.isCallable = false) (hq : q.Stands v ys t) :
    Turns host fs v t w (.text fs.separator :: ys) (.again q) w
  | accessed {arg u : Value} {ys : List Value} {step : Step} {q : Progress}
    (hv : v.isCallable = false) (harg : arg.isText fs.separator = false)
    (hmove : ∀ rest, v.moveByAccess arg rest = .ok (.made u step rest)) (hstep : step.IsAccess arg u)
    (hq : q.Stands u ys (t.add step)) :
    Turns host fs v t w (arg :: ys) (.again q) w
  | called {args before : List Value} {behind : Option (List Value)} {words : List String}
    {b : Bound} {u : Value} {q : Progress} {w' : World σ} (hv : v.isCallable = true)
    (hsplit : splitAtSeparator fs.separator args = (before, behind))
    (hwords : flagTexts before = .ok words) (hbind : v.bind words = .ok b)
    (hcall : outcome (v.call host b.positional b.named) w = (.ok (.value u), w'))
    (hq : q.Stands u (behindCall fs.separator (b.remaining.map .text) behind)
      (t.add (calledStep v u b behind))) :
    Turns host fs v t w args (.again q) w'
  /-- a routine gives itself and has used up something -/
  | renewed {args before : List Value} {behind : Option (List Value)} {words : List String}
    {b : Bound} {q : Progress} {w' : World σ} (hv : v.isCallable = true)
    (hsplit : splitAtSeparator fs.separator args = (before, behind))
    (hwords : flagTexts before = .ok words) (hbind : v.bind words = .ok b)
    (hcall : outcome (v.call host b.positional b.named) w = (.ok .itself, w'))
    (hq : q.Stands v (behindCall fs.separator (b.remaining.map .text) behind)
      (t.add (calledStep v v b behind)))
    (hmore : ¬ (b.remaining = words ∧ q.args.length = args.length)) :
    Turns host fs v t w args (.again q) w'
  /-- a routine gives itself and nothing has changed -/
  | settled {args before : List Value} {behind : Option (List Value)} {words : List String}
    {b : Bound} {q : Progress} {w' : World σ} (hv : v.isCallable = true)
    (hsplit : splitAtSeparator fs.separator args = (before, behind))
    (hwords : flagTexts before = .ok words) (hbind : v.bind words = .ok b)
    (hcall : outcome (v.call host b.positional b.named) w = (.ok .itself, w'))
    (hq : q.Stands v (behindCall fs.separator (b.remaining.map .text) behind)
      (t.add (calledStep v v b behind)))
    (hsame : b.remaining = words) (hlength : q.args.length = args.length) :
    Turns host fs v t w args (.finished q) w'

theorem turns_of_round (hfs : fs.shows = false) (hp : p.Stands v args t) {r : Round}
    (h : outcome (p.round host fs) w = (.ok r, w')) : Turns host fs v t w args r w' := by
  cases hsplit : splitAtSeparator fs.separator args with
  | mk before behind =>
    obtain ⟨m, hmove, hafter⟩ := round_eq_ok (not_shown hfs) (hp.args ▸ hsplit) h
    rw [hp.component] at hmove
    -- a refusal looks the same wherever it comes from
    have hrefused : (∃ e, m = .refused e) → Turns host fs v t w args r w' := by
      rintro ⟨e, rfl⟩
      obtain rfl := Except.ok.inj hafter
      rw [hp.trace, hp.args]
      exact .refused
    cases hv : v.isCallable with
    | true =>
      obtain hm | ⟨words, b, res, hwords, hbind, hcall, -⟩ := move_eq_ok_of_callable hv hmove
      · exact hrefused hm
      · cases res with
        | value u =>
          obtain ⟨q, hq, hstands⟩ := outcome_round_call hfs hv hp hsplit hwords hbind hcall
          obtain ⟨hr, -⟩ := Prod.mk.inj (h.symm.trans hq)
          obtain rfl := Except.ok.inj hr
          exact .called hv hsplit hwords hbind hcall hstands
        | itself =>
          obtain ⟨q, hstands, hq⟩ := outcome_round_itself hfs hv hp hsplit hwords hbind hcall
          obtain ⟨hr, -⟩ := Prod.mk.inj (h.symm.trans hq)
          obtain rfl := Except.ok.inj hr
          by_cases hdone : b.remaining = words ∧ q.args.length = args.length
          · rw [if_pos hdone]
            exact .settled hv hsplit hwords hbind hcall hstands hdone.1 hdone.2
          · rw [if_neg hdone]
            exact .renewed hv hsplit hwords hbind hcall hstands hdone
    | false =>
      cases args with
      | nil =>
        obtain ⟨q, hq, hstands⟩ := outcome_round_idle host w hfs hv hp
        obtain ⟨hr, rfl⟩ := Prod.mk.inj (h.symm.trans hq)
        obtain rfl := Except.ok.inj hr
        exact .idle hv hstands
      | cons arg ys =>
        cases harg : arg.isText fs.separator with
        | true =>
          obtain rfl := isText_iff.1 harg
          obtain ⟨q, hq, hstands⟩ := outcome_round_drop host w hfs hv hp
          obtain ⟨hr, rfl⟩ := Prod.mk.inj (h.symm.trans hq)
          obtain rfl := Except.ok.inj hr
          exact .dropped hv hstands
        | false =>
          rw [splitAtSeparator_cons harg] at hsplit
          obtain ⟨rfl, rfl⟩ := Prod.mk.inj hsplit
          rw [outcome_move_cons host hv] at hmove
          obtain ⟨hm, -⟩ := Prod.mk.inj hmove
          obtain hm' | ⟨u, step, rfl, hstep⟩ := moveByAccess_eq_ok hm
          · exact hrefused hm'
          · have hpart := moveByAccess_made hm
            obtain ⟨q, hq, hstands⟩ := outcome_round_access host w hfs hv hp harg hpart
            obtain ⟨hr, rfl⟩ := Prod.mk.inj (h.symm.trans hq)
            obtain rfl := Except.ok.inj hr
            exact .accessed hv harg hpart hstep hstands

end

end

end CommandLine
