import CommandLine.Proofs.NamePaths
import CommandLine.Proofs.Outcomes
import CommandLine.Proofs.Patience

/-!
# Words that come as a tuple

A command may be given its words as a tuple.  Most of a run does not tell a tuple from a list: words
are taken from the front, and what a call leaves is a list in any case.  There are three things that
can be done to a list and not to a tuple.

* A word for help at the end of the words is popped off.
* A separator is put back behind the words that are left, or behind a part: this joins a list with a
  tuple.  Only where a part is the component itself it is not put back, which is as good as dropping
  it in the next round.
* The words that a call leaves are compared with those that it was given.  A routine that gives itself
  and leaves all its words is called once more, now with a list.

`Shadow` says what one round does with a tuple, beside what it does with a list, and `shadow_of_round`
that this is all it can do.  The runs follow by induction over the rounds in which the words stay as
they were given (`Intact`).
-/

namespace CommandLine

open Binding

/-! ## parts that are the component itself -/

section
variable {s : String}

theorem underscored_of_no_dash (h : '-' ∉ s.toList) : underscored s = s := by
  unfold underscored Text.replaceChar
  refine (congrArg String.ofList ?_).trans String.ofList_toList
  refine (List.map_congr_left fun c hc => if_neg ?_).trans (List.map_id _)
  rintro rfl
  exact h hc

theorem no_dash_of_underscored {k : String} (h : underscored s = k) (hk : '_' ∉ k.toList) :
    '-' ∉ s.toList := by
  intro hdash
  refine hk ?_
  rw [← h, underscored, Text.replaceChar, String.toList_ofList]
  exact List.mem_map.2 ⟨'-', hdash, rfl⟩

end

theorem no_dash_of_mem_null {n : String} (hn : n ∈ memberNames "NoneType") : '-' ∉ n.toList := by
  have hpublic : publicNames "NoneType" = Text.words "" := rfl
  have hextra : extraNames "NoneType" = Text.words "__bool__" := rfl
  have hnone : (!n.toList.contains '-') = true := by
    rcases List.mem_append.1 hn with hn | hn
    · rcases List.mem_append.1 hn with hn | hn
      · rw [hpublic] at hn
        cases hn
      · refine all_words (p := fun cs => !cs.contains '-') ?_ hn
        rw [String.toList_append, String.toList_append, String.toList_ofList, String.toList_ofList,
          String.toList_ofList]
        decide +kernel
    · rw [hextra] at hn
      refine all_words (p := fun cs => !cs.contains '-') ?_ hn
      rw [String.toList_ofList]
      decide +kernel
  rw [Bool.not_eq_true', ← Bool.not_eq_true, List.contains_iff_mem] at hnone
  exact hnone

/-- a value of a kind that has parts which may be the value itself -/
def Value.isScalar : Value → Bool
  | .null | .int _ | .float _ | .path _ => true
  | _ => false

section
variable {v arg u : Value} {step : Step} {rest : List Value}

theorem namedMembers_scalar (hv : v.isScalar = true) :
    v.namedMembers = byName ((memberNames v.kindName).map fun n => (n, builtinMember v n)) := by
  cases v with
  | null | int | float | path => rfl
  | _ => cases hv

theorem memberFor_of_access (hv : v.isScalar = true)
    (h : v.moveByAccess arg rest = .ok (.made u step rest)) : memberFor v arg = .ok (some u) := by
  unfold Value.moveByAccess at h
  split at h
  · cases hv
  · cases hv
  · cases hv
  · obtain ⟨found, hfound, h⟩ := bind_eq_ok.1 h
    cases found with
    | none => cases h
    | some w =>
      injection h with h
      injection h with h
      rw [hfound, h]

theorem member_of_lookup (hv : v.isScalar = true) {k : String}
    (h : v.namedMembers.lookup k = some u) : k ∈ memberNames v.kindName ∧ u = builtinMember v k := by
  rw [namedMembers_scalar hv, lookup_byName] at h
  obtain ⟨n, hn, he⟩ := List.mem_map.1 (mem_of_lookup h)
  obtain ⟨rfl, rfl⟩ := Prod.mk.inj he
  exact ⟨hn, rfl⟩

theorem member_of_word (hv : v.isScalar = true) {s : String}
    (hdash : s ∈ memberNames v.kindName → '-' ∉ s.toList)
    (h : memberFor v (.text s) = .ok (some u)) : u = builtinMember v (underscored s) := by
  replace h : (v.namedMembers.lookup s).orElse (fun _ => v.namedMembers.lookup (underscored s)) =
    some u := Except.ok.inj h
  cases hs : v.namedMembers.lookup s with
  | some x =>
    rw [hs] at h
    obtain rfl := Option.some.inj h
    obtain ⟨hmem, hx⟩ := member_of_lookup hv hs
    rw [underscored_of_no_dash (hdash hmem), hx]
  | none =>
    rw [hs] at h
    exact (member_of_lookup hv h).2

theorem exists_word_of_isOwnPart (hown : v.isOwnPart arg = true) :
    v.isScalar = true ∧ ∃ s, arg = .text s ∧ (s ∈ memberNames v.kindName → '-' ∉ s.toList) ∧
      (builtinMember v (underscored s)).isCallable = false := by
  have hword : ∀ {k}, arg.text?.map underscored = some k → ∃ s, arg = .text s ∧ underscored s = k := by
    intro k hk
    cases arg with
    | text s => exact ⟨s, rfl, Option.some.inj hk⟩
    | _ => cases hk
  -- a name without an underscore has no dash written in it
  have hplain : ∀ k, arg.text?.map underscored = some k → '_' ∉ k.toList → v.isScalar = true →
      (builtinMember v k).isCallable = false → v.isScalar = true ∧ ∃ s, arg = .text s ∧
        (s ∈ memberNames v.kindName → '-' ∉ s.toList) ∧
          (builtinMember v (underscored s)).isCallable = false := by
    intro k hk hunder hv hmember
    obtain ⟨s, rfl, rfl⟩ := hword hk
    exact ⟨hv, s, rfl, fun _ => no_dash_of_underscored rfl hunder, hmember⟩
  unfold Value.isOwnPart at hown
  split at hown
  · rename_i hk
    obtain ⟨s, rfl, hs⟩ := hword hk
    refine ⟨rfl, s, rfl, no_dash_of_mem_null, ?_⟩
    rw [hs]
    rfl
  · rename_i hk
    exact hplain "real" hk (by decide) rfl rfl
  · rename_i hk
    exact hplain "numerator" hk (by decide) rfl rfl
  · rename_i hk
    exact hplain "real" hk (by decide) rfl rfl
  · rename_i hk
    exact hplain "denominator" hk (by decide) rfl rfl
  · rename_i hk
    exact hplain "imag" hk (by decide) rfl rfl
  · rename_i hk
    exact hplain "parent" hk (by decide) rfl rfl
  · cases hown

theorem not_callable_of_isOwnPart (hown : v.isOwnPart arg = true)
    (h : v.moveByAccess arg rest = .ok (.made u step rest)) : u.isCallable = false := by
  obtain ⟨hv, s, rfl, hdash, hmember⟩ := exists_word_of_isOwnPart hown
  rw [member_of_word hv hdash (memberFor_of_access hv h)]
  exact hmember

end

/-! ## a round that is given a tuple -/

def Progress.asTuple (p : Progress) : Progress := { p with tupled := true }

/-- where a move leads that is made -/
def Progress.movedTo (p : Progress) (u : Value) (step : Step) (rest : List Value)
    (behind : Option (List Value)) (tupled : Bool) (args : List Value) : Progress where
  component := u
  args
  trace := p.noted (some step) rest behind
  tupled
  atStart := false
  made := if p.component.isCallable && p.atStart then u else p.made

/-- where a move leads that gives the component again -/
def Progress.stayed (p : Progress) (step : Option Step) (rest : List Value)
    (behind : Option (List Value)) (tupled : Bool) (args : List Value) : Progress :=
  { p with
    args
    trace := p.noted step rest behind
    tupled
    made := if p.component.isCallable && p.atStart then p.component else p.made }

section
variable {σ : Type} {host : Host σ} {fs : Flags} {p q : Progress} {w w' : World σ}

theorem after_made_eq (p : Progress) (behind : Option (List Value)) (u : Value) (step : Step)
    (rest : List Value) :
    p.after fs behind (.made u step rest) =
      (joinBehind fs.separator p.component.isCallable (p.movesOn step) p.tupled rest behind).map
        fun args => .again (p.movedTo u step rest behind
          (staysTupled p.tupled p.component.isCallable rest behind) args) := by
  cases h : joinBehind fs.separator p.component.isCallable (p.movesOn step) p.tupled rest behind with
  | error e =>
    simp only [Progress.after, h]
    rfl
  | ok args =>
    simp only [Progress.after, h]
    rfl

theorem after_same_eq (p : Progress) (behind : Option (List Value)) (step : Option Step)
    (rest : List Value) (asGiven : Bool) :
    p.after fs behind (.same step rest asGiven) =
      (joinBehind fs.separator p.component.isCallable false p.tupled rest behind).bind fun args =>
        let q := p.stayed step rest behind
          (staysTupled p.tupled p.component.isCallable rest behind) args
        if asGiven && args.length = p.args.length && q.tupled = p.tupled then .ok (.finished q)
        else .ok (.again q) := by
  cases h : joinBehind fs.separator p.component.isCallable false p.tupled rest behind with
  | error e =>
    simp only [Progress.after, h]
    rfl
  | ok args =>
    simp only [Progress.after, h]
    cases step <;> rfl

/-- a routine gives itself, with no separator among the words -/
theorem after_whole (hp : p.tupled = false) (step : Option Step) (rest : List Value)
    (asGiven : Bool) :
    p.after fs none (.same step rest asGiven) =
      if asGiven = true ∧ rest.length = p.args.length then
        .ok (.finished (p.stayed step rest none false rest))
      else .ok (.again (p.stayed step rest none false rest)) := by
  rw [after_same_eq, hp]
  show (if (asGiven && decide (rest.length = p.args.length) && true) = true then _ else _) = _
  simp only [Bool.and_true, Bool.and_eq_true, decide_eq_true_eq]
  rfl

theorem after_made_asTuple (p : Progress) (behind : Option (List Value)) (u : Value) (step : Step)
    (rest : List Value) :
    p.asTuple.after fs behind (.made u step rest) =
      (joinBehind fs.separator p.component.isCallable (p.asTuple.movesOn step) true rest behind).map
        fun args => .again (p.movedTo u step rest behind
          (staysTupled true p.component.isCallable rest behind) args) :=
  after_made_eq p.asTuple behind u step rest

theorem after_same_asTuple (p : Progress) (behind : Option (List Value)) (step : Option Step)
    (rest : List Value) (asGiven : Bool) :
    p.asTuple.after fs behind (.same step rest asGiven) =
      (joinBehind fs.separator p.component.isCallable false true rest behind).bind fun args =>
        let q := p.stayed step rest behind (staysTupled true p.component.isCallable rest behind) args
        if asGiven && args.length = p.args.length && q.tupled = true then .ok (.finished q)
        else .ok (.again q) :=
  after_same_eq p.asTuple behind step rest asGiven

/-- a word before a separator that picks the component itself -/
def Progress.picksItself (p : Progress) (before : List Value) : Bool :=
  match before with
  | [arg] => !p.component.isCallable && p.component.isOwnPart arg
  | _ => false

/-- a round after which the words are still as they were given: the separator is taken, there is none
and a part is accessed, or the part is the component itself -/
def Progress.Keeps (fs : Flags) (p q : Progress) : Prop :=
  ∃ before behind, splitAtSeparator fs.separator p.args = (before, behind) ∧
    (behind = some q.args ∨ behind = none ∧ p.component.isCallable = false ∨
      p.picksItself before = true)

/-- what goes wrong where a tuple is joined with the separator -/
def Progress.tearing (p : Progress) (before : List Value) : Error :=
  if p.component.isCallable || before.length = 1 then mixedSequences "list" "tuple"
  else mixedSequences "tuple" "list"

/-- a round that puts the separator back, behind words that are left or behind a part -/
inductive Tears (host : Host σ) (fs : Flags) (p : Progress) (w : World σ) : Error → World σ → Prop where
  | intro {before ys : List Value} {r : Round} {q : Progress} {w' : World σ}
    (hsplit : splitAtSeparator fs.separator p.args = (before, some ys))
    (hround : outcome (p.round host fs) w = (.ok r, w')) (hr : r = .again q ∨ r = .finished q)
    (hback : q.args ≠ ys) (hown : p.picksItself before = false) :
    Tears host fs p w (p.tearing before) w'

/-- a routine gives itself and leaves all the words, with no separator among them -/
structure Settles (host : Host σ) (fs : Flags) (p : Progress) (w : World σ) (q : Progress)
    (w' : World σ) : Prop where
  callable : p.component.isCallable = true
  asked : (p.args.isEmpty && fs.shows) = false
  whole : splitAtSeparator fs.separator p.args = (p.args, none)
  round : outcome (p.round host fs) w = (.ok (.finished q), w')

/-- what a round comes to that is given a list, and what it comes to with the same words as a tuple -/
inductive Shadow (host : Host σ) (fs : Flags) (p : Progress) (w w' : World σ) :
    Except Error Round → Except Error Round → Prop where
  | error (e : Error) : Shadow host fs p w w' (.error e) (.error e)
  | refused (t : Trace) : Shadow host fs p w w' (.ok (.refused t)) (.ok (.refused t))
  | finished {q : Progress}
    (hidle : p.component.isCallable = false ∨ (p.args.isEmpty && fs.shows) = true)
    (hwhole : (splitAtSeparator fs.separator p.args).2 = none) :
    Shadow host fs p w w' (.ok (.finished q)) (.ok (.finished q.asTuple))
  | kept {q : Progress} (hkeeps : p.Keeps fs q) :
    Shadow host fs p w w' (.ok (.again q)) (.ok (.again q.asTuple))
  /-- the separator behind a part that is the component itself is not put back -/
  | own {ys : List Value} {q : Progress} (hkeeps : p.Keeps fs q)
    (hargs : q.args = .text fs.separator :: ys) (hq : q.component.isCallable = false) :
    Shadow host fs p w w' (.ok (.again q)) (.ok (.again { q with args := ys, tupled := true }))
  /-- what a call leaves is a list -/
  | called {before : List Value} {q : Progress}
    (hsplit : splitAtSeparator fs.separator p.args = (before, none))
    (hv : p.component.isCallable = true) : Shadow host fs p w w' (.ok (.again q)) (.ok (.again q))
  | settled {q : Progress} (h : Settles host fs p w q w') :
    Shadow host fs p w w' (.ok (.finished q)) (.ok (.again q))
  | torn {r : Round} {e : Error} (h : Tears host fs p w e w') : Shadow host fs p w w' (.ok r) (.error e)

section
variable {before : List Value} {behind : Option (List Value)}

theorem outcome_round_shown (host : Host σ) (h : (p.args.isEmpty && fs.shows) = true) (w : World σ) :
    outcome (p.round host fs) w = (.ok (.finished p), w) := by
  unfold Progress.round
  rw [h]
  rfl

theorem after_idle_eq (hv : p.component.isCallable = false) :
    p.after fs behind (.same none [] true) =
      if (behind.getD []).length = p.args.length then
        .ok (.finished (p.stayed none [] behind p.tupled (behind.getD [])))
      else .ok (.again (p.stayed none [] behind p.tupled (behind.getD []))) := by
  rw [after_same_eq, hv, joinBehind_idle, staysTupled_of_not_callable]
  show (if (true && decide (_ = _) && decide (p.tupled = p.tupled)) = true then _ else _) = _
  simp only [decide_true, Bool.and_true, Bool.true_and, decide_eq_true_eq]

/-- without a word before the separator, a tuple is left as a list is -/
theorem shadow_idle (hv : p.component.isCallable = false)
    (hsplit : splitAtSeparator fs.separator p.args = ([], behind)) :
    Shadow host fs p w w' (p.after fs behind (.same none [] true))
      (p.asTuple.after fs behind (.same none [] true)) := by
  have hargs := (splitAtSeparator_eq hsplit).1
  rw [after_idle_eq hv, after_idle_eq (p := p.asTuple) hv]
  show Shadow host fs p w w' _ (if (behind.getD []).length = p.args.length then _ else _)
  cases behind with
  | none =>
    have hlength : ((none : Option (List Value)).getD []).length = p.args.length := by
      rw [hargs]
      rfl
    rw [if_pos hlength, if_pos hlength]
    exact .finished (.inl hv) (congrArg Prod.snd hsplit)
  | some ys =>
    have hlength : ((some ys).getD []).length ≠ p.args.length := by
      rw [hargs, List.nil_append, behindSeparator, List.length_cons]
      exact Nat.ne_of_lt (Nat.lt_succ_self _)
    rw [if_neg hlength, if_neg hlength]
    exact .kept ⟨_, _, hsplit, .inl rfl⟩

theorem append_separator_ne (fs : Flags) (rest ys : List Value) :
    rest ++ .text fs.separator :: ys ≠ ys := by
  intro h
  have hlength := congrArg List.length h
  rw [List.length_append, List.length_cons] at hlength
  omega

/-- a part is accessed, and a separator behind it put back -/
theorem shadow_access (hp : p.tupled = false) (hv : p.component.isCallable = false) {arg u : Value}
    {step : Step} {rest : List Value}
    (hsplit : splitAtSeparator fs.separator p.args = (arg :: rest, behind))
    (hmove : p.component.moveByAccess arg rest = .ok (.made u step rest))
    (hround : outcome (p.round host fs) w = (p.after fs behind (.made u step rest), w')) :
    Shadow host fs p w w' (p.after fs behind (.made u step rest))
      (p.asTuple.after fs behind (.made u step rest)) := by
  have hmoves : p.asTuple.movesOn step = !p.component.isOwnPart arg := by
    obtain ⟨e, he⟩ | ⟨u', step', he, hstep⟩ := moveByAccess_eq_ok hmove
    · cases he
    · injection he with hu hs
      unfold Progress.movesOn
      rw [hs, hstep.args, List.any_cons, List.any_nil, Bool.or_false]
      rfl
  rw [after_made_eq p, movesOn_of_list hp, hp, hv] at hround ⊢
  rw [after_made_asTuple, hmoves, hv]
  cases behind with
  | none => exact .kept ⟨_, _, hsplit, .inr (.inl ⟨rfl, hv⟩)⟩
  | some ys =>
    cases rest with
    | nil =>
      cases hown : p.component.isOwnPart arg with
      | true =>
        have hpicks : p.picksItself [arg] = true := by
          show (!p.component.isCallable && p.component.isOwnPart arg) = true
          rw [hv, hown]
          rfl
        exact .own ⟨_, _, hsplit, .inr (.inr hpicks)⟩ rfl (not_callable_of_isOwnPart hown hmove)
      | false =>
        have hpicks : p.picksItself [arg] = false := by
          show (!p.component.isCallable && p.component.isOwnPart arg) = false
          rw [hown, Bool.and_false]
        have htears := Tears.intro hsplit hround (.inl rfl) (append_separator_ne fs [] ys) hpicks
        have htearing : p.tearing [arg] = mixedSequences "list" "tuple" := by
          unfold Progress.tearing
          rw [hv]
          rfl
        rw [htearing] at htears
        exact .torn htears
    | cons x xs =>
      have htears := Tears.intro hsplit hround (.inl rfl) (append_separator_ne fs (x :: xs) ys) rfl
      have htearing : p.tearing (arg :: x :: xs) = mixedSequences "tuple" "list" := by
        unfold Progress.tearing
        rw [hv]
        simp
      rw [htearing] at htears
      exact .torn htears

theorem staysTupled_call (rest : List Value) : staysTupled true true rest none = false := by
  unfold staysTupled takesSeparator
  rw [Option.isSome_none, Bool.and_false]
  rfl

theorem not_picksItself (hv : p.component.isCallable = true) : p.picksItself before = false := by
  unfold Progress.picksItself
  split
  · rw [hv]
    rfl
  · rfl

/-- words left before a separator cannot be joined with it -/
theorem tears_of_left (hv : p.component.isCallable = true) {ys rest : List Value} {x : Value}
    (hsplit : splitAtSeparator fs.separator p.args = (before, some ys)) {r : Round}
    (hround : outcome (p.round host fs) w = (.ok r, w')) (hr : r = .again q ∨ r = .finished q)
    (hargs : q.args = x :: rest ++ .text fs.separator :: ys) :
    Tears host fs p w (mixedSequences "list" "tuple") w' := by
  have hback : q.args ≠ ys := by
    rw [hargs]
    exact append_separator_ne fs (x :: rest) ys
  have htears := Tears.intro hsplit hround hr hback (not_picksItself hv)
  unfold Progress.tearing at htears
  rw [hv] at htears
  exact htears

theorem shadow_call (hp : p.tupled = false) (hv : p.component.isCallable = true) {u : Value}
    {step : Step} {rest : List Value}
    (hsplit : splitAtSeparator fs.separator p.args = (before, behind))
    (hround : outcome (p.round host fs) w = (p.after fs behind (.made u step rest), w')) :
    Shadow host fs p w w' (p.after fs behind (.made u step rest))
      (p.asTuple.after fs behind (.made u step rest)) := by
  rw [after_made_eq p, movesOn_of_list hp, hp, hv] at hround ⊢
  rw [after_made_asTuple, hv]
  cases behind with
  | none =>
    rw [staysTupled_call]
    exact .called hsplit hv
  | some ys =>
    cases rest with
    | nil => exact .kept ⟨_, _, hsplit, .inl rfl⟩
    | cons x xs => exact .torn (tears_of_left hv hsplit hround (.inl rfl) rfl)

/-- a routine gives itself and leaves no word before the separator -/
theorem after_itself_taken (hv : p.component.isCallable = true) {ys : List Value}
    (hargs : p.args = before ++ .text fs.separator :: ys) (step : Option Step) (asGiven : Bool) :
    p.after fs (some ys) (.same step [] asGiven) =
      .ok (.again (p.stayed step [] (some ys) p.tupled ys)) := by
  have hlength : ¬ ys.length = p.args.length := by
    rw [hargs, List.length_append, List.length_cons]
    omega
  have htupled : staysTupled p.tupled true [] (some ys) = p.tupled := Bool.and_true _
  rw [after_same_eq, hv, htupled]
  show (if (asGiven && decide (ys.length = p.args.length) && _) = true then _ else _) = _
  rw [decide_eq_false hlength, Bool.and_false, Bool.false_and]
  rfl

/-- a routine gives itself and leaves words before the separator, which is put back -/
theorem after_itself_left (fs : Flags) (hp : p.tupled = false) (ys : List Value) (step : Option Step) (x : Value)
    (xs : List Value) (asGiven : Bool) :
    ∃ q r, p.after fs (some ys) (.same step (x :: xs) asGiven) = .ok r ∧
      (r = .again q ∨ r = .finished q) ∧ q.args = x :: xs ++ .text fs.separator :: ys := by
  rw [after_same_eq, hp]
  refine ⟨p.stayed step (x :: xs) (some ys) false (x :: xs ++ .text fs.separator :: ys), ?_⟩
  show ∃ r, (if (_ && _ && _) = true then _ else _) = _ ∧ _
  split
  · exact ⟨_, rfl, .inr rfl, rfl⟩
  · exact ⟨_, rfl, .inl rfl, rfl⟩

theorem shadow_itself (hp : p.tupled = false) (hasked : (p.args.isEmpty && fs.shows) = false)
    (hv : p.component.isCallable = true) {step : Option Step} {rest : List Value} {asGiven : Bool}
    (hsplit : splitAtSeparator fs.separator p.args = (before, behind))
    (hround : outcome (p.round host fs) w = (p.after fs behind (.same step rest asGiven), w')) :
    Shadow host fs p w w' (p.after fs behind (.same step rest asGiven))
      (p.asTuple.after fs behind (.same step rest asGiven)) := by
  have hargs := (splitAtSeparator_eq hsplit).1
  cases behind with
  | none =>
    -- a list ends here if nothing has changed; for a tuple the words have become a list
    have hwhole : splitAtSeparator fs.separator p.args = (p.args, none) := by
      rw [hsplit, hargs, behindSeparator, List.append_nil]
    have htuple : p.asTuple.after fs none (.same step rest asGiven) =
        .ok (.again (p.stayed step rest none false rest)) := by
      rw [after_same_asTuple, hv, staysTupled_call]
      show (if (_ && _ && false) = true then _ else _) = _
      rw [Bool.and_false]
      rfl
    rw [after_whole hp] at hround ⊢
    rw [htuple]
    by_cases hsame : asGiven = true ∧ rest.length = p.args.length
    · rw [if_pos hsame] at hround ⊢
      exact .settled ⟨hv, hasked, hwhole, hround⟩
    · rw [if_neg hsame]
      exact .called hsplit hv
  | some ys =>
    cases rest with
    | nil =>
      rw [after_itself_taken hv hargs, after_itself_taken (p := p.asTuple) hv hargs, hp]
      exact .kept ⟨_, _, hsplit, .inl rfl⟩
    | cons x xs =>
      obtain ⟨q, r, hafter, hr, hq⟩ := after_itself_left fs hp ys step x xs asGiven
      rw [hafter] at hround ⊢
      rw [after_same_asTuple, hv]
      exact .torn (tears_of_left hv hsplit hround hr hq)

/-- **What a round does that is given a tuple.** -/
theorem shadow_of_round (hp : p.tupled = false) {y : Except Error Round}
    (h : outcome (p.round host fs) w = (y, w')) :
    ∃ y', outcome (p.asTuple.round host fs) w = (y', w') ∧ Shadow host fs p w w' y y' := by
  cases hasked : p.args.isEmpty && fs.shows with
  | true =>
    have hnil : (splitAtSeparator fs.separator p.args).2 = none := by
      rw [List.isEmpty_iff.1 (Bool.and_eq_true_iff.1 hasked).1]
      rfl
    cases h.symm.trans (outcome_round_shown host hasked w)
    exact ⟨_, outcome_round_shown (p := p.asTuple) host hasked w, .finished (.inr hasked) hnil⟩
  | false =>
    cases hsplit : splitAtSeparator fs.separator p.args with
    | mk before behind =>
      cases hmove : outcome (p.component.move host before) w with
      | mk z w₁ =>
        cases z with
        | error e =>
          cases h.symm.trans (outcome_round_of_error hasked hsplit hmove)
          exact ⟨_, outcome_round_of_error (p := p.asTuple) hasked hsplit hmove, .error e⟩
        | ok m =>
          have hround := outcome_round_of_ok hasked hsplit hmove
          cases h.symm.trans hround
          refine ⟨_, outcome_round_of_ok (p := p.asTuple) hasked hsplit hmove, ?_⟩
          cases hv : p.component.isCallable with
          | true =>
            obtain ⟨e, rfl⟩ | ⟨words, b, res, -, -, -, rfl⟩ := move_eq_ok_of_callable hv hmove
            · exact .refused _
            · cases res with
              | value u => exact shadow_call hp hv hsplit hround
              | itself => exact shadow_itself hp hasked hv hsplit hround
          | false =>
            cases before with
            | nil =>
              cases (outcome_move_nil host hv w).symm.trans hmove
              exact shadow_idle hv hsplit
            | cons arg rest =>
              obtain ⟨hm, -⟩ := Prod.mk.inj ((outcome_move_cons host hv arg rest w).symm.trans hmove)
              obtain ⟨e, rfl⟩ | ⟨u, step, rfl, -⟩ := moveByAccess_eq_ok hm
              · exact .refused _
              · exact shadow_access hp hv hsplit hm hround

end

/-! ## a run that is given a tuple -/

/-- the places that a run comes to while the words are still as they were given -/
inductive Intact (host : Host σ) (fs : Flags) :
    Progress → World σ → Progress → World σ → Prop where
  | refl (p : Progress) (w : World σ) : Intact host fs p w p w
  | again {p q r : Progress} {w w' w'' : World σ}
    (h : outcome (p.round host fs) w = (.ok (.again q), w')) (hkeeps : p.Keeps fs q)
    (hr : Intact host fs q w' r w'') : Intact host fs p w r w''

theorem tupled_of_again (hp : p.tupled = false)
    (h : outcome (p.round host fs) w = (.ok (.again q), w')) : q.tupled = false := by
  cases hsplit : splitAtSeparator fs.separator p.args with
  | mk before behind =>
    obtain ⟨m, -, hafter⟩ := round_eq_ok (not_shown_of_again h) hsplit h
    obtain ⟨-, htupled, -⟩ := after_eq_again hafter
    rw [htupled, hp]
    rfl

theorem outcome_round_separator (host : Host σ) (hv : p.component.isCallable = false)
    {ys : List Value} (hargs : p.args = .text fs.separator :: ys) (w : World σ) :
    outcome (p.round host fs) w = (.ok (.again { p with args := ys }), w) := by
  have hsplit : splitAtSeparator fs.separator p.args = ([], some ys) := by
    rw [hargs, splitAtSeparator_separator]
  have hshown : (p.args.isEmpty && fs.shows) = false := by
    rw [hargs]
    rfl
  have hlength : ((some ys).getD []).length ≠ p.args.length := by
    rw [hargs, List.length_cons]
    exact Nat.ne_of_lt (Nat.lt_succ_self _)
  have hstayed : p.stayed none [] (some ys) p.tupled ys = { p with args := ys } := by
    unfold Progress.stayed
    rw [noted_of_not_callable hv, hv]
    rfl
  rw [outcome_round_of_ok hshown hsplit (outcome_move_nil host hv w), after_idle_eq hv,
    if_neg hlength]
  exact congrArg (fun q => (Except.ok (Round.again q), w)) hstayed

theorem ends_of_again (h : outcome (p.round host fs) w = (.ok (.again q), w'))
    {x : Except Error RunEnd} {w'' : World σ} (hp : Ends host fs p w x w'') :
    Ends host fs q w' x w'' := by
  cases hp with
  | error h' => cases h.symm.trans h'
  | finished h' => cases h.symm.trans h'
  | refused h' => cases h.symm.trans h'
  | again h' hq =>
    cases h.symm.trans h'
    exact hq

theorem Progress.Keeps.not_called (hkeeps : p.Keeps fs q) (hv : p.component.isCallable = true)
    {before : List Value} : splitAtSeparator fs.separator p.args ≠ (before, none) := by
  intro hsplit
  obtain ⟨before', behind, hsplit', hkeeps⟩ := hkeeps
  cases hsplit.symm.trans hsplit'
  rcases hkeeps with hsome | ⟨-, hnot⟩ | hown
  · cases hsome
  · exact Bool.false_ne_true (hnot.symm.trans hv)
  · exact Bool.false_ne_true ((not_picksItself hv).symm.trans hown)

theorem Progress.Keeps.not_tears (hkeeps : p.Keeps fs q) {e : Error} {w₁ : World σ}
    (h : outcome (p.round host fs) w = (.ok (.again q), w')) : ¬ Tears host fs p w e w₁ := by
  intro htears
  obtain ⟨before, behind, hsplit, hkeeps⟩ := hkeeps
  cases htears with
  | intro hsplit' hround hr hback hown =>
    cases hsplit.symm.trans hsplit'
    cases h.symm.trans hround
    rcases hr with hr | hr
    · cases hr
      rcases hkeeps with hsome | ⟨hnone, -⟩ | hpicks
      · exact hback (Option.some.inj hsome).symm
      · cases hnone
      · exact Bool.false_ne_true (hown.symm.trans hpicks)
    · cases hr

/-- a tuple goes on as it does from a place where the words are still as they were given -/
theorem Progress.Keeps.ends (hkeeps : p.Keeps fs q) (hp : p.tupled = false)
    (h : outcome (p.round host fs) w = (.ok (.again q), w')) {x : Except Error RunEnd}
    {w'' : World σ} (hq : Ends host fs q.asTuple w' x w'') : Ends host fs p.asTuple w x w'' := by
  obtain ⟨y', htuple, hshadow⟩ := shadow_of_round hp h
  cases hshadow with
  | kept => exact .again htuple hq
  | own _ hargs hcomponent =>
    -- a list drops the separator in a round of its own
    have hdrop := outcome_round_separator (p := q.asTuple) host hcomponent hargs w'
    exact .again htuple (ends_of_again hdrop hq)
  | called hsplit hv => exact absurd hsplit (hkeeps.not_called hv)
  | torn htears => exact absurd htears (hkeeps.not_tears h)

theorem Intact.ends {r : Progress} {w₁ : World σ} (h : Intact host fs p w r w₁)
    (hp : p.tupled = false) {x : Except Error RunEnd} {w'' : World σ}
    (hr : Ends host fs r.asTuple w₁ x w'') : Ends host fs p.asTuple w x w'' := by
  induction h with
  | refl => exact hr
  | again h hkeeps _ ih => exact hkeeps.ends hp h (ih (tupled_of_again hp h) hr)

/-! ### torn words -/

theorem Tears.ends {e : Error} (h : Tears host fs p w e w') (hp : p.tupled = false) :
    Ends host fs p.asTuple w (.error e) w' := by
  have htorn := h
  obtain ⟨hsplit, hround, hr, -, -⟩ := h
  obtain ⟨y', htuple, hshadow⟩ := shadow_of_round hp hround
  cases hshadow with
  | refused => rcases hr with hr | hr <;> cases hr
  | finished _ hwhole => cases (congrArg Prod.snd hsplit).symm.trans hwhole
  | kept hkeeps => exact absurd htorn (hkeeps.not_tears hround)
  | own hkeeps => exact absurd htorn (hkeeps.not_tears hround)
  | called hsplit' => cases hsplit.symm.trans hsplit'
  | settled hsettles => cases hsplit.symm.trans hsettles.whole
  | torn htears =>
    cases htears with
    | intro hsplit' =>
      cases hsplit.symm.trans hsplit'
      exact .error htuple

/-! ### a call that is made once more -/

/-- a place with the last step taken again -/
def Progress.twice (p : Progress) : Progress :=
  { p with trace := p.trace.add p.trace.lastStep }

theorem noted_whole (p : Progress) (step : Step) (rest : List Value) :
    p.noted (some step) rest none = p.trace.add step := by
  unfold Progress.noted takesSeparator
  rw [Option.isSome_none, Bool.and_false]
  rfl

theorem stayed_stayed (p : Progress) (step : Step) (rest args : List Value) :
    (p.stayed (some step) rest none false args).stayed (some step) rest none false args =
      (p.stayed (some step) rest none false args).twice := by
  unfold Progress.twice Progress.stayed
  simp only [noted_whole, lastStep_add]
  cases p.component.isCallable && p.atStart <;> rfl

theorem world_of_itself {v : Value} {positional : List Value} {named : List (String × Value)}
    (h : outcome (v.call host positional named) w = (.ok .itself, w')) : w' = w := by
  obtain ⟨r, rfl, hbody⟩ := eq_routine_of_itself h
  obtain ⟨values, h⟩ := body_of_call h
  rw [hbody] at h
  cases h
  rfl

/-- the same call is made again, and then nothing has changed -/
theorem Settles.again (h : Settles host fs p w q w') (hp : p.tupled = false) :
    outcome (q.round host fs) w' = (.ok (.finished q.twice), w') := by
  obtain ⟨m, hmove, hafter⟩ := round_eq_ok h.asked h.whole h.round
  obtain ⟨e, rfl⟩ | ⟨words, b, res, hwords, hbind, hcall, rfl⟩ :=
    move_eq_ok_of_callable h.callable hmove
  · cases hafter
  · cases res with
    | value u =>
      rw [callMove, after_made_eq] at hafter
      cases hafter
    | itself =>
      obtain rfl := world_of_itself hcall
      rw [callMove, after_whole hp] at hafter
      split at hafter
      · rename_i hsame
        have hrest : b.remaining.map Value.text = p.args := by
          rw [beq_iff_eq.1 hsame.1, ← eq_map_of_flagTexts hwords]
        rw [hrest] at hafter
        cases hafter
        refine (outcome_round_of_ok (p := p.stayed _ p.args none false p.args) h.asked h.whole
          hmove).trans ?_
        rw [callMove, after_whole rfl, if_pos ⟨hsame.1, congrArg List.length hrest⟩, hrest,
          stayed_stayed]
      · cases hafter

theorem Settles.ends (h : Settles host fs p w q w') (hp : p.tupled = false) :
    Ends host fs p.asTuple w (.ok (.finished q.twice)) w' := by
  obtain ⟨y', htuple, hshadow⟩ := shadow_of_round hp h.round
  cases hshadow with
  | finished hidle =>
    rcases hidle with hidle | hidle
    · exact absurd (hidle.symm.trans h.callable) Bool.noConfusion
    · exact absurd (hidle.symm.trans h.asked) Bool.noConfusion
  | settled => exact .again htuple (.finished (h.again hp))
  | torn htears =>
    cases htears with
    | intro hsplit => cases h.whole.symm.trans hsplit

theorem Intact.leads {r : Progress} {w₁ : World σ} (h : Intact host fs p w r w₁)
    {x : Except Error RunEnd} {w'' : World σ} (hr : Ends host fs r w₁ x w'') :
    Ends host fs p w x w'' := by
  induction h with
  | refl => exact hr
  | again h _ _ ih => exact .again h (ih hr)

theorem Intact.tupled {r : Progress} {w₁ : World σ} (h : Intact host fs p w r w₁)
    (hp : p.tupled = false) : r.tupled = false := by
  induction h with
  | refl => exact hp
  | again h _ _ ih => exact ih (tupled_of_again hp h)

/-! ### the places at which they part ways -/

/-- a place at which a tuple and a list part ways -/
def PartsWays (host : Host σ) (fs : Flags) (p : Progress) (w : World σ) : Prop :=
  (∃ e w', Tears host fs p w e w') ∨ ∃ q w', Settles host fs p w q w'

theorem not_partsWays (hv : p.component.isCallable = false) {before : List Value}
    (hsplit : splitAtSeparator fs.separator p.args = (before, none)) : ¬ PartsWays host fs p w := by
  rintro (⟨e, w', htears⟩ | ⟨q, w', hsettles⟩)
  · cases htears with
    | intro hsplit' => cases hsplit.symm.trans hsplit'
  · exact Bool.false_ne_true (hv.symm.trans hsettles.callable)

/-- **Where they do not part ways, a tuple ends as a list does.** -/
theorem Ends.asTuple {x : Except Error RunEnd} (h : Ends host fs p w x w') (hp : p.tupled = false)
    (hno : ∀ r w₁, Intact host fs p w r w₁ → ¬ PartsWays host fs r w₁) :
    ∃ x', Ends host fs p.asTuple w x' w' ∧
      (x' = x ∨ ∃ q, x = .ok (.finished q) ∧ x' = .ok (.finished q.asTuple)) := by
  induction h with
  | error h =>
    obtain ⟨y', htuple, hshadow⟩ := shadow_of_round hp h
    cases hshadow
    exact ⟨_, .error htuple, .inl rfl⟩
  | refused h =>
    obtain ⟨y', htuple, hshadow⟩ := shadow_of_round hp h
    cases hshadow with
    | refused => exact ⟨_, .refused htuple, .inl rfl⟩
    | torn htears => exact absurd (.inl ⟨_, _, htears⟩) (hno _ _ (.refl _ _))
  | finished h =>
    obtain ⟨y', htuple, hshadow⟩ := shadow_of_round hp h
    cases hshadow with
    | finished => exact ⟨_, .finished htuple, .inr ⟨_, rfl, rfl⟩⟩
    | settled hsettles => exact absurd (.inr ⟨_, _, hsettles⟩) (hno _ _ (.refl _ _))
    | torn htears => exact absurd (.inl ⟨_, _, htears⟩) (hno _ _ (.refl _ _))
  | again h hq ih =>
    have hgoes := fun hkeeps => ih (tupled_of_again hp h) fun r w₁ hr => hno r w₁ (.again h hkeeps hr)
    obtain ⟨y', htuple, hshadow⟩ := shadow_of_round hp h
    cases hshadow with
    | kept hkeeps =>
      obtain ⟨x', hends, hx'⟩ := hgoes hkeeps
      exact ⟨x', hkeeps.ends hp h hends, hx'⟩
    | own hkeeps =>
      obtain ⟨x', hends, hx'⟩ := hgoes hkeeps
      exact ⟨x', hkeeps.ends hp h hends, hx'⟩
    | called => exact ⟨_, .again htuple hq, .inl rfl⟩
    | torn htears => exact absurd (.inl ⟨_, _, htears⟩) (hno _ _ (.refl _ _))

end

/-! ## commands -/

def Command.asTuple (c : Command) : Command := { c with tupled := true }

/-- where the run of a command starts that is given its words as a list, with the flags it has read -/
def Command.Starts (c : Command) (fs : Flags) (p : Progress) : Prop :=
  ∃ split switches rest, splitFlags c.words false = .ok split ∧
    switchTexts split.flags = .ok switches ∧ Flags.read switches = .ok (fs, rest) ∧
    p = c.start fs split.args

/-- the trace that the end of a run comes to, with what the flags ask for behind it -/
def RunEnd.trace {σ : Type} (fs : Flags) (context : List (String × Value)) (initial : Value) :
    RunEnd → Run σ Trace
  | .refused t => return t
  | .finished q | .stuck q => q.conclude fs context initial

section
variable {σ : Type} {host : Host σ} {fs : Flags} {p : Progress} {w w' : World σ} {c : Command}

theorem walk_eq_trace (host : Host σ) (fs : Flags) (context : List (String × Value)) (p : Progress) :
    p.walk host fs context = p.run host fs >>= RunEnd.trace fs context p.component := by
  unfold Progress.walk
  congr

theorem outcome_walk (hhost : host.Bounded) {x : Except Error RunEnd} (h : Ends host fs p w x w')
    (context : List (String × Value)) :
    outcome (p.walk host fs context) w =
      outcome (liftM x >>= RunEnd.trace fs context p.component) w' := by
  rw [walk_eq_trace, outcome_bind, outcome_run_of_ends hhost h]
  cases x <;> rfl

theorem outcome_trace_of_starts (hlist : c.tupled = false) (h : c.Starts fs p) (w : World σ) :
    outcome (c.trace host) w =
      outcome (p.walk host fs c.context >>= fun t => pure (t, fs)) w := by
  obtain ⟨split, switches, rest, hsplit, hswitches, hread, rfl⟩ := h
  unfold Command.trace
  rw [hlist, hsplit, outcome_bind_of_ok (outcome_liftM _ w), hswitches,
    outcome_bind_of_ok (outcome_liftM _ w), hread]

theorem splitFlags_tuple {words : List Value} (h : asksHelp Value.isText words = false) :
    splitFlags words true = splitFlags words false := by
  unfold splitFlags
  rw [h]
  rfl

theorem outcome_trace_asTuple (hasks : asksHelp Value.isText c.words = false) (h : c.Starts fs p)
    (w : World σ) :
    outcome (c.asTuple.trace host) w =
      outcome (p.asTuple.walk host fs c.context >>= fun t => pure (t, fs)) w := by
  obtain ⟨split, switches, rest, hsplit, hswitches, hread, rfl⟩ := h
  have htuple : splitFlags c.asTuple.words c.asTuple.tupled = .ok split :=
    (splitFlags_tuple hasks).trans hsplit
  unfold Command.trace
  rw [htuple, outcome_bind_of_ok (outcome_liftM _ w), hswitches,
    outcome_bind_of_ok (outcome_liftM _ w), hread]
  rfl

theorem outcome_trace_congr (hlist : c.tupled = false)
    (hasks : asksHelp Value.isText c.words = false)
    (h : ∀ fs p, c.Starts fs p →
      outcome (p.asTuple.walk host fs c.context) w = outcome (p.walk host fs c.context) w) :
    outcome (c.asTuple.trace host) w = outcome (c.trace host) w := by
  have hsame : splitFlags c.asTuple.words c.asTuple.tupled = splitFlags c.words c.tupled := by
    rw [hlist]
    exact splitFlags_tuple hasks
  unfold Command.trace
  rw [hsame]
  refine outcome_bind_congr rfl fun split w₁ hs => ?_
  rw [outcome_liftM] at hs
  obtain ⟨hsplit, rfl⟩ := Prod.mk.inj hs
  refine outcome_bind_congr rfl fun switches w₂ hw => ?_
  rw [outcome_liftM] at hw
  obtain ⟨hswitches, rfl⟩ := Prod.mk.inj hw
  cases hread : Flags.read switches with
  | error e => rfl
  | ok read =>
    rw [hlist] at hsplit
    exact outcome_bind_congr (h read.1 _ ⟨split, switches, read.2, hsplit, hswitches, hread, rfl⟩)
      fun _ _ _ => rfl

theorem runCommand_tuple {argv : List Value} {name : Option String}
    (hprogram : programName argv = .ok c.program)
    (hname : c.name = some (if name.getD "" = "" then c.program else name.getD "")) :
    outcome (runCommand host argv c.context c.component (.tuple c.words) name) w =
      outcome (c.asTuple.run host) w := by
  obtain ⟨component, words, tupled, context, name', program⟩ := c
  obtain rfl : name' = some (if name.getD "" = "" then program else name.getD "") := hname
  have hrun : runCommand host argv context component (.tuple words) name =
      (liftM (splitFlags words true) >>= fun _ => Command.run host
        ⟨component, words, true, context, some (if name.getD "" = "" then program else name.getD ""),
          program⟩) := by
    unfold runCommand
    rw [show programName argv = .ok program from hprogram]
    cases name with
    | none => rfl
    | some n =>
      by_cases hn : n = ""
      · subst hn
        rfl
      · simp only [Option.getD_some, if_neg hn]
        rfl
  show outcome (runCommand host argv context component (.tuple words) name) w = _
  rw [hrun]
  cases hsplit : splitFlags words true with
  | ok split => rfl
  | error e =>
    have htrace : ∀ c : Command, c.words = words → c.tupled = true →
        outcome (c.trace host) w = (.error e, w) := by
      rintro c rfl hc
      unfold Command.trace
      rw [hc, hsplit]
      rfl
    exact (outcome_bind_of_error (htrace _ rfl rfl)).symm

theorem Command.Starts.start (h : c.Starts fs p) (hlist : c.tupled = false) :
    p.tupled = false ∧ p.component = c.initial := by
  obtain ⟨split, switches, rest, -, -, -, rfl⟩ := h
  exact ⟨hlist, rfl⟩

theorem outcome_asTuple_help (hasks : asksHelp Value.isText c.words = true) :
    outcome (c.asTuple.run host) w = (.error (.noAttribute "tuple" "pop"), w) := by
  have hsplit : splitFlags c.words true = .error (.noAttribute "tuple" "pop") := by
    unfold splitFlags
    rw [hasks]
    rfl
  have htrace : outcome (c.asTuple.trace host) w = (.error (.noAttribute "tuple" "pop"), w) := by
    unfold Command.trace
    exact outcome_bind_of_error (congrArg (·, w) hsplit)
  exact outcome_bind_of_error htrace

section
variable {r : Progress} {w₁ w₂ : World σ}

theorem outcome_asTuple_torn (hhost : host.Bounded) (hlist : c.tupled = false)
    (hasks : asksHelp Value.isText c.words = false) (hp : c.Starts fs p)
    (hr : Intact host fs p w r w₁) {e : Error} (h : Tears host fs r w₁ e w₂) :
    outcome (c.asTuple.run host) w = (.error e, w₂) := by
  obtain ⟨hpl, -⟩ := hp.start hlist
  have hends := hr.ends hpl (h.ends (hr.tupled hpl))
  have htrace : outcome (c.asTuple.trace host) w = (.error e, w₂) := by
    rw [outcome_trace_asTuple hasks hp]
    exact outcome_bind_of_error (outcome_walk hhost hends c.context)
  exact outcome_bind_of_error htrace

/-- where a list comes to rest at a routine that gives itself, a tuple has the call twice -/
theorem outcome_asTuple_settled (hhost : host.Bounded) (hlist : c.tupled = false)
    (hasks : asksHelp Value.isText c.words = false) (hp : c.Starts fs p)
    (hr : Intact host fs p w r w₁) {q : Progress} (h : Settles host fs r w₁ q w₂) :
    outcome (c.trace host) w =
        outcome (q.conclude fs c.context c.initial >>= fun t => pure (t, fs)) w₂ ∧
      outcome (c.asTuple.trace host) w =
        outcome (q.twice.conclude fs c.context c.initial >>= fun t => pure (t, fs)) w₂ := by
  obtain ⟨hpl, hinitial⟩ := hp.start hlist
  have hends := hr.leads (.finished h.round)
  have hends' := hr.ends hpl (h.ends (hr.tupled hpl))
  rw [outcome_trace_of_starts hlist hp, outcome_trace_asTuple hasks hp]
  constructor
  · rw [outcome_bind, outcome_walk hhost hends, ← outcome_bind, hinitial]
    rfl
  · rw [outcome_bind, outcome_walk hhost hends', ← outcome_bind,
      show p.asTuple.component = c.initial from hinitial]
    rfl

end

theorem outcome_asTuple_alike (hhost : host.Bounded) (hlist : c.tupled = false)
    (hasks : asksHelp Value.isText c.words = false)
    (hno : ∀ fs p r w₁, c.Starts fs p → Intact host fs p w r w₁ → ¬ PartsWays host fs r w₁) :
    outcome (c.asTuple.run host) w = outcome (c.run host) w := by
  have htrace : outcome (c.asTuple.trace host) w = outcome (c.trace host) w := by
    refine outcome_trace_congr hlist hasks fun fs p hp => ?_
    obtain ⟨hpl, -⟩ := hp.start hlist
    cases hrun : outcome (p.run host fs) w with
    | mk x w' =>
      have hends := ends_run hhost hrun
      obtain ⟨x', hends', halike⟩ := hends.asTuple hpl fun r w₁ hr => hno fs p r w₁ hp hr
      rw [outcome_walk hhost hends, outcome_walk hhost hends']
      rcases halike with rfl | ⟨q, rfl, rfl⟩
      · rfl
      · rfl
  exact outcome_bind_congr htrace fun _ _ _ => rfl

/-- **A command that is given its words as a tuple.**  If the last word asks for help it fails, as a
tuple has nothing to pop.  Else it goes on as with a list up to the first round that puts a separator
back or comes to rest at a routine that gives itself.  The first of these fails; in the second the
routine is called once more, and the trace has that call twice.  A command without such a round has the
outcome it has with a list. -/
theorem tuple_command_outcome (hhost : host.Bounded) (c : Command) (hlist : c.tupled = false)
    (w : World σ) :
    (asksHelp Value.isText c.words = true →
      outcome (c.asTuple.run host) w = (.error (.noAttribute "tuple" "pop"), w)) ∧
    (asksHelp Value.isText c.words = false →
      (∀ fs p r w₁ e w₂, c.Starts fs p → Intact host fs p w r w₁ → Tears host fs r w₁ e w₂ →
        outcome (c.asTuple.run host) w = (.error e, w₂)) ∧
      (∀ fs p r w₁ q w₂, c.Starts fs p → Intact host fs p w r w₁ → Settles host fs r w₁ q w₂ →
        outcome (c.trace host) w =
          outcome (q.conclude fs c.context c.initial >>= fun t => pure (t, fs)) w₂ ∧
        outcome (c.asTuple.trace host) w =
          outcome (q.twice.conclude fs c.context c.initial >>= fun t => pure (t, fs)) w₂) ∧
      ((∀ fs p r w₁, c.Starts fs p → Intact host fs p w r w₁ → ¬ PartsWays host fs r w₁) →
        outcome (c.asTuple.run host) w = outcome (c.run host) w)) ∧
    ∀ argv name, programName argv = .ok c.program →
      c.name = some (if name.getD "" = "" then c.program else name.getD "") →
      outcome (runCommand host argv c.context c.component (.tuple c.words) name) w =
          outcome (c.asTuple.run host) w ∧
        runCommand host argv c.context c.component (.list c.words) name = c.run host := by
  refine ⟨outcome_asTuple_help, fun hasks => ⟨?_, ?_, outcome_asTuple_alike hhost hlist hasks⟩, ?_⟩
  · intro fs p r w₁ e w₂ hp hr htears
    exact outcome_asTuple_torn hhost hlist hasks hp hr htears
  · intro fs p r w₁ q w₂ hp hr hsettles
    exact outcome_asTuple_settled hhost hlist hasks hp hr hsettles
  · intro argv name hprogram hname
    exact ⟨runCommand_tuple hprogram hname, runCommand_eq hprogram hlist hname⟩

end

def sampleLookup (words : List Value) : Command :=
  ⟨.dict [(.text "x", .dict [(.text "y", .int 1)])], words, false, [], none, "prog"⟩

theorem outcome_round_sampleLookup (args : List Value) {before : List Value}
    {behind : Option (List Value)}
    (hsplit : splitAtSeparator "-" args = (.text "x" :: before, behind)) (w : World Unit) :
    ∃ step, outcome (((sampleLookup []).start {} args).round (Host.plain Unit) {}) w =
      (((sampleLookup []).start {} args).after {} behind
        (.made (.dict [(.text "y", .int 1)]) step before), w) := by
  obtain ⟨step, -, hstep⟩ :=
    moveByAccess_part (v := (sampleLookup []).component) rfl rfl (lookup_text_cons "x" _ [])
  have hmove : outcome ((sampleLookup []).component.move (Host.plain Unit) (.text "x" :: before)) w =
      (.ok (.made (.dict [(.text "y", .int 1)]) step before), w) := by
    rw [outcome_move_cons (Host.plain Unit) rfl]
    exact congrArg (·, w) (hstep before)
  exact ⟨_, outcome_round_of_ok (p := (sampleLookup []).start {} args) (Bool.and_false _) hsplit hmove⟩

def sampleItself : Command :=
  ⟨.routine ⟨"f", none, { args := [] }, none, .itself, none, [], none⟩, [], false, [], none, "prog"⟩

theorem tuple_command_outcome_sample :
    outcome ((sampleLookup [.text "x", .text "-", .text "y"]).asTuple.run (Host.plain Unit))
        ⟨"", "", ()⟩ = (.error (mixedSequences "list" "tuple"), ⟨"", "", ()⟩) ∧
    outcome ((sampleLookup [.text "--help"]).asTuple.run (Host.plain Unit)) ⟨"", "", ()⟩ =
        (.error (.noAttribute "tuple" "pop"), ⟨"", "", ()⟩) ∧
    outcome ((sampleLookup [.text "x"]).asTuple.run (Host.plain Unit)) ⟨"", "", ()⟩ =
        outcome ((sampleLookup [.text "x"]).run (Host.plain Unit)) ⟨"", "", ()⟩ ∧
    ∃ q : Progress, outcome (sampleItself.trace (Host.plain Unit)) ⟨"", "", ()⟩ =
        outcome (q.conclude {} [] sampleItself.component >>= fun t => pure (t, {})) ⟨"", "", ()⟩ ∧
      outcome (sampleItself.asTuple.trace (Host.plain Unit)) ⟨"", "", ()⟩ =
        outcome (q.twice.conclude {} [] sampleItself.component >>= fun t => pure (t, {}))
          ⟨"", "", ()⟩ := by
  have hsample := fun words =>
    tuple_command_outcome (plain_bounded Unit) (sampleLookup words) rfl ⟨"", "", ()⟩
  refine ⟨?_, (hsample [.text "--help"]).1 rfl, ?_, ?_⟩
  · obtain ⟨htorn, -, -⟩ := (hsample [.text "x", .text "-", .text "y"]).2.1 rfl
    let p := (sampleLookup []).start {} [.text "x", .text "-", .text "y"]
    obtain ⟨step, hround⟩ :=
      outcome_round_sampleLookup [.text "x", .text "-", .text "y"] rfl ⟨"", "", ()⟩
    have htears : Tears (Host.plain Unit) {} p ⟨"", "", ()⟩ (p.tearing [.text "x"]) ⟨"", "", ()⟩ :=
      .intro rfl hround (.inl rfl) (append_separator_ne {} [] [.text "y"]) rfl
    exact htorn {} p p _ _ _ ⟨_, _, _, rfl, rfl, rfl, rfl⟩ (.refl _ _) htears
  · refine ((hsample [.text "x"]).2.1 rfl).2.2 ?_
    rintro fs p r w₁ ⟨split, switches, rest, hsplit, hswitches, hread, rfl⟩ hr
    cases hsplit
    cases hswitches
    cases hread
    obtain ⟨step, hround⟩ := outcome_round_sampleLookup [.text "x"] rfl ⟨"", "", ()⟩
    cases hr with
    | refl => exact not_partsWays rfl rfl
    | again h hkeeps hr =>
      cases hround.symm.trans h
      cases hr with
      | refl => exact not_partsWays rfl rfl
      | again h' hkeeps' hr' => cases h'
  · obtain ⟨-, hsettled, -⟩ :=
      (tuple_command_outcome (plain_bounded Unit) sampleItself rfl ⟨"", "", ()⟩).2.1 rfl
    obtain ⟨q, hq⟩ : ∃ q, Settles (Host.plain Unit) {} (sampleItself.start {} []) ⟨"", "", ()⟩ q
        ⟨"", "", ()⟩ := ⟨_, rfl, rfl, rfl, rfl⟩
    exact ⟨q, hsettled {} _ _ _ _ _ ⟨_, _, _, rfl, rfl, rfl, rfl⟩ (.refl _ _) hq⟩

end CommandLine
