import CommandLine.Proofs.Endings
import CommandLine.Proofs.Purity

/-!
# The way of a command

What a run without flags has done, as far as its steps tell: `Way` says how each step has come
about, and whether words are left for the steps behind it.  A run that uses up all its arguments has
taken such a way (`way_of_ends`), and what can be said about the words of its steps is said about
ways.
-/

namespace CommandLine

open Binding

/-! ## words -/

/-- a word that is no flag -/
def IsWord (s : String) : Prop := isFlag s = false ∧ s ≠ "-h"

def Words (xs : List Value) : Prop := ∀ x ∈ xs, ∃ s, x = .text s ∧ IsWord s

theorem exists_texts {xs : List Value} (h : Words xs) :
    ∃ ws : List String, xs = ws.map .text ∧ ∀ s ∈ ws, IsWord s := by
  induction xs with
  | nil => exact ⟨[], rfl, fun s hs => absurd hs List.not_mem_nil⟩
  | cons x xs ih =>
    obtain ⟨⟨s, rfl, hs⟩, hxs⟩ := List.forall_mem_cons.1 h
    obtain ⟨ws, rfl, hws⟩ := ih hxs
    exact ⟨s :: ws, rfl, List.forall_mem_cons.2 ⟨hs, hws⟩⟩

theorem words_texts {ws : List String} (h : ∀ s ∈ ws, IsWord s) : Words (ws.map .text) := by
  intro x hx
  obtain ⟨s, hs, rfl⟩ := List.mem_map.1 hx
  exact ⟨s, rfl, h s hs⟩

def wordsOf (sep : String) (ss : List Step) : List Value := ss.flatMap (Trace.stepWords sep)

theorem wordsOf_nil (sep : String) : wordsOf sep [] = [] := rfl

theorem wordsOf_cons (sep : String) (s : Step) (ss : List Step) :
    wordsOf sep (s :: ss) = Trace.stepWords sep s ++ wordsOf sep ss := List.flatMap_cons

/-! ## calls -/

/-- the component that a call leads to -/
def Result.component (v : Value) : Result → Value
  | .itself => v
  | .value u => u

section
variable {σ : Type}

/-- a call with words before a separator, that has the same result each time -/
structure Calls (host : Host σ) (sep : String) (v : Value) (ws : List String) (b : Bound)
    (res : Result) : Prop where
  callable : v.isCallable = true
  words : ∀ s ∈ ws, IsWord s ∧ s ≠ sep
  bind : v.bind ws = .ok b
  gives : ∀ w, ∃ w', outcome (v.call host b.positional b.named) w = (.ok res, w')

section
variable {host : Host σ} {sep : String} {v : Value} {ws : List String} {b : Bound} {res : Result}

theorem Calls.singles (h : Calls host sep v ws b res) : ∀ s ∈ ws, isFlag s = false :=
  fun s hs => (h.words s hs).1.1

theorem Calls.append (h : Calls host sep v ws b res) : b.consumed ++ b.remaining = ws :=
  consumed_append_remaining h.singles h.bind

theorem Calls.all (h : Calls host sep v ws b res) (hb : b.remaining = []) : b.consumed = ws := by
  rw [← h.append, hb, List.append_nil]

theorem Calls.nil (h : Calls host sep v [] b res) : b.consumed = [] ∧ b.remaining = [] :=
  List.append_eq_nil_iff.1 h.append

theorem Calls.consumed (h : Calls host sep v ws b res) :
    ∀ s ∈ b.consumed, IsWord s ∧ s ≠ sep :=
  fun s hs => h.words s (h.append ▸ List.mem_append_left _ hs)

theorem not_isText {s : String} (h : s ≠ sep) : (Value.text s).isText sep = false :=
  Bool.eq_false_iff.2 fun hs => h (Value.text.inj (isText_iff.1 hs))

theorem not_isText_of_mem (h : ∀ s ∈ ws, IsWord s ∧ s ≠ sep) :
    ∀ x ∈ ws.map Value.text, x.isText sep = false := by
  intro x hx
  obtain ⟨s, hs, rfl⟩ := List.mem_map.1 hx
  exact not_isText (h s hs).2

end

/-- the steps that lead from one component to another, with all their words used up -/
inductive Way (host : Host σ) (sep : String) : Value → List Step → Value → Prop where
  | stop {v : Value} (hv : v.isCallable = false) : Way host sep v [] v
  | access {v u r arg : Value} {step : Step} {ss : List Step} (hv : v.isCallable = false)
    (harg : arg.isText sep = false) (hword : ∃ s, arg = .text s ∧ IsWord s)
    (hmove : ∀ rest, v.moveByAccess arg rest = .ok (.made u step rest)) (hstep : step.IsAccess arg u)
    (hway : Way host sep u ss r) : Way host sep v (step :: ss) r
  /-- a call takes the separator behind its words -/
  | taken {v r : Value} {ws : List String} {b : Bound} {res : Result} {ss : List Step}
    (hcall : Calls host sep v ws b res) (hb : b.remaining = [])
    (hway : Way host sep (res.component v) ss r) :
    Way host sep v ({ callStep v (res.component v) b with separated := true } :: ss) r
  /-- a call leaves words to the next steps -/
  | left {v r : Value} {ws : List String} {b : Bound} {res : Result} {ss : List Step}
    (hcall : Calls host sep v ws b res) (hb : b.remaining ≠ [])
    (hself : res = .itself → b.consumed ≠ []) (hway : Way host sep (res.component v) ss r)
    (hhead : ∃ s zs, wordsOf sep ss = .text s :: zs ∧ s ≠ sep) :
    Way host sep v (callStep v (res.component v) b :: ss) r
  /-- a call uses up the last words; only calls follow -/
  | last {v r : Value} {ws : List String} {b : Bound} {res : Result} {ss : List Step}
    (hcall : Calls host sep v ws b res) (hb : b.remaining = [])
    (hself : res = .itself → b.consumed ≠ []) (hway : Way host sep (res.component v) ss r)
    (hnone : wordsOf sep ss = []) :
    Way host sep v (callStep v (res.component v) b :: ss) r
  /-- a routine gives itself and there is nothing left to do -/
  | settled {v : Value} {b : Bound} (hcall : Calls host sep v [] b .itself) :
    Way host sep v [callStep v v b] v

section
variable {host : Host σ} {fs : Flags} {v r : Value} {args : List Value} {ws : List String} {b : Bound}
  {res : Result} {ss : List Step} {t : Trace} {p q : Progress} {w w' : World σ}

/-! ## a run takes a way -/

/-- the words of the steps begin as the arguments do, unless a separator is dropped there -/
def Begins (sep : String) (args words : List Value) : Prop :=
  args.head? ≠ some (.text sep) → words.head? = args.head?

theorem calledStep_none (v u : Value) (b : Bound) : calledStep v u b none = callStep v u b := by
  unfold calledStep
  rw [Option.isSome_none, Bool.and_false]
  rfl

theorem stepWords_call (sep : String) (v u : Value) (b : Bound) :
    Trace.stepWords sep (callStep v u b) = b.consumed.map .text := List.append_nil _

/-- the way that begins with a call, by what the call leaves and by the separator behind it -/
theorem way_of_call {before : List Value} {behind : Option (List Value)}
    (hsplit : splitAtSeparator fs.separator args = (before, behind))
    (hwords : flagTexts before = .ok ws) (hcall : Calls host fs.separator v ws b res)
    (hmore : res = .itself → ¬ (b.remaining = ws ∧
      (behindCall fs.separator (b.remaining.map .text) behind).length = args.length))
    (hway : Way host fs.separator (res.component v) ss r)
    (hbegins : Begins fs.separator (behindCall fs.separator (b.remaining.map .text) behind)
      (wordsOf fs.separator ss)) :
    Way host fs.separator v (calledStep v (res.component v) b behind :: ss) r ∧
      Begins fs.separator args
        (wordsOf fs.separator (calledStep v (res.component v) b behind :: ss)) := by
  obtain ⟨rfl, -⟩ := splitAtSeparator_eq hsplit
  obtain rfl := eq_map_of_flagTexts hwords
  have happend := hcall.append
  cases hremaining : b.remaining with
  | nil =>
    rw [hremaining] at happend hmore hbegins
    rw [List.append_nil] at happend
    cases behind with
    | none =>
      have hnone : wordsOf fs.separator ss = [] := List.head?_eq_none_iff.1 (hbegins nofun)
      rw [calledStep_none]
      refine ⟨.last hcall hremaining (fun hres hnil => ?_) hway hnone, fun _ => ?_⟩
      · rw [hnil] at happend
        exact hmore hres ⟨happend, by rw [← happend]; rfl⟩
      · rw [wordsOf_cons, stepWords_call, hnone, happend]
        rfl
    | some ys =>
      have hstep : calledStep v (res.component v) b (some ys) =
          { callStep v (res.component v) b with separated := true } := by
        unfold calledStep
        rw [hremaining]
        rfl
      rw [hstep]
      refine ⟨.taken hcall hremaining hway, fun _ => ?_⟩
      rw [wordsOf_cons, ← happend]
      show ((b.consumed.map Value.text ++ [Value.text fs.separator]) ++ _).head? = _
      cases b.consumed <;> rfl
  | cons a rest =>
    rw [hremaining] at happend hmore hbegins
    have hstep : calledStep v (res.component v) b behind = callStep v (res.component v) b := by
      unfold calledStep
      rw [hremaining]
      rfl
    rw [hstep]
    have ha : a ≠ fs.separator :=
      (hcall.words a (happend ▸ List.mem_append_right _ List.mem_cons_self)).2
    rw [List.map_cons, behindCall_cons] at hbegins hmore
    obtain ⟨zs, hzs⟩ : ∃ zs, wordsOf fs.separator ss = Value.text a :: zs := by
      refine List.head?_eq_some_iff.1 (hbegins fun hhead => ha ?_)
      exact Value.text.inj (Option.some.inj hhead)
    refine ⟨.left hcall (hremaining ▸ List.cons_ne_nil a rest) (fun hres hnil => ?_) hway
      ⟨a, zs, hzs, ha⟩, fun _ => ?_⟩
    · rw [hnil] at happend
      exact hmore hres ⟨happend, by rw [← happend]; rfl⟩
    · rw [wordsOf_cons, stepWords_call, hzs, ← happend]
      cases b.consumed <;> rfl

/-- a call of a run without flags, and that it leaves no flags -/
theorem calls_of_round (hpure : host.Pure) (hargs : Words args) (hv : v.isCallable = true)
    {before : List Value} {behind : Option (List Value)}
    (hsplit : splitAtSeparator fs.separator args = (before, behind))
    (hwords : flagTexts before = .ok ws) (hbind : v.bind ws = .ok b)
    (hcall : outcome (v.call host b.positional b.named) w = (.ok res, w')) :
    Calls host fs.separator v ws b res ∧
      Words (behindCall fs.separator (b.remaining.map .text) behind) := by
  obtain ⟨rfl, hbefore⟩ := splitAtSeparator_eq hsplit
  obtain rfl := eq_map_of_flagTexts hwords
  obtain ⟨hfront, hback⟩ := List.forall_mem_append.1 hargs
  have hws : ∀ s ∈ ws, IsWord s ∧ s ≠ fs.separator := by
    intro s hs
    have hmem : Value.text s ∈ ws.map Value.text := List.mem_map_of_mem hs
    obtain ⟨s', hs', hword⟩ := hfront _ hmem
    refine ⟨Value.text.inj hs' ▸ hword, fun heq => ?_⟩
    exact Bool.eq_false_iff.1 (hbefore _ hmem) (isText_iff.2 (congrArg _ heq))
  refine ⟨⟨hv, hws, hbind, fun w₁ => (blind_call hpure v _ _).eq_of_eq hcall w₁⟩, ?_⟩
  have hremaining : Words (b.remaining.map .text) :=
    words_texts fun s hs => (hws s (mem_of_mem_remaining hbind hs)).1
  cases hrest : b.remaining with
  | nil =>
    cases behind with
    | none => exact fun x hx => absurd hx List.not_mem_nil
    | some ys => exact (List.forall_mem_cons.1 hback).2
  | cons a rest =>
    rw [List.map_cons, behindCall_cons, ← List.map_cons (f := Value.text), ← hrest]
    exact List.forall_mem_append.2 ⟨hremaining, hback⟩

theorem way_of_ends (hpure : host.Pure) (hfs : fs.shows = false) (hp : p.Stands v args t)
    (hargs : Words args) (h : Ends host fs p w (.ok (.finished q)) w') (hq : q.args = []) :
    ∃ ss, q.trace = t.addAll ss ∧ Way host fs.separator v ss q.component ∧
      Begins fs.separator args (wordsOf fs.separator ss) := by
  generalize hx : (Except.ok (.finished q) : Except Error RunEnd) = x at h
  induction h generalizing v args t with
  | error h => cases hx
  | refused h => cases hx
  | finished h =>
    obtain rfl := RunEnd.finished.inj (Except.ok.inj hx)
    cases turns_of_round hfs hp h with
    | idle hv hstands =>
      refine ⟨[], hstands.trace.trans (addAll_nil t).symm, ?_, fun _ => rfl⟩
      rw [hstands.component]
      exact .stop hv
    | @settled _ before behind words b _ _ hv hsplit hwords hbind hcall hstands hsame hlength =>
      -- no argument was left before the last call
      have hnil : args = [] := by
        rw [hq] at hlength
        exact List.eq_nil_of_length_eq_zero hlength.symm
      subst hnil
      obtain ⟨rfl, rfl⟩ := Prod.mk.inj hsplit
      obtain rfl := Except.ok.inj hwords
      obtain ⟨hcalls, -⟩ := calls_of_round hpure hargs hv hsplit hwords hbind hcall
      rw [calledStep_none] at hstands
      refine ⟨[callStep v v b], hstands.trace, ?_, fun _ => ?_⟩
      · rw [hstands.component]
        exact .settled hcalls
      · rw [wordsOf_cons, stepWords_call, hcalls.nil.1]
        rfl
  | @again _ p' _ _ _ _ h _ ih =>
    cases turns_of_round hfs hp h with
    | dropped hv hstands =>
      obtain ⟨ss, htrace, hway, -⟩ := ih hstands (List.forall_mem_cons.1 hargs).2 hx
      exact ⟨ss, htrace, hway, fun hhead => absurd rfl hhead⟩
    | accessed hv harg hmove hstep hstands =>
      obtain ⟨ss, htrace, hway, -⟩ := ih hstands (List.forall_mem_cons.1 hargs).2 hx
      refine ⟨_ :: ss, htrace.trans (addAll_add t _ ss),
        .access hv harg (List.forall_mem_cons.1 hargs).1 hmove hstep hway, fun _ => ?_⟩
      rw [wordsOf_cons, Trace.stepWords, hstep.args]
      rfl
    | called hv hsplit hwords hbind hcall hstands =>
      obtain ⟨hcalls, hleft⟩ := calls_of_round hpure hargs hv hsplit hwords hbind hcall
      obtain ⟨ss, htrace, hway, hbegins⟩ := ih hstands hleft hx
      obtain ⟨hway, hbegins⟩ := way_of_call hsplit hwords hcalls nofun hway hbegins
      exact ⟨_ :: ss, htrace.trans (addAll_add t _ ss), hway, hbegins⟩
    | renewed hv hsplit hwords hbind hcall hstands hmore =>
      obtain ⟨hcalls, hleft⟩ := calls_of_round hpure hargs hv hsplit hwords hbind hcall
      obtain ⟨ss, htrace, hway, hbegins⟩ := ih hstands hleft hx
      obtain ⟨hway, hbegins⟩ :=
        way_of_call hsplit hwords hcalls (fun _ => hstands.args ▸ hmore) hway hbegins
      exact ⟨_ :: ss, htrace.trans (addAll_add t _ ss), hway, hbegins⟩

end

end

end CommandLine
