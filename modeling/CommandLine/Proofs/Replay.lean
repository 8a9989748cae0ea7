import CommandLine.Proofs.Patience
import CommandLine.Proofs.ShellQuoting
import CommandLine.Proofs.Ways

/-!
# The command of a trace makes it again

The words of a trace's steps lead along the same way (`Way.replays`): a call is given the words that
it has used up, and finds behind them what it has found before, either nothing it has room for or a
separator.  A separator more at the end does no harm.
-/

namespace CommandLine

open Binding

/-- where a run stands, whatever it has done before -/
def Progress.At (p : Progress) (v : Value) (args : List Value) : Prop := ∃ t, p.Stands v args t

section
variable {σ : Type} {host : Host σ} {fs : Flags} {v r : Value} {args zs : List Value}
  {ws : List String} {b : Bound} {res : Result} {ss : List Step} {t : Trace} {p q : Progress}
  {w w' : World σ}

/-! ## calls on other words -/

theorem exists_split (sep : String) (h : Words zs) :
    ∃ (ys : List String) (behind : Option (List Value)),
      zs = ys.map .text ++ behindSeparator sep behind ∧ ∀ s ∈ ys, IsWord s ∧ s ≠ sep := by
  cases hsplit : splitAtSeparator sep zs with
  | mk before behind =>
    obtain ⟨rfl, hbefore⟩ := splitAtSeparator_eq hsplit
    obtain ⟨ys, rfl, hys⟩ := exists_texts (List.forall_mem_append.1 h).1
    refine ⟨ys, behind, rfl, fun s hs => ⟨hys s hs, ?_⟩⟩
    rintro rfl
    exact Bool.eq_false_iff.1 (hbefore _ (List.mem_map_of_mem hs)) (isText_iff.2 rfl)

theorem Calls.round (hfs : fs.shows = false) (hcall : Calls host fs.separator v ws b res)
    (behind : Option (List Value))
    (hp : p.At v (ws.map .text ++ behindSeparator fs.separator behind))
    (hmore : res = .itself → b.remaining = ws →
      (behindCall fs.separator (b.remaining.map .text) behind).length ≠
        (ws.map Value.text ++ behindSeparator fs.separator behind).length) (w : World σ) :
    ∃ q w', outcome (p.round host fs) w = (.ok (.again q), w') ∧
      q.At (res.component v) (behindCall fs.separator (b.remaining.map .text) behind) := by
  obtain ⟨t, hp⟩ := hp
  obtain ⟨w', hw'⟩ := hcall.gives w
  have hsplit := splitAtSeparator_behind (not_isText_of_mem hcall.words) behind
  cases res with
  | value u =>
    obtain ⟨q, hround, hq⟩ :=
      outcome_round_call hfs hcall.callable hp hsplit (flagTexts_texts ws) hcall.bind hw'
    exact ⟨q, w', hround, _, hq⟩
  | itself =>
    obtain ⟨q, hq, hround⟩ :=
      outcome_round_itself hfs hcall.callable hp hsplit (flagTexts_texts ws) hcall.bind hw'
    rw [if_neg fun hsame => hmore rfl hsame.1 (hq.args ▸ hsame.2)] at hround
    exact ⟨q, w', hround, _, hq⟩

/-- a call that has no room takes the words it has taken, whatever follows them -/
theorem Calls.leaving (h : Calls host fs.separator v ws b res)
    (hroom : v.hasRoom b.consumed.length = false) {ys : List String}
    (hys : ∀ s ∈ ys, IsWord s ∧ s ≠ fs.separator) :
    Calls host fs.separator v (b.consumed ++ ys) { b with remaining := ys } res where
  callable := h.callable
  words := List.forall_mem_append.2 ⟨h.consumed, hys⟩
  bind := bind_of_not_hasRoom h.singles h.bind hroom fun s hs => (hys s hs).1.1
  gives := h.gives

theorem Calls.round_leaving (hfs : fs.shows = false) (hcall : Calls host fs.separator v ws b res)
    (hroom : v.hasRoom b.consumed.length = false) (hself : res = .itself → b.consumed ≠ [])
    (hzs : Words zs) {s : String} {rest : List Value} (hhead : zs = .text s :: rest)
    (hs : s ≠ fs.separator) (hp : p.At v (b.consumed.map .text ++ zs)) (w : World σ) :
    ∃ q w', outcome (p.round host fs) w = (.ok (.again q), w') ∧ q.At (res.component v) zs := by
  obtain ⟨ys, behind, rfl, hys⟩ := exists_split fs.separator hzs
  cases ys with
  | nil =>
    -- a separator would come first
    cases behind with
    | none => cases hhead
    | some behind => exact absurd (Value.text.inj (List.cons.inj hhead).1).symm hs
  | cons y ys =>
    rw [← List.append_assoc, ← List.map_append] at hp
    have hround := (hcall.leaving hroom hys).round hfs behind hp
      (fun hres hsame => absurd (List.append_left_eq_self.1 hsame.symm) (hself hres)) w
    rwa [List.map_cons, behindCall_cons] at hround

/-- a call takes the separator behind its words -/
theorem Calls.round_taking (hfs : fs.shows = false) (hcall : Calls host fs.separator v ws b res)
    (hb : b.remaining = []) (hp : p.At v (b.consumed.map .text ++ .text fs.separator :: zs))
    (w : World σ) :
    ∃ q w', outcome (p.round host fs) w = (.ok (.again q), w') ∧ q.At (res.component v) zs := by
  obtain rfl : b.consumed = ws := hcall.all hb
  have hlength : zs.length <
      (b.consumed.map Value.text ++ behindSeparator fs.separator (some zs)).length := by
    rw [List.length_append]
    exact Nat.lt_add_left _ (Nat.lt_succ_self _)
  have hround := hcall.round hfs (some zs) hp (fun _ _ => ?_) w
  · rwa [hb] at hround
  · rw [hb]
    exact Nat.ne_of_lt hlength

theorem Calls.round_last (hfs : fs.shows = false) (hcall : Calls host fs.separator v ws b res)
    (hb : b.remaining = []) (hself : res = .itself → b.consumed ≠ [])
    (hp : p.At v (b.consumed.map .text)) (w : World σ) :
    ∃ q w', outcome (p.round host fs) w = (.ok (.again q), w') ∧ q.At (res.component v) [] := by
  obtain rfl : b.consumed = ws := hcall.all hb
  rw [← List.append_nil (b.consumed.map Value.text)] at hp
  have hround := hcall.round hfs none hp (fun hres hsame => absurd (hsame.symm.trans hb) (hself hres)) w
  rwa [hb] at hround

theorem Calls.ends (hfs : fs.shows = false) (hcall : Calls host fs.separator v [] b .itself)
    (hp : p.At v []) (w : World σ) :
    ∃ q w', Ends host fs p w (.ok (.finished q)) w' ∧ q.args = [] ∧ q.component = v := by
  obtain ⟨t, hp⟩ := hp
  obtain ⟨w', hw'⟩ := hcall.gives w
  obtain ⟨q, hq, hround⟩ := outcome_round_itself hfs hcall.callable hp rfl rfl hcall.bind hw'
  have hnil : q.args = [] := by
    rw [hq.args, hcall.nil.2]
    rfl
  rw [if_pos ⟨hcall.nil.2, congrArg _ hnil⟩] at hround
  exact ⟨q, w', .finished hround, hnil, hq.component⟩

/-! ## the same way again -/

/-- a separator behind a command, if it needs one -/
def closingWords (sep : String) : Bool → List Value
  | true => [.text sep]
  | false => []

theorem words_closing {sep : String} (hsep : IsWord sep) (closing : Bool) :
    Words (closingWords sep closing) := by
  intro x hx
  cases closing with
  | false => exact absurd hx List.not_mem_nil
  | true =>
    obtain rfl := List.mem_singleton.1 hx
    exact ⟨_, rfl, hsep⟩

theorem Way.words {sep : String} (h : Way host sep v ss r) (hsep : IsWord sep) :
    Words (wordsOf sep ss) := by
  have hnil : Words [] := fun x hx => absurd hx List.not_mem_nil
  have hconsumed : ∀ {v ws b res}, Calls host sep v ws b res →
      Words (b.consumed.map .text) := fun hcall => words_texts fun s hs => (hcall.consumed s hs).1
  induction h with
  | stop hv => exact hnil
  | access hv harg hword hmove hstep hway ih =>
    rw [wordsOf_cons, Trace.stepWords, hstep.args, hstep.separated]
    exact List.forall_mem_append.2 ⟨List.forall_mem_cons.2 ⟨hword, hnil⟩, ih⟩
  | taken hcall hb hway ih =>
    rw [wordsOf_cons]
    refine List.forall_mem_append.2 ⟨List.forall_mem_append.2 ⟨hconsumed hcall, ?_⟩, ih⟩
    exact List.forall_mem_cons.2 ⟨⟨_, rfl, hsep⟩, hnil⟩
  | left hcall hb hself hway hhead ih =>
    rw [wordsOf_cons, stepWords_call]
    exact List.forall_mem_append.2 ⟨hconsumed hcall, ih⟩
  | last hcall hb hself hway hnone ih =>
    rw [wordsOf_cons, stepWords_call]
    exact List.forall_mem_append.2 ⟨hconsumed hcall, ih⟩
  | settled hcall =>
    rw [wordsOf_cons, stepWords_call]
    exact List.forall_mem_append.2 ⟨hconsumed hcall, hnil⟩

/-- **The words of a way lead along it again**, also with a separator behind them. -/
theorem Way.replays (hfs : fs.shows = false) (hsep : IsWord fs.separator)
    (h : Way host fs.separator v ss r) (closing : Bool)
    (hp : p.At v (wordsOf fs.separator ss ++ closingWords fs.separator closing)) (w : World σ) :
    ∃ q w', Ends host fs p w (.ok (.finished q)) w' ∧ q.args = [] ∧ q.component = r := by
  have hstop : ∀ {v : Value} {p : Progress} (w : World σ), v.isCallable = false → p.At v [] →
      ∃ q w', Ends host fs p w (.ok (.finished q)) w' ∧ q.args = [] ∧ q.component = v := by
    rintro v p w hv ⟨t, hp⟩
    obtain ⟨q, hround, hq⟩ := outcome_round_idle host w hfs hv hp
    exact ⟨q, w, .finished hround, hq.args, hq.component⟩
  -- the rounds that lead on are those of the way
  have hnext : ∀ {p q : Progress} {w w₁ : World σ} {r : Value},
      outcome (p.round host fs) w = (.ok (.again q), w₁) →
      (∃ q' w', Ends host fs q w₁ (.ok (.finished q')) w' ∧ q'.args = [] ∧ q'.component = r) →
      ∃ q' w', Ends host fs p w (.ok (.finished q')) w' ∧ q'.args = [] ∧ q'.component = r := by
    rintro p q w w₁ r hround ⟨q', w', hends, hq'⟩
    exact ⟨q', w', .again hround hends, hq'⟩
  induction h generalizing p w closing with
  | stop hv =>
    cases closing with
    | false => exact hstop w hv hp
    | true =>
      obtain ⟨t, hp⟩ := hp
      obtain ⟨q, hround, hq⟩ := outcome_round_drop host w hfs hv hp
      exact hnext hround (hstop w hv ⟨t, hq⟩)
  | access hv harg hword hmove hstep hway ih =>
    obtain ⟨t, hp⟩ := hp
    rw [wordsOf_cons, Trace.stepWords, hstep.args, hstep.separated] at hp
    obtain ⟨q, hround, hq⟩ := outcome_round_access host w hfs hv hp harg hmove
    exact hnext hround (ih closing ⟨_, hq⟩ w)
  | taken hcall hb hway ih =>
    rw [wordsOf_cons, Trace.stepWords, List.append_assoc, List.append_assoc] at hp
    obtain ⟨q, w₁, hround, hq⟩ := hcall.round_taking hfs hb hp w
    exact hnext hround (ih closing hq w₁)
  | left hcall hb hself hway hhead ih =>
    obtain ⟨s, zs, hzs, hs⟩ := hhead
    rw [wordsOf_cons, stepWords_call, List.append_assoc] at hp
    have hroom := not_hasRoom_of_remaining hcall.singles hcall.bind hb
    obtain ⟨q, w₁, hround, hq⟩ := hcall.round_leaving hfs hroom hself
      (List.forall_mem_append.2 ⟨hway.words hsep, words_closing hsep closing⟩)
      (by rw [hzs, List.cons_append]) hs hp w
    exact hnext hround (ih closing hq w₁)
  | last hcall hb hself hway hnone ih =>
    rw [wordsOf_cons, stepWords_call, hnone, List.append_nil] at hp
    rw [hnone] at ih
    cases closing with
    | false =>
      rw [closingWords, List.append_nil] at hp
      obtain ⟨q, w₁, hround, hq⟩ := hcall.round_last hfs hb hself hp w
      exact hnext hround (ih false hq w₁)
    | true =>
      obtain ⟨q, w₁, hround, hq⟩ := hcall.round_taking hfs hb hp w
      exact hnext hround (ih false hq w₁)
  | settled hcall =>
    rw [wordsOf_cons, stepWords_call, wordsOf_nil, List.append_nil] at hp
    cases closing with
    | false =>
      rw [hcall.nil.1] at hp
      exact hcall.ends hfs hp w
    | true =>
      obtain ⟨q, w₁, hround, hq⟩ := hcall.round_taking hfs hcall.nil.2 hp w
      exact hnext hround (hcall.ends hfs hq w₁)

/-! ## the command -/

theorem splitFlags_words (h : Words zs) : splitFlags zs false = .ok ⟨zs, [], zs⟩ := by
  have hno : ∀ x ∈ zs, ∀ s, isFlag s = true ∨ s = "-h" → x.isText s = false := by
    intro x hx s hs
    obtain ⟨s', rfl, hflag, hhelp⟩ := h x hx
    refine not_isText ?_
    rintro rfl
    exact hs.elim (Bool.eq_false_iff.1 hflag) hhelp
  refine splitFlags_unmarked (fun x hx => hno x hx "--" (.inl rfl)) fun x hx => ?_
  have hmem := List.mem_of_getLast? hx
  exact ⟨hno x hmem "-h" (.inr rfl), hno x hmem "--help" (.inl rfl)⟩

/-- a command that is given these words -/
def Command.on (c : Command) (ws : List String) : Command :=
  { c with words := ws.map .text, tupled := false }

theorem trace_on (host : Host σ) (c : Command) (hws : ∀ s ∈ ws, IsWord s) :
    (c.on ws).trace host =
      (Progress.start {} c.name c.initial (ws.map .text)).walk host {} c.context >>=
        fun t => pure (t, {}) := by
  unfold Command.trace
  rw [show splitFlags (c.on ws).words (c.on ws).tupled = _ from splitFlags_words (words_texts hws)]
  rfl

/-- the name of a trace in its command -/
def nameWords (name : Option String) : List String := (name.filter (· ≠ "")).toList

theorem words_eq (t : Trace) : t.words = (nameWords t.name).map .text ++
    (Trace.stepWords t.separator t.first ++ wordsOf t.separator t.steps) ++
      closingWords t.separator (t.needsSeparator = some true) := by
  have hclosing : (if t.needsSeparator = some true then [Value.text t.separator] else []) =
      closingWords t.separator (t.needsSeparator = some true) := by
    by_cases h : t.needsSeparator = some true
    · rw [if_pos h, decide_eq_true h]
      rfl
    · rw [if_neg h, decide_eq_false h]
      rfl
  unfold Trace.words
  rw [hclosing]
  cases t.name with
  | none => rfl
  | some n =>
    by_cases hn : n = ""
    · rw [hn]
      rfl
    · have hname : nameWords (some n) = [n] := by
        unfold nameWords
        rw [Option.filter_some, decide_eq_true hn]
        rfl
      rw [hname]
      dsimp only
      rw [if_neg hn]
      rfl

/-- a run that does not fail has used up its arguments -/
theorem Ends.finished_of_final (hfs : fs.shows = false) {v : Value} {args : List Value} {t : Trace}
    (hp : p.Stands v args t) {e : RunEnd} (h : Ends host fs p w (.ok e) w')
    (he : e.final.failed = false) : ∃ q, e = .finished q ∧ q.args = [] ∧ e.final = q.trace := by
  generalize hx : (Except.ok e : Except Error RunEnd) = x at h
  induction h generalizing v args t with
  | error h => cases hx
  | @finished _ q _ _ h =>
    obtain rfl := Except.ok.inj hx
    cases hq : q.args with
    | nil => exact ⟨q, rfl, hq, by rw [RunEnd.final, Progress.final, hq]; rfl⟩
    | cons x xs =>
      rw [RunEnd.final, Progress.final, hq, List.isEmpty_cons, if_neg nofun, failed_fail] at he
      cases he
  | refused h =>
    obtain rfl := Except.ok.inj hx
    cases turns_of_round hfs hp h with
    | refused =>
      rw [RunEnd.final, failed_fail] at he
      cases he
  | again h _ ih =>
    cases turns_of_round hfs hp h with
    | dropped hv hq => exact ih hq hx
    | accessed hv harg hmove hstep hq => exact ih hq hx
    | called hv hsplit hwords hbind hcall hq => exact ih hq hx
    | renewed hv hsplit hwords hbind hcall hq => exact ih hq hx

theorem run_of_walk (hhost : host.Bounded) (hfs : fs.shows = false)
    {context : List (String × Value)} {name : Option String} {v : Value} {args : List Value}
    {t : Trace} (ht : t.failed = false) :
    outcome ((Progress.start fs name v args).walk host fs context) w = (.ok t, w') ↔
      ∃ q, Ends host fs (Progress.start fs name v args) w (.ok (.finished q)) w' ∧ q.args = [] ∧
        q.trace = t := by
  rw [walk_eq host hfs, outcome_bind_eq_ok]
  constructor
  · rintro ⟨e, w₁, hrun, he⟩
    obtain ⟨hfinal, rfl⟩ := Prod.mk.inj he
    obtain rfl := Except.ok.inj hfinal
    have hends := ends_run hhost hrun
    obtain ⟨q, rfl, hq, hfinal⟩ := hends.finished_of_final hfs (start_stands fs name v args) ht
    exact ⟨q, hends, hq, hfinal.symm⟩
  · rintro ⟨q, hends, hq, rfl⟩
    refine ⟨.finished q, w', outcome_run_of_ends hhost hends, ?_⟩
    rw [outcome_pure, RunEnd.final, Progress.final, hq]
    rfl

/-- the steps of a command that does not fail are a way from its component to the result -/
theorem way_of_trace (hpure : host.Pure) (hhost : host.Bounded) {c : Command}
    (hws : ∀ s ∈ ws, IsWord s) (h : outcome ((c.on ws).trace host) w = (.ok (t, fs), w'))
    (ht : t.failed = false) :
    fs = {} ∧ ∃ ss, t = (Trace.ofComponent c.initial c.name "-").addAll ss ∧
      Way host "-" c.initial ss t.result := by
  rw [trace_on host c hws] at h
  obtain ⟨t', w₁, hwalk, hpair⟩ := outcome_bind_eq_ok.1 h
  obtain ⟨hresult, rfl⟩ := Prod.mk.inj hpair
  obtain ⟨rfl, rfl⟩ := Prod.mk.inj (Except.ok.inj hresult)
  obtain ⟨q, hends, hq, rfl⟩ := (run_of_walk hhost rfl ht).1 hwalk
  have hstart := start_stands {} c.name c.initial (ws.map .text)
  obtain ⟨ss, htrace, hway, -⟩ := way_of_ends hpure rfl hstart (words_texts hws) hends hq
  rw [hends.result rfl hstart rfl]
  exact ⟨rfl, ss, htrace, hway⟩

/-- the command of a way, and that it is cut into its words -/
theorem command_of_way {sep : String} (hsep : IsWord sep) (hway : Way host sep v ss r)
    (name : Option String) {t : Trace} (ht : t = (Trace.ofComponent v name sep).addAll ss) :
    ∃ (s : String) (vs : List String), t.command = .ok s ∧
      Text.shellWords s = .ok (nameWords name ++ vs) ∧ (∀ s ∈ vs, IsWord s) ∧
      vs.map .text = wordsOf sep ss ++ closingWords sep (t.needsSeparator = some true) := by
  obtain ⟨vs, hvs, hall⟩ := exists_texts (List.forall_mem_append.2
    ⟨hway.words hsep, words_closing hsep (decide (t.needsSeparator = some true))⟩)
  have hwords : t.words = (nameWords name ++ vs).map .text := by
    rw [words_eq, List.map_append, ← hvs, List.append_assoc, ht, steps_addAll]
    rfl
  refine ⟨_, vs, ?_, Text.shellWords_quoted (nameWords name ++ vs), hall, hvs.symm⟩
  unfold Trace.command
  rw [hwords, flagTexts_texts]
  rfl

/-- **The command of a trace makes it again.**  If a command without flags does not fail, the text of
its trace is cut into its name and words that make a run on the same component, which does not fail
either and has the same result.  Calls are pure, and the values that actions give are named in
them. -/
theorem trace_replayed (hpure : host.Pure) (hhost : host.Bounded) (c : Command)
    (hws : ∀ s ∈ ws, IsWord s) (h : outcome ((c.on ws).trace host) w = (.ok (t, fs), w'))
    (ht : t.failed = false) :
    ∃ (s : String) (vs : List String), t.command = .ok s ∧
      Text.shellWords s = .ok (nameWords c.name ++ vs) ∧
      ∀ w₀, ∃ t' w₁, outcome ((c.on vs).trace host) w₀ = (.ok (t', fs), w₁) ∧
        t'.failed = false ∧ t'.result = t.result := by
  obtain ⟨rfl, ss, htrace, hway⟩ := way_of_trace hpure hhost hws h ht
  have hsep : IsWord "-" := ⟨rfl, by decide⟩
  obtain ⟨s, vs, hs, hcut, hvs, hwords⟩ := command_of_way hsep hway c.name htrace
  refine ⟨s, vs, hs, hcut, fun w₀ => ?_⟩
  have hfs : ({} : Flags).shows = false := rfl
  have hstart := start_stands {} c.name c.initial (vs.map .text)
  have hat : (Progress.start {} c.name c.initial (vs.map .text)).At c.initial
      (wordsOf ({} : Flags).separator ss ++
        closingWords ({} : Flags).separator (t.needsSeparator = some true)) :=
    ⟨_, rfl, hwords, rfl, rfl⟩
  obtain ⟨q, w₁, hends, hq, hcomponent⟩ := hway.replays hfs hsep _ hat w₀
  have hfailed : q.trace.failed = false := by
    obtain ⟨ss', hss'⟩ := hends.addAll hfs hstart
    exact hss' ▸ failed_addAll rfl ss'
  refine ⟨q.trace, w₁, ?_, hfailed, (hends.result hfs hstart rfl).trans hcomponent⟩
  rw [trace_on host c hvs, outcome_bind_of_ok ((run_of_walk hhost hfs hfailed).2 ⟨q, hends, hq, rfl⟩)]
  rfl

end

/-! ### a sample -/

theorem plain_pure (σ : Type) : (Host.plain σ).Pure :=
  ⟨fun _ _ => blind_pure _, fun _ => blind_pure _⟩

def sampleCommand : Command where
  component := .routine ⟨"f", none, { args := ["a"], defaults := [.int 1] }, none,
    .const (.list [.int 4, .int 5]), none, [.one .text []], none⟩
  words := []
  name := some "prog"
  program := "prog"

/-- the trace of a run on `- - 1`: the routine takes one separator, the second one is dropped -/
def sampleTrace : Trace :=
  ((Trace.ofComponent sampleCommand.component (some "prog") "-").add
    { callStep sampleCommand.component (.list [.int 4, .int 5]) ⟨[.int 1], [], [], [], true⟩ with
      separated := true }).add
    (accessStep (.int 5) (.int 1) (.text "1"))

theorem trace_replayed_sample :
    outcome ((sampleCommand.on ["-", "-", "1"]).trace (Host.plain Unit)) ⟨"", "", ()⟩ =
        (.ok (sampleTrace, {}), ⟨"", "", ()⟩) ∧ sampleTrace.failed = false ∧
      sampleTrace.command = .ok "prog - 1" ∧ Text.shellWords "prog - 1" = .ok ["prog", "-", "1"] ∧
      ∃ t' w', outcome ((sampleCommand.on ["-", "1"]).trace (Host.plain Unit)) ⟨"", "", ()⟩ =
        (.ok (t', {}), w') ∧ t'.failed = false ∧ t'.result = .int 5 := by
  have hws : ∀ s ∈ ["-", "-", "1"], IsWord s := by
    simp only [List.forall_mem_cons, IsWord]
    decide
  have hrun : outcome ((sampleCommand.on ["-", "-", "1"]).trace (Host.plain Unit)) ⟨"", "", ()⟩ =
      (.ok (sampleTrace, {}), ⟨"", "", ()⟩) := rfl
  have hcommand : sampleTrace.command = .ok "prog - 1" := rfl
  have hcut : Text.shellWords "prog - 1" = .ok ["prog", "-", "1"] := rfl
  obtain ⟨s, vs, hs, hvs, hreplay⟩ :=
    trace_replayed (plain_pure Unit) (plain_bounded Unit) sampleCommand hws hrun rfl
  obtain rfl := Except.ok.inj (hcommand.symm.trans hs)
  obtain rfl := (List.cons.inj (Except.ok.inj (hcut.symm.trans hvs))).2
  exact ⟨hrun, rfl, hcommand, hcut, hreplay _⟩

end CommandLine
