import CommandLine.Proofs.Replay

/-!
# A word behind a command

A command that ends in a call is followed by a separator if the call could take more, so that a word
behind it is applied to the result.  That is right for the last call, but the word passes all the
others too, and a call whose result is called in turn may have room as well.  `closedTo` says which
calls a word meets: those behind which the command has no words.  The separator at the end is taken by
the first of them.  The word comes to the result exactly if none of the others has room for it
(`next_word_iff`).
-/

namespace CommandLine

open Binding

/-- does a word that is put behind the command of these steps pass all their calls? -/
def closedTo (sep : String) : Bool → Value → List Step → Bool
  | _, _, [] => true
  | closing, v, s :: ss =>
    if !s.isCall || s.separated || !(wordsOf sep ss).isEmpty then
      closedTo sep closing s.component ss
    else if closing then closedTo sep false s.component ss
    else
      -- a routine that gives itself is called with the word again
      (!v.hasRoom s.args.length || ss.isEmpty && s.component.isCallable) &&
        closedTo sep false s.component ss

section
variable {sep : String} {v : Value} {s : Step} {ss : List Step}

theorem closedTo_passed (closing : Bool)
    (h : s.isCall = false ∨ s.separated = true ∨ wordsOf sep ss ≠ []) :
    closedTo sep closing v (s :: ss) = closedTo sep closing s.component ss := by
  have hpassed : (!s.isCall || s.separated || !(wordsOf sep ss).isEmpty) = true := by
    obtain h | h | h := h
    · rw [h, Bool.not_false, Bool.true_or, Bool.true_or]
    · rw [h, Bool.or_true, Bool.true_or]
    · rw [List.isEmpty_eq_false_iff.2 h, Bool.not_false, Bool.or_true]
  rw [closedTo, if_pos hpassed]

section
variable (hcall : s.isCall = true) (hs : s.separated = false) (hss : wordsOf sep ss = [])
include hcall hs hss

theorem closedTo_closing :
    closedTo sep true v (s :: ss) = closedTo sep false s.component ss := by
  rw [closedTo, hcall, hs, hss]
  rfl

theorem closedTo_open : closedTo sep false v (s :: ss) =
    ((!v.hasRoom s.args.length || ss.isEmpty && s.component.isCallable) &&
      closedTo sep false s.component ss) := by
  rw [closedTo, hcall, hs, hss]
  rfl

end

end

section
variable {σ : Type} {host : Host σ} {fs : Flags} {v r : Value} {args zs : List Value}
  {ws : List String} {b : Bound} {res : Result} {ss : List Step} {t : Trace} {p q : Progress}
  {w w' w₁ : World σ} {x : Value}

/-! ## coming to the result -/

theorem length_args_le_of_leads (h : Leads host fs p w q w') : q.args.length ≤ p.args.length := by
  induction h with
  | refl => exact Nat.le_refl _
  | again h _ ih => exact Nat.le_trans ih (length_args_le h)

/-- does a run come to a component with just one argument left? -/
def Comes (host : Host σ) (fs : Flags) (p : Progress) (w : World σ) (r x : Value) : Prop :=
  ∃ q w', Leads host fs p w q w' ∧ q.component = r ∧ q.args = [x]

theorem comes_here (hp : p.At r [x]) (w : World σ) : Comes host fs p w r x := by
  obtain ⟨t, hp⟩ := hp
  exact ⟨p, w, .refl p w, hp.component, hp.args⟩

theorem comes_again (h : outcome (p.round host fs) w = (.ok (.again q), w₁))
    (hp : p.component = r → p.args ≠ [x]) :
    Comes host fs p w r x ↔ Comes host fs q w₁ r x := by
  constructor
  · rintro ⟨q', w', hleads, hq'⟩
    cases hleads with
    | refl => exact absurd hq'.2 (hp hq'.1)
    | again h' hleads =>
      cases h.symm.trans h'
      exact ⟨q', w', hleads, hq'⟩
  · rintro ⟨q', w', hleads, hq'⟩
    exact ⟨q', w', .again h hleads, hq'⟩

theorem args_ne (hp : p.At v (args ++ [x])) (hargs : args ≠ []) : p.args ≠ [x] := by
  intro hx
  obtain ⟨t, hp⟩ := hp
  exact hargs (List.append_left_eq_self.1 (hp.args.symm.trans hx))

/-! ## calls on the way -/

section
variable {sep : String}

theorem Way.eq_nil (h : Way host sep v ss r) (hv : v.isCallable = false)
    (hss : wordsOf sep ss = []) : ss = [] := by
  cases h with
  | stop => rfl
  | access _ _ _ _ hstep =>
    rw [wordsOf_cons, Trace.stepWords, hstep.args] at hss
    cases hss
  | taken hcall | left hcall | last hcall | settled hcall =>
    exact absurd hcall.callable (Bool.eq_false_iff.1 hv)

/-- a way ends at what cannot be called, or at a routine that gives itself -/
theorem Way.calls_end (h : Way host sep v ss r) (hr : r.isCallable = true) :
    ∃ b, Calls host sep r [] b .itself := by
  induction h with
  | stop hv => exact absurd hr (Bool.eq_false_iff.1 hv)
  | access hv harg hword hmove hstep hway ih => exact ih hr
  | taken hcall hb hway ih => exact ih hr
  | left hcall hb hself hway hhead ih => exact ih hr
  | last hcall hb hself hway hnone ih => exact ih hr
  | settled hcall => exact ⟨_, hcall⟩

theorem Calls.unique (h : Calls host sep v ws b res) {b' : Bound} {res' : Result}
    (h' : Calls host sep v ws b' res') (w : World σ) : b = b' ∧ res = res' := by
  obtain rfl := Except.ok.inj (h.bind.symm.trans h'.bind)
  obtain ⟨w₁, hw₁⟩ := h.gives w
  obtain ⟨w₂, hw₂⟩ := h'.gives w
  exact ⟨rfl, Except.ok.inj (Prod.mk.inj (hw₁.symm.trans hw₂)).1⟩

/-- a way that leads on from a call with nothing does not end there -/
theorem ne_of_last (hcall : Calls host sep v ws b res) (hb : b.remaining = [])
    (hself : res = .itself → b.consumed ≠ []) (hway : Way host sep (res.component v) ss r)
    (hnil : b.consumed = []) (w : World σ) : v ≠ r := by
  rintro rfl
  obtain ⟨b', hend⟩ := hway.calls_end hcall.callable
  obtain rfl : ws = [] := (hcall.all hb).symm.trans hnil
  exact hself (hcall.unique hend w).2 hnil

theorem Way.not_empty_callable (h : Way host sep v ss r) : (ss.isEmpty && v.isCallable) = false := by
  cases h with
  | stop hv => rw [hv, Bool.and_false]
  | _ => rfl

end

theorem not_comes_of_hasRoom (hfs : fs.shows = false) (hv : v.isCallable = true)
    {cs : List String} {y : String} (hcs : ∀ s ∈ cs ++ [y], IsWord s ∧ s ≠ fs.separator)
    (hroom : v.hasRoom cs.length = true) (hp : p.At v ((cs ++ [y]).map .text))
    (hhere : p.component = r → p.args ≠ [.text y]) (w : World σ) :
    ¬ Comes host fs p w r (.text y) := by
  obtain ⟨t, hp⟩ := hp
  rintro ⟨q, w', hleads, hq⟩
  cases hleads with
  | refl => exact hhere hq.1 hq.2
  | @again _ p' _ _ _ _ hround hleads =>
    have hsplit := splitAtSeparator_of_none (not_isText_of_mem hcs)
    have hlast : p'.args = [] := by
      have hnone : ∀ {before behind words b}, splitAtSeparator fs.separator
            ((cs ++ [y]).map Value.text) = (before, behind) → flagTexts before = .ok words →
          v.bind words = .ok b → behindCall fs.separator (b.remaining.map .text) behind = [] := by
        intro before behind words b hsplit' hwords hbind
        obtain ⟨rfl, rfl⟩ := Prod.mk.inj (hsplit.symm.trans hsplit')
        obtain rfl := Except.ok.inj ((flagTexts_texts _).symm.trans hwords)
        rw [remaining_of_hasRoom hroom (fun s hs => (hcs s hs).1.1)
          (Nat.le_of_eq List.length_append) hbind]
        rfl
      have hturn := turns_of_round hfs hp hround
      generalize (cs ++ [y]).map Value.text = args at hturn hnone
      cases hturn with
      | called _ hsplit' hwords hbind _ hp' => exact hp'.args.trans (hnone hsplit' hwords hbind)
      | renewed _ hsplit' hwords hbind _ hp' => exact hp'.args.trans (hnone hsplit' hwords hbind)
      | dropped hv' => exact absurd hv (Bool.eq_false_iff.1 hv')
      | accessed hv' => exact absurd hv (Bool.eq_false_iff.1 hv')
    have hle := length_args_le_of_leads hleads
    rw [hlast, hq.2] at hle
    exact absurd hle (Nat.not_succ_le_zero 0)

section
variable {x : String}

/-- **A word behind the command of a way comes to its end exactly if it passes all the calls.** -/
theorem Way.comes_iff (hfs : fs.shows = false) (hsep : IsWord fs.separator)
    (hx : IsWord x ∧ x ≠ fs.separator) (h : Way host fs.separator v ss r) (closing : Bool)
    (hp : p.At v (wordsOf fs.separator ss ++ closingWords fs.separator closing ++ [.text x]))
    (w : World σ) :
    Comes host fs p w r (.text x) ↔ closedTo fs.separator closing v ss = true := by
  have hxs : Words [.text x] := words_texts fun s hs => List.mem_singleton.1 hs ▸ hx.1
  induction h generalizing p w closing with
  | stop hv =>
    refine iff_of_true ?_ rfl
    cases closing with
    | false => exact comes_here hp w
    | true =>
      obtain ⟨t, hp⟩ := hp
      obtain ⟨q, hround, hq⟩ := outcome_round_drop host w hfs hv hp
      obtain ⟨q', w', hleads, hq'⟩ := comes_here ⟨t, hq⟩ w
      exact ⟨q', w', .again hround hleads, hq'⟩
  | access hv harg hword hmove hstep hway ih =>
    rw [wordsOf_cons, Trace.stepWords, hstep.args, hstep.separated] at hp
    have hargs := args_ne hp (List.cons_ne_nil _ _)
    obtain ⟨t, hp⟩ := hp
    obtain ⟨q, hround, hq⟩ := outcome_round_access host w hfs hv hp harg hmove
    refine (comes_again hround fun _ => hargs).trans ((ih closing ⟨_, hq⟩ w).trans ?_)
    rw [closedTo_passed, hstep.component]
    exact .inl (by rw [Step.isCall, hstep.deed]; rfl)
  | taken hcall hb hway ih =>
    rw [wordsOf_cons, Trace.stepWords] at hp
    have hargs := args_ne hp (by simp)
    simp only [List.append_assoc] at hp
    obtain ⟨q, w₁, hround, hq⟩ := hcall.round_taking hfs hb hp w
    rw [← List.append_assoc] at hq
    refine (comes_again hround fun _ => hargs).trans ((ih closing hq w₁).trans ?_)
    rw [closedTo_passed closing (.inr (.inl rfl))]
    rfl
  | left hcall hb hself hway hhead ih =>
    obtain ⟨s, zs, hzs, hs⟩ := hhead
    rw [wordsOf_cons, stepWords_call] at hp
    have hargs := args_ne hp (by rw [hzs]; simp)
    rw [List.append_assoc, List.append_assoc] at hp
    have hroom := not_hasRoom_of_remaining hcall.singles hcall.bind hb
    have hwords : Words (wordsOf fs.separator _ ++ (closingWords fs.separator closing ++ [.text x])) :=
      List.forall_mem_append.2 ⟨hway.words hsep, List.forall_mem_append.2
        ⟨words_closing hsep closing, hxs⟩⟩
    obtain ⟨q, w₁, hround, hq⟩ := hcall.round_leaving hfs hroom hself hwords
      (by rw [hzs, List.cons_append]) hs hp w
    rw [← List.append_assoc] at hq
    refine (comes_again hround fun _ => hargs).trans ((ih closing hq w₁).trans ?_)
    rw [closedTo_passed closing (.inr (.inr (hzs ▸ List.cons_ne_nil _ _)))]
    rfl
  | @last v r ws b res ss hcall hb hself hway hnone ih =>
    rw [wordsOf_cons, stepWords_call, hnone, List.append_nil] at hp
    rw [hnone] at ih
    have hstep := isCall_callStep v (res.component v) b
    cases closing with
    | true =>
      have hargs := args_ne hp (by simp [closingWords])
      rw [List.append_assoc] at hp
      obtain ⟨q, w₁, hround, hq⟩ := hcall.round_taking hfs hb hp w
      refine (comes_again hround fun _ => hargs).trans ((ih false hq w₁).trans ?_)
      rw [closedTo_closing hstep rfl hnone]
      rfl
    | false =>
      rw [closingWords, List.append_nil] at hp
      have hhere : p.component = r → p.args ≠ [.text x] := by
        intro hr hargs
        obtain ⟨t, hp⟩ := hp
        have hnil := List.append_left_eq_self.1 (hp.args.symm.trans hargs)
        exact ne_of_last hcall hb hself hway (List.map_eq_nil_iff.1 hnil) w
          (hp.component.symm.trans hr)
      have hopen : closedTo fs.separator false v (callStep v (res.component v) b :: ss) =
          ((!v.hasRoom b.consumed.length || ss.isEmpty && (res.component v).isCallable) &&
            closedTo fs.separator false (res.component v) ss) := by
        rw [closedTo_open hstep rfl hnone]
        show ((!v.hasRoom (b.consumed.map Value.text).length || _) && _) = _
        rw [List.length_map]
        rfl
      rw [hopen, hway.not_empty_callable, Bool.or_false]
      cases hroom : v.hasRoom b.consumed.length with
      | true =>
        rw [← List.map_singleton, ← List.map_append] at hp
        have hcs : ∀ s ∈ b.consumed ++ [x], IsWord s ∧ s ≠ fs.separator :=
          List.forall_mem_append.2 ⟨hcall.consumed, fun s hs => List.mem_singleton.1 hs ▸ hx⟩
        exact iff_of_false (not_comes_of_hasRoom hfs hcall.callable hcs hroom hp hhere w)
          Bool.false_ne_true
      | false =>
        obtain ⟨q, w₁, hround, hq⟩ := hcall.round_leaving hfs hroom hself hxs rfl hx.2 hp w
        exact (comes_again hround hhere).trans (ih false hq w₁)
  | @settled v b hcall =>
    have hstep := isCall_callStep v v b
    rw [wordsOf_cons, stepWords_call, wordsOf_nil, List.append_nil, List.append_assoc] at hp
    cases closing with
    | true =>
      obtain ⟨q, w₁, hround, hq⟩ := hcall.round_taking hfs hcall.nil.2 hp w
      obtain ⟨q', w', hleads, hq'⟩ := comes_here hq w₁
      exact iff_of_true ⟨q', w', .again hround hleads, hq'⟩ (closedTo_closing hstep rfl rfl)
    | false =>
      rw [hcall.nil.1] at hp
      refine iff_of_true (comes_here hp w) ?_
      rw [closedTo_open hstep rfl rfl]
      show ((_ || true && v.isCallable) && true) = true
      rw [hcall.callable, Bool.and_true, Bool.and_true, Bool.or_true]

end

/-- if no call gives something that can be called, the word meets at most the last one -/
theorem Way.closedTo_of_flat {sep : String} (h : Way host sep v ss r)
    (hflat : ∀ s ∈ ss, s.isCall = true → s.component.isCallable = false)
    (hnames : ∀ u ∈ v :: ss.map Step.component, u.spec.more ≠ some "") (closing : Bool)
    (hclosing : ∀ s, ss.getLast? = some s → s.capacity = some true → s.separated = false →
      closing = true) :
    closedTo sep closing v ss = true := by
  -- what holds of the last step holds of it behind the first
  have htail : ∀ {s : Step} {ss : List Step}, (∀ s', (s :: ss).getLast? = some s' →
      s'.capacity = some true → s'.separated = false → closing = true) → ∀ s', ss.getLast? = some s' →
      s'.capacity = some true → s'.separated = false → closing = true := by
    intro s ss hlast s' hs'
    refine hlast s' ?_
    rw [List.getLast?_cons, hs']
    rfl
  induction h with
  | stop hv => rfl
  | access hv harg hword hmove hstep hway ih =>
    have hnext := (List.forall_mem_cons.1 hnames).2
    rw [List.map_cons, hstep.component] at hnext
    rw [closedTo_passed, hstep.component]
    · exact ih (List.forall_mem_cons.1 hflat).2 hnext (htail hclosing)
    · exact .inl (by rw [Step.isCall, hstep.deed]; rfl)
  | taken hcall hb hway ih =>
    rw [closedTo_passed closing (.inr (.inl rfl))]
    exact ih (List.forall_mem_cons.1 hflat).2 (List.forall_mem_cons.1 hnames).2 (htail hclosing)
  | left hcall hb hself hway hhead ih =>
    obtain ⟨s, zs, hzs, -⟩ := hhead
    rw [closedTo_passed closing (.inr (.inr (hzs ▸ List.cons_ne_nil _ _)))]
    exact ih (List.forall_mem_cons.1 hflat).2 (List.forall_mem_cons.1 hnames).2 (htail hclosing)
  | @last v r ws b res ss hcall hb hself hway hnone ih =>
    have hstep := isCall_callStep v (res.component v) b
    have hu : (res.component v).isCallable = false := (List.forall_mem_cons.1 hflat).1 hstep
    obtain rfl := hway.eq_nil hu hnone
    cases closing with
    | true =>
      rw [closedTo_closing hstep rfl hnone]
      rfl
    | false =>
      have hroom : v.hasRoom b.consumed.length = false := by
        refine Bool.eq_false_iff.2 fun hroom => ?_
        rw [hcall.all hb] at hroom
        have hcapacity := capacity_of_hasRoom hcall.singles hcall.bind hroom
          (List.forall_mem_cons.1 hnames).1
        cases hclosing _ rfl (congrArg some hcapacity) rfl
      rw [closedTo_open hstep rfl hnone]
      show ((!v.hasRoom (b.consumed.map Value.text).length || _) && true) = true
      rw [List.length_map, hroom, Bool.and_true, Bool.not_false, Bool.true_or]
  | @settled v b hcall =>
    have hv := (List.forall_mem_cons.1 hflat).1 (isCall_callStep v v b)
    exact absurd hcall.callable (Bool.eq_false_iff.1 hv)

/-! ## commands -/

/-- does the run of a command come to stand at a place? -/
def Command.Reaches (host : Host σ) (c : Command) (w : World σ) (q : Progress) (w' : World σ) :
    Prop :=
  ∃ split switches fs rest, splitFlags c.words c.tupled = .ok split ∧
    switchTexts split.flags = .ok switches ∧ Flags.read switches = .ok (fs, rest) ∧
    Leads host fs (c.start fs split.args) w q w'

theorem isWord_of_not_dashed {x : String} (h : Text.startsWith "-" x = false) :
    IsWord x ∧ x ≠ "-" := by
  refine ⟨⟨Bool.eq_false_iff.2 fun hflag => Bool.eq_false_iff.1 h ?_, ?_⟩, ?_⟩
  · have htwo : ['-', '-'] <+: x.toList := List.isPrefixOf_iff_prefix.1 hflag
    exact List.isPrefixOf_iff_prefix.2 ((List.prefix_append ['-'] ['-']).trans htwo)
  · rintro rfl
    cases h
  · rintro rfl
    cases h

theorem reaches_on (c : Command) (hws : ∀ s ∈ ws, IsWord s) :
    (c.on ws).Reaches host w q w' ↔
      Leads host {} (Progress.start {} c.name c.initial (ws.map .text)) w q w' := by
  have hsplit : splitFlags (c.on ws).words (c.on ws).tupled = _ := splitFlags_words (words_texts hws)
  constructor
  · rintro ⟨split, switches, fs, rest, hsplit', hswitches, hflags, hleads⟩
    obtain rfl := Except.ok.inj (hsplit.symm.trans hsplit')
    obtain rfl := Except.ok.inj hswitches
    obtain ⟨rfl, rfl⟩ := Prod.mk.inj (Except.ok.inj hflags)
    exact hleads
  · intro hleads
    exact ⟨_, [], {}, [], hsplit, rfl, rfl, hleads⟩

/-- **A word behind a command is applied to the result exactly if it passes all the calls.**  If a
command without flags does not fail, its text is cut into its name and words.  A run on them and a
further word comes to the result with this word left exactly if no call that the word meets has room
for it (`closedTo`).  That is so where no call gives something that can be called. -/
theorem next_word_iff (hpure : host.Pure) (hhost : host.Bounded) (c : Command)
    (hws : ∀ s ∈ ws, IsWord s) (h : outcome ((c.on ws).trace host) w = (.ok (t, fs), w'))
    (ht : t.failed = false) :
    ∃ (s : String) (vs : List String), t.command = .ok s ∧
      Text.shellWords s = .ok (nameWords c.name ++ vs) ∧
      (∀ x, Text.startsWith "-" x = false → ∀ w₀,
        (∃ q w₁, (c.on (vs ++ [x])).Reaches host w₀ q w₁ ∧ q.component = t.result ∧
          q.args = [.text x]) ↔
        closedTo "-" (t.needsSeparator = some true) c.initial t.steps = true) ∧
      ((∀ s ∈ t.steps, s.isCall = true → s.component.isCallable = false) →
        (∀ v ∈ c.initial :: t.steps.map Step.component, v.spec.more ≠ some "") →
        closedTo "-" (t.needsSeparator = some true) c.initial t.steps = true) := by
  obtain ⟨rfl, ss, htrace, hway⟩ := way_of_trace hpure hhost hws h ht
  have hsteps : t.steps = ss := by
    rw [htrace, steps_addAll]
    rfl
  have hsep : IsWord "-" := ⟨rfl, by decide⟩
  obtain ⟨s, vs, hs, hcut, hvs, hwords⟩ := command_of_way hsep hway c.name htrace
  rw [hsteps]
  refine ⟨s, vs, hs, hcut, fun x hx w₀ => ?_, fun hflat hnames => ?_⟩
  · have hfs : ({} : Flags).shows = false := rfl
    have hword := isWord_of_not_dashed hx
    have hall : ∀ s ∈ vs ++ [x], IsWord s :=
      List.forall_mem_append.2 ⟨hvs, fun s hs => List.mem_singleton.1 hs ▸ hword.1⟩
    have hat : (Progress.start {} c.name c.initial ((vs ++ [x]).map .text)).At c.initial
        (wordsOf ({} : Flags).separator ss ++
          closingWords ({} : Flags).separator (t.needsSeparator = some true) ++ [.text x]) := by
      refine ⟨_, rfl, ?_, rfl, rfl⟩
      show (vs ++ [x]).map Value.text = _
      rw [List.map_append, hwords]
      rfl
    simp only [reaches_on c hall]
    exact hway.comes_iff hfs hsep hword _ hat w₀
  · refine hway.closedTo_of_flat hflat hnames _ fun s hlast hcapacity hseparated => ?_
    have hlastStep : t.lastStep = s := by
      rw [Trace.lastStep, hsteps, List.getLastD_eq_getLast?, hlast]
      rfl
    unfold Trace.needsSeparator
    rw [hlastStep, hcapacity, hseparated]
    rfl

end

/-! ### a sample -/

def sampleInner : Value :=
  .routine ⟨"g", none, {}, none, .const (.dict [(.text "k", .int 5)]), none, [], none⟩

def sampleChain : Command where
  component := .routine ⟨"f", none, { args := ["a"], defaults := [.int 1] }, none,
    .const sampleInner, none, [.one .text []], none⟩
  words := []
  name := none
  program := "prog"

def sampleChained : Trace :=
  ((Trace.ofComponent sampleChain.component none "-").add
    (callStep sampleChain.component sampleInner ⟨[.int 1], [], [], [], true⟩)).add
    (callStep sampleInner (.dict [(.text "k", .int 5)]) ⟨[], [], [], [], false⟩)

/-- the command needs no separator for the second routine, and the word is taken by the first -/
theorem next_word_iff_sample :
    outcome ((sampleChain.on []).trace (Host.plain Unit)) ⟨"", "", ()⟩ =
        (.ok (sampleChained, {}), ⟨"", "", ()⟩) ∧ sampleChained.failed = false ∧
      sampleChained.command = .ok "" ∧ Text.shellWords "" = .ok [] ∧
      ¬ ∃ q w, (sampleChain.on ["k"]).Reaches (Host.plain Unit) ⟨"", "", ()⟩ q w ∧
        q.component = .dict [(.text "k", .int 5)] ∧ q.args = [.text "k"] := by
  have hrun : outcome ((sampleChain.on []).trace (Host.plain Unit)) ⟨"", "", ()⟩ =
      (.ok (sampleChained, {}), ⟨"", "", ()⟩) := rfl
  have hcommand : sampleChained.command = .ok "" := rfl
  have hcut : Text.shellWords "" = .ok [] := rfl
  obtain ⟨s, vs, hs, hvs, hiff, -⟩ := next_word_iff (plain_pure Unit) (plain_bounded Unit) sampleChain
    (fun s hs => absurd hs List.not_mem_nil) hrun rfl
  obtain rfl := Except.ok.inj (hcommand.symm.trans hs)
  obtain rfl : [] = vs := Except.ok.inj (hcut.symm.trans hvs)
  refine ⟨hrun, rfl, hcommand, hcut, fun hreaches => ?_⟩
  cases (hiff "k" rfl _).1 hreaches

end CommandLine
