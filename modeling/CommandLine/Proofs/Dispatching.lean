import CommandLine.Proofs.Clearing
import CommandLine.Proofs.Endings
import CommandLine.Proofs.FlagWords

/-!
# From the command line to the method

A program prepares its command class, and either prints the version or runs its command.  The command
makes the class from the flags among the first words, looks the method up under its name, and calls
it.

* `memberFor_method`     a public method of the class is found under its name;
* `leads_of_made`        once the class is made, the run comes to stand at the method;
* `Launch.ready`         the world in which the command line is ready;
* `launch_of_version`, `launch_of_words`   what the program does there.

`Launch.Calls` puts these together: the program runs its words, and comes to call a method with no
word for it.
-/

namespace CommandLine

open Binding

/-! ## members by name -/

theorem lookup_of_perm {α : Type} {xs ys : List (String × α)} (hperm : ys.Perm xs) {n : String}
    {v : α} (hmem : (n, v) ∈ xs) (hall : ∀ u, (n, u) ∈ xs → u = v) : ys.lookup n = some v := by
  cases hlookup : ys.lookup n with
  | none =>
    have hname : n ∈ ys.map (·.1) := List.mem_map.2 ⟨(n, v), hperm.mem_iff.2 hmem, rfl⟩
    rw [mem_names_iff_lookup, hlookup] at hname
    cases hname
  | some u => rw [hall u (hperm.mem_iff.1 (mem_of_lookup hlookup))]

theorem declared_fold (ms acc : List (String × Member)) (hacc : (acc.map (·.1)).Nodup) :
    ((ms.foldl (fun acc m => if (acc.lookup m.1).isSome then acc else acc ++ [m]) acc).map
      (·.1)).Nodup ∧
    ∀ n, (ms.foldl (fun acc m => if (acc.lookup m.1).isSome then acc else acc ++ [m]) acc).lookup n =
      (acc ++ ms).lookup n := by
  induction ms generalizing acc with
  | nil => exact ⟨hacc, fun n => by rw [List.append_nil]; rfl⟩
  | cons m ms ih =>
    rw [List.foldl_cons]
    cases hm : (acc.lookup m.1).isSome with
    | true =>
      obtain ⟨hnodup, hlookup⟩ := ih acc hacc
      refine ⟨hnodup, fun n => (hlookup n).trans ?_⟩
      rw [List.lookup_append, List.lookup_append, lookup_cons_name]
      by_cases hn : n = m.1
      · obtain ⟨u, hu⟩ := Option.isSome_iff_exists.1 hm
        rw [hn, hu]
        rfl
      · rw [if_neg hn]
    | false =>
      have hnot : m.1 ∉ acc.map (·.1) := by
        rw [mem_names_iff_lookup, hm]
        exact Bool.false_ne_true
      have hnodup : ((acc ++ [m]).map (·.1)).Nodup := by
        rw [List.map_append, List.nodup_append]
        refine ⟨hacc, List.nodup_cons.2 ⟨List.not_mem_nil, List.nodup_nil⟩, ?_⟩
        rintro a ha _ hb rfl
        have hname : a = m.1 := List.mem_singleton.1 hb
        exact hnot (hname ▸ ha)
      have hnext := ih (acc ++ [m]) hnodup
      rw [List.append_assoc, List.singleton_append] at hnext
      exact hnext

theorem lookup_members (cs : List Class) (n : String) :
    (cs.flatMap (·.members)).lookup n = cs.findSome? (·.members.lookup n) := by
  induction cs with
  | nil => rfl
  | cons c cs ih =>
    rw [List.flatMap_cons, List.lookup_append, ih, List.findSome?_cons]
    cases c.members.lookup n <;> rfl

theorem nodup_declared (c : Class) : (c.declared.map (·.1)).Nodup :=
  (declared_fold _ [] List.nodup_nil).1

theorem lookup_declared (c : Class) (n : String) : c.declared.lookup n = c.member? n := by
  refine ((declared_fold _ [] List.nodup_nil).2 n).trans ?_
  rw [List.nil_append, lookup_members]
  rfl

theorem not_isPublic_of_mem_privateNames {c : Class} {n : String} (h : n ∈ c.privateNames) :
    isPublic n = false := by
  unfold Class.privateNames at h
  split at h
  · rcases List.mem_append.1 h with h | h
    · exact not_isPublic_of_mem_objectNames n h
    · obtain rfl := List.mem_singleton.1 h
      decide
  · exact not_isPublic_of_mem_objectNames n h

theorem memberFor_object {c : Class} {n : String} {m : Member} (hn : isPublic n = true)
    (hm : c.member? n = some m) :
    memberFor (.object c []) (.text n) = .ok (some (m.ofInstance (.object c []))) := by
  have hall : (c.declared.filter fun d => (([] : List (String × Value)).lookup d.1).isNone) =
      c.declared := List.filter_eq_self.2 fun _ _ => rfl
  have hlookup : (Value.object c []).namedMembers.lookup n =
      some (m.ofInstance (.object c [])) := by
    unfold Value.namedMembers
    dsimp only
    rw [hall, List.nil_append]
    refine lookup_of_perm (List.mergeSort_perm _ _) (List.mem_append.2 (.inl ?_)) fun u hu => ?_
    · exact List.mem_map.2 ⟨(n, m), mem_of_lookup ((lookup_declared c n).trans hm), rfl⟩
    · rcases List.mem_append.1 hu with hu | hu
      · obtain ⟨d, hd, he⟩ := List.mem_map.1 hu
        obtain ⟨rfl, rfl⟩ := Prod.mk.inj he
        have hfound := lookup_of_mem (nodup_declared c) hd
        rw [lookup_declared, hm] at hfound
        rw [Option.some.inj hfound]
      · obtain ⟨k, hk, he⟩ := List.mem_map.1 hu
        obtain ⟨rfl, -⟩ := Prod.mk.inj he
        rw [not_isPublic_of_mem_privateNames (List.mem_filter.1 hk).1] at hn
        cases hn
  show Except.ok (((Value.object c []).namedMembers.lookup n).orElse _) = _
  rw [hlookup]
  rfl

/-! ## the methods of the command class -/

section
variable {form : Class} {n : String} {r : Routine}

/-- a member as the command class declares it -/
def Member.prepared (params : List String) (help : String) : Member → Member
  | .plain (.routine r) => .plain (.routine (r.prepared params help))
  | m => m

theorem members_prepared (form : Class) (params : List String) (help : String) :
    (form.asCommand.prepared params help).members =
      (form.members.filter fun m => isPublic m.1).map fun m => (m.1, m.2.prepared params help) := by
  refine List.map_congr_left fun m hm => ?_
  obtain ⟨k, m⟩ := m
  have hk : isPublic k = true := (List.mem_filter.1 hm).2
  cases m with
  | plain v =>
    cases v with
    | routine r =>
      show (k, if isPublic k then Member.plain (.routine (r.prepared params help)) else _) = _
      rw [if_pos hk]
      rfl
    | _ => rfl
  | _ => rfl

theorem lookup_prepared (form : Class) (params : List String) (help : String)
    (hn : isPublic n = true) :
    (form.asCommand.prepared params help).members.lookup n =
      (form.members.lookup n).map (Member.prepared params help) := by
  rw [members_prepared, lookup_map_values, lookup_filter_names isPublic _ hn]

theorem member?_prepared (params : List String) (help : String) (hn : isPublic n = true)
    (h : form.member? n = some (.plain (.routine r))) :
    ∃ r', (r' = r ∨ r' = r.prepared params help) ∧
      (form.asCommand.prepared params help).member? n = some (.plain (.routine r')) := by
  unfold Class.member? at h ⊢
  rw [lineage_prepared, List.findSome?_cons, lookup_prepared form params help hn]
  cases hown : form.members.lookup n with
  | none => exact ⟨r, .inl rfl, h⟩
  | some m =>
    rw [lineage_eq, List.findSome?_cons, hown] at h
    obtain rfl := Option.some.inj h
    exact ⟨r.prepared params help, .inr rfl, rfl⟩

theorem memberFor_method {l : Launch} (s : Settings) (hn : isPublic n = true)
    (h : l.form.member? n = some (.plain (.routine r))) (hr : r.receiver.isSome = true) :
    ∃ r', (r' = r ∨ r' = r.prepared s.params s.help) ∧
      memberFor (.object (l.commandClass s) []) (.text n) =
        .ok (some (.method (.object (l.commandClass s) []) r')) := by
  obtain ⟨r', hr', hmember⟩ := member?_prepared s.params s.help hn h
  have hreceiver : r'.receiver.isSome = true := by
    rcases hr' with rfl | rfl <;> exact hr
  refine ⟨r', hr', (memberFor_object hn hmember).trans ?_⟩
  show Except.ok (some (if r'.receiver.isSome then _ else _)) = _
  rw [if_pos hreceiver]
  rfl

end

/-! ## from the class to the method -/

section
variable {σ : Type} {host : Host σ} {fs : Flags} {p : Progress} {w w' : World σ} {c : Class}
  {before : List String} {behind : Option (List Value)} {command : String} {args : List Value}
  {t : Trace}

theorem made_of_flags (hc : c.IsCommand) (hleft : (Keywords.of [] true before).left = [command])
    {m : Move}
    (h : outcome ((Value.class c).moveByCall host (before.map .text)) w = (.ok m, w')) :
    ∃ step, m = .made (.object c []) step [.text command] := by
  rw [outcome_moveByCall_flags host hc] at h
  cases hflags : readFlags (Keywords.of [] true before).named with
  | error e =>
    rw [hflags] at h
    cases h
  | ok flags =>
    have hremaining : (flagBound before flags).remaining.map Value.text = [.text command] :=
      congrArg (List.map Value.text) hleft
    rw [hflags] at h
    obtain ⟨v, w₁, hv, hm⟩ := outcome_bind_eq_ok.1 h
    rw [instantiate_flags host hc] at hv
    split at hv
    · cases hv
    · obtain ⟨-, w₂, -, hv⟩ := outcome_bind_eq_ok.1 hv
      obtain rfl := Except.ok.inj (Prod.mk.inj hv).1
      obtain rfl := Except.ok.inj (Prod.mk.inj hm).1
      rw [hremaining]
      exact ⟨_, rfl⟩

variable (hfs : fs.shows = false) (hp : p.Stands (.class c) args t)
  (hsplit : splitAtSeparator fs.separator args = (before.map .text, behind))

include hfs hp hsplit

/-- once the class is made, the run comes to stand at the method, with what is behind the separator -/
theorem leads_of_made (hc : c.IsCommand) (hleft : (Keywords.of [] true before).left = [command])
    (hcommand : command ≠ fs.separator) {v : Value}
    (hmember : memberFor (.object c []) (.text command) = .ok (some v)) {m : Move}
    (h : outcome ((Value.class c).moveByCall host (before.map .text)) w = (.ok m, w')) :
    ∃ q, Leads host fs p w q w' ∧ q.component = v ∧
      (splitAtSeparator fs.separator q.args).1 = [] := by
  have hmove : outcome (p.component.move host (before.map .text)) w = (.ok m, w') := by
    rw [hp.component]
    exact h
  obtain ⟨step, rfl⟩ := made_of_flags hc hleft h
  have hjoin : joinBehind fs.separator p.component.isCallable (p.movesOn step) p.tupled
      [.text command] behind = .ok (.text command :: behindSeparator fs.separator behind) := by
    rw [hp.component, hp.tupled]
    exact (joinBehind_call _ _ _ _).trans (congrArg _ (behindCall_cons _ _ _ _))
  obtain ⟨q, hafter, hcomponent, hargs, -, htupled⟩ := after_made (.object c []) step hjoin
  have hround : outcome (p.round host fs) w = (.ok (.again q), w') := by
    rw [outcome_round_of_ok (not_shown hfs) (hp.args ▸ hsplit) hmove, hafter]
  have hstands : q.Stands (.object c []) (.text command :: behindSeparator fs.separator behind)
      q.trace := by
    refine ⟨hcomponent, hargs, rfl, ?_⟩
    rw [htupled, hp.tupled]
    rfl
  have haccess : ∀ rest, (Value.object c []).moveByAccess (.text command) rest =
      .ok (.made v { accessStep v (.text command) (.text command) with
        file := v.place.1
        line := v.place.2.map Int.ofNat } rest) := by
    intro rest
    show (memberFor (.object c []) (.text command) >>= _) = _
    rw [hmember]
    rfl
  have hword : (Value.text command).isText fs.separator = false :=
    Bool.eq_false_iff.2 fun e => hcommand (Value.text.inj (isText_iff.1 e))
  obtain ⟨q', hround', hstands'⟩ := outcome_round_access host w' hfs rfl hstands hword haccess
  refine ⟨q', .again hround (.again hround' (.refl _ _)), hstands'.component, ?_⟩
  have hbehind : splitAtSeparator fs.separator ([] ++ behindSeparator fs.separator behind) =
      ([], behind) := splitAtSeparator_behind (fun x hx => absurd hx List.not_mem_nil) behind
  rw [List.nil_append] at hbehind
  rw [hstands'.args, hbehind]

theorem ends_of_unmade {e : Error}
    (h : outcome ((Value.class c).moveByCall host (before.map .text)) w = (.error e, w')) :
    outcome (p.run host fs) w = (.error e, w') := by
  have hmove : outcome (p.component.move host (before.map .text)) w = (.error e, w') := by
    rw [hp.component]
    exact h
  rw [outcome_run]
  exact outcome_rounds_of_error (outcome_round_of_error (not_shown hfs) (hp.args ▸ hsplit) hmove)

end

/-! ## starting a program -/

/-- a program whose class can be prepared, with the command line that this gives -/
structure Launch.Prepares (l : Launch) (w : World Session) (s : Settings) (line : List Value) :
    Prop where
  active : l.idle = false
  registered : w.state.registry.schema = .settings s
  names : checkParamNames s.fields = .ok ()
  methods : checkMethods s.params (l.form.asCommand.methods.map (·.2)) = .ok ()
  line : flaggedLine s.params (l.argv ++ pipedWords l.argv l.input) = .ok line

/-- the world in which the class is prepared: the parameters are announced, and the class and the
command line are registered -/
def Launch.ready (l : Launch) (s : Settings) (line : List Value) (w : World Session) :
    World Session :=
  { w with
    out := w.out ++ (paramsText s.params ++ "\n")
    state := ({ l.registered w.state with argv := line } : Session).register "generated"
      (.class (l.commandClass s)) }

section
variable {l : Launch} {w : World Session} {s : Settings} {line : List Value}

theorem outcome_launch_ready (h : l.Prepares w s line) (p : Program) :
    outcome (launch p l) w = outcome (reporting p.failureTable (l.command p (l.commandClass s)) >>=
      fun _ => pure (.class l.form.asCommand)) (l.ready s line w) := by
  have hprepare : outcome (l.prepare p l.form.asCommand)
      { w with state := l.registered w.state } =
        outcome (reporting p.failureTable (l.command p (l.commandClass s))) (l.ready s line w) := by
    have hregistered : ({ w with state := l.registered w.state } :
        World Session).state.registry.schema = .settings s := h.registered
    unfold Launch.prepare
    rw [outcome_bind_of_ok (outcome_registeredSettings hregistered)]
    show outcome (liftM (checkParamNames s.fields) >>= _) _ = _
    rw [h.names]
    show outcome (liftM (flaggedLine s.params (l.argv ++ pipedWords l.argv l.input)) >>= _) _ = _
    rw [h.line]
    show outcome (liftM (checkMethods s.params (l.form.asCommand.methods.map (·.2))) >>= _) _ = _
    rw [h.methods]
    rfl
  rw [outcome_launch h.active, outcome_bind, outcome_bind, hprepare]

theorem launch_of_version (h : l.Prepares w s line) (p : Program)
    (hversion : asksForVersion line = true) {v : Value} (hv : s.get versionName = .ok v) :
    outcome (launch p l) w = (.ok (.class l.form.asCommand),
      { l.ready s line w with out := (l.ready s line w).out ++ (v.plain ++ "\n") }) := by
  have hregistered : (l.ready s line w).state.registry.schema = .settings s := h.registered
  have hcommand : outcome (l.command p (l.commandClass s)) (l.ready s line w) = (.ok (),
      { l.ready s line w with out := (l.ready s line w).out ++ (v.plain ++ "\n") }) := by
    unfold Launch.command
    rw [outcome_bind_of_ok (outcome_getState _)]
    show outcome (if asksForVersion line = true then _ else _) _ = _
    rw [if_pos hversion, outcome_bind_of_ok (outcome_registeredSettings hregistered)]
    show outcome (liftM (s.get versionName) >>= _) _ = _
    rw [hv]
    rfl
  rw [outcome_launch_ready h p, outcome_bind]
  unfold reporting
  rw [outcome_tryCatch, hcommand]
  rfl

end

def programText (program : String) : String := (Text.splitAtChar '/' program).getLastD ""

/-- words without flags of the command line itself are walked, and what they come to is shown -/
theorem runCommand_words {σ : Type} (host : Host σ) (context : List (String × Value)) (c : Class)
    (program : String) {words : List String}
    (hmark : "--" ∉ words) (hlast : ∀ x ∈ words.getLast?, x ≠ "-h" ∧ x ≠ "--help") :
    runCommand host ((program :: words).map .text) context (.class c) .null none =
      (Progress.start {} (some (programText program)) (.class c) (words.map .text)).walk host {}
        context >>= fun t => t.present {} := by
  have hsplit : splitFlags (words.map .text) false =
      .ok ⟨words.map .text, [], words.map .text⟩ := by
    have hne : ∀ x t : String, x ≠ t → (Value.text x).isText t = false := fun x t h =>
      Bool.eq_false_iff.2 fun e => h (Value.text.inj (isText_iff.1 e))
    refine splitFlags_unmarked (fun v hv => ?_) fun v hv => ?_
    · obtain ⟨x, hx, rfl⟩ := List.mem_map.1 hv
      exact hne x _ fun e => hmark (e ▸ hx)
    · rw [List.getLast?_map] at hv
      obtain ⟨x, hx, rfl⟩ := Option.map_eq_some_iff.1 hv
      obtain ⟨hshort, hlong⟩ := hlast x hx
      exact ⟨hne _ _ hshort, hne _ _ hlong⟩
  have hrun : runCommand host ((program :: words).map .text) context (.class c) .null none =
      (liftM (splitFlags (words.map .text) false) >>= fun _ => Command.trace host
        ⟨.class c, words.map .text, false, context, some (programText program),
          programText program⟩ >>= fun x => x.1.present x.2) := rfl
  have htrace : Command.trace host ⟨.class c, words.map .text, false, context,
      some (programText program), programText program⟩ =
        (Progress.start {} (some (programText program)) (.class c) (words.map .text)).walk host {}
          context >>= fun t => pure (t, {}) := by
    unfold Command.trace
    simp only [hsplit]
    rfl
  rw [hrun, hsplit, htrace]
  simp only [bind_assoc, pure_bind]
  rfl

/-- where the run of a command starts that is given words and no flags of the command line itself -/
def Launch.start (l : Launch) (s : Settings) (program : String) (words : List String) : Progress :=
  .start {} (some (programText program)) (.class (l.commandClass s)) (words.map .text)

/-- the run of the words in the world where they are ready: their rounds, and then what they come
to -/
def Launch.runWords (l : Launch) (p : Program) (s : Settings) (program : String)
    (words : List String) (state : Session) : Run Session Unit := do
  let t ← (l.start s program words).walk (l.host p state) {}
    (p.atHand ++ [("cls", .class (l.commandClass s)), ("schema", .null)])
  let _ ← t.present {}

section
variable {l : Launch} {w : World Session} {s : Settings} {program : String} {words : List String}

theorem launch_of_words (h : l.Prepares w s ((program :: words).map .text)) (p : Program)
    (hversion : asksForVersion ((program :: words).map .text) = false)
    (hmark : "--" ∉ words) (hlast : ∀ x ∈ words.getLast?, x ≠ "-h" ∧ x ≠ "--help") :
    outcome (launch p l) w =
      outcome (reporting p.failureTable (l.runWords p s program words
          (l.ready s ((program :: words).map .text) w).state) >>=
        fun _ => pure (.class l.form.asCommand)) (l.ready s ((program :: words).map .text) w) := by
  have hcommand : outcome (l.command p (l.commandClass s))
      (l.ready s ((program :: words).map .text) w) =
        outcome (l.runWords p s program words (l.ready s ((program :: words).map .text) w).state)
          (l.ready s ((program :: words).map .text) w) := by
    unfold Launch.command
    rw [outcome_bind_of_ok (outcome_getState _)]
    show outcome (if asksForVersion ((program :: words).map .text) = true then _ else _) _ = _
    rw [hversion, if_neg Bool.false_ne_true]
    rw [show (l.ready s ((program :: words).map .text) w).state.argv =
      (program :: words).map .text from rfl, runCommand_words _ _ _ _ hmark hlast]
    simp only [Launch.runWords, bind_assoc]
    rfl
  rw [outcome_launch_ready h p, outcome_bind, outcome_bind]
  unfold reporting
  rw [outcome_tryCatch, outcome_tryCatch, hcommand]

end

/-- a program that runs a command: it is not asked for the version, it is given no flags of the
command line itself, and up to the first separator its words are the command and flags -/
structure Launch.Commands (l : Launch) (w : World Session) (s : Settings) (program : String)
    (words before : List String) (command : String) : Prop where
  prepares : l.Prepares w s ((program :: words).map .text)
  undecorated : l.form.allDecorations = []
  not_version : asksForVersion ((program :: words).map .text) = false
  unmarked : "--" ∉ words
  not_help : ∀ x ∈ words.getLast?, x ≠ "-h" ∧ x ≠ "--help"
  front : (splitAtSeparator "-" (words.map .text)).1 = before.map .text
  left : (Keywords.of [] true before).left = [command]
  command_ne : command ≠ "-"

/-- the making of the command class from words, in the world where the command line is ready -/
def Launch.making (l : Launch) (p : Program) (w : World Session) (s : Settings) (program : String)
    (words before : List String) : Except Error Move × World Session :=
  let w₁ := l.ready s ((program :: words).map .text) w
  outcome ((Value.class (l.commandClass s)).moveByCall (l.host p w₁.state) (before.map .text)) w₁

/-- a program runs its words, and comes to call a value in the world `w'`, with no word for it -/
structure Launch.Calls (l : Launch) (p : Program) (w : World Session) (s : Settings)
    (program : String) (words : List String) (v : Value) (w' : World Session) : Prop where
  runs : outcome (launch p l) w =
    outcome (reporting p.failureTable (l.runWords p s program words
        (l.ready s ((program :: words).map .text) w).state) >>=
      fun _ => pure (.class l.form.asCommand)) (l.ready s ((program :: words).map .text) w)
  leads : ∃ q, Leads (l.host p (l.ready s ((program :: words).map .text) w).state) {}
      (l.start s program words) (l.ready s ((program :: words).map .text) w) q w' ∧
    q.component = v ∧ (splitAtSeparator "-" q.args).1 = []

section
variable {l : Launch} {p : Program} {w w' : World Session} {s : Settings} {program : String}
  {words before : List String} {command : String}

theorem Launch.Commands.calls (x : l.Commands w s program words before command) {v : Value}
    (hmember : memberFor (.object (l.commandClass s) []) (.text command) = .ok (some v)) {m : Move}
    (h : l.making p w s program words before = (.ok m, w')) :
    l.Calls p w s program words v w' where
  runs := launch_of_words x.prepares p x.not_version x.unmarked x.not_help
  leads := leads_of_made rfl (start_stands _ _ _ _) (Prod.ext x.front rfl)
    (isCommand_prepared x.undecorated _ _) x.left x.command_ne hmember h

theorem Launch.Commands.fails (x : l.Commands w s program words before command) {e : Error}
    (h : l.making p w s program words before = (.error e, w')) :
    outcome (launch p l) w = outcome (reporting p.failureTable (throw e : Run Session Unit) >>=
      fun _ => pure (.class l.form.asCommand)) w' := by
  have hrun : outcome ((l.start s program words).run
      (l.host p (l.ready s ((program :: words).map .text) w).state) {})
        (l.ready s ((program :: words).map .text) w) = (.error e, w') :=
    ends_of_unmade rfl (start_stands _ _ _ _) (Prod.ext x.front rfl) h
  have hwords : outcome (l.runWords p s program words
      (l.ready s ((program :: words).map .text) w).state)
        (l.ready s ((program :: words).map .text) w) = (.error e, w') := by
    unfold Launch.runWords
    rw [walk_eq _ rfl]
    exact outcome_bind_of_error (outcome_bind_of_error hrun)
  rw [launch_of_words x.prepares p x.not_version x.unmarked x.not_help, outcome_bind, outcome_bind]
  unfold reporting
  rw [outcome_tryCatch, outcome_tryCatch, hwords, outcome_throw]

end

end CommandLine
