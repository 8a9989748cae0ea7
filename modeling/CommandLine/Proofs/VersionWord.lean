import CommandLine.Proofs.Dispatching
import CommandLine.Proofs.MarkedLine

/-!
# The word that asks for the version

`program command value … --field value …` gives fields their values, the first ones in the order of
the parameters.  Once every value has the flag of its parameter in front of it, the command line ends
with the last value, or with the command if there is none (`getLast?_paired`), and this word alone
says whether the version is printed or the command is run.  So a value `version` in the last place
keeps the command from being run, while the same value in any other place does not
(`version_word_decides`).

Whatever the values are, the words in front of the first separator are the command and flags
(`groups_of_front`), so the run comes to the method as soon as the command class is made.
-/

namespace CommandLine

open Binding

/-! ## the words of the command line -/

theorem paired_take_append {ps vs : List String} (h : vs.length ≤ ps.length) (fs ts : List String) :
    paired (ps.take vs.length ++ fs) (vs ++ ts) = paired ps vs ++ paired fs ts := by
  induction vs generalizing ps with
  | nil =>
    have hnil : paired ps [] = [] := by cases ps <;> rfl
    rw [hnil]
    rfl
  | cons v vs ih =>
    cases ps with
    | nil => cases h
    | cons p ps =>
      have hrest := ih (Nat.le_of_succ_le_succ h)
      show _ :: _ :: paired (ps.take vs.length ++ fs) (vs ++ ts) = _
      rw [hrest]
      rfl

theorem getLast?_paired {ps ws : List String} (h : ps.length = ws.length) (x : String) :
    (x :: paired ps ws).getLast? = (x :: ws).getLast? := by
  induction ws generalizing ps x with
  | nil =>
    obtain rfl := List.length_eq_zero_iff.1 h
    rfl
  | cons w ws ih =>
    cases ps with
    | nil => cases h
    | cons p ps =>
      show (x :: ("--" ++ p) :: w :: paired ps ws).getLast? = (x :: w :: ws).getLast?
      rw [List.getLast?_cons_cons, List.getLast?_cons_cons, List.getLast?_cons_cons,
        ih (Nat.succ.inj h)]

theorem mem_paired_of_mem {ps ws : List String} (h : ps.length = ws.length) {w : String}
    (hw : w ∈ ws) : w ∈ paired ps ws := by
  induction ws generalizing ps with
  | nil => cases hw
  | cons v ws ih =>
    cases ps with
    | nil => cases h
    | cons p ps =>
      show w ∈ ("--" ++ p) :: v :: paired ps ws
      rcases List.mem_cons.1 hw with rfl | hw
      · exact List.mem_cons_of_mem _ List.mem_cons_self
      · exact List.mem_cons_of_mem _ (List.mem_cons_of_mem _ (ih (Nat.succ.inj h) hw))

theorem groups_of_front {ps ws front : List String} (hps : ∀ p ∈ ps, IsPlainName p)
    (hws : ∀ w ∈ ws, isFlag w = false) (h : front <+: paired ps ws) :
    ∀ g ∈ groups front, g.isSingle = false := by
  induction ws generalizing ps front with
  | nil =>
    have hnil : paired ps [] = [] := by cases ps <;> rfl
    rw [hnil, List.prefix_nil] at h
    subst h
    exact fun g hg => absurd hg List.not_mem_nil
  | cons w ws ih =>
    cases ps with
    | nil =>
      obtain rfl := List.prefix_nil.1 h
      exact fun g hg => absurd hg List.not_mem_nil
    | cons p ps =>
      rw [List.forall_mem_cons] at hps hws
      cases front with
      | nil => exact fun g hg => absurd hg List.not_mem_nil
      | cons a front =>
        obtain ⟨rfl, hfront⟩ := List.cons_prefix_cons.1 h
        cases front with
        | nil =>
          rw [groups_bare hps.1.no_equals (fun b hb => by cases hb)]
          exact List.forall_mem_cons.2 ⟨rfl, fun g hg => absurd hg List.not_mem_nil⟩
        | cons b front =>
          obtain ⟨rfl, hrest⟩ := List.cons_prefix_cons.1 hfront
          rw [groups_next hps.1.no_equals hws.1]
          exact List.forall_mem_cons.2 ⟨rfl, ih hps.2 hws.2 hrest⟩

/-- a component that takes every flag leaves the word in front of them -/
theorem left_of_flags {command : String} {front : List String} (hcommand : isFlag command = false)
    (h : ∀ g ∈ groups front, g.isSingle = false) :
    (Keywords.of [] true (command :: front)).left = [command] := by
  have hsingle : (groups front).filter Group.isSingle = [] :=
    List.filter_eq_nil_iff.2 fun g hg => Bool.eq_false_iff.1 (h g hg)
  have hunknown : (groups front).filter (Group.unknown [] true) = [] := by
    refine List.filter_eq_nil_iff.2 fun g hg => ?_
    cases g with
    | single a => cases h _ hg
    | flag name value => exact Bool.false_ne_true
  rw [left_of, groups_single hcommand, List.filter_cons_of_pos rfl, hsingle,
    List.filter_cons_of_neg Bool.false_ne_true, hunknown]
  rfl

theorem splitAtSeparator_words (sep : String) (words : List String) :
    (splitAtSeparator sep (words.map .text)).1 = (words.takeWhile (· ≠ sep)).map .text := by
  induction words with
  | nil => rfl
  | cons x words ih =>
    by_cases hx : x = sep
    · subst hx
      rw [List.map_cons, splitAtSeparator_separator, List.takeWhile_cons_of_neg (by simp)]
      rfl
    · have hword : (Value.text x).isText sep = false :=
        Bool.eq_false_iff.2 fun e => hx (Value.text.inj (isText_iff.1 e))
      rw [List.map_cons, splitAtSeparator_cons hword, List.takeWhile_cons_of_pos (by simpa using hx),
        List.map_cons, ih]

theorem endsWords_flag {p : String} (hp : IsPlainName p) : endsWords (.text ("--" ++ p)) = true := by
  have hlist : ("--" ++ p).toList.reverse = p.toList.reverse ++ ['-', '-'] := by
    rw [String.toList_append, List.reverse_append]
    rfl
  have hends : Text.endsWith "--" ("--" ++ p) = false := by
    show ['-', '-'].isPrefixOf ("--" ++ p).toList.reverse = false
    rw [hlist]
    cases hcs : p.toList.reverse with
    | nil =>
      have hempty : p.toList = [] := List.reverse_eq_nil_iff.1 hcs
      exact absurd (String.toList_eq_nil_iff.1 hempty) hp.ne_empty
    | cons c cs =>
      have hc : c ∈ p.toList := List.mem_reverse.1 (hcs ▸ List.mem_cons_self)
      have hne : ('-' == c) = false := beq_false_of_ne fun e => hp.no_dash (e ▸ hc)
      show (('-' == c) && _) = false
      rw [hne, Bool.false_and]
  show (isFlag ("--" ++ p) && !Text.endsWith "--" ("--" ++ p)) = true
  rw [isFlag_dashes, hends]
  rfl

theorem ne_of_isWord {command t : String} (h : Text.isWord command.toList = true)
    (ht : '-' ∈ t.toList) : command ≠ t := by
  rintro rfl
  exact not_mem_of_isWord h (by decide) (by decide) ht

theorem not_isFlag_of_isWord {command : String} (h : Text.isWord command.toList = true) :
    isFlag command = false := by
  refine Bool.eq_false_iff.2 fun hflag => ?_
  obtain ⟨cs, hcs⟩ := List.isPrefixOf_iff_prefix.1 hflag
  exact ne_of_isWord h (hcs ▸ List.mem_cons_self) rfl

/-! ## a command line that gives values -/

/-- the command line of a program gives fields their values: the first parameters in their order, and
other ones under their names -/
structure Launch.GivesValues (l : Launch) (w : World Session) (s : Settings)
    (program command : String) (vals fields texts : List String) : Prop where
  active : l.idle = false
  undecorated : l.form.allDecorations = []
  registered : w.state.registry.schema = .settings s
  names : checkParamNames s.fields = .ok ()
  methods : checkMethods s.params (l.form.asCommand.methods.map (·.2)) = .ok ()
  line : l.argv ++ pipedWords l.argv l.input =
    (program :: command :: (vals ++ paired fields texts)).map .text
  not_help : asksForHelp ((program :: command :: (vals ++ paired fields texts)).map .text) = false
  word : Text.isWord command.toList = true
  known : ∀ f ∈ fields, f ∈ s.params
  length : fields.length = texts.length
  values : ∀ t ∈ vals ++ texts, isFlag t = false
  /-- there is a parameter for each value, and one to look at where the names begin -/
  room : vals.length + (if fields = [] then 0 else 1) ≤ s.params.length

/-- the words of the command, each value with the flag of its field -/
def Settings.wordsFor (s : Settings) (command : String) (vals fields texts : List String) :
    List String :=
  command :: paired (s.params.take vals.length ++ fields) (vals ++ texts)

namespace Launch.GivesValues

variable {l : Launch} {w : World Session} {s : Settings} {program command : String}
  {vals fields texts : List String} (x : l.GivesValues w s program command vals fields texts)

include x

theorem plain_name {p : String} (hp : p ∈ s.params.take vals.length ++ fields) : IsPlainName p := by
  refine isPlainName_of_isParamName (isParamName_of_mem x.names ?_)
  rcases List.mem_append.1 hp with hp | hp
  · exact List.mem_of_mem_take hp
  · exact x.known p hp

theorem length_names : (s.params.take vals.length ++ fields).length = (vals ++ texts).length := by
  have hroom := x.room
  rw [List.length_append, List.length_append, List.length_take, x.length]
  omega

theorem wordsFor_eq : s.wordsFor command vals fields texts =
    command :: (paired s.params vals ++ paired fields texts) := by
  unfold Settings.wordsFor
  rw [paired_take_append (Nat.le_trans (Nat.le_add_right _ _) x.room)]

theorem flagWords_fields :
    flagWords (s.params.drop vals.length) ((paired fields texts).map .text) =
      .ok ((paired fields texts).map .text) := by
  cases hfields : fields with
  | nil => cases s.params.drop vals.length <;> rfl
  | cons f fs =>
    obtain ⟨t, ts, rfl⟩ : ∃ t ts, texts = t :: ts := by
      refine List.exists_cons_of_length_pos ?_
      rw [← x.length, hfields]
      exact Nat.succ_pos _
    obtain ⟨p, ps, hp⟩ : ∃ p ps, s.params.drop vals.length = p :: ps := by
      have hroom := x.room
      rw [hfields, if_neg (List.cons_ne_nil f fs)] at hroom
      refine List.exists_cons_of_length_pos ?_
      rw [List.length_drop]
      omega
    have hflag : endsWords (.text ("--" ++ f)) = true := by
      refine endsWords_flag (x.plain_name (List.mem_append.2 (.inr ?_)))
      rw [hfields]
      exact List.mem_cons_self
    rw [hp]
    show flagWords (p :: ps) (.text ("--" ++ f) :: .text t :: (paired fs ts).map .text) = _
    rw [flagWords, if_pos hflag]
    rfl

theorem flaggedLine_eq : flaggedLine s.params (l.argv ++ pipedWords l.argv l.input) =
    .ok ((program :: s.wordsFor command vals fields texts).map .text) := by
  have hvals : ∀ v ∈ vals, endsWords (.text v) = false := by
    intro v hv
    show (isFlag v && _) = false
    rw [x.values v (List.mem_append.2 (.inl hv)), Bool.false_and]
  have hroom : vals.length ≤ s.params.length := Nat.le_trans (Nat.le_add_right _ _) x.room
  have hwords : flagWords s.params ((vals ++ paired fields texts).map .text) =
      .ok ((paired s.params vals ++ paired fields texts).map .text) := by
    rw [List.map_append, flagWords_words hvals hroom, x.flagWords_fields, List.map_append]
    rfl
  rw [x.line, x.wordsFor_eq]
  unfold flaggedLine
  rw [x.not_help, Bool.or_false]
  split
  · -- nothing stands behind the command
    rename_i hshort
    have hnil : vals ++ paired fields texts = [] := by
      refine List.length_eq_zero_iff.1 ?_
      simp only [List.length_map, List.length_cons, decide_eq_true_eq] at hshort
      omega
    obtain ⟨rfl, hfields⟩ := List.append_eq_nil_iff.1 hnil
    have hparams : paired s.params [] = [] := by cases s.params <;> rfl
    rw [hfields, hparams]
    rfl
  · show (flagWords s.params ((vals ++ paired fields texts).map .text) >>= _) = _
    rw [hwords]
    rfl

theorem getLast?_words : (s.wordsFor command vals fields texts).getLast? =
    some ((vals ++ texts).getLast?.getD command) := by
  unfold Settings.wordsFor
  rw [getLast?_paired x.length_names, List.getLast?_cons]

theorem prepares : l.Prepares w s ((program :: s.wordsFor command vals fields texts).map .text) :=
  ⟨x.active, x.registered, x.names, x.methods, x.flaggedLine_eq⟩

/-- the last word alone asks for the version -/
theorem asksForVersion_iff :
    asksForVersion ((program :: s.wordsFor command vals fields texts).map .text) = true ↔
      (vals ++ texts).getLast?.getD command = versionName := by
  have hlast : ((program :: s.wordsFor command vals fields texts).map Value.text).getLast? =
      some (.text ((vals ++ texts).getLast?.getD command)) := by
    rw [List.getLast?_map, List.getLast?_cons, x.getLast?_words]
    rfl
  have hlength : 1 < ((program :: s.wordsFor command vals fields texts).map Value.text).length := by
    rw [List.length_map]
    exact Nat.succ_lt_succ (Nat.succ_pos _)
  unfold asksForVersion
  rw [hlast, Option.any_some, decide_eq_true hlength, Bool.true_and, isText_iff, Value.text.injEq]

theorem value_ne_help {t : String} (ht : t ∈ vals ++ texts) : t ≠ "-h" ∧ t ≠ "--help" := by
  refine ⟨?_, ?_⟩
  · rintro rfl
    have hmem : Value.text "-h" ∈
        (program :: command :: (vals ++ paired fields texts)).map Value.text := by
      refine List.mem_map.2 ⟨"-h", List.mem_cons_of_mem _ (List.mem_cons_of_mem _ ?_), rfl⟩
      rcases List.mem_append.1 ht with ht | ht
      · exact List.mem_append.2 (.inl ht)
      · exact List.mem_append.2 (.inr (mem_paired_of_mem x.length ht))
    have hasks := List.any_eq_false.1 x.not_help _ hmem
    exact hasks rfl
  · rintro rfl
    cases x.values "--help" ht

theorem commands (hversion : (vals ++ texts).getLast?.getD command ≠ versionName) :
    l.Commands w s program (s.wordsFor command vals fields texts)
      ((s.wordsFor command vals fields texts).takeWhile (· ≠ "-")) command where
  prepares := x.prepares
  undecorated := x.undecorated
  not_version := Bool.eq_false_iff.2 fun h => hversion (x.asksForVersion_iff.1 h)
  unmarked := by
    have hvalues : "--" ∉ vals ++ texts := fun h => by cases x.values "--" h
    have hpaired := not_mem_paired (fun p hp => x.plain_name hp) hvalues
    rw [Settings.wordsFor, List.mem_cons, not_or]
    exact ⟨(ne_of_isWord x.word (by decide)).symm, hpaired⟩
  not_help := by
    intro y hy
    rw [x.getLast?_words] at hy
    obtain rfl := Option.some.inj hy
    cases hlast : (vals ++ texts).getLast? with
    | none => exact ⟨ne_of_isWord x.word (by decide), ne_of_isWord x.word (by decide)⟩
    | some t => exact x.value_ne_help (List.mem_of_getLast? hlast)
  front := splitAtSeparator_words _ _
  left := by
    have hcommand : decide (command ≠ "-") = true := decide_eq_true (ne_of_isWord x.word (by decide))
    rw [Settings.wordsFor, List.takeWhile_cons_of_pos (p := fun y => decide (y ≠ "-")) hcommand]
    exact left_of_flags (not_isFlag_of_isWord x.word)
      (groups_of_front (fun p hp => x.plain_name hp) x.values (List.takeWhile_prefix _))
  command_ne := ne_of_isWord x.word (by decide)

end Launch.GivesValues

/-- **Which word decides.**  A command line gives values to fields.  If the last value is `version`,
the version is printed and nothing is called.  Otherwise the command is run: if the values let the
command class be made, the method is called, and if not, the error of the making is reported. -/
theorem version_word_decides {l : Launch} {p : Program} {w : World Session} {s : Settings}
    {program command : String} {vals fields texts : List String} {r : Routine}
    (x : l.GivesValues w s program command vals fields texts) (hpublic : isPublic command = true)
    (hcommand : command ≠ versionName)
    (hmethod : l.form.member? command = some (.plain (.routine r)))
    (hreceiver : r.receiver.isSome = true) :
    let words := s.wordsFor command vals fields texts
    let ready := l.ready s ((program :: words).map .text) w
    let making := l.making p w s program words (words.takeWhile (· ≠ "-"))
    ((vals ++ texts).getLast? = some versionName → ∀ v, s.get versionName = .ok v →
      outcome (launch p l) w = (.ok (.class l.form.asCommand),
        { ready with out := ready.out ++ (v.plain ++ "\n") })) ∧
    ((vals ++ texts).getLast? ≠ some versionName →
      ∃ r', (r' = r ∨ r' = r.prepared s.params s.help) ∧
        (∀ m w', making = (.ok m, w') →
          l.Calls p w s program words (.method (.object (l.commandClass s) []) r') w') ∧
        (∀ e w', making = (.error e, w') →
          outcome (launch p l) w = outcome (reporting p.failureTable (throw e : Run Session Unit) >>=
            fun _ => pure (.class l.form.asCommand)) w')) := by
  refine ⟨fun hlast v hv => ?_, fun hlast => ?_⟩
  · refine launch_of_version x.prepares p (x.asksForVersion_iff.2 ?_) hv
    rw [hlast]
    rfl
  · have hversion : (vals ++ texts).getLast?.getD command ≠ versionName := by
      cases h : (vals ++ texts).getLast? with
      | none => exact hcommand
      | some t =>
        rintro rfl
        exact hlast h
    obtain ⟨r', hr', hmember⟩ := memberFor_method s hpublic hmethod hreceiver
    refine ⟨r', hr', fun m w' hmade => ?_, fun e w' hmade => ?_⟩
    · exact (x.commands hversion).calls hmember hmade
    · exact (x.commands hversion).fails hmade

def sampleMethod : Routine where
  name := "run"
  receiver := some "self"
  signature := {}
  doc := none
  body := .const .null
  place := none
  decorations := []
  announced := none

def sampleRun (words : List String) : Launch :=
  ⟨{ markerClass "Commands" with members := [("run", .plain (.routine sampleMethod))] },
    ("prog" :: "run" :: words).map .text, none, false⟩

def sampleTextFields : Layer := [("x", .text "a"), ("y", .text "b"), (versionName, .text "1.2")]

def sampleTexts : Settings := sampleSettings [("x", .text), ("y", .text)] sampleTextFields

def sampleTextsWorld : World Session := sampleSession [("x", .text), ("y", .text)] sampleTextFields

theorem sampleRun_givesValues {vals : List String} (hvals : ∀ t ∈ vals, isFlag t = false)
    (hhelp : asksForHelp (("prog" :: "run" :: vals).map .text) = false)
    (hroom : vals.length ≤ sampleTexts.params.length) :
    (sampleRun vals).GivesValues sampleTextsWorld sampleTexts "prog" "run" vals [] [] where
  active := rfl
  undecorated := rfl
  registered := rfl
  names := (exists_of_isOk (by decide +kernel)).choose_spec
  methods := rfl
  line := by
    show ("prog" :: "run" :: vals).map Value.text ++ [] =
      ("prog" :: "run" :: (vals ++ [])).map Value.text
    rw [List.append_nil, List.append_nil]
  not_help := by
    show asksForHelp (("prog" :: "run" :: (vals ++ [])).map Value.text) = false
    rw [List.append_nil]
    exact hhelp
  word := by decide
  known := fun f hf => absurd hf List.not_mem_nil
  length := rfl
  values := by
    rw [List.append_nil]
    exact hvals
  room := hroom

def sampleEmpty : Program := sampleProgram [] [("a.cfg", "[Clima]\n")]

/-- given to the last field, the text `version` prints the version; given to one before it, the method
is called -/
theorem version_word_decides_sample :
    (∃ w', outcome (launch sampleEmpty (sampleRun ["version"])) sampleTextsWorld =
        (.ok (.class (sampleRun ["version"]).form.asCommand), w') ∧
      w'.out = paramsText sampleTexts.params ++ "\n" ++ "1.2\n") ∧
    ∃ r w', (sampleRun ["version", "b"]).Calls sampleEmpty sampleTextsWorld sampleTexts "prog"
      ["run", "--x", "version", "--y", "b"]
      (.method (.object ((sampleRun ["version", "b"]).commandClass sampleTexts) []) r) w' := by
  have hparams : sampleTexts.params = ["x", "y", "version", "cwd", "CFG"] := by decide +kernel
  refine ⟨?_, ?_⟩
  · have hgives : (sampleRun ["version"]).GivesValues sampleTextsWorld sampleTexts "prog" "run"
        ["version"] [] [] :=
      sampleRun_givesValues (by decide) (by decide) (by rw [hparams]; decide)
    have hversion : sampleTexts.get versionName = .ok (.text "1.2") := rfl
    have hprints := (version_word_decides (p := sampleEmpty) (r := sampleMethod) hgives (by decide)
      (by decide) rfl rfl).1 rfl _ hversion
    refine ⟨_, hprints, ?_⟩
    show "" ++ (paramsText sampleTexts.params ++ "\n") ++ "1.2\n" = _
    rw [String.empty_append]
  · have hgives : (sampleRun ["version", "b"]).GivesValues sampleTextsWorld sampleTexts "prog" "run"
        ["version", "b"] [] [] :=
      sampleRun_givesValues (by decide) (by decide) (by rw [hparams]; decide)
    have hwords : sampleTexts.wordsFor "run" ["version", "b"] [] [] =
        ["run", "--x", "version", "--y", "b"] := by
      unfold Settings.wordsFor
      rw [hparams]
      rfl
    have hruns := (version_word_decides (p := sampleEmpty) (r := sampleMethod) hgives (by decide)
      (by decide) rfl rfl).2 (by decide)
    rw [hwords] at hruns
    obtain ⟨r, -, hcalls, -⟩ := hruns
    have hmade : ((sampleRun ["version", "b"]).making sampleEmpty sampleTextsWorld sampleTexts "prog"
        ["run", "--x", "version", "--y", "b"] (["run", "--x", "version", "--y", "b"].takeWhile
          (· ≠ "-"))).1.isOk = true := by decide +kernel
    cases hmaking : (sampleRun ["version", "b"]).making sampleEmpty sampleTextsWorld sampleTexts
        "prog" ["run", "--x", "version", "--y", "b"] (["run", "--x", "version", "--y", "b"].takeWhile
          (· ≠ "-")) with
    | mk y w' =>
      rw [hmaking] at hmade
      cases y with
      | error e => cases hmade
      | ok m => exact ⟨r, w', hcalls m w' hmaking⟩

end CommandLine
