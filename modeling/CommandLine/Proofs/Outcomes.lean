import CommandLine.Proofs.SingleLines
import CommandLine.Proofs.TraceShape

/-!
# The outcome of a command

What a command comes to is read off the last element of its trace and two flags: it leaves the program
with code 2 or with code 0, or it gives its result (`outcome_present`).  Nothing else can come between,
since the help of a component that a command has led to can always be laid out (`help_of_command`).
-/

namespace CommandLine

open Binding

section
variable {σ : Type} {host : Host σ} {fs : Flags} {w : World σ} {t : Trace}

/-! ## help -/

theorem append_ne_empty {a b : String} (h : a ≠ "" ∨ b ≠ "") : a ++ b ≠ "" := by
  intro hab
  have hlength := congrArg String.length hab
  rw [String.length_append, String.length_empty] at hlength
  obtain ha | hb := h
  · exact ha (String.length_eq_zero_iff.1 (by omega))
  · exact hb (String.length_eq_zero_iff.1 (by omega))

theorem joinWith_cons_ne_empty {x : String} (hx : x ≠ "") (sep : String) (xs : List String) :
    Text.joinWith sep (x :: xs) ≠ "" := by
  cases xs with
  | nil => exact hx
  | cons y ys => exact append_ne_empty (.inl (append_ne_empty (.inl hx)))

theorem usage_ne_empty (v : Value) (command : String) (verbose : Bool) :
    v.usage (some command) verbose ≠ "" := by
  have hlead : command ++ " " ≠ "" := append_ne_empty (.inr (by decide))
  unfold Value.usage
  dsimp only
  split
  · exact append_ne_empty (.inr (by decide))
  · split
    · split
      · exact hlead
      · exact append_ne_empty (.inl hlead)
      · exact append_ne_empty (.inl (append_ne_empty (.inl (append_ne_empty (.inl hlead)))))
    · split
      · exact hlead
      · exact append_ne_empty (.inl hlead)
      · exact append_ne_empty (.inl (append_ne_empty (.inl (append_ne_empty (.inl hlead)))))
    · exact joinWith_cons_ne_empty (append_ne_empty (.inl hlead)) _ _

/-- help can be laid out for every component that a command has led to -/
theorem help_of_command (v : Value) (command : String) (verbose : Bool) :
    ∃ s, v.help (some command) verbose = .ok s := by
  have husage : (HelpField.usage, v.usage (some command) verbose) ∈
      (helpFields v.info (v.usage (some command) verbose)).filter fun f => f.2 ≠ "" :=
    List.mem_filter.2 ⟨List.mem_cons_self, decide_eq_true (usage_ne_empty v command verbose)⟩
  unfold Value.help helpLayout
  dsimp only
  split
  · rename_i hnone
    rw [List.max?_eq_none_iff, List.map_eq_nil_iff] at hnone
    rw [hnone] at husage
    exact absurd husage List.not_mem_nil
  · exact ⟨_, rfl⟩

theorem help_of_texts (h : ∀ s ∈ t.first :: t.steps, Texts s.args) (verbose : Bool) :
    ∃ s, t.help verbose = .ok s := by
  obtain ⟨c, hc⟩ := command_of_texts h
  obtain ⟨s, hs⟩ := help_of_command t.result c verbose
  refine ⟨s, ?_⟩
  unfold Trace.help
  rw [hc]
  exact hs

/-! ## the outcome of a command -/

/-- what a command comes to: code 2 for a failure, code 0 if help or the trace were asked for, and
otherwise the result -/
def Trace.verdict (t : Trace) (fs : Flags) : Except Error Value :=
  if t.failed then .error (.commandExit 2 t.text)
  else if fs.help || fs.trace then .error (.commandExit 0 t.text)
  else .ok t.result

/-- only the printing of a result can get in the way -/
theorem outcome_present (htexts : ∀ s ∈ t.first :: t.steps, Texts s.args)
    (hprint : t.failed = false → fs.help = false → fs.trace = false →
      ∃ s, t.resultText? fs.verbose = .ok s) (w : World σ) :
    ∃ w', outcome (t.present fs : Run σ Value) w = (t.verdict fs, w') := by
  obtain ⟨c, hc⟩ := command_of_texts htexts
  obtain ⟨h, hh⟩ := help_of_texts htexts fs.verbose
  unfold Trace.present Trace.verdict
  rw [hh, hc]
  cases hfailed : t.failed with
  | true => cases t.failedAskingHelp <;> exact ⟨_, rfl⟩
  | false =>
    cases htrace : fs.trace with
    | true => cases fs.help <;> exact ⟨_, rfl⟩
    | false =>
      cases hhelp : fs.help with
      | true => exact ⟨_, rfl⟩
      | false =>
        obtain ⟨s, hs⟩ := hprint hfailed hhelp htrace
        obtain ⟨w', hw'⟩ := printResult_of_resultText hs w
        exact ⟨w', outcome_bind_of_ok hw'⟩

theorem texts_of_splitFlags {words : List Value} {tupled : Bool} {split : Separated Value}
    (hwords : Texts words) (h : splitFlags words tupled = .ok split) : Texts split.args := by
  unfold splitFlags at h
  split at h
  · cases h
  · obtain rfl := Except.ok.inj h
    have hgiven : Texts (if asksHelp Value.isText words then
        words.dropLast ++ [.text "--", .text "-h"] else words) := by
      split
      · exact texts_append.2 ⟨hwords.subset fun v hv => (List.dropLast_sublist _).subset hv,
          texts_map ["--", "-h"]⟩
      · exact hwords
    unfold separateBy
    dsimp only
    rcases splitLast_cases (fun x : Value => x.isText "--") _ with ⟨hsplit, -⟩ | ⟨a, m, b, hsplit, hab, -⟩
    · rw [hsplit]
      exact hgiven
    · rw [hsplit]
      exact hgiven.subset fun v hv => hab ▸ List.mem_append_left _ hv

theorem runCommand_eq {c : Command} {argv : List Value} {name : Option String}
    (hprogram : programName argv = .ok c.program) (hlist : c.tupled = false)
    (hname : c.name = some (if name.getD "" = "" then c.program else name.getD "")) :
    runCommand host argv c.context c.component (.list c.words) name = c.run host := by
  obtain ⟨component, words, tupled, context, name', program⟩ := c
  obtain rfl : tupled = false := hlist
  obtain rfl : name' = some (if name.getD "" = "" then program else name.getD "") := hname
  unfold runCommand
  rw [show programName argv = .ok program from hprogram]
  cases name with
  | none => rfl
  | some n =>
    by_cases hn : n = ""
    · subst hn
      rfl
    · simp only [Option.getD_some, if_neg hn]
      rfl

end

/-- **The shape of every trace and the outcome of every command.**  A command that is given texts and
comes to a trace has made calls and accesses; behind them stands either a single failure or what the
flags have asked for, and the result is that of the last step.  It leaves the program with code 2
exactly if the trace ends in a failure, with code 0 exactly if it does not and help or the trace was
asked for, and otherwise gives the result, unless the result cannot be printed. -/
theorem command_outcome {σ : Type} {host : Host σ} {c : Command} {words : List String}
    (hwords : c.words = words.map .text) {t : Trace} {fs : Flags} {w w' : World σ}
    (h : outcome (c.trace host) w = (.ok (t, fs), w'))
    (hprint : t.failed = false → fs.help = false → fs.trace = false →
      ∃ s, t.resultText? fs.verbose = .ok s) :
    t.Shaped fs c.initial ∧
    (∃ front s back, t.elements = front ++ .step s :: back ∧ (∀ e ∈ back, e.isFailure = true) ∧
      t.result = s.component) ∧
    (t.failed = true ↔ ∃ front parts args, t.elements = front ++ [.failure parts args]) ∧
    (∃ w'', outcome (c.run host) w = (t.verdict fs, w'')) ∧
    ∀ argv name, programName argv = .ok c.program → c.tupled = false →
      c.name = some (if name.getD "" = "" then c.program else name.getD "") →
      runCommand host argv c.context c.component (.list c.words) name = c.run host := by
  have hshaped : t.Shaped fs c.initial := by
    obtain ⟨split, hsplit, h⟩ := outcome_liftM_bind_eq_ok.1 h
    obtain ⟨switches, -, h⟩ := outcome_liftM_bind_eq_ok.1 h
    have htexts := texts_of_splitFlags (hwords ▸ texts_map words) hsplit
    cases hread : Flags.read switches with
    | error e =>
      rw [hread] at h
      cases h
    | ok read =>
      rw [hread] at h
      obtain ⟨t', w₁, hwalk, hlast⟩ := outcome_bind_eq_ok.1 h
      obtain ⟨hpair, -⟩ := Prod.mk.inj hlast
      obtain ⟨rfl, rfl⟩ := Prod.mk.inj (Except.ok.inj hpair)
      exact shaped_of_walk htexts ⟨rfl, rfl, rfl⟩ hwalk
  refine ⟨hshaped, ?_, failed_iff t, ?_, ?_⟩
  · obtain ⟨front, s, back, helements, hback, hlast⟩ := exists_lastStep t
    exact ⟨front, s, back, helements, hback, congrArg Step.component hlast⟩
  · obtain ⟨w'', hw''⟩ := outcome_present (texts_of_shaped hshaped) hprint w'
    exact ⟨w'', (outcome_bind_of_ok h).trans hw''⟩
  · intro argv name hprogram hlist hname
    exact runCommand_eq hprogram hlist hname

def sampleOutcome (words : List String) : Command where
  component := .list [.int 4, .int 5]
  words := words.map .text
  name := some "prog"
  program := "prog"

/-- an index that is out of range ends the trace with a failure, and the program with code 2 although
the trace was asked for; an index in range gives the number -/
theorem command_outcome_sample :
    (∃ (t : Trace) (w : World Unit), t.failed = true ∧
      outcome ((sampleOutcome ["7", "--", "--trace"]).run (Host.plain Unit)) ⟨"", "", ()⟩ =
        (.error (.commandExit 2 t.text), w)) ∧
    ∃ w, outcome ((sampleOutcome ["1"]).run (Host.plain Unit)) ⟨"", "", ()⟩ = (.ok (.int 5), w) := by
  constructor
  · obtain ⟨t, fs, w, h, hfailed⟩ : ∃ t fs w, outcome ((sampleOutcome ["7", "--", "--trace"]).trace
        (Host.plain Unit)) ⟨"", "", ()⟩ = (.ok (t, fs), w) ∧ t.failed = true := ⟨_, _, _, rfl, rfl⟩
    obtain ⟨-, -, -, ⟨w', hrun⟩, -⟩ := command_outcome rfl h
      fun hno => absurd hfailed (Bool.eq_false_iff.1 hno)
    refine ⟨t, w', hfailed, ?_⟩
    rw [hrun, Trace.verdict, if_pos hfailed]
  · obtain ⟨t, w, h, hfailed, hresult, s, hs⟩ : ∃ t w, outcome ((sampleOutcome ["1"]).trace
        (Host.plain Unit)) ⟨"", "", ()⟩ = (.ok (t, {}), w) ∧ t.failed = false ∧
        t.result = .int 5 ∧ ∃ s, t.resultText? false = .ok s :=
      ⟨_, _, rfl, rfl, rfl, _, rfl⟩
    obtain ⟨-, -, -, ⟨w', hrun⟩, -⟩ := command_outcome rfl h fun _ _ _ => ⟨s, hs⟩
    refine ⟨w', ?_⟩
    rw [hrun, Trace.verdict, hfailed, hresult]
    rfl

end CommandLine
