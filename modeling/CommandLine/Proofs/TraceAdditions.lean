import CommandLine.Proofs.Replay
import CommandLine.Proofs.TraceShape

/-!
# Traces put together by additions

A trace grows by additions: a step, a failure, or a separator that is noted behind its last element.

* `Trace.sound`      the trace without its failures; its command, its result and its need for a separator
                     are those of the trace (`command_sound`, `lastStep_sound`, `needsSeparator_sound`);
* `Trace.healthy`    the additions without the failures, and without the separators that would only be
                     noted behind one;
* `Trace.Shadows`    two traces with the same sound trace, of which the second has grown by the healthy
                     additions alone; one addition keeps this, so a sequence does;
* `elementsOf`       the elements that additions make, from the first to the last; a separator is noted
                     at the element that it follows (`elements_after`).
-/

namespace CommandLine

/-- what can be added to a trace -/
inductive Addition where
  /-- an access, a call, an instance, a script or an interactive session -/
  | step (s : Step)
  | failure (parts args : List Value)
  | separator

def Addition.args : Addition → List Value
  | .step s => s.args
  | _ => []

def Trace.put (t : Trace) : Addition → Trace
  | .step s => t.add s
  | .failure parts args => t.fail parts args
  | .separator => t.mark

def Trace.after (t : Trace) (as : List Addition) : Trace := as.foldl Trace.put t

section
variable {t u : Trace}

theorem after_cons (t : Trace) (a : Addition) (as : List Addition) :
    t.after (a :: as) = (t.put a).after as := rfl

/-- a separator is noted behind the last element, unless that is a failure -/
theorem mark_cases (t : Trace) :
    (t.failed = true ∧ t.mark = t) ∨
    (t.failed = false ∧ t.later = [] ∧ t.mark = { t with first := { t.first with separated := true } }) ∨
    ∃ (u : Trace) (s : Step), t = u.add s ∧ t.mark = u.add { s with separated := true } := by
  obtain ⟨name, sep, first, later⟩ := t
  induction later using List.reverseRecOn with
  | nil => exact .inr (.inl ⟨rfl, rfl, rfl⟩)
  | append_singleton later e _ =>
    cases e with
    | step s => exact .inr (.inr ⟨⟨name, sep, first, later⟩, s, rfl, mark_add ⟨name, sep, first, later⟩ s⟩)
    | failure parts args =>
      refine .inl ⟨failed_fail ⟨name, sep, first, later⟩ parts args, ?_⟩
      simp [Trace.mark, TraceElement.mark]

/-! ## the trace without its failures -/

def Trace.sound (t : Trace) : Trace := { t with later := t.steps.map .step }

theorem steps_sound (t : Trace) : t.sound.steps = t.steps := by
  show (t.steps.map TraceElement.step).filterMap _ = t.steps
  rw [List.filterMap_map]
  exact List.filterMap_some

theorem lastStep_sound (t : Trace) : t.sound.lastStep = t.lastStep := by
  unfold Trace.lastStep
  rw [steps_sound]
  rfl

theorem needsSeparator_sound (t : Trace) : t.sound.needsSeparator = t.needsSeparator := by
  unfold Trace.needsSeparator
  rw [lastStep_sound]

theorem command_sound (t : Trace) : t.sound.command = t.command := by
  unfold Trace.command Trace.words
  rw [needsSeparator_sound, steps_sound]
  rfl

theorem steps_fail (t : Trace) (parts args : List Value) : (t.fail parts args).steps = t.steps := by
  simp [Trace.steps, Trace.fail]

theorem sound_fail (t : Trace) (parts args : List Value) : (t.fail parts args).sound = t.sound := by
  unfold Trace.sound
  rw [steps_fail]
  rfl

theorem sound_add (t : Trace) (s : Step) : (t.add s).sound = t.sound.add s := by
  unfold Trace.sound
  rw [steps_add, List.map_append]
  rfl

theorem sound_mark (h : t.failed = false) : t.mark.sound = t.sound.mark := by
  obtain ⟨hfailed, -⟩ | ⟨-, hlater, hmark⟩ | ⟨u, s, rfl, hmark⟩ := mark_cases t
  · rw [h] at hfailed
    cases hfailed
  · rw [hmark]
    obtain ⟨name, sep, first, later⟩ := t
    obtain rfl : later = [] := hlater
    rfl
  · rw [hmark, sound_add, sound_add, mark_add]

/-! ## additions that leave no mark on it -/

/-- does an addition leave the trace without its failures as it is? -/
def Addition.isLost (t : Trace) : Addition → Bool
  | .step _ => false
  | .failure .. => true
  | .separator => t.failed

/-- the additions without those that are lost -/
def Trace.healthy : Trace → List Addition → List Addition
  | _, [] => []
  | t, a :: as => if a.isLost t then (t.put a).healthy as else a :: (t.put a).healthy as

theorem sound_put_of_lost {a : Addition} (h : a.isLost t = true) : (t.put a).sound = t.sound := by
  cases a with
  | step s => cases h
  | failure parts args => exact sound_fail t parts args
  | separator =>
    obtain ⟨-, hmark⟩ | ⟨hfailed, -⟩ | ⟨u, s, rfl, -⟩ := mark_cases t
    · exact congrArg Trace.sound hmark
    · exact absurd h (Bool.eq_false_iff.1 hfailed)
    · exact absurd h (Bool.eq_false_iff.1 (failed_add u s))

theorem sound_put {a : Addition} (h : a.isLost t = false) : (t.put a).sound = t.sound.put a := by
  cases a with
  | step s => exact sound_add t s
  | failure parts args => cases h
  | separator => exact sound_mark h

/-- behind a lost addition, and only there, the trace ends with a failure -/
theorem failed_put (t : Trace) (a : Addition) : (t.put a).failed = a.isLost t := by
  cases a with
  | step s => exact failed_add t s
  | failure parts args => exact failed_fail t parts args
  | separator =>
    show t.mark.failed = t.failed
    obtain ⟨-, hmark⟩ | ⟨-, -, hmark⟩ | ⟨u, s, rfl, hmark⟩ := mark_cases t
    · rw [hmark]
    · rw [hmark]
      rfl
    · rw [hmark, failed_add, failed_add]

/-- two traces that differ in failures only, and go on alike: where a separator is noted in the first,
it is noted in the second -/
structure Trace.Shadows (u t : Trace) : Prop where
  sound : u.sound = t.sound
  failed : t.failed = false → u.failed = false

theorem Trace.Shadows.isLost (h : u.Shadows t) {a : Addition} (ha : a.isLost t = false) :
    a.isLost u = false := by
  cases a with
  | step s => rfl
  | failure parts args => cases ha
  | separator => exact h.failed ha

theorem Trace.Shadows.put (h : u.Shadows t) (a : Addition) :
    (if a.isLost t then u else u.put a).Shadows (t.put a) := by
  split
  · rename_i ha
    refine ⟨h.sound.trans (sound_put_of_lost ha).symm, fun hfailed => ?_⟩
    rw [failed_put, ha] at hfailed
    cases hfailed
  · rename_i ha
    have ha := Bool.eq_false_iff.2 ha
    refine ⟨?_, fun _ => (failed_put u a).trans (h.isLost ha)⟩
    rw [sound_put (h.isLost ha), sound_put ha, h.sound]

theorem Trace.Shadows.after (h : u.Shadows t) (as : List Addition) :
    (u.after (t.healthy as)).Shadows (t.after as) := by
  induction as generalizing t u with
  | nil => exact h
  | cons a as ih =>
    have hput := h.put a
    rw [after_cons, Trace.healthy]
    cases ha : a.isLost t with
    | true =>
      rw [ha] at hput
      exact ih hput
    | false =>
      rw [ha] at hput
      exact ih hput

end

/-- **Failures are invisible to the command and to the result.**  A trace that has grown by any sequence
of additions has the same command, the same result and the same need for a separator as the trace that
has grown by the same sequence without its failures, and without the separators that were noted while
the last element was a failure. -/
theorem failures_invisible (t : Trace) (as : List Addition) :
    (t.after as).command = (t.after (t.healthy as)).command ∧
    (t.after as).result = (t.after (t.healthy as)).result ∧
    (t.after as).needsSeparator = (t.after (t.healthy as)).needsSeparator := by
  have hsound : (t.after (t.healthy as)).sound = (t.after as).sound :=
    (Trace.Shadows.after ⟨rfl, id⟩ as).sound
  refine ⟨?_, ?_, ?_⟩
  · rw [← command_sound, ← hsound, command_sound]
  · unfold Trace.result
    rw [← lastStep_sound, ← hsound, lastStep_sound]
  · rw [← needsSeparator_sound, ← hsound, needsSeparator_sound]

/-! ## the words of the command -/

def TraceElement.words (sep : String) : TraceElement → List Value
  | .step s => s.args ++ if s.separated then [.text sep] else []
  | .failure .. => []

theorem flatMap_words (sep : String) (t : Trace) :
    t.later.flatMap (·.words sep) = wordsOf sep t.steps := by
  obtain ⟨name, sep', first, later⟩ := t
  induction later with
  | nil => rfl
  | cons e later ih =>
    dsimp only at ih ⊢
    rw [List.flatMap_cons, ih]
    cases e <;> rfl

theorem words_elements (t : Trace) :
    t.words = (nameWords t.name).map .text ++ t.elements.flatMap (·.words t.separator) ++
      closingWords t.separator (t.needsSeparator = some true) := by
  have helements : t.elements.flatMap (·.words t.separator) =
      Trace.stepWords t.separator t.first ++ wordsOf t.separator t.steps := by
    rw [Trace.elements, List.flatMap_cons, flatMap_words]
    rfl
  rw [words_eq, helements]

/-! ## the elements of a trace -/

/-- does a separator come first? -/
def startsSeparated : List Addition → Bool
  | .separator :: _ => true
  | _ => false

/-- the elements that additions make; a step is marked if a separator comes next -/
def elementsOf : List Addition → List TraceElement
  | [] => []
  | .step s :: as => .step { s with separated := s.separated || startsSeparated as } :: elementsOf as
  | .failure parts args :: as => .failure parts args :: elementsOf as
  | .separator :: as => elementsOf as

theorem mark_mark (t : Trace) : t.mark.mark = t.mark := by
  obtain ⟨-, hmark⟩ | ⟨-, hlater, hmark⟩ | ⟨u, s, rfl, hmark⟩ := mark_cases t
  · rw [hmark, hmark]
  · rw [hmark, Trace.mark, hlater]
    rfl
  · rw [hmark, mark_add]

theorem mark_fail (t : Trace) (parts args : List Value) :
    (t.fail parts args).mark = t.fail parts args := by
  simp [Trace.mark, Trace.fail, TraceElement.mark]

/-- what was there stays, up to a separator behind it, and the elements of the additions follow -/
theorem elements_after (t : Trace) (as : List Addition) :
    (t.after as).elements = (if startsSeparated as then t.mark else t).elements ++ elementsOf as := by
  induction as generalizing t with
  | nil => exact (List.append_nil _).symm
  | cons a as ih =>
    rw [after_cons, ih]
    cases a with
    | step s =>
      show _ = t.elements ++ ([_] ++ elementsOf as)
      rw [← List.append_assoc, ← elements_add, Trace.put]
      cases startsSeparated as with
      | true => rw [if_pos rfl, mark_add, Bool.or_true]
      | false => rw [if_neg Bool.false_ne_true, Bool.or_false]
    | failure parts args =>
      show _ = t.elements ++ ([_] ++ elementsOf as)
      rw [← List.append_assoc, ← elements_fail, Trace.put, mark_fail, ite_self]
    | separator =>
      show _ = t.mark.elements ++ elementsOf as
      rw [Trace.put, mark_mark, ite_self]

section
variable {t : Trace}

/-- a trace with texts for its arguments -/
def Trace.Worded (t : Trace) : Prop := ∀ s ∈ t.first :: t.steps, Texts s.args

theorem Trace.Worded.add (h : t.Worded) {s : Step} (hs : Texts s.args) : (t.add s).Worded := by
  unfold Trace.Worded
  rw [steps_add, ← List.cons_append]
  exact List.forall_mem_append.2 ⟨h, List.forall_mem_singleton.2 hs⟩

theorem Trace.Worded.put (h : t.Worded) {a : Addition} (ha : Texts a.args) : (t.put a).Worded := by
  cases a with
  | step s => exact h.add ha
  | failure parts args =>
    unfold Trace.Worded
    rw [Trace.put, steps_fail]
    exact h
  | separator =>
    show t.mark.Worded
    obtain ⟨-, hmark⟩ | ⟨-, -, hmark⟩ | ⟨u, s, rfl, hmark⟩ := mark_cases t
    · rw [hmark]
      exact h
    · rw [hmark]
      exact List.forall_mem_cons.2 (List.forall_mem_cons.1 h)
    · unfold Trace.Worded at h
      rw [steps_add, ← List.cons_append] at h
      obtain ⟨hu, hs⟩ := List.forall_mem_append.1 h
      rw [hmark]
      exact Trace.Worded.add (t := u) hu (hs s List.mem_cons_self)

theorem Trace.Worded.after (h : t.Worded) {as : List Addition} (has : ∀ a ∈ as, Texts a.args) :
    (t.after as).Worded := by
  induction as generalizing t with
  | nil => exact h
  | cons a as ih =>
    obtain ⟨ha, has⟩ := List.forall_mem_cons.1 has
    exact ih (h.put ha) has

theorem name_separator_put (t : Trace) (a : Addition) :
    (t.put a).name = t.name ∧ (t.put a).separator = t.separator := by
  cases a with
  | step s => exact ⟨rfl, rfl⟩
  | failure parts args => exact ⟨rfl, rfl⟩
  | separator =>
    show t.mark.name = t.name ∧ t.mark.separator = t.separator
    unfold Trace.mark
    split <;> exact ⟨rfl, rfl⟩

theorem name_separator_after (t : Trace) (as : List Addition) :
    (t.after as).name = t.name ∧ (t.after as).separator = t.separator := by
  induction as generalizing t with
  | nil => exact ⟨rfl, rfl⟩
  | cons a as ih =>
    obtain ⟨hname, hsep⟩ := name_separator_put t a
    rw [after_cons, ← hname, ← hsep]
    exact ih (t.put a)

end

/-- **The command of a trace is cut back into its steps.**  However a trace has grown, its arguments
being any texts, its command can be written, and a shell cuts it into the name, if there is one, the
arguments of each element that is no failure, with a separator where one is noted at the element, and a
last separator if the trace needs one.  The elements are the start and those of the additions. -/
theorem command_cut_back (component : Value) (name : Option String) (sep : String)
    {as : List Addition} (has : ∀ a ∈ as, Texts a.args) {t : Trace}
    (ht : t = (Trace.ofComponent component name sep).after as) :
    (∃ (c : String) (ws : List String), t.command = .ok c ∧ Text.shellWords c = .ok ws ∧
      ws.map .text = (nameWords name).map .text ++ t.elements.flatMap (·.words sep) ++
        closingWords sep (t.needsSeparator = some true)) ∧
    t.elements = .step { deed := .start, component, separated := startsSeparated as } ::
      elementsOf as := by
  constructor
  · obtain ⟨hname, hsep⟩ := name_separator_after (Trace.ofComponent component name sep) as
    have hstart : (Trace.ofComponent component name sep).Worded :=
      List.forall_mem_singleton.2 texts_nil
    obtain ⟨c, hc⟩ := command_of_texts (hstart.after has)
    obtain ⟨ws, hws, hquoted⟩ := bind_eq_ok.1 hc
    obtain rfl := Except.ok.inj hquoted
    refine ⟨_, ws, ht ▸ hc, Text.shellWords_quoted ws, ?_⟩
    rw [← eq_map_of_flagTexts hws, ← ht, words_elements, ht, hname, hsep]
    rfl
  · rw [ht, elements_after]
    cases startsSeparated as <;> rfl

def sampleAdditions : List Addition :=
  [ .step { deed := .called, component := .int 1, args := [.text "--a b=it's", .text ""]
            capacity := some true }
  , .separator
  , .failure [.text "no"] [.text "x"]
  , .separator
  , .step { deed := .called, component := .int 2, args := [.text "é \"="], capacity := some true } ]

theorem command_cut_back_sample :
    ∃ c, ((Trace.ofComponent .null (some "prog") "-").after sampleAdditions).command = .ok c ∧
      Text.shellWords c = .ok ["prog", "--a b=it's", "", "-", "é \"=", "-"] := by
  have htexts : ∀ a ∈ sampleAdditions, Texts a.args := by
    simp [sampleAdditions, Addition.args, Texts]
  obtain ⟨⟨c, ws, hc, hcut, hws⟩, -⟩ := command_cut_back .null (some "prog") "-" htexts rfl
  have hwords : ws = ["prog", "--a b=it's", "", "-", "é \"=", "-"] :=
    (List.map_inj_right fun _ _ h => Value.text.inj h).1 (hws.trans rfl)
  exact ⟨c, hc, hwords ▸ hcut⟩

end CommandLine
