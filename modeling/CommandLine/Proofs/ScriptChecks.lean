import CommandLine.Proofs.Trimming
import CommandLine.Show.Script
import Mathlib.Data.List.Nodup

/-!
# The checks of a completion script

A script is put together from offers, which grow by one word behind one start at a time.  `Offers.From`
says what they hold when they have come from a list of such pairs: each start once, and behind it the
words always on offer and those of its own pairs, each once.  One more pair keeps this
(`Offers.From.add`), so it holds of all the commands (`from_commands`), each of which brings two pairs:
the starts in its two spellings.
-/

namespace CommandLine

/-! ## texts -/

theorem mem_sort {w : String} {ws : List String} : w ∈ Text.sort ws ↔ w ∈ ws := List.mem_mergeSort

/-- words without repetition are in strict order when they are sorted -/
theorem sort_strict {ws : List String} (h : ws.Nodup) : (Text.sort ws).Pairwise (· < ·) := by
  have hle : (Text.sort ws).Pairwise fun a b => Text.le a b = true := by
    refine List.pairwise_mergeSort (fun a b c hab hbc => ?_) (fun a b => ?_) ws
    · exact decide_eq_true (String.le_trans (of_decide_eq_true hab) (of_decide_eq_true hbc))
    · rcases String.le_total a b with hab | hba
      · exact Bool.or_eq_true_iff.2 (.inl (decide_eq_true hab))
      · exact Bool.or_eq_true_iff.2 (.inr (decide_eq_true hba))
  have hne : (Text.sort ws).Nodup := (List.mergeSort_perm ws _).nodup_iff.2 h
  refine hle.imp₂ (fun a b hab hne => ?_) hne
  exact String.not_le.1 fun hba => hne (String.le_antisymm (of_decide_eq_true hab) hba)

theorem commandStart_concat (name : String) (front : List String) (last : String) :
    commandStart name (front ++ [last]) = Text.trim (Text.joinWith " " (name :: front)) := by
  unfold commandStart
  rw [List.dropLast_concat]
  cases front with
  | nil =>
    show Text.trim (name ++ " " ++ "") = Text.trim name
    rw [String.append_empty, trim_append_blanks isBlankText_space]
  | cons w front => rfl

/-! ## offers -/

def withWord (ws : List String) (w : String) : List String := if ws.contains w then ws else ws ++ [w]

section
variable {always ws : List String} {w start x : String}

theorem mem_withWord : x ∈ withWord ws w ↔ x ∈ ws ∨ x = w := by
  unfold withWord
  split
  · rename_i hw
    refine ⟨.inl, fun hx => hx.elim id ?_⟩
    rintro rfl
    exact List.contains_iff_mem.1 hw
  · rw [List.mem_append, List.mem_singleton]

theorem nodup_withWord (h : ws.Nodup) : (withWord ws w).Nodup := by
  unfold withWord
  split
  · exact h
  · rename_i hw
    rw [← List.concat_eq_append]
    exact h.concat fun hmem => hw (List.contains_iff_mem.2 hmem)

variable {o : Offers} {c : String × List String}

theorem starts_add (always : List String) (start w : String) (o : Offers) :
    (o.add always start w).map Prod.fst =
      if start ∈ o.map Prod.fst then o.map Prod.fst else o.map Prod.fst ++ [start] := by
  induction o with
  | nil => rfl
  | cons c o ih =>
    obtain ⟨s, ws⟩ := c
    rw [Offers.add]
    by_cases hs : s = start
    · subst hs
      rw [if_pos rfl, List.map_cons, List.map_cons, if_pos List.mem_cons_self]
    · have hmem : start ∈ s :: o.map Prod.fst ↔ start ∈ o.map Prod.fst := by
        rw [List.mem_cons, or_iff_right fun h => hs h.symm]
      rw [if_neg hs, List.map_cons, List.map_cons, ih]
      simp only [hmem]
      split <;> rfl

/-- what is offered behind other starts stays as it is; a start that comes up begins with the words
always on offer -/
theorem mem_add (ho : (o.map Prod.fst).Nodup) (hc : c ∈ o.add always start w) :
    (c ∈ o ∧ c.1 ≠ start) ∨ ∃ ws, c = (start, withWord ws w) ∧
      ((start, ws) ∈ o ∨ start ∉ o.map Prod.fst ∧ ws = always) := by
  induction o with
  | nil =>
    exact .inr ⟨always, List.mem_singleton.1 hc, .inr ⟨List.not_mem_nil, rfl⟩⟩
  | cons d o ih =>
    obtain ⟨s, ws⟩ := d
    obtain ⟨hnew, ho⟩ := List.nodup_cons.1 ho
    rw [Offers.add] at hc
    split at hc
    · rename_i hs
      subst hs
      rcases List.mem_cons.1 hc with rfl | hc
      · exact .inr ⟨ws, rfl, .inl List.mem_cons_self⟩
      · have hmem : c.1 ∈ o.map Prod.fst := List.mem_map_of_mem hc
        exact .inl ⟨List.mem_cons_of_mem _ hc, fun hs => hnew (hs ▸ hmem)⟩
    · rename_i hs
      rcases List.mem_cons.1 hc with rfl | hc
      · exact .inl ⟨List.mem_cons_self, hs⟩
      · obtain ⟨hmem, hne⟩ | ⟨us, rfl, hus⟩ := ih ho hc
        · exact .inl ⟨List.mem_cons_of_mem _ hmem, hne⟩
        · refine .inr ⟨us, rfl, hus.imp (List.mem_cons_of_mem _) fun hus => ⟨?_, hus.2⟩⟩
          exact List.not_mem_cons_of_ne_of_not_mem (Ne.symm hs) hus.1

/-- what offers hold that have come from pairs of a start and a word -/
structure Offers.From (always : List String) (pairs : List (String × String)) (o : Offers) : Prop where
  nodup : (o.map Prod.fst).Nodup
  starts : ∀ s, s ∈ o.map Prod.fst ↔ s ∈ pairs.map Prod.fst
  words_nodup : ∀ c ∈ o, c.2.Nodup
  words : ∀ c ∈ o, ∀ w, w ∈ c.2 ↔ w ∈ always ∨ (c.1, w) ∈ pairs

theorem Offers.From.add (halways : always.Nodup) {pairs : List (String × String)}
    (h : o.From always pairs) (start w : String) :
    (o.add always start w).From always (pairs ++ [(start, w)]) where
  nodup := by
    rw [starts_add]
    split
    · exact h.nodup
    · rename_i hnew
      rw [← List.concat_eq_append]
      exact h.nodup.concat hnew
  starts s := by
    rw [starts_add, List.map_append, List.mem_append, ← h.starts]
    split
    · rename_i hold
      refine ⟨.inl, fun hs => hs.elim id fun hs => ?_⟩
      exact List.mem_singleton.1 hs ▸ hold
    · rw [List.mem_append]
      rfl
  words_nodup c hc := by
    obtain ⟨hc, -⟩ | ⟨ws, rfl, hws | ⟨-, rfl⟩⟩ := mem_add h.nodup hc
    · exact h.words_nodup c hc
    · exact nodup_withWord (h.words_nodup _ hws)
    · exact nodup_withWord halways
  words c hc x := by
    rw [List.mem_append, List.mem_singleton, ← or_assoc]
    obtain ⟨hc, hne⟩ | ⟨ws, rfl, hws⟩ := mem_add h.nodup hc
    · rw [h.words c hc x, or_iff_left fun hx => hne (congrArg Prod.fst hx)]
    · have hold : x ∈ ws ↔ x ∈ always ∨ (start, x) ∈ pairs := by
        obtain hws | ⟨hnew, rfl⟩ := hws
        · exact h.words _ hws x
        · refine (or_iff_left fun hx => hnew ?_).symm
          exact (h.starts start).2 (List.mem_map_of_mem hx)
      rw [mem_withWord, hold, Prod.mk.injEq, and_iff_right rfl]

end

/-! ## commands -/

/-- the pairs that a command brings: its last word behind its start, in both spellings -/
def pairsOf (name : String) (command : List String) : List (String × String) :=
  [ (commandStart name command, commandWord (command.getLastD ""))
  , (Text.replaceChar '_' '-' (commandStart name command), commandWord (command.getLastD "")) ]

theorem from_commands {always : List String} (halways : always.Nodup) (name : String)
    (commands : List (List String)) :
    (Offers.of name always commands).From always (commands.flatMap (pairsOf name)) := by
  have hfold : ∀ {pairs : List (String × String)} {o : Offers}, o.From always pairs →
      (commands.foldl (Offers.addCommand name always) o).From always
        (pairs ++ commands.flatMap (pairsOf name)) := by
    induction commands with
    | nil =>
      intro pairs o h
      rw [List.flatMap_nil, List.append_nil]
      exact h
    | cons command commands ih =>
      intro pairs o h
      have hcommand : (o.addCommand name always command).From always
          (pairs ++ pairsOf name command) := by
        rw [pairsOf, List.append_cons]
        exact (h.add halways _ _).add halways _ _
      rw [List.flatMap_cons, ← List.append_assoc]
      exact ih hcommand
  have hnil : Offers.From always [] [] := ⟨List.nodup_nil, fun s => Iff.rfl,
    fun c hc => absurd hc List.not_mem_nil, fun c hc => absurd hc List.not_mem_nil⟩
  exact hfold hnil

/-- is `s` the start of a command with these words before its last one, in one of the two spellings? -/
def IsStart (name : String) (front : List String) (s : String) : Prop :=
  s = Text.trim (Text.joinWith " " (name :: front)) ∨
    s = Text.replaceChar '_' '-' (Text.trim (Text.joinWith " " (name :: front)))

theorem mem_pairsOf {name s w : String} {commands : List (List String)}
    (hcommands : ∀ c ∈ commands, c ≠ []) :
    (s, w) ∈ commands.flatMap (pairsOf name) ↔ ∃ front last, front ++ [last] ∈ commands ∧
      IsStart name front s ∧ w = commandWord last := by
  have hpairs : ∀ front last, (s, w) ∈ pairsOf name (front ++ [last]) ↔
      IsStart name front s ∧ w = commandWord last := by
    intro front last
    rw [pairsOf, commandStart_concat, List.getLastD_concat]
    simp only [List.mem_cons, Prod.mk.injEq, List.not_mem_nil, or_false, ← or_and_right]
    rfl
  rw [List.mem_flatMap]
  constructor
  · rintro ⟨c, hc, hmem⟩
    have hsplit := List.dropLast_concat_getLast (hcommands c hc)
    refine ⟨c.dropLast, c.getLast (hcommands c hc), hsplit.symm ▸ hc, (hpairs _ _).1 ?_⟩
    rw [hsplit]
    exact hmem
  · rintro ⟨front, last, hc, hmem⟩
    exact ⟨_, hc, (hpairs front last).2 hmem⟩

/-! ## scripts -/

/-- a start with its words as its check has them -/
def sortedOffer (c : String × List String) : String × List String := (c.1, Text.sort c.2)

theorem scriptOf_eq (name : String) (commands : List (List String)) (always : List String) :
    scriptOf name commands always = scriptHead name always ++
      Text.joinWith "\n" (((Offers.of name always commands).map sortedOffer).map fun c =>
        "\n  if [[ \"$start\" == \"" ++ c.1 ++ "\" ]] ; then\n    opts=\"" ++ Text.joinWith " " c.2 ++
          "\"\n  fi") ++ scriptTail name := by
  rw [List.map_map]
  rfl

/-- **A completion script offers exactly the commands.**  Between its head, which offers the words always
on offer as they were given, and its tail, the script has one check for each start of a command in each of
its two spellings, and no other.  A check compares with its start and sets the words on offer, which are
sorted and without repetition: those always on offer, and the last words of the commands that have this
start in one of the spellings. -/
theorem script_offers_commands (name : String) {commands : List (List String)}
    (hcommands : ∀ c ∈ commands, c ≠ []) {always : List String} (halways : always.Nodup) :
    ∃ checks : List (String × List String),
      scriptOf name commands always = scriptHead name always ++
        Text.joinWith "\n" (checks.map fun c => "\n  if [[ \"$start\" == \"" ++ c.1 ++ "\" ]] ; then\n    opts=\"" ++
          Text.joinWith " " c.2 ++ "\"\n  fi") ++ scriptTail name ∧
      (checks.map Prod.fst).Nodup ∧
      (∀ s, s ∈ checks.map Prod.fst ↔
        ∃ front last, front ++ [last] ∈ commands ∧ IsStart name front s) ∧
      ∀ c ∈ checks, c.2.Pairwise (· < ·) ∧ ∀ w, w ∈ c.2 ↔ w ∈ always ∨
        ∃ front last, front ++ [last] ∈ commands ∧ IsStart name front c.1 ∧ w = commandWord last := by
  have hfrom := from_commands halways name commands
  have hstarts : ((Offers.of name always commands).map sortedOffer).map Prod.fst =
      (Offers.of name always commands).map Prod.fst := by
    rw [List.map_map]
    rfl
  refine ⟨(Offers.of name always commands).map sortedOffer, scriptOf_eq name commands always, ?_,
    fun s => ?_, fun c hc => ?_⟩
  · rw [hstarts]
    exact hfrom.nodup
  · rw [hstarts, hfrom.starts, List.mem_map]
    constructor
    · rintro ⟨⟨s, w⟩, hmem, rfl⟩
      obtain ⟨front, last, hc, hstart, -⟩ := (mem_pairsOf hcommands).1 hmem
      exact ⟨front, last, hc, hstart⟩
    · rintro ⟨front, last, hc, hstart⟩
      exact ⟨(s, commandWord last), (mem_pairsOf hcommands).2 ⟨front, last, hc, hstart, rfl⟩, rfl⟩
  · obtain ⟨c, hmem, rfl⟩ := List.mem_map.1 hc
    refine ⟨sort_strict (hfrom.words_nodup c hmem), fun w => ?_⟩
    rw [sortedOffer, mem_sort, hfrom.words c hmem, mem_pairsOf hcommands]

/-- three commands, two of which have one start when dashes stand for underscores -/
def sampleCommands : List (List String) := [["a_b", "c"], ["a-b", "d_e"], ["x"]]

def sampleScript : String :=
  "# bash completion support for my_prog\n" ++
  "# DO NOT EDIT.\n" ++
  "# This script is autogenerated by fire/completion.py.\n\n" ++
  "_complete-my_prog()\n" ++
  "\x7b\n" ++
  "  local start cur opts\n" ++
  "  COMPREPLY=()\n" ++
  "  start=\"$\x7bCOMP_WORDS[@]:0:COMP_CWORD\x7d\"\n" ++
  "  cur=\"$\x7bCOMP_WORDS[COMP_CWORD]\x7d\"\n\n" ++
  "  opts=\"--all\"\n\n" ++
  "\n  if [[ \"$start\" == \"my_prog a_b\" ]] ; then\n    opts=\"--all c\"\n  fi\n" ++
  "\n  if [[ \"$start\" == \"my-prog a-b\" ]] ; then\n    opts=\"--all c d-e\"\n  fi\n" ++
  "\n  if [[ \"$start\" == \"my_prog a-b\" ]] ; then\n    opts=\"--all d-e\"\n  fi\n" ++
  "\n  if [[ \"$start\" == \"my_prog\" ]] ; then\n    opts=\"--all x\"\n  fi\n" ++
  "\n  if [[ \"$start\" == \"my-prog\" ]] ; then\n    opts=\"--all x\"\n  fi\n\n" ++
  "  COMPREPLY=( $(compgen -W \"$\x7bopts\x7d\" -- $\x7bcur\x7d) )\n" ++
  "  return 0\n" ++
  "\x7d\n\n" ++
  "complete -F _complete-my_prog my_prog\n"

theorem script_offers_commands_sample :
    scriptOf "my_prog" sampleCommands ["--all"] = sampleScript ∧
    ∃ checks : List (String × List String),
      sampleScript = scriptHead "my_prog" ["--all"] ++
        Text.joinWith "\n" (checks.map fun c => "\n  if [[ \"$start\" == \"" ++ c.1 ++ "\" ]] ; then\n    opts=\"" ++
          Text.joinWith " " c.2 ++ "\"\n  fi") ++ scriptTail "my_prog" ∧
      "my-prog a-b" ∈ checks.map Prod.fst ∧
      ∀ c ∈ checks, c.1 = "my-prog a-b" → c.2.Pairwise (· < ·) ∧ "--all" ∈ c.2 ∧ "c" ∈ c.2 ∧ "d-e" ∈ c.2 := by
  -- sorting cannot be evaluated, but the words are in order as they come
  have hsorted : (Offers.of "my_prog" ["--all"] sampleCommands).map sortedOffer =
      Offers.of "my_prog" ["--all"] sampleCommands := by
    have hoffers : ∀ c ∈ Offers.of "my_prog" ["--all"] sampleCommands,
        c.2.Pairwise fun a b => Text.le a b = true := by decide +kernel
    refine (List.map_congr_left fun c hc => ?_).trans (List.map_id _)
    exact congrArg (c.1, ·) (List.mergeSort_of_pairwise (hoffers c hc))
  have hscript : scriptOf "my_prog" sampleCommands ["--all"] = sampleScript := by
    rw [scriptOf_eq, hsorted]
    decide +kernel
  have hcommands : ∀ c ∈ sampleCommands, c ≠ [] := by decide
  obtain ⟨checks, htext, -, hstarts, hwords⟩ :=
    script_offers_commands "my_prog" hcommands (List.nodup_singleton "--all")
  have hfirst : IsStart "my_prog" ["a_b"] "my-prog a-b" := .inr (by decide +kernel)
  have hsecond : IsStart "my_prog" ["a-b"] "my-prog a-b" := .inr (by decide +kernel)
  refine ⟨hscript, checks, hscript.symm.trans htext, (hstarts _).2 ⟨["a_b"], "c", by decide, hfirst⟩,
    fun c hc hstart => ?_⟩
  obtain ⟨hsorted, hmem⟩ := hwords c hc
  rw [hstart] at hmem
  exact ⟨hsorted, (hmem _).2 (.inl List.mem_cons_self),
    (hmem _).2 (.inr ⟨["a_b"], "c", by decide, hfirst, by decide +kernel⟩),
    (hmem _).2 (.inr ⟨["a-b"], "d_e", by decide, hsecond, by decide +kernel⟩)⟩

end CommandLine
