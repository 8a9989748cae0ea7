import CommandLine.Proofs.Filling
import CommandLine.Proofs.FlagWords
import CommandLine.Proofs.Rounds

/-!
# Flags behind a mark

In `program command word … -- flag …` the mark `--` parts the flags of the command line itself from the
words of the command.  Before it is looked for, the words become flags for the parameters of the
schema, and there the mark is a word like any other: a word that ends in two dashes does not end the
words (`not_endsWords_mark`).  So the mark takes the next parameter, as do the flags behind it up to
the first one that starts with two dashes and does not end in them.

* `flagWords_words`     words get the flags of their parameters, in turn;
* `flaggedLine_marked`  the whole command line, and when there are too few parameters for it;
* `splitFlags_marked`   the mark is still the last one, so it is found again;
* `named_marked`        the flag in front of it is a bare one, which sets the parameter it names.
-/

namespace CommandLine

open Binding

/-! ## words and their parameters -/

def paired : List String → List String → List String
  | p :: ps, w :: ws => ("--" ++ p) :: w :: paired ps ws
  | _, _ => []

theorem paired_append {ps ws : List String} (h : ws.length ≤ ps.length) (vs : List String) :
    paired ps (ws ++ vs) = paired ps ws ++ paired (ps.drop ws.length) vs := by
  induction ws generalizing ps with
  | nil =>
    cases ps with
    | nil => rfl
    | cons p ps => rfl
  | cons w ws ih =>
    cases ps with
    | nil => cases h
    | cons p ps =>
      have hrest := ih (Nat.le_of_succ_le_succ h)
      show _ :: _ :: paired ps (ws ++ vs) = _ :: _ :: (paired ps ws ++ paired (ps.drop ws.length) vs)
      rw [hrest]

theorem length_paired {ps ws : List String} (h : ws.length ≤ ps.length) :
    (paired ps ws).length = 2 * ws.length := by
  induction ws generalizing ps with
  | nil => cases ps <;> rfl
  | cons w ws ih =>
    cases ps with
    | nil => cases h
    | cons p ps =>
      have hrest := ih (Nat.le_of_succ_le_succ h)
      show (paired ps ws).length + 1 + 1 = 2 * (ws.length + 1)
      omega

/-- words with flags in front of them are other words, unless there are none -/
theorem paired_append_eq_iff {ps ws : List String} (h : ws.length ≤ ps.length) (vs : List String) :
    paired ps ws ++ vs = ws ++ vs ↔ ws = [] := by
  constructor
  · intro hsame
    have hlength := congrArg List.length (List.append_cancel_right hsame)
    rw [length_paired h] at hlength
    exact List.length_eq_zero_iff.1 (by omega)
  · rintro rfl
    cases ps <;> rfl

section
variable {ps ws : List String} {rest : List Value}

theorem flagWords_cons {v : Value} (h : endsWords v = false) (p : String) (ps : List String)
    (vs : List Value) :
    flagWords (p :: ps) (v :: vs) =
      (flagWords ps vs).map fun rest => .text ("--" ++ p) :: .text v.plain :: rest := by
  rw [flagWords, if_neg (Bool.eq_false_iff.1 h)]
  cases flagWords ps vs <;> rfl

theorem flagWords_words (hws : ∀ w ∈ ws, endsWords (.text w) = false) (h : ws.length ≤ ps.length) :
    flagWords ps (ws.map .text ++ rest) =
      (flagWords (ps.drop ws.length) rest).map ((paired ps ws).map .text ++ ·) := by
  induction ws generalizing ps with
  | nil =>
    have hnil : paired ps [] = [] := by cases ps <;> rfl
    show flagWords ps rest = (flagWords ps rest).map _
    rw [hnil]
    cases flagWords ps rest <;> rfl
  | cons w ws ih =>
    rw [List.forall_mem_cons] at hws
    cases ps with
    | nil => cases h
    | cons p ps =>
      have hrest := ih hws.2 (Nat.le_of_succ_le_succ h)
      show flagWords (p :: ps) (.text w :: (ws.map .text ++ rest)) =
        (flagWords (ps.drop ws.length) rest).map _
      rw [flagWords_cons hws.1, hrest]
      cases flagWords (ps.drop ws.length) rest <;> rfl

theorem flagWords_of_short (hws : ∀ w ∈ ws, endsWords (.text w) = false)
    (h : ps.length < ws.length) :
    flagWords ps (ws.map .text ++ rest) = .error (.indexOutOfRange "list") := by
  induction ws generalizing ps with
  | nil => cases h
  | cons w ws ih =>
    rw [List.forall_mem_cons] at hws
    cases ps with
    | nil => rfl
    | cons p ps =>
      have hrest := ih hws.2 (Nat.lt_of_succ_lt_succ h)
      show flagWords (p :: ps) (.text w :: (ws.map .text ++ rest)) = _
      rw [flagWords_cons hws.1, hrest]
      rfl

end

/-! ## the mark among the words -/

/-- the flags that are taken for words: those in front of the first that ends the words -/
def earlyFlags (flags : List String) : List String := flags.takeWhile fun f => !endsWords (.text f)

/-- the flags that stay as they are -/
def lateFlags (flags : List String) : List String := flags.dropWhile fun f => !endsWords (.text f)

theorem early_append_late (flags : List String) : earlyFlags flags ++ lateFlags flags = flags :=
  List.takeWhile_append_dropWhile

theorem not_endsWords_mark : endsWords (.text "--") = false := by decide

theorem not_isFlag_of_not_dashed {w : String} (h : Text.startsWith "-" w = false) :
    isFlag w = false := by
  refine Bool.eq_false_iff.2 fun hflag => Bool.eq_false_iff.1 h ?_
  obtain ⟨cs, hcs⟩ := List.isPrefixOf_iff_prefix.1 hflag
  exact List.isPrefixOf_iff_prefix.2 ⟨'-' :: cs, hcs⟩

theorem not_endsWords_of_not_dashed {w : String} (h : Text.startsWith "-" w = false) :
    endsWords (.text w) = false := by
  show (isFlag w && _) = false
  rw [not_isFlag_of_not_dashed h]
  rfl

/-- how many parameters a command line with a mark asks for: one for each word, one for the mark, one
for each flag that is taken for a word, and one that is looked at where the words end -/
def paramsNeeded (vals flags : List String) : Nat :=
  vals.length + 1 + (earlyFlags flags).length + if lateFlags flags = [] then 0 else 1

theorem flagWords_late {ps : List String} (flags : List String)
    (h : lateFlags flags = [] ∨ ps ≠ []) :
    flagWords ps ((lateFlags flags).map .text) = .ok ((lateFlags flags).map .text) := by
  cases hlate : lateFlags flags with
  | nil =>
    cases ps <;> rfl
  | cons f fs =>
    have hends : endsWords (.text f) = true := by
      have hhead := List.head?_dropWhile_not (fun f => !endsWords (.text f)) flags
      rw [show flags.dropWhile (fun f => !endsWords (.text f)) = f :: fs from hlate] at hhead
      simpa using hhead
    cases ps with
    | nil =>
      rw [hlate] at h
      exact h.elim (fun e => by cases e) fun e => absurd rfl e
    | cons p ps =>
      show flagWords (p :: ps) (.text f :: fs.map .text) = _
      rw [flagWords, if_pos hends]
      rfl

section
variable {program command : String} {vals flags : List String}

theorem not_endsWords_of_mem (flags : List String)
    (hvals : ∀ v ∈ vals, Text.startsWith "-" v = false) :
    ∀ w ∈ vals ++ "--" :: earlyFlags flags, endsWords (.text w) = false := by
  intro w hw
  rcases List.mem_append.1 hw with hw | hw
  · exact not_endsWords_of_not_dashed (hvals w hw)
  · rcases List.mem_cons.1 hw with rfl | hw
    · exact not_endsWords_mark
    · have hall : (earlyFlags flags).all (fun f => !endsWords (.text f)) = true :=
        List.all_takeWhile
      simpa using List.all_eq_true.1 hall w hw

/-- each word, the mark and each early flag get the next parameter -/
theorem flagWords_marked (params : List String)
    (hvals : ∀ v ∈ vals, Text.startsWith "-" v = false) :
    flagWords params ((vals ++ "--" :: flags).map .text) =
      if paramsNeeded vals flags ≤ params.length then
        .ok ((paired params (vals ++ "--" :: earlyFlags flags) ++ lateFlags flags).map .text)
      else .error (.indexOutOfRange "list") := by
  have hwords := not_endsWords_of_mem flags hvals
  have hline : (vals ++ "--" :: flags).map Value.text =
      (vals ++ "--" :: earlyFlags flags).map .text ++ (lateFlags flags).map .text := by
    rw [← List.map_append, List.append_assoc, List.cons_append, early_append_late]
  have hlength : (vals ++ "--" :: earlyFlags flags).length =
      vals.length + 1 + (earlyFlags flags).length := by
    rw [List.length_append, List.length_cons]
    omega
  rw [hline]
  unfold paramsNeeded
  rw [← hlength]
  generalize vals ++ "--" :: earlyFlags flags = ws at hwords ⊢
  by_cases hlate : lateFlags flags = []
  · rw [if_pos hlate, Nat.add_zero]
    by_cases hws : ws.length ≤ params.length
    · rw [if_pos hws, flagWords_words hwords hws, flagWords_late flags (.inl hlate), List.map_append]
      rfl
    · rw [if_neg hws, flagWords_of_short hwords (Nat.lt_of_not_le hws)]
  · rw [if_neg hlate]
    rcases Nat.lt_trichotomy ws.length params.length with hws | hws | hws
    · have hdrop : params.drop ws.length ≠ [] := by
        intro hnil
        exact absurd (List.drop_eq_nil_iff.1 hnil) (Nat.not_le.2 hws)
      rw [if_pos (Nat.succ_le_of_lt hws), flagWords_words hwords (Nat.le_of_lt hws),
        flagWords_late flags (.inr hdrop), List.map_append]
      rfl
    · obtain ⟨f, fs, hfs⟩ := List.exists_cons_of_ne_nil hlate
      rw [if_neg (by omega), flagWords_words hwords (Nat.le_of_eq hws), hws, List.drop_length, hfs]
      rfl
    · rw [if_neg (by omega), flagWords_of_short hwords hws]

theorem flaggedLine_marked (params : List String)
    (hvals : ∀ v ∈ vals, Text.startsWith "-" v = false)
    (hhelp : asksForHelp ((program :: command :: (vals ++ "--" :: flags)).map .text) = false) :
    flaggedLine params ((program :: command :: (vals ++ "--" :: flags)).map .text) =
      if paramsNeeded vals flags ≤ params.length then
        .ok ((program :: command :: (paired params (vals ++ "--" :: earlyFlags flags) ++
          lateFlags flags)).map .text)
      else .error (.indexOutOfRange "list") := by
  have hlong : ¬ (((program :: command :: (vals ++ "--" :: flags)).map Value.text).length ≤ 2) := by
    simp only [List.length_map, List.length_cons, List.length_append]
    omega
  unfold flaggedLine
  rw [hhelp, Bool.or_false, if_neg (fun h => hlong (of_decide_eq_true h))]
  show (flagWords params ((vals ++ "--" :: flags).map .text) >>= _) = _
  rw [flagWords_marked params hvals]
  split
  · rfl
  · rfl

end

/-! ## the parameter of the mark -/

theorem exists_param_of_mark {params vals flags : List String}
    (h : paramsNeeded vals flags ≤ params.length) :
    ∃ p behind, params.drop vals.length = p :: behind ∧
      (earlyFlags flags).length ≤ behind.length := by
  have hlength : vals.length + 1 + (earlyFlags flags).length ≤ params.length :=
    Nat.le_trans (Nat.le_add_right _ _) h
  have hdrop : params.drop vals.length ≠ [] := by
    intro hnil
    have hshort := List.drop_eq_nil_iff.1 hnil
    omega
  obtain ⟨p, behind, hp⟩ := List.exists_cons_of_ne_nil hdrop
  have hcount := congrArg List.length hp
  rw [List.length_drop, List.length_cons] at hcount
  exact ⟨p, behind, hp, by omega⟩

theorem paired_mark {params vals early behind : List String} {p : String}
    (hp : params.drop vals.length = p :: behind) :
    paired params (vals ++ "--" :: early) =
      paired params vals ++ ("--" ++ p) :: "--" :: paired behind early := by
  have hlength : vals.length ≤ params.length := by
    have hcount := congrArg List.length hp
    rw [List.length_drop, List.length_cons] at hcount
    omega
  rw [paired_append hlength, hp]
  rfl

/-! ## the mark is found again -/

theorem splitFlags_marked {args flags : List String} (h : "--" ∉ flags) :
    splitFlags ((args ++ "--" :: flags).map .text) false =
      .ok ⟨args.map .text, flags.map .text, (args ++ "--" :: flags).map .text⟩ := by
  have hflags : ∀ y ∈ flags.map Value.text, y.isText "--" = false := by
    intro y hy
    obtain ⟨f, hf, rfl⟩ := List.mem_map.1 hy
    exact Bool.eq_false_iff.2 fun hmark => h (Value.text.inj (isText_iff.1 hmark) ▸ hf)
  rw [List.map_append, List.map_cons]
  exact congrArg Except.ok (separateBy_marked (fun _ => isText_iff.2 rfl) hflags)

/-! ## the names of parameters -/

theorem isParamName_of_mem_fields {s : Settings} (hs : checkParamNames s.fields = .ok ())
    {p : String} (hp : p ∈ s.fields) : isParamName p = true := by
  unfold checkParamNames at hs
  split at hs
  · rename_i hfind
    simpa using List.find?_eq_none.1 hfind p hp
  · cases hs

theorem isParamName_of_mem {s : Settings} (hs : checkParamNames s.fields = .ok ()) {p : String}
    (hp : p ∈ s.params) : isParamName p = true :=
  isParamName_of_mem_fields hs (List.mem_filter.1 hp).1

theorem not_mem_of_isWord {cs : List Char} (h : Text.isWord cs = true) {d : Char}
    (hstart : Text.isWordStart d = false) (hpart : Text.isWordPart d = false) : d ∉ cs := by
  cases cs with
  | nil => exact List.not_mem_nil
  | cons c cs =>
    obtain ⟨hc, hcs⟩ := Bool.and_eq_true_iff.1 h
    rw [List.mem_cons]
    rintro (rfl | hd)
    · exact Bool.eq_false_iff.1 hstart hc
    · exact Bool.eq_false_iff.1 hpart (List.all_eq_true.1 hcs d hd)

/-- a parameter has no sign in its name that means something in a flag -/
structure IsPlainName (p : String) : Prop where
  ne_empty : p ≠ ""
  no_equals : '=' ∉ p.toList
  no_dash : '-' ∉ p.toList

theorem isPlainName_of_isParamName {p : String} (h : isParamName p = true) : IsPlainName p := by
  obtain ⟨hword, -⟩ := Bool.and_eq_true_iff.1 h
  refine ⟨?_, not_mem_of_isWord hword (by decide) (by decide),
    not_mem_of_isWord hword (by decide) (by decide)⟩
  rintro rfl
  cases hword

theorem not_mem_paired {ps ws : List String} (hps : ∀ p ∈ ps, IsPlainName p) (hws : "--" ∉ ws) :
    "--" ∉ paired ps ws := by
  induction ws generalizing ps with
  | nil =>
    cases ps <;> exact List.not_mem_nil
  | cons w ws ih =>
    cases ps with
    | nil => exact List.not_mem_nil
    | cons p ps =>
      rw [List.forall_mem_cons] at hps
      rw [List.mem_cons, not_or] at hws
      show "--" ∉ ("--" ++ p) :: w :: paired ps ws
      rw [List.mem_cons, List.mem_cons, not_or, not_or]
      refine ⟨fun hmark => hps.1.ne_empty ?_, hws.1, ih hps.2 hws.2⟩
      have hbody := congrArg flagBody hmark
      rw [flagBody_dashes] at hbody
      exact hbody.symm

/-! ## the flag in front of the mark -/

theorem groups_paired {ps ws : List String} (hps : ∀ p ∈ ps, IsPlainName p)
    (hws : ∀ w ∈ ws, isFlag w = false) (rest : List String) :
    groups (paired ps ws ++ rest) =
      (ps.zip ws).map (fun e => .flag e.1 (.next e.2)) ++ groups rest := by
  induction ws generalizing ps with
  | nil => cases ps <;> rfl
  | cons w ws ih =>
    cases ps with
    | nil => rfl
    | cons p ps =>
      rw [List.forall_mem_cons] at hps hws
      show groups (("--" ++ p) :: w :: (paired ps ws ++ rest)) = _
      rw [groups_next hps.1.no_equals hws.1, ih hps.2 hws.2]
      rfl

/-- a bare flag at the end sets what it names, whatever was set before -/
theorem named_marked {command p : String} {ps vals : List String}
    (hcommand : isFlag command = false) (hps : ∀ p ∈ ps, IsPlainName p) (hp : IsPlainName p)
    (hvals : ∀ v ∈ vals, isFlag v = false) :
    (Keywords.of [] true (command :: (paired ps vals ++ ["--" ++ p]))).named.lookup
      (bareFlag [] p).1 = some (bareFlag [] p).2 := by
  have hbare : groups ["--" ++ p] = [.flag p .bare] :=
    groups_bare hp.no_equals (fun b hb => by cases hb)
  have hnormal : normal (bareFlag [] p).1 = (bareFlag [] p).1 := by
    refine normal_of_no_dash fun hdash => hp.no_dash ?_
    unfold bareFlag at hdash
    split at hdash
    · exact hdash
    · split at hdash
      · unfold Text.dropChars at hdash
        rw [String.toList_ofList] at hdash
        exact List.mem_of_mem_drop hdash
      · exact hdash
  unfold Keywords.of
  rw [groups_single hcommand, groups_paired hps hvals, hbare, ← List.cons_append, List.foldl_append,
    List.foldl_cons, List.foldl_nil]
  generalize List.foldl _ _ _ = k
  show (putName (normal (bareFlag [] p).1) (bareFlag [] p).2 k.named).lookup _ = _
  rw [hnormal, lookup_putName, if_pos rfl]

/-! ## a command line with a mark -/

/-- **Flags behind a mark.**  A command line of words, the mark and flags is refused if there are too
few parameters.  Otherwise the mark has taken the parameter behind those of the words: its flag stands
in front of the mark, where the command takes it for a bare flag, and the flags that reach the command
line are those given exactly if none of them was taken for a word. -/
theorem flags_behind_mark {s : Settings} (program command : String) (vals flags : List String)
    (hs : checkParamNames s.fields = .ok ()) (hcommand : isFlag command = false)
    (hvals : ∀ v ∈ vals, Text.startsWith "-" v = false) (hflags : "--" ∉ flags)
    (hhelp : asksForHelp ((program :: command :: (vals ++ "--" :: flags)).map .text) = false) :
    let line := flaggedLine s.params ((program :: command :: (vals ++ "--" :: flags)).map .text)
    (s.params.length < paramsNeeded vals flags → line = .error (.indexOutOfRange "list")) ∧
    (paramsNeeded vals flags ≤ s.params.length →
      ∃ p behind, s.params.drop vals.length = p :: behind ∧
        let args := command :: (paired s.params vals ++ ["--" ++ p])
        let rest := paired behind (earlyFlags flags) ++ lateFlags flags
        line = .ok ((program :: (args ++ "--" :: rest)).map .text) ∧
        splitFlags ((args ++ "--" :: rest).map .text) false =
          .ok ⟨args.map .text, rest.map .text, (args ++ "--" :: rest).map .text⟩ ∧
        (rest = flags ↔ earlyFlags flags = []) ∧
        (Keywords.of [] true args).named.lookup (bareFlag [] p).1 = some (bareFlag [] p).2) := by
  have hnames : ∀ p ∈ s.params, IsPlainName p := fun p hp =>
    isPlainName_of_isParamName (isParamName_of_mem hs hp)
  have hline := flaggedLine_marked s.params hvals hhelp
  refine ⟨fun hfew => hline.trans (if_neg (Nat.not_le.2 hfew)), fun henough => ?_⟩
  rw [if_pos henough] at hline
  obtain ⟨p, behind, hp, hearly⟩ := exists_param_of_mark henough
  have hbehind : ∀ q ∈ p :: behind, IsPlainName q := fun q hq =>
    hnames q (List.mem_of_mem_drop (hp ▸ hq))
  have hrest : "--" ∉ paired behind (earlyFlags flags) ++ lateFlags flags := by
    rw [← early_append_late flags, List.mem_append, not_or] at hflags
    rw [List.mem_append, not_or]
    exact ⟨not_mem_paired (fun q hq => hbehind q (List.mem_cons_of_mem p hq)) hflags.1, hflags.2⟩
  refine ⟨p, behind, hp, ?_, splitFlags_marked hrest, ?_, ?_⟩
  · refine hline.trans ?_
    rw [paired_mark hp]
    simp only [List.cons_append, List.append_assoc, List.nil_append]
  · have hsame := paired_append_eq_iff hearly (lateFlags flags)
    rw [early_append_late] at hsame
    exact hsame
  · exact named_marked hcommand hnames (hbehind p List.mem_cons_self) fun v hv =>
      not_isFlag_of_not_dashed (hvals v hv)

def sampleMarked : Settings := sampleSettings [] [("x", .int 5), ("no_cache", .bool true)]

/-- the mark turns the field `_cache` off, and the short flag gives the directory -/
theorem flags_behind_mark_sample :
    flaggedLine sampleMarked.params (["prog", "run", "7", "--", "-v", "--trace"].map .text) =
      .ok (["prog", "run", "--x", "7", "--no_cache", "--", "--cwd", "-v", "--trace"].map .text) ∧
    (Keywords.of [] true ["run", "--x", "7", "--no_cache"]).named.lookup "_cache" = some "False" := by
  have hok : (checkParamNames sampleMarked.fields).isOk = true := by decide +kernel
  have hs : checkParamNames sampleMarked.fields = .ok () := by
    cases h : checkParamNames sampleMarked.fields with
    | ok u => rfl
    | error e =>
      rw [h] at hok
      cases hok
  have hparams : sampleMarked.params = ["x", "no_cache", "cwd", "CFG", "version"] := by
    decide +kernel
  have hmarked := flags_behind_mark "prog" "run" ["7"] ["-v", "--trace"] hs (by decide +kernel)
    (by decide +kernel) (by decide +kernel) (by decide +kernel)
  obtain ⟨p, behind, hp, hline, -, -, hnamed⟩ := hmarked.2 (by decide +kernel)
  rw [hparams] at hp hline hnamed
  obtain ⟨rfl, rfl⟩ := List.cons.inj hp
  exact ⟨by rw [hparams]; exact hline, hnamed⟩

end CommandLine
