import CommandLine.Source.Ini

/-!
# Which texts with sections can be read

A text is read line by line, but what it says is said by its statements: headers, options with the lines
of their values, and lines that are neither.

* `statements`          the statements of a text;
* `Fits`, `Orderly`     which statement may follow which others;
* `Draft.Holds`         what has been read of a text, told from its statements;
* `continued_lines`     the lines that go on with a value are read as one with its first line;
* `lines_of_holds`      a text is read to its end without a complaint exactly if it is orderly;
* `read_eq_ok_iff`      which texts can be read, and what is read from them.
-/

namespace CommandLine.Ini

/-! ## statements -/

def isComment (line : String) : Bool :=
  Text.startsWith "#" (Text.trim line) || Text.startsWith ";" (Text.trim line)

def isIdle (line : String) : Bool := isComment line || Text.trim line = ""

def depth (line : String) : Nat := (line.toList.takeWhile Text.isBlank).length

inductive Statement where
  | header (sect : String)
  | option (name : String) (value : List String)
  | stray

/-- does the line go on with the value of the option, which stands so deep?  An option without a name
does not go on. -/
def continues (name : String) (d : Nat) (line : String) : Bool :=
  name ≠ "" && (isIdle line || d < depth line)

/-- what lines that go on with a value add to it -/
def valueLines (lines : List String) : List String :=
  (lines.filter fun l => !isComment l).map Text.trim

/-- the statement that a line begins -/
def opening (line : String) : Statement :=
  match header? (Text.trim line), option? (Text.trim line) with
  | some sect, _ => .header sect
  | none, none => .stray
  | none, some (given, value) =>
    if given = "" then .stray else .option (Text.lower (Text.trimRight given)) [value]

/-- the statements of lines behind a value that goes on with the lines of `skip` -/
def statementsAfter (skip : String → Bool) : List String → List Statement
  | [] => []
  | l :: ls =>
    if skip l || isIdle l then statementsAfter skip ls
    else match opening l with
      | .option name value =>
        .option name (value ++ valueLines (ls.takeWhile (continues name (depth l)))) ::
          statementsAfter (continues name (depth l)) ls
      | st => st :: statementsAfter (fun _ => false) ls

def statements (text : String) : List Statement :=
  statementsAfter (fun _ => false) (linesFrom [] text.toList)

def headers (ss : List Statement) : List String :=
  ss.filterMap fun st => match st with
    | .header sect => some sect
    | _ => none

/-- the options under the headers of a section, `current` being the section at the front -/
def optionsFrom (sect : String) : Option String → List Statement → Options
  | _, [] => []
  | _, .header s :: ss => optionsFrom sect (some s) ss
  | current, .option name value :: ss =>
    if current = some sect then (name, value) :: optionsFrom sect current ss
    else optionsFrom sect current ss
  | current, .stray :: ss => optionsFrom sect current ss

def optionsOf (sect : String) (ss : List Statement) : Options := optionsFrom sect none ss

/-- may the statement follow the others?  A header that is not the one of the defaults is given once; an
option stands in a section and is given once in it. -/
def Fits (before : List Statement) : Statement → Prop
  | .header sect => sect = defaultSection ∨ sect ∉ headers before
  | .option name _ => ∃ sect, (headers before).getLast? = some sect ∧
      (optionsOf sect before).lookup name = none
  | .stray => False

def OrderlyAfter (before : List Statement) : List Statement → Prop
  | [] => True
  | st :: ss => Fits before st ∧ OrderlyAfter (before ++ [st]) ss

/-- does each statement fit those before it? -/
def Orderly (ss : List Statement) : Prop := OrderlyAfter [] ss

def sectionNames (ss : List Statement) : List String := (headers ss).filter (· ≠ defaultSection)

/-- what the statements say -/
def contents (ss : List Statement) : Contents :=
  { sections := (sectionNames ss).map fun sect => (sect, joinValues (optionsOf sect ss))
    defaults := joinValues (optionsOf defaultSection ss) }

section
variable {ss : List Statement} {sect t name : String} {value : List String}

@[simp] theorem headers_append_header : headers (ss ++ [.header sect]) = headers ss ++ [sect] := by
  simp [headers]

@[simp] theorem headers_append_option : headers (ss ++ [.option name value]) = headers ss := by
  simp [headers]

theorem optionsFrom_append_header (current : Option String) :
    optionsFrom t current (ss ++ [.header sect]) = optionsFrom t current ss := by
  induction ss generalizing current with
  | nil => rfl
  | cons st ss ih => cases st <;> simp [optionsFrom, ih]

theorem optionsFrom_append_option (current : Option String) :
    optionsFrom t current (ss ++ [.option name value]) = optionsFrom t current ss ++
      if (headers ss).getLast?.or current = some t then [(name, value)] else [] := by
  induction ss generalizing current with
  | nil => by_cases h : current = some t <;> simp [optionsFrom, headers, h]
  | cons st ss ih =>
    cases st with
    | header s => simp [optionsFrom, ih, headers, List.getLast?_cons]
    | option n v =>
      by_cases h : current = some t
      · simp [optionsFrom, ih, headers, h]
      · simp [optionsFrom, ih, headers, h]
    | stray => simp [optionsFrom, ih, headers]

theorem optionsOf_append_header :
    optionsOf t (ss ++ [.header sect]) = optionsOf t ss := optionsFrom_append_header none

theorem optionsOf_append_option (hs : (headers ss).getLast? = some sect) :
    optionsOf t (ss ++ [.option name value]) =
      if t = sect then optionsOf t ss ++ [(name, value)] else optionsOf t ss := by
  unfold optionsOf
  rw [optionsFrom_append_option, hs]
  by_cases h : t = sect
  · simp [h]
  · simp [h, Ne.symm h]

theorem optionsOf_of_not_mem (h : t ∉ headers ss) : optionsOf t ss = [] := by
  have hfrom : ∀ current, current ≠ some t → optionsFrom t current ss = [] := by
    induction ss with
    | nil => exact fun _ _ => rfl
    | cons st ss ih =>
      intro current hc
      cases st with
      | header s =>
        have hne : t ≠ s ∧ t ∉ headers ss := by simpa [headers] using h
        exact ih hne.2 _ fun e => hne.1 (Option.some.inj e).symm
      | option n v => exact (if_neg hc).trans (ih h current hc)
      | stray => exact ih h current hc
  exact hfrom none (by simp)

theorem mem_sectionNames : t ∈ sectionNames ss ↔ t ∈ headers ss ∧ t ≠ defaultSection := by
  simp [sectionNames]

end

/-! ## drafts -/

theorem lookup_graph {α : Type} (f : String → α) (names : List String) (name : String) :
    (names.map fun n => (n, f n)).lookup name = if name ∈ names then some (f name) else none := by
  induction names with
  | nil => rfl
  | cons n names ih =>
    rw [List.map_cons, List.lookup_cons, ih]
    by_cases h : name = n
    · simp [h]
    · simp [h, beq_false_of_ne h]

/-- the draft holds what the statements say, and has no complaint -/
structure Draft.Holds (r : Draft) (ss : List Statement) : Prop where
  current : r.current = (headers ss).getLast?
  defaults : r.defaults = optionsOf defaultSection ss
  sections : r.sections = (sectionNames ss).map fun sect => (sect, optionsOf sect ss)
  bad : r.bad = []

namespace Draft

theorem setOptions_eq (r : Draft) (o : Options) :
    ∃ sections defaults, r.setOptions o = { r with sections, defaults } := by
  unfold setOptions
  split
  · exact ⟨_, _, rfl⟩
  · split <;> exact ⟨_, _, rfl⟩

theorem extend_eq (r : Draft) (name line : String) :
    ∃ sections defaults, r.extend name line = { r with sections, defaults } := setOptions_eq r _

namespace Holds
variable {r : Draft} {ss ss' : List Statement} {sect name : String} {value : List String}

theorem options (h : r.Holds ss) (hs : (headers ss).getLast? = some sect) :
    r.options = optionsOf sect ss := by
  unfold Draft.options
  rw [h.current, hs]
  dsimp only
  split
  · rename_i hd
    rw [h.defaults, hd]
  · rename_i hd
    have hmem : sect ∈ sectionNames ss := mem_sectionNames.2 ⟨List.mem_of_getLast? hs, hd⟩
    rw [h.sections, lookup_graph, if_pos hmem]
    rfl

theorem setOptions (h : r.Holds ss) (hs : (headers ss).getLast? = some sect)
    (hheaders : headers ss' = headers ss)
    (hother : ∀ t, t ≠ sect → optionsOf t ss' = optionsOf t ss) :
    (r.setOptions (optionsOf sect ss')).Holds ss' := by
  have hnames : sectionNames ss' = sectionNames ss := by
    unfold sectionNames
    rw [hheaders]
  unfold Draft.setOptions
  rw [h.current, hs]
  dsimp only
  split
  · rename_i hd
    refine ⟨by rw [hheaders, hs], by rw [hd], ?_, h.bad⟩
    · rw [hnames, h.sections]
      refine List.map_congr_left fun t ht => ?_
      rw [hother t fun e => (mem_sectionNames.1 ht).2 (e.trans hd)]
  · rename_i hd
    refine ⟨by rw [hheaders, hs], ?_, ?_, h.bad⟩
    · rw [hother _ (Ne.symm hd)]
      exact h.defaults
    · rw [hnames, h.sections, List.map_map]
      refine List.map_congr_left fun t ht => ?_
      by_cases ht : t = sect
      · simp [ht]
      · simp [ht, hother t ht]

theorem extend {vs : List String} (h : r.Holds (ss ++ [.option name vs]))
    (hs : (headers ss).getLast? = some sect) (hfresh : (optionsOf sect ss).lookup name = none)
    (x : String) : (r.extend name x).Holds (ss ++ [.option name (vs ++ [x])]) := by
  have hkept : ((optionsOf sect ss).map fun p => if p.1 = name then (name, p.2 ++ [x]) else p) =
      optionsOf sect ss := by
    refine (List.map_congr_left fun p hp => ?_).trans (List.map_id _)
    have hne := List.lookup_eq_none_iff.1 hfresh p hp
    rw [if_neg fun e => by simp [e] at hne]
    rfl
  unfold Draft.extend
  have hoptions : (r.options.map fun p => if p.1 = name then (name, p.2 ++ [x]) else p) =
      optionsOf sect (ss ++ [.option name (vs ++ [x])]) := by
    rw [h.options (by simpa using hs), optionsOf_append_option hs, if_pos rfl,
      optionsOf_append_option hs, if_pos rfl, List.map_append, hkept]
    simp
  rw [hoptions]
  refine h.setOptions (by simpa using hs) (by simp) fun t ht => ?_
  rw [optionsOf_append_option hs, if_neg ht, optionsOf_append_option hs, if_neg ht]

theorem openSection (h : r.Holds ss) (n : Nat) (sect : String) :
    (Fits ss (.header sect) → ∃ r', r.openSection n sect = .ok r' ∧
      r'.Holds (ss ++ [.header sect]) ∧ r'.option = none ∧ r'.indent = r.indent) ∧
    (¬ Fits ss (.header sect) → ∀ r', r.openSection n sect ≠ .ok r') := by
  have hsections : ((sectionNames ss).map fun t => (t, optionsOf t (ss ++ [.header sect]))) =
      r.sections := by
    rw [h.sections]
    exact List.map_congr_left fun t _ => by rw [optionsOf_append_header]
  have hdefaults : r.defaults = optionsOf defaultSection (ss ++ [.header sect]) := by
    rw [optionsOf_append_header]
    exact h.defaults
  unfold Draft.openSection
  by_cases hd : sect = defaultSection
  · rw [if_pos hd]
    refine ⟨fun _ => ⟨_, rfl, ⟨by simp, hdefaults, ?_, h.bad⟩, rfl, rfl⟩,
      fun hno => absurd (.inl hd) hno⟩
    have hnames : sectionNames (ss ++ [.header sect]) = sectionNames ss := by simp [sectionNames, hd]
    rw [hnames, hsections]
  · have hgiven : (r.sections.lookup sect).isSome ↔ sect ∈ headers ss := by
      rw [h.sections, lookup_graph]
      by_cases hmem : sect ∈ headers ss
      · simp [mem_sectionNames, hd, hmem]
      · simp [mem_sectionNames, hmem]
    rw [if_neg hd]
    constructor
    · intro hfits
      have hnew : sect ∉ headers ss := hfits.resolve_left hd
      rw [if_neg (mt hgiven.1 hnew)]
      refine ⟨_, rfl, ⟨by simp, hdefaults, ?_, h.bad⟩, rfl, rfl⟩
      have hnames : sectionNames (ss ++ [.header sect]) = sectionNames ss ++ [sect] := by
        simp [sectionNames, hd]
      rw [hnames, List.map_append, hsections, List.map_singleton, optionsOf_append_header,
        optionsOf_of_not_mem hnew]
    · intro hno r' hr'
      rw [if_pos (hgiven.2 (Classical.not_not.1 fun hnew => hno (.inr hnew)))] at hr'
      cases hr'

theorem setOption (h : r.Holds ss) (hs : (headers ss).getLast? = some sect) (n : Nat)
    (line value : String) {given : String} (hname : given ≠ "") :
    let name := Text.lower (Text.trimRight given)
    ((optionsOf sect ss).lookup name = none → ∃ r', r.setOption n line sect given value = .ok r' ∧
      r'.Holds (ss ++ [.option name [value]]) ∧ r'.option = some name ∧ r'.indent = r.indent) ∧
    ((optionsOf sect ss).lookup name ≠ none → ∀ r', r.setOption n line sect given value ≠ .ok r') := by
  intro name
  unfold Draft.setOption
  dsimp only
  rw [if_neg hname, h.options hs]
  constructor
  · intro hfresh
    rw [hfresh, if_neg (by simp)]
    have hoptions : optionsOf sect ss ++ [(name, [value])] =
        optionsOf sect (ss ++ [.option name [value]]) := by
      rw [optionsOf_append_option hs, if_pos rfl]
    refine ⟨_, rfl, ?_, ?_⟩
    · rw [hoptions]
      have hr : ({ r with option := some name } : Draft).Holds ss :=
        ⟨h.current, h.defaults, h.sections, h.bad⟩
      refine hr.setOptions hs (by simp) fun t ht => ?_
      rw [optionsOf_append_option hs, if_neg ht]
    · obtain ⟨_, _, hset⟩ :=
        setOptions_eq { r with option := some name } (optionsOf sect ss ++ [(name, [value])])
      rw [hset]
      exact ⟨rfl, rfl⟩
  · intro hgiven r' hr'
    rw [if_pos (Option.isSome_iff_ne_none.2 hgiven)] at hr'
    cases hr'

end Holds

/-! ## lines -/

section
variable {r r' : Draft} {l o : String} {n : Nat}

theorem line_eq (r : Draft) (n : Nat) (l : String) :
    r.line n l =
      if isComment l then .ok r
      else if Text.trim l = "" then
        match r.open? with
        | some o => .ok (r.extend o "")
        | none => .ok r
      else match r.open? with
        | some o =>
          if r.indent < depth l then .ok (r.extend o (Text.trim l))
          else { r with indent := depth l }.start n l (Text.trim l)
        | none => { r with indent := depth l }.start n l (Text.trim l) := rfl

theorem open?_ne_empty (h : r.open? = some o) : o ≠ "" := by
  unfold open? at h
  split at h
  · split at h
    · cases h
    · rename_i ho
      exact Option.some.inj h ▸ ho
  · cases h

theorem line_of_continues (h : r.open? = some o) (hl : continues o r.indent l = true) :
    r.line n l = .ok (if isComment l then r else r.extend o (Text.trim l)) := by
  rw [line_eq, h]
  dsimp only
  by_cases hc : isComment l = true
  · simp [hc]
  · by_cases he : Text.trim l = ""
    · simp [hc, he]
    · have hdeep : r.indent < depth l := by simpa [continues, isIdle, hc, he, open?_ne_empty h] using hl
      simp [hc, he, hdeep]

theorem line_of_isIdle (h : r.open? = none) (hl : isIdle l = true) : r.line n l = .ok r := by
  rw [line_eq, h]
  by_cases hc : isComment l = true
  · simp [hc]
  · have he : Text.trim l = "" := by simpa [isIdle, hc] using hl
    simp [hc, he]

/-- does the line go on with the value being read? -/
def skips (r : Draft) (l : String) : Bool := r.open?.any fun o => continues o r.indent l

theorem skips_of_option_eq_none (h : r.option = none) : r.skips = fun _ => false := by
  have hopen : r.open? = none := by
    unfold open?
    rw [h]
    cases r.current <;> rfl
  unfold skips
  rw [hopen]
  rfl

theorem open?_eq_none_of_isIdle (hs : r.skips l = false) (hl : isIdle l = true) :
    r.open? = none := by
  cases ho : r.open? with
  | none => rfl
  | some o => simp [skips, ho, continues, hl, open?_ne_empty ho] at hs

theorem line_eq_start (hs : r.skips l = false) (hl : isIdle l = false) :
    r.line n l = { r with indent := depth l }.start n l (Text.trim l) := by
  obtain ⟨hc, he⟩ : isComment l = false ∧ ¬ Text.trim l = "" := by simpa [isIdle] using hl
  rw [line_eq, hc, if_neg (by simp), if_neg he]
  cases ho : r.open? with
  | none => rfl
  | some o =>
    have hdeep : ¬ r.indent < depth l := by
      simpa [skips, ho, continues, hl, open?_ne_empty ho] using hs
    exact if_neg hdeep

theorem lines_cons (r : Draft) (n : Nat) (l : String) (ls : List String) :
    r.lines n (l :: ls) = r.line n l >>= fun r' => r'.lines (n + 1) ls := rfl

section
variable {ss : List Statement} {sect name : String} {vs : List String}

theorem Holds.open?_eq (h : r.Holds (ss ++ [.option name vs]))
    (hs : (headers ss).getLast? = some sect) (hoption : r.option = some name) :
    r.open? = if name = "" then none else some name := by
  have hcurrent := h.current
  rw [headers_append_option, hs] at hcurrent
  unfold open?
  rw [hcurrent, hoption]

theorem Holds.skips_eq (h : r.Holds (ss ++ [.option name vs]))
    (hs : (headers ss).getLast? = some sect) (hoption : r.option = some name) :
    r.skips = continues name r.indent := by
  funext l
  unfold skips
  rw [h.open?_eq hs hoption]
  by_cases hname : name = ""
  · simp [hname, continues]
  · simp [hname]

/-- the lines that go on with a value are read as one with its first line -/
theorem continued_lines (h : r.Holds (ss ++ [.option name vs]))
    (hs : (headers ss).getLast? = some sect) (hfresh : (optionsOf sect ss).lookup name = none)
    (hoption : r.option = some name) (n : Nat) (ls : List String) :
    ∃ (r' : Draft) (n' : Nat),
      r.lines n ls = r'.lines n' (ls.dropWhile (continues name r.indent)) ∧
      r'.Holds (ss ++ [.option name (vs ++ valueLines (ls.takeWhile (continues name r.indent)))]) ∧
      r'.skips = continues name r.indent := by
  induction ls generalizing r n vs with
  | nil => exact ⟨r, n, rfl, by simpa [valueLines] using h, h.skips_eq hs hoption⟩
  | cons l ls ih =>
    cases hl : continues name r.indent l with
    | false =>
      rw [List.dropWhile_cons, List.takeWhile_cons, hl]
      exact ⟨r, n, rfl, by simpa [valueLines] using h, h.skips_eq hs hoption⟩
    | true =>
      have hname : name ≠ "" := by
        intro e
        simp [continues, e] at hl
      have hopen : r.open? = some name := (h.open?_eq hs hoption).trans (if_neg hname)
      rw [List.dropWhile_cons_of_pos hl, List.takeWhile_cons_of_pos hl, lines_cons,
        line_of_continues hopen hl]
      by_cases hc : isComment l = true
      · obtain ⟨r', n', hlines, hholds, hskips⟩ := ih h hoption (n + 1)
        rw [if_pos hc]
        exact ⟨r', n', hlines, by simpa [valueLines, hc] using hholds, hskips⟩
      · have hnext := h.extend hs hfresh (Text.trim l)
        obtain ⟨sections, defaults, hextend⟩ := extend_eq r name (Text.trim l)
        rw [hextend] at hnext
        obtain ⟨r', n', hlines, hholds, hskips⟩ := ih hnext hoption (n + 1)
        rw [if_neg hc, hextend]
        exact ⟨r', n', hlines, by simpa [valueLines, hc] using hholds, hskips⟩

end

/-! ## complaints -/

theorem setOption_bad {sect name value : String} (hb : r.bad ≠ [] ∨ name = "")
    (h : r.setOption n l sect name value = .ok r') : r'.bad ≠ [] := by
  have hbad : (if name = "" then r.bad ++ [(n, l)] else r.bad) ≠ [] := by
    split
    · simp
    · rename_i hne
      exact hb.resolve_right hne
  unfold setOption at h
  dsimp only at h
  split at h
  · cases h
  · obtain ⟨sections, defaults, hset⟩ := setOptions_eq
      { r with
        option := some (Text.lower (Text.trimRight name))
        bad := if name = "" then r.bad ++ [(n, l)] else r.bad }
      (r.options ++ [(Text.lower (Text.trimRight name), [value])])
    rw [hset] at h
    exact Except.ok.inj h ▸ hbad

theorem start_bad {stripped : String} (hb : r.bad ≠ []) (h : r.start n l stripped = .ok r') :
    r'.bad ≠ [] := by
  unfold start at h
  split at h
  · unfold openSection at h
    split at h
    · exact Except.ok.inj h ▸ hb
    · split at h
      · cases h
      · exact Except.ok.inj h ▸ hb
  · cases h
  · split at h
    · exact setOption_bad (.inl hb) h
    · obtain rfl := Except.ok.inj h
      simp

theorem line_bad (hb : r.bad ≠ []) (h : r.line n l = .ok r') : r'.bad ≠ [] := by
  have hextend : ∀ o x, (r.extend o x).bad ≠ [] := by
    intro o x
    obtain ⟨sections, defaults, he⟩ := extend_eq r o x
    rw [he]
    exact hb
  rw [line_eq] at h
  split at h
  · exact Except.ok.inj h ▸ hb
  · split at h
    · split at h
      · exact Except.ok.inj h ▸ hextend _ _
      · exact Except.ok.inj h ▸ hb
    · split at h
      · split at h
        · exact Except.ok.inj h ▸ hextend _ _
        · exact start_bad (r := { r with indent := depth l }) hb h
      · exact start_bad (r := { r with indent := depth l }) hb h

theorem lines_bad {ls : List String} (hb : r.bad ≠ []) (h : r.lines n ls = .ok r') : r'.bad ≠ [] := by
  induction ls generalizing r n with
  | nil => exact Except.ok.inj h ▸ hb
  | cons l ls ih =>
    rw [lines_cons] at h
    cases hl : r.line n l with
    | error e => rw [hl] at h; cases h
    | ok r₁ =>
      rw [hl] at h
      exact ih (line_bad hb hl) h

end
end Draft

/-! ## texts -/

/-- what comes of reading: what the statements say if they are orderly, else an error or a complaint -/
inductive Reads (before ss : List Statement) : Except IniError Draft → Prop where
  | holds {r : Draft} (ho : OrderlyAfter before ss) (h : r.Holds (before ++ ss)) :
    Reads before ss (.ok r)
  | bad {r : Draft} (ho : ¬ OrderlyAfter before ss) (h : r.bad ≠ []) : Reads before ss (.ok r)
  | error {e : IniError} (ho : ¬ OrderlyAfter before ss) : Reads before ss (.error e)

section
variable {before ss : List Statement} {st : Statement} {r : Draft} {ls : List String} {n : Nat}

theorem reads_of_bad (hb : r.bad ≠ []) (ho : ¬ OrderlyAfter before ss) :
    Reads before ss (r.lines n ls) := by
  cases h : r.lines n ls with
  | error e => exact .error ho
  | ok r' => exact .bad ho (Draft.lines_bad hb h)

theorem reads_bind {x : Except IniError Draft}
    (hfits : Fits before st → ∃ r', x = .ok r' ∧ Reads (before ++ [st]) ss (r'.lines n ls))
    (hno : ¬ Fits before st → ∀ r', x = .ok r' → r'.bad ≠ []) :
    Reads before (st :: ss) (x >>= fun r' => r'.lines n ls) := by
  by_cases hf : Fits before st
  · obtain ⟨r', rfl, h⟩ := hfits hf
    show Reads before (st :: ss) (r'.lines n ls)
    generalize r'.lines n ls = y at h ⊢
    cases h with
    | holds ho h => exact .holds ⟨hf, ho⟩ (by simpa using h)
    | bad ho h => exact .bad (fun hs => ho hs.2) h
    | error ho => exact .error fun hs => ho hs.2
  · have ho : ¬ OrderlyAfter before (st :: ss) := fun ho => hf ho.1
    cases x with
    | error e => exact .error ho
    | ok r' => exact reads_of_bad (hno hf r' rfl) ho

def Statement.option? : Statement → Option String
  | .option name _ => some name
  | _ => none

theorem start_of_holds (h : r.Holds before) (n : Nat) (l : String) :
    (Fits before (opening l) → ∃ r', r.start n l (Text.trim l) = .ok r' ∧
      r'.Holds (before ++ [opening l]) ∧ r'.option = (opening l).option? ∧ r'.indent = r.indent) ∧
    (¬ Fits before (opening l) → ∀ r', r.start n l (Text.trim l) = .ok r' → r'.bad ≠ []) := by
  unfold Draft.start
  cases hheader : header? (Text.trim l) with
  | some sect =>
    have hopening : opening l = .header sect := by
      unfold opening
      rw [hheader]
    obtain ⟨hfits, hno⟩ := h.openSection n sect
    rw [hopening]
    exact ⟨hfits, fun hf r' hr' => absurd hr' (hno hf r')⟩
  | none =>
    cases hoption : option? (Text.trim l) with
    | none =>
      have hopening : opening l = .stray := by
        unfold opening
        rw [hheader, hoption]
      rw [hopening, h.current]
      refine ⟨False.elim, fun _ r' => ?_⟩
      cases (headers before).getLast? with
      | none => exact fun hr' => by cases hr'
      | some sect =>
        intro hr'
        obtain rfl := Except.ok.inj hr'
        simp
    | some p =>
      obtain ⟨given, value⟩ := p
      by_cases hgiven : given = ""
      · have hopening : opening l = .stray := by
          unfold opening
          rw [hheader, hoption]
          exact if_pos hgiven
        rw [hopening, h.current]
        refine ⟨False.elim, fun _ r' => ?_⟩
        cases (headers before).getLast? with
        | none => exact fun hr' => by cases hr'
        | some sect => exact Draft.setOption_bad (.inr hgiven)
      · have hopening : opening l = .option (Text.lower (Text.trimRight given)) [value] := by
          unfold opening
          rw [hheader, hoption]
          exact if_neg hgiven
        rw [hopening, h.current]
        cases hs : (headers before).getLast? with
        | none =>
          refine ⟨?_, fun _ r' hr' => by cases hr'⟩
          rintro ⟨sect, hsect, -⟩
          cases hs.symm.trans hsect
        | some sect =>
          obtain ⟨hfresh, hno⟩ := h.setOption hs n l value hgiven
          constructor
          · rintro ⟨sect', hsect', hf⟩
            obtain rfl := Option.some.inj (hs.symm.trans hsect')
            exact hfresh hf
          · intro hf r' hr'
            exact absurd hr' (hno (fun hn => hf ⟨sect, hs, hn⟩) r')

theorem statementsAfter_dropWhile (skip : String → Bool) (ls : List String) :
    statementsAfter skip (ls.dropWhile skip) = statementsAfter skip ls := by
  induction ls with
  | nil => rfl
  | cons l ls ih =>
    rw [List.dropWhile_cons]
    cases hl : skip l with
    | false => rfl
    | true => rw [if_pos rfl, ih, statementsAfter, hl, Bool.true_or, if_pos rfl]

/-- a draft that holds what has been read goes on to the end of the text -/
theorem lines_of_holds (h : r.Holds before) (hskips : ∀ l, ls.head? = some l → r.skips l = false)
    (n : Nat) : Reads before (statementsAfter r.skips ls) (r.lines n ls) := by
  induction hlength : ls.length using Nat.strongRecOn generalizing r before ls n with
  | ind k ih =>
    subst hlength
    cases ls with
    | nil => exact .holds trivial (by simpa [statementsAfter] using h)
    | cons l ls =>
      have hl : r.skips l = false := hskips l rfl
      rw [statementsAfter, hl, Bool.false_or, Draft.lines_cons]
      cases hidle : isIdle l with
      | true =>
        have hopen := Draft.open?_eq_none_of_isIdle hl hidle
        have hnever : ∀ l', ls.head? = some l' → r.skips l' = false := by simp [Draft.skips, hopen]
        rw [if_pos rfl, Draft.line_of_isIdle hopen hidle]
        exact ih ls.length (Nat.lt_succ_self _) h hnever (n + 1) rfl
      | false =>
        have hr : ({ r with indent := depth l } : Draft).Holds before :=
          ⟨h.current, h.defaults, h.sections, h.bad⟩
        obtain ⟨hfits, hno⟩ := start_of_holds hr n l
        rw [if_neg (by simp), Draft.line_eq_start hl hidle]
        cases hopening : opening l with
        | header sect =>
          rw [hopening] at hfits hno
          refine reads_bind (fun hf => ?_) hno
          obtain ⟨r', hstart, hholds, hoption, -⟩ := hfits hf
          have hnever := Draft.skips_of_option_eq_none hoption
          have hrest := ih ls.length (Nat.lt_succ_self _) hholds (by simp [hnever]) (n + 1) rfl
          exact ⟨r', hstart, hnever ▸ hrest⟩
        | stray =>
          rw [hopening] at hno
          exact reads_bind False.elim hno
        | option name value =>
          rw [hopening] at hfits hno
          refine reads_bind (fun hf => ?_) hno
          obtain ⟨r', hstart, hholds, hoption, hindent⟩ := hfits hf
          obtain ⟨sect, hs, hfresh⟩ := hf
          obtain ⟨r'', n', hlines, hholds', hskips'⟩ :=
            Draft.continued_lines hholds hs hfresh hoption (n + 1) ls
          rw [hindent] at hlines hholds' hskips'
          have hshorter := (List.dropWhile_sublist (continues name (depth l)) (l := ls)).length_le
          have hhead : ∀ l', (ls.dropWhile (continues name (depth l))).head? = some l' →
              r''.skips l' = false := by
            intro l' hl'
            have hnot := List.head?_dropWhile_not (continues name (depth l)) ls
            rw [hl'] at hnot
            rw [hskips']
            exact hnot
          have hrest := ih _ (Nat.lt_succ_of_le hshorter) hholds' hhead n' rfl
          rw [hskips', statementsAfter_dropWhile, ← hlines] at hrest
          exact ⟨r', hstart, hrest⟩

theorem contents_of_holds (h : r.Holds ss) :
    ({ sections := r.sections.map fun p => (p.1, joinValues p.2)
       defaults := joinValues r.defaults } : Contents) = contents ss := by
  unfold contents
  rw [h.defaults, h.sections, List.map_map]
  rfl

theorem read_of_lines {text : String} (h : ({} : Draft).lines 1 (linesFrom [] text.toList) = .ok r) :
    read text =
      if r.bad = [] then
        .ok { sections := r.sections.map fun p => (p.1, joinValues p.2)
              defaults := joinValues r.defaults }
      else .error (.badLines r.bad) := by
  unfold read
  rw [h]
  cases hb : r.bad with
  | nil =>
    show (if !r.bad.isEmpty then _ else _) = _
    rw [hb]
    rfl
  | cons b bs =>
    show (if !r.bad.isEmpty then _ else _) = _
    rw [hb]
    rfl

/-- the texts that can be read are the orderly ones, and what is read is what they say -/
theorem read_eq_ok_iff {text : String} {i : Contents} :
    read text = .ok i ↔ Orderly (statements text) ∧ i = contents (statements text) := by
  have hempty : ({} : Draft).Holds [] := ⟨rfl, rfl, rfl, rfl⟩
  have hreads : Reads [] (statements text) (({} : Draft).lines 1 (linesFrom [] text.toList)) :=
    lines_of_holds hempty (fun _ _ => rfl) 1
  generalize hx : ({} : Draft).lines 1 (linesFrom [] text.toList) = x at hreads
  cases hreads with
  | holds ho h =>
    rw [read_of_lines hx, if_pos h.bad, contents_of_holds h]
    simp [Orderly, ho, eq_comm]
  | bad ho h =>
    rw [read_of_lines hx, if_neg h]
    simp [Orderly, ho]
  | @error e ho =>
    have herror : read text = .error e := by
      unfold read
      rw [hx]
      rfl
    rw [herror]
    simp [Orderly, ho]

end

end CommandLine.Ini
