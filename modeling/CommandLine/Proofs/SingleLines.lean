import CommandLine.Proofs.QuotedText
import CommandLine.Proofs.Runs
import CommandLine.Proofs.WrittenNumbers
import CommandLine.Command.Outcome

/-!
# One element, one line

A value on one line holds no line end, in each of its three forms: a text has its line ends as spaces, data text
escapes them (`unbroken_json`), and any other text for people has them as spaces again.  So the elements of a
printed list are found again as the lines of what is printed (`splitAtChar_linesText`).  A value with a whole number
of too many digits in its text has no line, and printing ends there.

* `results_on_lines`  no value breaks its line, and a list, a set or a generator is printed line by line.
-/

namespace CommandLine

/-- a text without a line end -/
def Unbroken (s : String) : Prop := '\n' ∉ s.toList

instance (s : String) : Decidable (Unbroken s) := inferInstanceAs (Decidable ('\n' ∉ s.toList))

section
variable {s t : String} {cs : List Char}

theorem Unbroken.append (hs : Unbroken s) (ht : Unbroken t) : Unbroken (s ++ t) := by
  unfold Unbroken at *
  rw [String.toList_append, List.mem_append, not_or]
  exact ⟨hs, ht⟩

theorem unbroken_ofList (h : '\n' ∉ cs) : Unbroken (String.ofList cs) := by
  unfold Unbroken
  rwa [String.toList_ofList]

theorem unbroken_joinWith {xs : List String} (hs : Unbroken s) (h : ∀ x ∈ xs, Unbroken x) :
    Unbroken (Text.joinWith s xs) := by
  fun_induction Text.joinWith s xs with
  | case1 => exact List.not_mem_nil
  | case2 x => exact h x List.mem_cons_self
  | case3 x y r ih =>
    exact ((h x List.mem_cons_self).append hs).append (ih fun z hz => h z (List.mem_cons_of_mem x hz))

theorem unbroken_oneLine (s : String) : Unbroken (oneLine s) := by
  refine unbroken_ofList fun h => ?_
  obtain ⟨c, -, hc⟩ := List.mem_map.1 h
  split at hc
  · exact absurd hc (by decide)
  · contradiction

/-! ## numbers -/

theorem not_newline_of_digits {n : Nat} : '\n' ∉ Nat.toDigits 10 n :=
  fun h => absurd (isDigit_of_mem_toDigits h) (by decide)

theorem unbroken_natText (n : Nat) : Unbroken (Number.natText n) := unbroken_ofList not_newline_of_digits

theorem unbroken_intText (i : Int) : Unbroken (Number.intText i) :=
  not_mem_intText i rfl (by decide)

theorem unbroken_decimalText {f : Number.NumberFormat} (hf : Unbroken f.wholeEnd) (n : Nat) (e : Int) :
    Unbroken (Number.decimalText f n e) := by
  have hdigits : '\n' ∉ Nat.toDigits 10 n := not_newline_of_digits
  unfold Number.decimalText
  dsimp only
  split
  · split
    · refine Unbroken.append (by decide) (unbroken_ofList ?_)
      simp [hdigits]
    · split
      · refine (unbroken_ofList ?_).append hf
        simp [hdigits]
      · refine unbroken_ofList ?_
        simp only [List.mem_append, List.mem_cons, not_or]
        exact ⟨fun h => hdigits (List.mem_of_mem_take h), by decide,
          fun h => hdigits (List.mem_of_mem_drop h)⟩
  · have hsign : ∀ b : Prop, [Decidable b] → Unbroken (if b then "-" else "+") := by
      intro b _
      split <;> decide
    refine Unbroken.append (Unbroken.append (Unbroken.append (unbroken_ofList ?_)
      (by decide)) (hsign _)) ?_
    · split
      · exact List.not_mem_nil
      · rename_i h
        exact h ▸ hdigits
      · rename_i h
        rw [h, List.mem_cons, not_or] at hdigits
        simpa using hdigits
    · split
      · exact Unbroken.append (by decide) (unbroken_natText _)
      · exact unbroken_natText _

theorem unbroken_floatText (x : Float) : Unbroken (Number.floatText .data x) := by
  have hwhole : Unbroken Number.NumberFormat.data.wholeEnd := by decide
  have hsign : ∀ b : Bool, Unbroken (if b then "-" else "") := by decide
  unfold Number.floatText
  split
  · decide
  · exact (hsign _).append (by decide)
  · dsimp only
    split
    · exact ((hsign _).append (by decide)).append hwhole
    · exact (hsign _).append (unbroken_decimalText hwhole _ _)

end

/-! ## data text -/

theorem not_newline_of_hexPadded (w n : Nat) : '\n' ∉ Text.hexPadded w n := by
  intro h
  obtain ⟨d, hd, hc⟩ := Literal.mem_hexPadded h
  have hdigit : ∀ d < 16, '\n' ≠ (Nat.toDigits 16 d).headD '0' := by decide
  exact hdigit d hd hc

theorem not_newline_of_jsonChar (c : Char) : '\n' ∉ jsonChar c := by
  have hhex := not_newline_of_hexPadded 4 c.toNat
  unfold jsonChar
  split
  any_goals decide
  split
  · simp [hhex]
  · intro h
    obtain rfl := List.mem_singleton.1 h
    contradiction

theorem unbroken_jsonText (s : String) : Unbroken (jsonText s) := by
  refine unbroken_ofList fun h => ?_
  rcases List.mem_append.1 h with h | h
  · rcases List.mem_cons.1 h with h | h
    · cases h
    · obtain ⟨c, -, hc⟩ := List.mem_flatMap.1 h
      exact not_newline_of_jsonChar c hc
  · cases List.mem_singleton.1 h

theorem unbroken_bracketed {l r : String} {xs : List String} (hl : Unbroken l) (hr : Unbroken r)
    (h : ∀ x ∈ xs, Unbroken x) : Unbroken (bracketed l r xs) :=
  (hl.append (unbroken_joinWith (by decide) h)).append hr

mutual

/-- by recursion over the value: what is written around the parts holds no line end -/
theorem unbroken_json (v : Value) {t : String} (h : v.json? = some t) : Unbroken t := by
  cases v with
  | null => cases h; decide
  | bool b => cases h; cases b <;> decide
  | int i => cases h; exact unbroken_intText i
  | float x => cases h; exact unbroken_floatText x
  | text s => cases h; exact unbroken_jsonText s
  | list xs =>
    obtain ⟨ts, hts, rfl⟩ := Option.map_eq_some_iff.1 h
    exact unbroken_bracketed (by decide) (by decide) (unbroken_jsonAll xs hts)
  | tuple xs =>
    obtain ⟨ts, hts, rfl⟩ := Option.map_eq_some_iff.1 h
    exact unbroken_bracketed (by decide) (by decide) (unbroken_jsonAll xs hts)
  | dict es =>
    obtain ⟨ts, hts, rfl⟩ := Option.map_eq_some_iff.1 h
    exact unbroken_bracketed (by decide) (by decide) (unbroken_jsonEntries es hts)
  | _ => cases h

theorem unbroken_jsonAll (xs : List Value) {ts : List String} (h : Value.jsonAll? xs = some ts) :
    ∀ t ∈ ts, Unbroken t := by
  cases xs with
  | nil => cases h; exact fun t ht => by cases ht
  | cons x xs =>
    obtain ⟨t, ht, hrest⟩ := Option.bind_eq_some_iff.1 h
    obtain ⟨ts, hts, hall⟩ := Option.bind_eq_some_iff.1 hrest
    cases hall
    exact List.forall_mem_cons.2 ⟨unbroken_json x ht, unbroken_jsonAll xs hts⟩

theorem unbroken_jsonEntries (es : List (Value × Value)) {ts : List String}
    (h : Value.jsonEntries? es = some ts) : ∀ t ∈ ts, Unbroken t := by
  cases es with
  | nil => cases h; exact fun t ht => by cases ht
  | cons e es =>
    obtain ⟨t, ht, hrest⟩ := Option.bind_eq_some_iff.1 h
    obtain ⟨ts, hts, hall⟩ := Option.bind_eq_some_iff.1 hrest
    cases hall
    refine List.forall_mem_cons.2 ⟨?_, unbroken_jsonEntries es hts⟩
    obtain ⟨k, v⟩ := e
    obtain ⟨key, -, hentry⟩ := Option.bind_eq_some_iff.1 ht
    obtain ⟨text, htext, hjoined⟩ := Option.bind_eq_some_iff.1 hentry
    cases hjoined
    exact ((unbroken_jsonText key).append (by decide)).append (unbroken_json v htext)

end

theorem unbroken_lineText (v : Value) : Unbroken v.lineText := by
  have hother : Unbroken (v.json?.getD (oneLine v.plain)) := by
    cases h : v.json? with
    | some t => exact unbroken_json v h
    | none => exact unbroken_oneLine _
  unfold Value.lineText
  split
  · exact unbroken_oneLine _
  · exact hother

/-! ## printed results -/

theorem allWritable_iff {xs : List Value} : Value.allWritable xs = true ↔ ∀ x ∈ xs, x.isWritable = true := by
  induction xs with
  | nil => simp [Value.allWritable]
  | cons x xs ih => rw [Value.allWritable, Bool.and_eq_true, ih, List.forall_mem_cons]

theorem line_of_isWritable {v : Value} (h : v.isWritable = true) : v.line = .ok v.lineText := by
  rw [Value.line, Value.checkWritable, if_pos h]
  rfl

theorem line_of_not_isWritable {v : Value} (h : v.isWritable = false) :
    v.line = .error .intTooLongToWrite := by
  rw [Value.line, Value.checkWritable, h]
  rfl

def linesText (xs : List Value) : String := String.join (xs.map fun x => x.lineText ++ "\n")

theorem linesText_cons (x : Value) (xs : List Value) :
    linesText (x :: xs) = x.lineText ++ "\n" ++ linesText xs := by
  rw [linesText, List.map_cons, String.join_cons, linesText]

/-- the lines of what is printed are the elements on one line each, and nothing stands behind the last -/
theorem splitAtChar_linesText (xs : List Value) :
    Text.splitAtChar '\n' (linesText xs) = xs.map Value.lineText ++ [""] := by
  have hjoined : (linesText xs).toList =
      ['\n'].intercalate ((xs.map Value.lineText ++ [""]).map String.toList) := by
    induction xs with
    | nil => rfl
    | cons x xs ih =>
      obtain ⟨l, ls, hls⟩ := List.exists_cons_of_ne_nil (l := xs.map Value.lineText ++ [""]) (by simp)
      rw [linesText_cons, String.toList_append, ih]
      simp only [List.map_cons, List.cons_append, hls, List.intercalate_cons_cons, String.toList_append]
      rfl
  have hunbroken : ∀ cs ∈ (xs.map Value.lineText ++ [""]).map String.toList, '\n' ∉ cs := by
    intro cs hcs
    obtain ⟨s, hs, rfl⟩ := List.mem_map.1 hcs
    rcases List.mem_append.1 hs with hs | hs
    · obtain ⟨x, -, rfl⟩ := List.mem_map.1 hs
      exact unbroken_lineText x
    · rw [List.mem_singleton.1 hs]
      exact List.not_mem_nil
  unfold Text.splitAtChar
  rw [hjoined, List.splitOn_intercalate '\n' hunbroken (by simp), List.map_map]
  exact (List.map_congr_left fun s _ => String.ofList_toList).trans (List.map_id _)

section
variable {σ : Type} {xs : List Value}

/-- values that can be written are printed before anything else is -/
theorem outcome_printLines_append (h : ∀ x ∈ xs, x.isWritable = true) (rest : List Value) (w : World σ) :
    outcome (printLines (xs ++ rest)) w =
      outcome (printLines rest) { w with out := w.out ++ linesText xs } := by
  induction xs generalizing w with
  | nil =>
    show _ = outcome (printLines rest) { w with out := w.out ++ "" }
    rw [String.append_empty]
    rfl
  | cons x xs ih =>
    obtain ⟨hx, hxs⟩ := List.forall_mem_cons.1 h
    show outcome (liftM x.line >>= fun l => printOut (l ++ "\n") >>= fun _ => printLines (xs ++ rest)) w = _
    rw [line_of_isWritable hx]
    show outcome (printLines (xs ++ rest)) { w with out := w.out ++ (x.lineText ++ "\n") } = _
    rw [ih hxs]
    show outcome _ { w with out := w.out ++ (x.lineText ++ "\n") ++ linesText xs } = _
    rw [linesText_cons, String.append_assoc]

theorem outcome_printLines (h : ∀ x ∈ xs, x.isWritable = true) (w : World σ) :
    outcome (printLines xs) w = (.ok (), { w with out := w.out ++ linesText xs }) := by
  have hprint := outcome_printLines_append h [] w
  rw [List.append_nil] at hprint
  exact hprint

theorem outcome_printLines_stop {x : Value} (h : ∀ y ∈ xs, y.isWritable = true) (hx : x.isWritable = false)
    (back : List Value) (w : World σ) :
    outcome (printLines (xs ++ x :: back)) w =
      (.error .intTooLongToWrite, { w with out := w.out ++ linesText xs }) := by
  rw [outcome_printLines_append h]
  show outcome (liftM x.line >>= _) _ = _
  rw [line_of_not_isWritable hx]
  rfl

theorem outcome_printResult {t : Trace}
    (hresult : t.result = .list xs ∨ t.result = .set xs ∨ t.result = .generator xs) (verbose : Bool)
    (w : World σ) : outcome (t.printResult verbose) w = outcome (printLines xs) w := by
  unfold Trace.printResult
  rcases hresult with h | h | h <;> rw [h]

theorem isWritable_of_lines {s : String} (h : Value.lines xs = .ok s) : ∀ x ∈ xs, x.isWritable = true := by
  unfold Value.lines Value.checkWritable at h
  split at h
  · rename_i hall
    exact allWritable_iff.1 hall
  · cases h

/-- a result whose printed form can be told is printed -/
theorem printResult_of_resultText {t : Trace} {verbose : Bool} {s : Option String}
    (h : t.resultText? verbose = .ok s) (w : World σ) :
    ∃ w', outcome (t.printResult verbose) w = (.ok (), w') := by
  have hlines : ∀ xs, t.result = .list xs ∨ t.result = .set xs ∨ t.result = .generator xs →
      ∃ w', outcome (t.printResult verbose) w = (.ok (), w') := by
    intro xs hxs
    have htext : (Value.lines xs).map some = .ok s := by
      unfold Trace.resultText? at h
      rcases hxs with hxs | hxs | hxs <;> rwa [hxs] at h
    cases hall : Value.lines xs with
    | error e =>
      rw [hall] at htext
      cases htext
    | ok text =>
      exact ⟨_, (outcome_printResult hxs verbose w).trans (outcome_printLines (isWritable_of_lines hall) w)⟩
  cases hresult : t.result with
  | list xs => exact hlines xs (.inl hresult)
  | set xs => exact hlines xs (.inr (.inl hresult))
  | generator xs => exact hlines xs (.inr (.inr hresult))
  | _ =>
    unfold Trace.printResult
    rw [hresult, h]
    cases s <;> exact ⟨_, rfl⟩

end

/-- **One element, one line.**  A value in whose text no whole number has too many digits has a line, which holds
no line end, whether the value can be written as data or not.  A list, a set or a generator of such values is
printed with exactly one line for each element, in the order in which it lists them.  Printing ends at the first
element that has no line, behind the lines of those before it. -/
theorem results_on_lines {σ : Type} :
    (∀ v : Value, v.isWritable = true → ∃ l, v.line = .ok l ∧ '\n' ∉ l.toList) ∧
    ∀ (t : Trace) (verbose : Bool) (xs : List Value) (w : World σ),
      (t.result = .list xs ∨ t.result = .set xs ∨ t.result = .generator xs) →
      ((∀ x ∈ xs, x.isWritable = true) → ∃ ls text, xs.map Value.line = ls.map .ok ∧
        outcome (t.printResult verbose) w = (.ok (), { w with out := w.out ++ text }) ∧
        Text.splitAtChar '\n' text = ls ++ [""]) ∧
      ∀ front x back, xs = front ++ x :: back → (∀ y ∈ front, y.isWritable = true) → x.isWritable = false →
        ∃ ls text, front.map Value.line = ls.map .ok ∧
          outcome (t.printResult verbose) w = (.error .intTooLongToWrite, { w with out := w.out ++ text }) ∧
          Text.splitAtChar '\n' text = ls ++ [""] := by
  have hlines : ∀ xs : List Value, (∀ x ∈ xs, x.isWritable = true) →
      xs.map Value.line = (xs.map Value.lineText).map .ok := by
    intro xs h
    rw [List.map_map]
    exact List.map_congr_left fun x hx => line_of_isWritable (h x hx)
  refine ⟨fun v h => ⟨_, line_of_isWritable h, unbroken_lineText v⟩,
    fun t verbose xs w hresult => ⟨fun h => ?_, ?_⟩⟩
  · refine ⟨_, linesText xs, hlines xs h, ?_, splitAtChar_linesText xs⟩
    rw [outcome_printResult hresult, outcome_printLines h]
  · rintro front x back rfl hfront hx
    refine ⟨_, linesText front, hlines front hfront, ?_, splitAtChar_linesText front⟩
    rw [outcome_printResult hresult, outcome_printLines_stop hfront hx]

/-- a class whose instances show a text of two lines -/
def sampleBroken : Class := { (default : Class) with shown := some "x\ny" }

/-- the least whole number that has too many digits -/
def sampleLong : Value := .int (Int.ofNat (Nat.pow 10 4300))

/-- a text, data and an object, each with a line end in it, and then a number that has no line -/
theorem results_on_lines_sample :
    let xs := [.text "a\nb", .tuple [.text "c\nd", .null], .object sampleBroken []]
    let t := Trace.ofComponent (.list (xs ++ [sampleLong, .int 2])) none "-"
    ((∀ x ∈ xs, x.isWritable = true) ∧ sampleLong.isWritable = false) ∧
    xs.map Value.line = [.ok "a b", .ok "[\"c\\nd\", null]", .ok "x y"] ∧
    ∃ ls text, xs.map Value.line = ls.map .ok ∧
      outcome (t.printResult false) ⟨"", "", ()⟩ = (.error .intTooLongToWrite, ⟨"" ++ text, "", ()⟩) ∧
      Text.splitAtChar '\n' text = ls ++ [""] := by
  intro xs t
  have hxs : ∀ x ∈ xs, x.isWritable = true := allWritable_iff.1 (by decide)
  have hlong : sampleLong.isWritable = false := by decide +kernel
  exact ⟨⟨hxs, hlong⟩, rfl, (results_on_lines.2 t false _ ⟨"", "", ()⟩ (.inl rfl)).2 xs sampleLong [.int 2] rfl
    hxs hlong⟩

/-- a number of too many digits has no line, and in the middle of a list it leaves the rest unprinted -/
theorem not_results_on_lines :
    ¬ (∀ v : Value, ∃ l, v.line = .ok l ∧ '\n' ∉ l.toList) ∧
    ¬ ∀ xs : List Value, ∃ text,
      outcome ((Trace.ofComponent (.list xs) none "-").printResult false) ⟨"", "", ()⟩ =
        (.ok (), ⟨text, "", ()⟩) ∧ (Text.splitAtChar '\n' text).length = xs.length + 1 := by
  have hlong : sampleLong.isWritable = false := by decide +kernel
  constructor
  · intro h
    obtain ⟨l, hl, -⟩ := h sampleLong
    rw [line_of_not_isWritable hlong] at hl
    cases hl
  · intro h
    obtain ⟨text, htext, -⟩ := h [.int 1, sampleLong, .int 2]
    rw [outcome_printResult (.inl rfl)] at htext
    have hstop := @outcome_printLines_stop Unit [.int 1] _ (by decide) hlong [.int 2] ⟨"", "", ()⟩
    exact absurd (hstop.symm.trans htext) (fun e => by cases (Prod.mk.inj e).1)

end CommandLine
