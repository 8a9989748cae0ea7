import CommandLine.Proofs.Grouping
import CommandLine.Proofs.Runs
import CommandLine.Proofs.Trimming
import CommandLine.Report.Failure
import CommandLine.Report.Table

/-!
# What a report of a failure names

A report shows one line of the error's description, the last one, and takes the name for its table from it.  So the
report is about the whole error only if the message stays on its line: the description is then shown as it is
(`lastLine_of_isLine`), its part before the colon is the kind of error (`beforeColon_description`), and that closes
the last row (`rows_eq`).  Of the layout of the table it is asked that the kind in the last row ends it (`ShowsKind`),
as in plain tables (`showsKind_table`).

* `failure_names_error_iff`  the report names the kind and holds the message exactly if the message is one line.
-/

namespace CommandLine

/-! ## lines -/

/-- a text at none of whose characters a line ends -/
def IsLine (s : String) : Prop := ∀ c ∈ s.toList, Text.isLineEnd c = false

instance (s : String) : Decidable (IsLine s) :=
  List.decidableBAll (fun c => Text.isLineEnd c = false) s.toList

theorem IsLine.of_part {s t : String} (ht : IsLine t) (h : s.toList <:+: t.toList) : IsLine s :=
  fun c hc => ht c (h.subset hc)

theorem isLine_append {s t : String} : IsLine (s ++ t) ↔ IsLine s ∧ IsLine t := by
  unfold IsLine
  rw [String.toList_append, List.forall_mem_append]

section
variable {acc cs : List Char}

theorem not_lineEnd_of_linesFrom (hacc : ∀ c ∈ acc, Text.isLineEnd c = false) :
    ∀ l ∈ Text.linesFrom acc cs, ∀ c ∈ l, Text.isLineEnd c = false := by
  have hreverse : ∀ {bs : List Char}, (∀ c ∈ bs, Text.isLineEnd c = false) →
      ∀ c ∈ bs.reverse, Text.isLineEnd c = false :=
    fun h c hc => h c (List.mem_reverse.1 hc)
  fun_induction Text.linesFrom acc cs with
  | case1 => exact fun l hl => absurd hl List.not_mem_nil
  | case2 acc _ =>
    intro l hl
    rw [List.mem_singleton.1 hl]
    exact hreverse hacc
  | case3 acc cs ih =>
    exact List.forall_mem_cons.2 ⟨hreverse hacc, ih fun c hc => absurd hc List.not_mem_nil⟩
  | case4 acc c cs _ _ ih =>
    exact List.forall_mem_cons.2 ⟨hreverse hacc, ih fun c hc => absurd hc List.not_mem_nil⟩
  | case5 acc c cs _ hc ih =>
    exact ih (List.forall_mem_cons.2 ⟨Bool.eq_false_iff.2 hc, hacc⟩)

theorem linesFrom_of_line (h : ∀ c ∈ cs, Text.isLineEnd c = false) (acc : List Char) :
    Text.linesFrom acc (cs ++ ['\n']) = [acc.reverse ++ cs] := by
  induction cs generalizing acc with
  | nil =>
    rw [List.nil_append, List.append_nil, Text.linesFrom.eq_4 _ _ _ (fun _ e => absurd e (by decide))]
    rfl
  | cons c cs ih =>
    obtain ⟨hc, hcs⟩ := List.forall_mem_cons.1 h
    have hreturn : c ≠ '\r' := fun e => absurd (e ▸ hc) (by decide)
    rw [List.cons_append, Text.linesFrom.eq_4 _ _ _ (fun _ e => absurd e hreturn), hc]
    rw [if_neg Bool.false_ne_true, ih hcs, List.reverse_cons, List.append_assoc]
    rfl

end

namespace Report

theorem isLine_lastLine (s : String) : IsLine (lastLine s) := by
  unfold lastLine
  rw [List.getLastD_eq_getLast?]
  cases hlast : (Text.lines (s ++ "\n")).getLast? with
  | none => decide
  | some l =>
    obtain ⟨cs, hcs, rfl⟩ := List.mem_map.1 (List.mem_of_getLast? hlast)
    intro c hc
    rw [Option.getD_some, String.toList_ofList] at hc
    exact not_lineEnd_of_linesFrom (fun c hc => absurd hc List.not_mem_nil) cs hcs c hc

theorem lastLine_of_isLine {s : String} (h : IsLine s) : lastLine s = s := by
  unfold lastLine Text.lines
  rw [String.toList_append, show "\n".toList = ['\n'] from rfl, linesFrom_of_line h]
  simp

/-! ## the description of an error -/

def kindName (k : ErrorKind) : String := homeOfKind k ++ k.name

theorem kindName_facts (k : ErrorKind) :
    ':' ∉ (kindName k).toList ∧ IsLine (kindName k) ∧ kindOfText (kindName k) = .text ∧
      (kindName k).toList.head?.map Text.isBlank = some false ∧
      (kindName k).toList.getLast?.map Text.isBlank = some false := by
  cases k <;> decide +kernel

theorem beforeColon_description (e : Error) : beforeColon (description e) = kindName e.kind := by
  have hcolon := (kindName_facts e.kind).1
  unfold beforeColon description
  by_cases hm : e.message = ""
  · rw [if_pos hm, String.append_empty, ← kindName, Binding.cutAt_eq_none.2 hcolon]
  · have hcut : Text.cutAt ':' (kindName e.kind ++ (": " ++ e.message)) =
        some (kindName e.kind, " " ++ e.message) := by
      have hsplit : kindName e.kind ++ (": " ++ e.message) = kindName e.kind ++ ":" ++ (" " ++ e.message) := by
        rw [show ": " = ":" ++ " " from rfl, String.append_assoc, String.append_assoc]
      rw [hsplit, Binding.cutAt_append rfl hcolon]
    rw [if_neg hm, ← kindName, hcut]

theorem message_infix_description (e : Error) : e.message.toList <:+: (description e).toList := by
  unfold description
  split
  · rename_i hm
    rw [hm]
    exact List.nil_infix
  · rw [← String.append_assoc, String.toList_append]
    exact (List.suffix_append _ _).isInfix

theorem isLine_description {e : Error} (h : IsLine e.message) : IsLine (description e) := by
  unfold description
  refine isLine_append.2 ⟨(kindName_facts e.kind).2.1, ?_⟩
  split
  · decide
  · exact isLine_append.2 ⟨by decide, h⟩

/-! ## the rows -/

/-- the last place is always shown, whatever its name; before it stand places of the failure or the one that
caught it -/
theorem rows_eq (frames : List Frame) (name : String) :
    ∃ fs f, rows frames name = fs.map Frame.row ++ [f.row ++ [name]] ∧ ∀ g ∈ fs ++ [f], g ∈ catching :: frames := by
  unfold rows
  dsimp only
  have hsub := (List.drop_suffix (frames.length + 1 - shownFrames) (catching :: frames)).subset
  have hnear : (catching :: frames).drop (frames.length + 1 - shownFrames) ≠ [] := by
    rw [ne_eq, List.drop_eq_nil_iff, List.length_cons, shownFrames]
    omega
  generalize (catching :: frames).drop (frames.length + 1 - shownFrames) = near at hsub hnear ⊢
  rw [List.getLast?_eq_some_getLast hnear]
  refine ⟨_, near.getLast hnear, rfl, fun g hg => hsub ?_⟩
  rcases List.mem_append.1 hg with hg | hg
  · exact List.dropLast_subset _ (List.mem_filter.1 hg).1
  · rw [List.mem_singleton.1 hg]
    exact List.getLast_mem hnear

def Frame.OnLines (f : Frame) : Prop := IsLine f.name ∧ IsLine f.file ∧ IsLine f.text

instance (f : Frame) : Decidable f.OnLines := inferInstanceAs (Decidable (_ ∧ _ ∧ _))

/-- what is asked of the layout of a table: the kind of error at the end of the last row ends it -/
def ShowsKind (layout : List (List String) → String) : Prop :=
  ∀ (fs : List Frame) (f : Frame) (k : ErrorKind), (∀ g ∈ fs ++ [f], g.OnLines) →
    ∃ front, layout (fs.map Frame.row ++ [f.row ++ [kindName k]]) = front ++ kindName k

/-! ## plain tables -/

def tableLines (rows : List (List String)) : List String :=
  rows.mapIdx fun i _ =>
    Text.trimRight (Text.joinWith "  " (((columns rows).map columnTexts).map fun c => c.getD i ""))

theorem joinWith_concat (sep : String) (xs : List String) (x : String) :
    ∃ front, Text.joinWith sep (xs ++ [x]) = front ++ x := by
  induction xs with
  | nil => exact ⟨"", String.empty_append.symm⟩
  | cons y ys ih =>
    obtain ⟨front, hfront⟩ := ih
    obtain ⟨z, zs, hz⟩ := List.exists_cons_of_ne_nil (l := ys ++ [x]) (by simp)
    refine ⟨y ++ sep ++ front, ?_⟩
    rw [List.cons_append, hz, Text.joinWith, ← hz, hfront, ← String.append_assoc]

section
variable {rs : List (List String)} {r : List String} {s : String}

theorem columns_concat (h : ∀ x ∈ rs, x.length ≤ r.length) :
    ∃ cols, columns (rs ++ [r ++ [s]]) = cols ++ [List.replicate rs.length none ++ [some s]] := by
  have hcount : ((rs ++ [r ++ [s]]).map List.length).max? = some (r.length + 1) := by
    rw [List.max?_eq_some_iff]
    refine ⟨by simp, fun n hn => ?_⟩
    obtain ⟨x, hx, rfl⟩ := List.mem_map.1 hn
    rcases List.mem_append.1 hx with hx | hx
    · exact Nat.le_succ_of_le (h x hx)
    · rw [List.mem_singleton.1 hx, List.length_append]
      exact Nat.le_refl _
  have hnone : rs.map (fun x => x[r.length]?) = List.replicate rs.length none :=
    List.map_eq_replicate_iff.2 fun x hx => List.getElem?_eq_none (h x hx)
  unfold columns
  dsimp only
  rw [hcount, Option.getD_some, List.range_succ, List.map_append, List.map_singleton]
  refine ⟨_, congrArg (_ ++ [·]) ?_⟩
  rw [List.map_append, hnone, List.map_singleton, List.getElem?_concat_length]

theorem columnKind_concat (n : Nat) (hs : kindOfText s = .text) :
    columnKind (List.replicate n none ++ [some s]) = .text := by
  have hnone : columnKind (List.replicate n none) = .truth := by
    induction n with
    | zero => rfl
    | succ n ih => exact ih
  unfold columnKind at *
  rw [List.foldl_append, hnone, List.foldl_cons, List.foldl_nil]
  dsimp only
  rw [hs]
  rfl

theorem columnTexts_concat (n : Nat) (hs : kindOfText s = .text) :
    ∃ k, (columnTexts (List.replicate n none ++ [some s])).getD n "" = Text.trim s ++ Text.spaces k := by
  unfold columnTexts
  rw [columnKind_concat n hs]
  unfold flushLeft Text.padRight
  simp [cellText]

theorem tableLines_concat (h : ∀ x ∈ rs, x.length ≤ r.length) (hs : kindOfText s = .text)
    (hhead : ∃ c ∈ s.toList.head?, Text.isBlank c = false)
    (hlast : ∃ c ∈ s.toList.getLast?, Text.isBlank c = false) :
    ∃ front, (tableLines (rs ++ [r ++ [s]])).getLast? = some (front ++ s) := by
  obtain ⟨cols, hcols⟩ := columns_concat h (s := s)
  obtain ⟨k, hk⟩ := columnTexts_concat rs.length hs
  obtain ⟨front, hfront⟩ := joinWith_concat "  "
    ((cols.map columnTexts).map fun c => c.getD rs.length "") (s ++ Text.spaces k)
  refine ⟨front, ?_⟩
  unfold tableLines
  rw [List.mapIdx_concat, List.getLast?_concat, hcols]
  rw [List.map_append, List.map_append, List.map_singleton, List.map_singleton, hk,
    trim_of_ends hhead hlast, hfront]
  have hend : ∃ c ∈ (front ++ s).toList.getLast?, Text.isBlank c = false := by
    obtain ⟨c, hc, hblank⟩ := hlast
    refine ⟨c, ?_, hblank⟩
    rw [String.toList_append, List.getLast?_append, hc]
    rfl
  have hspaces : ∀ c ∈ (Text.spaces k).toList, Text.isBlank c = true := by
    intro c hc
    rw [Text.spaces, String.toList_ofList] at hc
    rw [List.eq_of_mem_replicate hc]
    rfl
  unfold Text.trimRight
  rw [← String.append_assoc, String.toList_append, trimRightOf_append hend _ hspaces, String.ofList_toList]

end

theorem showsKind_table : ShowsKind table := by
  intro fs f k _
  have hshort : ∀ x ∈ fs.map Frame.row, x.length ≤ f.row.length := by
    intro x hx
    obtain ⟨g, -, rfl⟩ := List.mem_map.1 hx
    exact Nat.le_refl 6
  obtain ⟨-, -, htext, hhead, hlast⟩ := kindName_facts k
  obtain ⟨front, hfront⟩ := tableLines_concat hshort htext
    (Option.map_eq_some_iff.1 hhead) (Option.map_eq_some_iff.1 hlast)
  obtain ⟨lines, hlines⟩ := List.getLast?_eq_some_iff.1 hfront
  obtain ⟨above, habove⟩ := joinWith_concat "\n" lines (front ++ kindName k)
  refine ⟨above ++ front, ?_⟩
  show Text.joinWith "\n" (tableLines _) = _
  rw [hlines, habove, String.append_assoc]

/-! ## the report -/

/-- **What a report of a failure names.**  An ordinary error is reported, whatever places it came through, and the
program is left with code 1.  What stands below the table is one line.  The table ends with the kind of the error,
and that line holds the kind and the whole message, exactly if no line ends in the message. -/
theorem failure_names_error_iff {σ α : Type} {layout : List (List String) → String} (hlayout : ShowsKind layout)
    {frames : List Frame} (hframes : ∀ f ∈ frames, f.OnLines) {e : Error} (he : e.kind.isOrdinary = true)
    (w : World σ) :
    let shown := lastLine (description e)
    let table := layout (rows frames (beforeColon shown))
    outcome (failure layout frames e : Run σ α) w = (.error (.exit (.int 1)), { w with out := w.out ++
      ("Error (full trace in exception.log):\n\n" ++ table ++ "\n\n" ++ shown ++ "\n") }) ∧
    IsLine shown ∧
    (e.kind.name.toList <:+ table.toList ∧ e.kind.name.toList <:+: shown.toList ∧
      e.message.toList <:+: shown.toList ↔ IsLine e.message) := by
  intro shown table
  refine ⟨?_, isLine_lastLine _, fun h => (isLine_lastLine _).of_part h.2.2, fun h => ?_⟩
  · unfold failure
    rw [if_pos he]
    rfl
  · have hshown : shown = description e := lastLine_of_isLine (isLine_description h)
    obtain ⟨fs, f, hrows, hplaces⟩ := rows_eq frames (kindName e.kind)
    have hlines : ∀ g ∈ fs ++ [f], g.OnLines := fun g hg =>
      (List.mem_cons.1 (hplaces g hg)).elim (fun hc => hc ▸ by decide) (hframes g)
    obtain ⟨front, hfront⟩ := hlayout fs f e.kind hlines
    refine ⟨?_, ?_, ?_⟩
    · have htable : table = front ++ kindName e.kind := by
        simp only [table, hshown, beforeColon_description, hrows, hfront]
      rw [htable, kindName, ← String.append_assoc, String.toList_append]
      exact List.suffix_append _ _
    · rw [hshown, description, String.toList_append, String.toList_append]
      exact ⟨_, _, rfl⟩
    · rw [hshown]
      exact message_infix_description e

/-- a failure in a command, below a place that is not shown -/
def sampleFrames : List Frame := [⟨"_", "", 0, ""⟩, ⟨"run", "/p/a.py", 3, "  raise ValueError(m)"⟩]

/-- of a message of two lines the report shows the second, and names no kind of error -/
theorem failure_names_error_iff_sample :
    let e := Error.raised .value "a\nb"
    let places := "utils.py:55  ::  suppress_traceback()  :  yield                =>\n" ++
      "a.py:3       ::  run()                 :  raise ValueError(m)  =>  b"
    (ShowsKind table ∧ (∀ f ∈ sampleFrames, f.OnLines) ∧ e.kind.isOrdinary = true) ∧
    outcome (failure table sampleFrames e : Run Unit Unit) ⟨"", "", ()⟩ = (.error (.exit (.int 1)),
      ⟨"Error (full trace in exception.log):\n\n" ++ places ++ "\n\n" ++ "b" ++ "\n", "", ()⟩) ∧
    ¬IsLine e.message ∧
    (e.kind.name.toList <:+ places.toList ∧ e.kind.name.toList <:+: "b".toList ∧
      e.message.toList <:+: "b".toList ↔ IsLine e.message) := by
  intro e places
  have hframes : ∀ f ∈ sampleFrames, f.OnLines := by decide +kernel
  have h := failure_names_error_iff (α := Unit) showsKind_table hframes (e := e) rfl ⟨"", "", ()⟩
  have hshown : lastLine (description e) = "b" := by decide +kernel
  have hplaces : table (rows sampleFrames "b") = places := by decide +kernel
  dsimp only at h
  rw [hshown, show beforeColon "b" = "b" by decide, hplaces] at h
  rw [String.empty_append] at h
  exact ⟨⟨showsKind_table, hframes, rfl⟩, h.1, by decide, h.2.2⟩

end Report
end CommandLine
