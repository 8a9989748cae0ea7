import CommandLine.Proofs.Trimming
import CommandLine.Source.ConfigFile

/-!
# A section with one option

`singleOption f v` is the text of a file whose section holds the one line `f = v`.  It is read back
here: the line is cut at the sign, the blanks around it are dropped, and the name loses its upper
case (`read_singleOption`).  A value without a percent sign is expanded to itself
(`expanded_of_no_percent`).
-/

namespace CommandLine

/-! ## blanks at the ends -/

/-- a text of one line that starts and ends with something that is not blank -/
structure IsOneLine (v : String) : Prop where
  line : '\n' ∉ v.toList
  first : ∃ c ∈ v.toList.head?, Text.isBlank c = false
  last : ∃ c ∈ v.toList.getLast?, Text.isBlank c = false

structure IsOptionName (f : String) : Prop where
  nonempty : f.toList ≠ []
  plain : ∀ c ∈ f.toList, Text.isBlank c = false ∧ c ≠ '=' ∧ c ≠ ':' ∧ c ≠ '[' ∧ c ≠ '#' ∧ c ≠ ';'

section
variable {f v : String}

theorem IsOptionName.isOneLine (h : IsOptionName f) : IsOneLine f := by
  obtain ⟨hne, hc⟩ := h
  refine ⟨?_, ?_, ?_⟩
  · intro hn
    exact absurd (hc '\n' hn).1 (by decide)
  · refine ⟨f.toList.head hne, List.head?_eq_some_head hne, (hc _ (List.head_mem hne)).1⟩
  · refine ⟨f.toList.getLast hne, List.getLast?_eq_some_getLast hne, (hc _ (List.getLast_mem hne)).1⟩

theorem trimRight_of_isOneLine (h : IsOneLine v) : Text.trimRight v = v := by
  have ht := trimRightOf_append h.last [] (by simp)
  unfold Text.trimRight
  rw [List.append_nil] at ht
  rw [ht, String.ofList_toList]

theorem trim_append_newline (hf : IsOneLine f) (hv : IsOneLine v) (mid : String) :
    Text.trim (f ++ mid ++ v ++ "\n") = f ++ mid ++ v := by
  rw [trim_append_blanks (isBlankText_of_toList rfl rfl), trim_between hf.first hv.last]

theorem trim_blank_append (hv : IsOneLine v) : Text.trim (" " ++ v) = v := by
  rw [trim_blanks_append isBlankText_space, trim_of_ends hv.first hv.last]

theorem trimRight_append_blank (hf : IsOneLine f) : Text.trimRight (f ++ " ") = f := by
  unfold Text.trimRight
  rw [String.toList_append, trimRightOf_append hf.last _ isBlankText_space, String.ofList_toList]

end

/-! ## lines -/

theorem linesFrom_line {xs : List Char} (h : '\n' ∉ xs) (acc rest : List Char) :
    Ini.linesFrom acc (xs ++ '\n' :: rest) =
      String.ofList (acc.reverse ++ xs ++ ['\n']) :: Ini.linesFrom [] rest := by
  induction xs generalizing acc with
  | nil =>
    rw [List.nil_append, Ini.linesFrom, if_pos rfl, List.reverse_cons, List.append_nil]
  | cons x xs ih =>
    have hx : ¬ x = '\n' := fun e => h (by simp [e])
    have hxs : '\n' ∉ xs := fun hm => h (by simp [hm])
    rw [List.cons_append, Ini.linesFrom, if_neg hx, ih hxs, List.reverse_cons]
    simp

theorem lines_cons_of_ok {r r' : Ini.Draft} {n : Nat} {l : String} (h : r.line n l = .ok r')
    (ls : List String) : r.lines n (l :: ls) = r'.lines (n + 1) ls := by
  rw [Ini.Draft.lines, h]
  rfl

def singleOption (f v : String) : String :=
  "[" ++ configSection ++ "]\n" ++ (f ++ " = " ++ v ++ "\n")

section
variable {f v : String}

theorem linesFrom_singleOption (hf : IsOptionName f) (hv : IsOneLine v) :
    Ini.linesFrom [] (singleOption f v).toList =
      ["[" ++ configSection ++ "]\n", f ++ " = " ++ v ++ "\n"] := by
  have hline : '\n' ∉ (f ++ " = " ++ v).toList := by
    simp only [String.toList_append, List.mem_append, not_or]
    exact ⟨⟨hf.isOneLine.line, by decide⟩, hv.line⟩
  have htext : (singleOption f v).toList =
      ("[" ++ configSection ++ "]").toList ++ '\n' :: ((f ++ " = " ++ v).toList ++ '\n' :: []) := by
    simp [singleOption, String.toList_append]
  have hend : ∀ t : String, String.ofList ([].reverse ++ t.toList ++ ['\n']) = t ++ "\n" := by
    intro t
    rw [← String.toList_inj, String.toList_ofList, String.toList_append]
    rfl
  rw [htext, linesFrom_line (by decide), linesFrom_line hline, hend, hend]
  rfl

theorem option_line (hf : IsOptionName f) (hv : IsOneLine v) :
    Ini.option? (f ++ " = " ++ v) = some (f, v) := by
  have hname : ∀ c ∈ (f ++ " ").toList, (c ≠ '=' && c ≠ ':') = true := by
    intro c hc
    rw [String.toList_append, List.mem_append] at hc
    rcases hc with hc | hc
    · obtain ⟨-, h₁, h₂, -⟩ := hf.plain c hc
      simp [h₁, h₂]
    · obtain rfl : c = ' ' := List.mem_singleton.1 hc
      rfl
  have htext : (f ++ " = " ++ v).toList = (f ++ " ").toList ++ '=' :: (" " ++ v).toList := by
    simp [String.toList_append]
  unfold Ini.option?
  simp only [htext, List.takeWhile_append_of_pos hname, List.dropWhile_append_of_pos hname]
  show some (Text.trimRight (String.ofList ((f ++ " ").toList ++ [])),
    Text.trim (String.ofList (" " ++ v).toList)) = some (f, v)
  rw [List.append_nil, String.ofList_toList, String.ofList_toList, trim_blank_append hv,
    trimRight_append_blank hf.isOneLine]

theorem line_option (hf : IsOptionName f) (hv : IsOneLine v) (n : Nat) :
    ({ sections := [(configSection, [])], current := some configSection } : Ini.Draft).line n
        (f ++ " = " ++ v ++ "\n") =
      .ok { sections := [(configSection, [(Text.lower f, [v])])], current := some configSection,
            option := some (Text.lower f) } := by
  obtain ⟨c, cs, hcs⟩ := List.exists_cons_of_ne_nil hf.nonempty
  have htext : (f ++ " = " ++ v).toList = c :: (cs ++ (" = " ++ v).toList) := by
    rw [String.append_assoc, String.toList_append, hcs]
    rfl
  obtain ⟨hblank, -, -, hopen, hhash, hsemi⟩ := hf.plain c (by rw [hcs]; simp)
  have htrim := trim_append_newline hf.isOneLine hv " = "
  have hcomment : (Text.startsWith "#" (f ++ " = " ++ v) || Text.startsWith ";" (f ++ " = " ++ v))
      = false := by
    unfold Text.startsWith
    rw [htext]
    simp [List.isPrefixOf, hhash.symm, hsemi.symm]
  have hempty : ¬ f ++ " = " ++ v = "" := by
    intro e
    rw [e] at htext
    cases htext
  have hindent : ((f ++ " = " ++ v ++ "\n").toList.takeWhile Text.isBlank).length = 0 := by
    rw [String.toList_append, htext, List.cons_append, List.takeWhile_cons_of_neg (by simp [hblank])]
    rfl
  have hheader : Ini.header? (f ++ " = " ++ v) = none := by
    unfold Ini.header?
    rw [htext]
    split
    · rename_i e
      exact absurd (List.cons.inj e).1 hopen
    · rfl
  unfold Ini.Draft.line
  simp only [htrim, hcomment, hempty, hindent]
  show Ini.Draft.start _ n (f ++ " = " ++ v ++ "\n") (f ++ " = " ++ v) = _
  unfold Ini.Draft.start
  simp only [hheader, option_line hf hv]
  have hname : ¬ f = "" := by
    intro e
    rw [e] at hcs
    cases hcs
  unfold Ini.Draft.setOption
  simp only [if_neg hname, trimRight_of_isOneLine hf.isOneLine]
  rfl

theorem read_singleOption (hf : IsOptionName f) (hv : IsOneLine v) :
    Ini.read (singleOption f v) =
      .ok { sections := [(configSection, [(Text.lower f, v)])] } := by
  have hhead : ({} : Ini.Draft).line 1 ("[" ++ configSection ++ "]\n") =
      .ok { sections := [(configSection, [])], current := some configSection } := rfl
  have hlines : ({} : Ini.Draft).lines 1 ["[" ++ configSection ++ "]\n", f ++ " = " ++ v ++ "\n"] =
      .ok { sections := [(configSection, [(Text.lower f, [v])])], current := some configSection,
            option := some (Text.lower f) } := by
    rw [lines_cons_of_ok hhead, lines_cons_of_ok (line_option hf hv 2)]
    rfl
  unfold Ini.read
  rw [linesFrom_singleOption hf hv, hlines]
  show Except.ok ({ sections := [(configSection, [(Text.lower f, Text.trimRight v)])] } :
    Ini.Contents) = _
  rw [trimRight_of_isOneLine hv]

end

/-! ## expanding -/

theorem pieces_of_no_percent {cs : List Char} (h : '%' ∉ cs) {n : Nat} (hn : cs.length ≤ n) :
    Ini.pieces n cs = cs.map fun c => .text (String.singleton c) := by
  induction cs generalizing n with
  | nil => cases n <;> rfl
  | cons c cs ih =>
    cases n with
    | zero => simp at hn
    | succ n =>
      have hc : ¬ c = '%' := fun e => h (by simp [e])
      have hcs : '%' ∉ cs := fun hm => h (by simp [hm])
      rw [Ini.pieces, ih hcs (by simpa using hn), List.map_cons]
      exact hc

theorem join_singletons (cs : List Char) :
    String.join (cs.map String.singleton) = String.ofList cs := by
  rw [← String.toList_inj, String.toList_join, String.toList_ofList]
  induction cs with
  | nil => rfl
  | cons c cs ih => rw [List.map_cons, List.flatMap_cons, ih, String.toList_singleton]; rfl

theorem mapM_texts {g : Ini.Piece → Except Ini.IniError String} (hg : ∀ s, g (.text s) = .ok s)
    (cs : List Char) :
    (cs.map fun c => Ini.Piece.text (String.singleton c)).mapM g =
      .ok (cs.map String.singleton) := by
  induction cs with
  | nil => rfl
  | cons c cs ih =>
    rw [List.map_cons, List.mapM_cons, hg, ih]
    rfl

theorem expanded_of_no_percent {v : String} (h : '%' ∉ v.toList) (options : List (String × String))
    (sect option : String) : Ini.Contents.expanded options sect option v = .ok v := by
  unfold Ini.Contents.expanded Ini.maxDepth
  rw [Ini.Expansion.expand, pieces_of_no_percent h (Nat.le_of_eq String.length_toList),
    mapM_texts (fun _ => rfl)]
  show Except.ok (String.join (v.toList.map String.singleton)) = _
  rw [join_singletons, String.ofList_toList]

/-! ## the section -/

/-- what a value of the only option stands for -/
def onlyValue (f v : String) : Except Ini.IniError String :=
  Ini.Contents.expanded [(Text.lower f, v)] configSection (Text.lower f) v

theorem onlyValue_of_no_percent {v : String} (h : '%' ∉ v.toList) (f : String) :
    onlyValue f v = .ok v := expanded_of_no_percent h _ _ _

theorem values_onlyValue (f v : String) :
    Ini.Contents.values { sections := [(configSection, [(Text.lower f, v)])] } configSection =
      (onlyValue f v).map fun v' => some [(Text.lower f, v')] := by
  show ((onlyValue f v >>= fun v' => Except.ok (Text.lower f, v')) >>= fun p =>
    (Except.ok [] : Except Ini.IniError (List (String × String))) >>= fun ps =>
      Except.ok (p :: ps)) >>= (fun vs => Except.ok (some vs)) = _
  cases onlyValue f v <;> rfl

theorem sectionValues_singleOption {f v : String} (hf : IsOptionName f) (hv : IsOneLine v)
    {a : Surroundings} {p : Path} (ht : a.text? p = some (singleOption f v)) :
    sectionValues a p = match onlyValue f v with
      | .ok v' => .ok (some [(Text.lower f, v')])
      | .error e => .error (e.toError "") := by
  have hread : readSections a p = .ok { sections := [(configSection, [(Text.lower f, v)])] } := by
    unfold readSections
    simp only [ht, read_singleOption hf hv]
  unfold sectionValues
  rw [hread]
  simp only [bind, Except.bind, values_onlyValue]
  cases onlyValue f v <;> rfl

end CommandLine
