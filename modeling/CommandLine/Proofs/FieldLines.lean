import CommandLine.Proofs.MarkedLine
import CommandLine.Proofs.SingleOption
import CommandLine.Schema.ParamHelp
import Mathlib.Data.List.Nodup

/-!
# Declarations of fields

A `FieldText` is what a line of a schema declares, `name: type = default  # description`, and a `Layout` the
blanks that such a line is set with.  A line is cut three times, at the first `=`, at the first `:` of what
stands before it and at the first `#` of what stands behind it, and `paramDoc_line` says that the cuts find
the parts of the field again, whatever signs stand in the type, the default and the description beyond
those that end them.

The lines of a schema are read all together.  Fields with distinct names are all found again, in any
order of the lines (`fields_read_back`).  One indented line without an equals sign makes the whole
schema unreadable, so that no field has help any more (`other_line_hides_fields`).
-/

namespace CommandLine

open Binding

/-! ## fields -/

/-- the blanks that a declaration is set with -/
structure Layout where
  indent : String := "    "
  behindColon : String := " "
  beforeEquals : String := " "
  behindEquals : String := " "
  beforeHash : String := "  "
  behindHash : String := " "
  lineEnd : String := ""
  blank : ∀ s ∈ [indent, behindColon, beforeEquals, behindEquals, beforeHash, behindHash, lineEnd],
    s.toList.all Text.isBlank = true := by decide

/-- what a line of a schema declares -/
structure FieldText where
  name : String
  type : Option String
  default : String
  description : Option String
  name_word : Text.isWord name.toList = true
  type_text : ∀ t ∈ type, t ≠ "" ∧ Text.trim t = t ∧ '=' ∉ t.toList
  default_text : Text.trim default = default ∧ '#' ∉ default.toList
  description_text : ∀ t ∈ description, Text.trim t = t

namespace FieldText

def left (d : FieldText) (l : Layout) : String :=
  match d.type with
  | some t => d.name ++ ":" ++ (l.behindColon ++ t)
  | none => d.name

def right (d : FieldText) (l : Layout) : String :=
  match d.description with
  | some t => d.default ++ l.beforeHash ++ "#" ++ (l.behindHash ++ t)
  | none => d.default

def line (d : FieldText) (l : Layout) : String :=
  l.indent ++ d.left l ++ l.beforeEquals ++ "=" ++ (l.behindEquals ++ d.right l ++ l.lineEnd)

/-- what the help of the field is made of -/
def doc (d : FieldText) : ParamDoc :=
  { type := d.type, default := d.default, description := d.description.getD "" }

end FieldText

/-! ## names -/

/-- the blanks beyond ASCII -/
def blankRanges : List Text.CodeRange :=
  [⟨0x85, 0x85⟩, ⟨0xa0, 0xa0⟩, ⟨0x1680, 0x1680⟩, ⟨0x2000, 0x200a⟩, ⟨0x2028, 0x202f⟩, ⟨0x205f, 0x205f⟩,
    ⟨0x3000, 0x3000⟩]

/-- no range of a table has one of them in it -/
def avoidsBlanks (table : List Text.CodeRange) : Bool :=
  table.all fun r => blankRanges.all fun b => r.hi < b.lo || b.hi < r.lo

-- the lines of the tables are opened one by one, since the kernel is slow to read them as texts
theorem avoidsBlanks_start : avoidsBlanks Text.wordStartRanges = true := by
  unfold Text.wordStartRanges Text.gapTable
  simp only [List.flatMap_cons, List.flatMap_nil]
  repeat rw [String.toList_ofList]
  decide +kernel

theorem avoidsBlanks_part : avoidsBlanks Text.wordPartRanges = true := by
  unfold Text.wordPartRanges Text.gapTable
  simp only [List.flatMap_cons, List.flatMap_nil]
  repeat rw [String.toList_ofList]
  decide +kernel

theorem not_has_of_avoidsBlanks {table : List Text.CodeRange} (h : avoidsBlanks table = true) {n : Nat}
    {b : Text.CodeRange} (hb : b ∈ blankRanges) (hlo : b.lo ≤ n) (hhi : n ≤ b.hi) :
    (table.any (·.has n)) = false := by
  rw [List.any_eq_false]
  intro r hr hin
  have hapart := List.all_eq_true.1 (List.all_eq_true.1 h r hr) b hb
  simp only [Text.CodeRange.has, Bool.and_eq_true, Bool.or_eq_true, decide_eq_true_eq] at hin hapart
  omega

theorem not_word_of_isBlank {c : Char} (h : Text.isBlank c = true) :
    Text.isWordStart c = false ∧ Text.isWordPart c = false := by
  unfold Text.isBlank at h
  simp only [Bool.or_eq_true, Bool.and_eq_true, decide_eq_true_eq] at h
  by_cases hascii : c.toNat < 0x80
  · have hcode : c.toNat ∈ [9, 10, 11, 12, 13, 0x1c, 0x1d, 0x1e, 0x1f, 0x20] := by
      simp only [List.mem_cons, List.not_mem_nil, or_false]
      omega
    have hall : ∀ n ∈ [9, 10, 11, 12, 13, 0x1c, 0x1d, 0x1e, 0x1f, 0x20],
        Text.isWordStart (Char.ofNat n) = false ∧ Text.isWordPart (Char.ofNat n) = false := by decide
    rw [← Char.ofNat_toNat c]
    exact hall _ hcode
  · have hrange : ∃ b ∈ blankRanges, b.lo ≤ c.toNat ∧ c.toNat ≤ b.hi := by
      simp only [blankRanges, List.mem_cons, List.not_mem_nil, or_false, exists_eq_or_imp, exists_eq_left]
      omega
    obtain ⟨b, hb, hlo, hhi⟩ := hrange
    unfold Text.isWordStart Text.isWordPart
    rw [if_neg hascii, if_neg hascii]
    exact ⟨not_has_of_avoidsBlanks avoidsBlanks_start hb hlo hhi,
      not_has_of_avoidsBlanks avoidsBlanks_part hb hlo hhi⟩

theorem isOptionName_of_isWord {f : String} (h : Text.isWord f.toList = true) : IsOptionName f := by
  refine ⟨?_, ?_⟩
  · intro hnil
    rw [hnil] at h
    cases h
  · intro c hc
    have hne : ∀ {d : Char}, Text.isWordStart d = false → Text.isWordPart d = false → c ≠ d := by
      rintro d hstart hpart rfl
      exact not_mem_of_isWord h hstart hpart hc
    refine ⟨Bool.eq_false_iff.2 fun hblank => ?_, hne (by decide) (by decide),
      hne (by decide) (by decide), hne (by decide) (by decide), hne (by decide) (by decide),
      hne (by decide) (by decide)⟩
    obtain ⟨hstart, hpart⟩ := not_word_of_isBlank hblank
    exact hne hstart hpart rfl

/-! ## one line -/

namespace Layout

variable (l : Layout)

theorem isBlankText {s : String} (h : s ∈ [l.indent, l.behindColon, l.beforeEquals, l.behindEquals,
    l.beforeHash, l.behindHash, l.lineEnd]) : IsBlankText s :=
  fun c hc => List.all_eq_true.1 (l.blank s h) c hc

end Layout

/-- the parts behind the equals sign are trimmed once more when they have been cut -/
theorem defaultAndDescription_trim (s : String) :
    defaultAndDescription (Text.trim s) = defaultAndDescription s := by
  obtain ⟨a, b, ha, hb, hs⟩ := exists_trim s
  have hsign : "#".toList = ['#'] := rfl
  cases hcut : Text.cutAt '#' (Text.trim s) with
  | none =>
    have hnone : Text.cutAt '#' s = none := by
      have hinner := cutAt_eq_none.1 hcut
      rw [cutAt_eq_none, hs, String.toList_append, String.toList_append, List.mem_append, List.mem_append,
        not_or, not_or]
      exact ⟨⟨not_mem_of_isBlankText ha (by decide), hinner⟩, not_mem_of_isBlankText hb (by decide)⟩
    unfold defaultAndDescription
    rw [hcut, hnone]
    show (Text.trim (Text.trim s), "") = (Text.trim s, "")
    rw [trim_trim]
  | some parts =>
    obtain ⟨u, v⟩ := parts
    obtain ⟨htrim, hu⟩ := cutAt_eq_some hsign hcut
    have hsome : Text.cutAt '#' s = some (a ++ u, v ++ b) := by
      have hau : '#' ∉ (a ++ u).toList := by
        rw [String.toList_append, List.mem_append, not_or]
        exact ⟨not_mem_of_isBlankText ha (by decide), hu⟩
      rw [hs, htrim, ← cutAt_append hsign hau]
      simp only [String.append_assoc]
    unfold defaultAndDescription
    rw [hcut, hsome]
    show (Text.trim u, Text.trim v) = (Text.trim (a ++ u), Text.trim (v ++ b))
    rw [trim_blanks_append ha, trim_append_blanks hb]

namespace FieldText

variable (d : FieldText) (l : Layout)

theorem isOptionName : IsOptionName d.name := isOptionName_of_isWord d.name_word

theorem nameAndType_left : nameAndType (d.left l) = (d.name, d.type) := by
  have hname : ':' ∉ d.name.toList := fun h => (d.isOptionName.plain _ h).2.2.1 rfl
  unfold left nameAndType
  cases ht : d.type with
  | none => rw [cutAt_eq_none.2 hname]
  | some t =>
    have hblank := l.isBlankText (s := l.behindColon) (by simp)
    rw [cutAt_append rfl hname]
    show (d.name, some (Text.trim (l.behindColon ++ t))) = _
    rw [trim_blanks_append hblank, (d.type_text t ht).2.1]

theorem trim_left : Text.trim (d.left l) = d.left l := by
  have hone := d.isOptionName.isOneLine
  unfold left
  cases ht : d.type with
  | none => exact trim_of_ends hone.first hone.last
  | some t =>
    obtain ⟨hne, htrim, -⟩ := d.type_text t ht
    have hparts : d.name ++ ":" ++ (l.behindColon ++ t) = d.name ++ (":" ++ l.behindColon) ++ t := by
      simp only [String.append_assoc]
    show Text.trim (d.name ++ ":" ++ (l.behindColon ++ t)) = d.name ++ ":" ++ (l.behindColon ++ t)
    rw [hparts, trim_between hone.first (last_of_trim htrim hne)]

theorem no_equals_left : '=' ∉ (l.indent ++ d.left l ++ l.beforeEquals).toList := by
  have hblank : ∀ {s : String}, IsBlankText s → '=' ∉ s.toList :=
    fun hs => not_mem_of_isBlankText hs (by decide)
  have hname : '=' ∉ d.name.toList := fun h => (d.isOptionName.plain _ h).2.1 rfl
  have hleft : '=' ∉ (d.left l).toList := by
    unfold left
    cases ht : d.type with
    | none => exact hname
    | some t =>
      simp only [String.toList_append, List.mem_append, not_or]
      exact ⟨⟨hname, by decide⟩, hblank (l.isBlankText (by simp)), (d.type_text t ht).2.2⟩
  simp only [String.toList_append, List.mem_append, not_or]
  exact ⟨⟨hblank (l.isBlankText (by simp)), hleft⟩, hblank (l.isBlankText (by simp))⟩

theorem defaultAndDescription_right :
    defaultAndDescription (l.behindEquals ++ d.right l ++ l.lineEnd) =
      (d.default, d.description.getD "") := by
  have hequals := l.isBlankText (s := l.behindEquals) (by simp)
  have hend := l.isBlankText (s := l.lineEnd) (by simp)
  obtain ⟨hdefault, hsign⟩ := d.default_text
  have hblank : ∀ {s : String}, IsBlankText s → '#' ∉ s.toList :=
    fun hs => not_mem_of_isBlankText hs (by decide)
  unfold right defaultAndDescription
  cases ht : d.description with
  | none =>
    have hnone : '#' ∉ (l.behindEquals ++ d.default ++ l.lineEnd).toList := by
      simp only [String.toList_append, List.mem_append, not_or]
      exact ⟨⟨hblank hequals, hsign⟩, hblank hend⟩
    rw [cutAt_eq_none.2 hnone]
    show (Text.trim (l.behindEquals ++ d.default ++ l.lineEnd), "") = (d.default, "")
    rw [trim_append_blanks hend, trim_blanks_append hequals, hdefault]
  | some t =>
    have hbefore := l.isBlankText (s := l.beforeHash) (by simp)
    have hbehind := l.isBlankText (s := l.behindHash) (by simp)
    have hfront : '#' ∉ (l.behindEquals ++ d.default ++ l.beforeHash).toList := by
      simp only [String.toList_append, List.mem_append, not_or]
      exact ⟨⟨hblank hequals, hsign⟩, hblank hbefore⟩
    have htext : l.behindEquals ++ (d.default ++ l.beforeHash ++ "#" ++ (l.behindHash ++ t)) ++ l.lineEnd =
        l.behindEquals ++ d.default ++ l.beforeHash ++ "#" ++ (l.behindHash ++ t ++ l.lineEnd) := by
      simp only [String.append_assoc]
    rw [htext, cutAt_append rfl hfront]
    show (Text.trim (l.behindEquals ++ d.default ++ l.beforeHash),
      Text.trim (l.behindHash ++ t ++ l.lineEnd)) = (d.default, t)
    rw [trim_append_blanks hbefore, trim_blanks_append hequals, hdefault, trim_append_blanks hend,
      trim_blanks_append hbehind, d.description_text t ht]

def sides : String × String := (d.left l, Text.trim (l.behindEquals ++ d.right l ++ l.lineEnd))

theorem declaration_line : declaration? (d.line l) = some (d.sides l) := by
  unfold declaration? line
  rw [cutAt_append rfl (d.no_equals_left l)]
  show some (Text.trim (l.indent ++ d.left l ++ l.beforeEquals), _) = _
  rw [trim_append_blanks (l.isBlankText (by simp)), trim_blanks_append (l.isBlankText (by simp)),
    trim_left]
  rfl

/-- the cuts find the parts of a field again -/
theorem paramDoc_line : paramDoc (d.sides l).1 (d.sides l).2 = (d.name, d.doc) := by
  unfold paramDoc sides
  simp only [nameAndType_left, defaultAndDescription_trim, defaultAndDescription_right]
  rfl

end FieldText

/-! ## all lines -/

theorem allSome_map_some {α β : Type} {g : α → Option β} {h : α → β} {xs : List α}
    (hg : ∀ x ∈ xs, g x = some (h x)) : allSome (xs.map g) = some (xs.map h) := by
  induction xs with
  | nil => rfl
  | cons x xs ih =>
    rw [List.map_cons, hg x List.mem_cons_self]
    show (allSome (xs.map g)).map (h x :: ·) = _
    rw [ih fun y hy => hg y (List.mem_cons_of_mem x hy)]
    rfl

theorem allSome_of_none_mem {α : Type} {xs : List (Option α)} (h : none ∈ xs) : allSome xs = none := by
  induction xs with
  | nil => cases h
  | cons x xs ih =>
    cases x with
    | none => rfl
    | some a =>
      have htail : none ∈ xs := (List.mem_cons.1 h).resolve_left (by rintro ⟨⟩)
      show (allSome xs).map (a :: ·) = none
      rw [ih htail]
      rfl

theorem putName_of_not_mem {α : Type} {k : String} {es : List (String × α)} (h : k ∉ es.map (·.1))
    (v : α) : putName k v es = es ++ [(k, v)] := by
  induction es with
  | nil => rfl
  | cons p es ih =>
    rw [List.map_cons, List.mem_cons, not_or] at h
    unfold putName
    rw [if_neg fun e => h.1 e.symm, ih h.2]
    rfl

theorem foldl_putName {α : Type} {es acc : List (String × α)} (h : ((acc ++ es).map (·.1)).Nodup) :
    es.foldl (fun acc e => putName e.1 e.2 acc) acc = acc ++ es := by
  induction es generalizing acc with
  | nil => rw [List.append_nil]; rfl
  | cons e es ih =>
    rw [List.append_cons] at h ⊢
    have hnew : e.1 ∉ acc.map (·.1) := by
      rw [List.map_append, List.map_append] at h
      have hfront := (List.nodup_append.1 h).1
      exact fun hmem => (List.nodup_append.1 hfront).2.2 _ hmem e.1 List.mem_cons_self rfl
    rw [List.foldl_cons, putName_of_not_mem hnew]
    exact ih h

section
variable {fs : List (FieldText × Layout)} {lines : List String}

theorem declarations_of_fields (hd : (fs.map fun f => f.1.name).Nodup)
    (h : lines.filter (Text.startsWith " ") = fs.map fun f => f.1.line f.2) :
    declarations lines = fs.map fun f => f.1.sides f.2 := by
  have hall : allSome ((lines.filter (Text.startsWith " ")).map declaration?) =
      some (fs.map fun f => f.1.sides f.2) := by
    rw [h, List.map_map]
    exact allSome_map_some fun f _ => f.1.declaration_line f.2
  -- what stands before the equals sign tells the name, so that it is different for each field
  have hleft : ((fs.map fun f => f.1.sides f.2).map (·.1)).Nodup := by
    refine List.Nodup.of_map (fun s => (nameAndType s).1) ?_
    rw [List.map_map, List.map_map]
    refine (congrArg List.Nodup (List.map_congr_left fun f _ => ?_)).mpr hd
    exact congrArg Prod.fst (f.1.nameAndType_left f.2)
  unfold declarations
  rw [hall]
  exact @foldl_putName _ _ [] hleft

theorem paramDocs_of_fields (hd : (fs.map fun f => f.1.name).Nodup)
    (h : lines.filter (Text.startsWith " ") = fs.map fun f => f.1.line f.2) :
    paramDocs (declarations lines) = fs.map fun f => (f.1.name, f.1.doc) := by
  have hdocs : ∀ xs : List (FieldText × Layout), ∀ acc,
      (xs.map fun f => f.1.sides f.2).foldl
        (fun acc d => let p := paramDoc d.1 d.2; putName p.1 p.2 acc) acc =
      (xs.map fun f => (f.1.name, f.1.doc)).foldl (fun acc e => putName e.1 e.2 acc) acc := by
    intro xs acc
    rw [List.foldl_map, List.foldl_map]
    simp only [FieldText.paramDoc_line]
  rw [declarations_of_fields hd h]
  unfold paramDocs
  rw [hdocs]
  refine @foldl_putName _ _ [] ?_
  rw [List.nil_append, List.map_map]
  exact hd

theorem declarations_of_other {line : String} (hmem : line ∈ lines)
    (hindent : Text.startsWith " " line = true) (hother : '=' ∉ line.toList) :
    declarations lines = [] := by
  have hnone : declaration? line = none := by
    unfold declaration?
    rw [cutAt_eq_none.2 hother]
    rfl
  have hin : none ∈ (lines.filter (Text.startsWith " ")).map declaration? :=
    List.mem_map.2 ⟨line, List.mem_filter.2 ⟨hmem, hindent⟩, hnone⟩
  unfold declarations
  rw [allSome_of_none_mem hin]

end

/-- **Declared fields are read back.**  Let fields with distinct names be declared one a line, and let
the lines come in any order.  What is read has exactly the declared names, and under each name the type, the
default and the description of that field, nothing where it has no type and an empty text where it
has no description. -/
theorem fields_read_back (ds order : List FieldText) (hd : (ds.map FieldText.name).Nodup)
    (horder : order.Perm ds) :
    ((paramDocs (declarations (order.map fun d => d.line {}))).map (·.1)).Perm
        (ds.map FieldText.name) ∧
      ∀ d ∈ ds, (paramDocs (declarations (order.map fun d => d.line {}))).lookup d.name =
        some { type := d.type, default := d.default, description := d.description.getD "" } := by
  have hnames : ((order.map fun d => (d, ({} : Layout))).map fun f => f.1.name).Nodup := by
    rw [List.map_map]
    exact (horder.map FieldText.name).nodup_iff.2 hd
  have hfilter : (order.map fun d => d.line {}).filter (Text.startsWith " ") =
      (order.map fun d => (d, ({} : Layout))).map fun f => f.1.line f.2 := by
    rw [List.map_map]
    refine List.filter_eq_self.2 fun line hline => ?_
    obtain ⟨d, -, rfl⟩ := List.mem_map.1 hline
    unfold FieldText.line Text.startsWith
    simp only [String.append_assoc, String.toList_append]
    rfl
  have hdocs := paramDocs_of_fields hnames hfilter
  rw [List.map_map] at hdocs
  rw [hdocs]
  refine ⟨?_, ?_⟩
  · rw [List.map_map]
    exact horder.map FieldText.name
  · intro d hmem
    refine lookup_of_mem ?_ (List.mem_map.2 ⟨d, horder.mem_iff.2 hmem, rfl⟩)
    rw [List.map_map]
    exact (horder.map FieldText.name).nodup_iff.2 hd

/-- a field in whose parts all the signs stand -/
def sampleField : FieldText where
  name := "a"
  type := some "dict[str: int]"
  default := "'x=y: z'"
  description := some "tells # from ="
  name_word := by decide
  type_text := by rintro t ⟨⟩; decide +kernel
  default_text := by decide +kernel
  description_text := by rintro t ⟨⟩; decide +kernel

def sampleBareField : FieldText where
  name := "b"
  type := none
  default := ""
  description := none
  name_word := by decide
  type_text := by rintro t ⟨⟩
  default_text := by decide +kernel
  description_text := by rintro t ⟨⟩

theorem fields_read_back_sample :
    sampleField.line {} = "    a: dict[str: int] = 'x=y: z'  # tells # from =" ∧
    sampleBareField.line {} = "    b = " ∧
    (paramDocs (declarations [sampleBareField.line {}, sampleField.line {}])).lookup "a" =
      some ⟨some "dict[str: int]", "'x=y: z'", "tells # from ="⟩ ∧
    (paramDocs (declarations [sampleBareField.line {}, sampleField.line {}])).lookup "b" =
      some ⟨none, "", ""⟩ := by
  have hback := (fields_read_back [sampleField, sampleBareField] [sampleBareField, sampleField]
    (by decide) (List.Perm.swap _ _ _)).2
  exact ⟨by decide +kernel, by decide +kernel, hback sampleField (by simp),
    hback sampleBareField (by simp)⟩

/-- **One other line hides all fields.**  Let the indented lines with an equals sign be those of fields with
distinct names, and let one more indented line come in anywhere that has no equals sign: a comment, a
line of documentation, a blank line.  With it no field has help.  Without it every field has its own, unless
there is such a line already; so nothing is lost exactly if there was nothing before. -/
theorem other_line_hides_fields (fs : List (FieldText × Layout))
    (hd : (fs.map fun f => f.1.name).Nodup) (front behind : List String)
    (hfields : ((front ++ behind).filter fun l => Text.startsWith " " l && Text.hasChar '=' l) =
      fs.map fun f => f.1.line f.2)
    (line : String) (hindent : Text.startsWith " " line = true) (hother : '=' ∉ line.toList) :
    (∀ n, (paramDocs (declarations (front ++ line :: behind))).lookup n = none) ∧
    ((∀ l ∈ front ++ behind, Text.startsWith " " l = true → '=' ∈ l.toList) →
      ∀ f ∈ fs, (paramDocs (declarations (front ++ behind))).lookup f.1.name = some f.1.doc) ∧
    ((∀ f ∈ fs, (paramDocs (declarations (front ++ line :: behind))).lookup f.1.name =
        (paramDocs (declarations (front ++ behind))).lookup f.1.name) ↔
      fs = [] ∨ ∃ l ∈ front ++ behind, Text.startsWith " " l = true ∧ '=' ∉ l.toList) := by
  have hwith : ∀ n, (paramDocs (declarations (front ++ line :: behind))).lookup n = none := by
    intro n
    rw [declarations_of_other (by simp) hindent hother]
    rfl
  have hwithout : (∀ l ∈ front ++ behind, Text.startsWith " " l = true → '=' ∈ l.toList) →
      ∀ f ∈ fs, (paramDocs (declarations (front ++ behind))).lookup f.1.name = some f.1.doc := by
    intro hall f hf
    have hfilter : (front ++ behind).filter (Text.startsWith " ") = fs.map fun f => f.1.line f.2 := by
      rw [← hfields]
      refine List.filter_congr fun l hl => ?_
      cases hl' : Text.startsWith " " l with
      | false => rfl
      | true => exact (List.contains_iff_mem.2 (hall l hl hl')).symm
    rw [paramDocs_of_fields hd hfilter]
    refine lookup_of_mem ?_ (List.mem_map.2 ⟨f, hf, rfl⟩)
    rw [List.map_map]
    exact hd
  refine ⟨hwith, hwithout, ?_⟩
  constructor
  · intro hsame
    by_cases hall : ∀ l ∈ front ++ behind, Text.startsWith " " l = true → '=' ∈ l.toList
    · left
      refine List.eq_nil_iff_forall_not_mem.2 fun f hf => ?_
      have hlost := hsame f hf
      rw [hwith, hwithout hall f hf] at hlost
      cases hlost
    · right
      simp only [not_forall] at hall
      obtain ⟨l, hl, hi, hno⟩ := hall
      exact ⟨l, hl, hi, hno⟩
  · rintro (rfl | ⟨l, hl, hi, hno⟩) f hf
    · cases hf
    · rw [hwith, declarations_of_other hl hi hno]
      rfl

/-- a comment between two fields, one of them in another layout -/
theorem other_line_hides_fields_sample :
    (paramDocs (declarations [sampleField.line {}, "    # signs", " b=\n"])).lookup "a" = none ∧
    (paramDocs (declarations [sampleField.line {}, " b=\n"])).lookup "a" = some sampleField.doc := by
  obtain ⟨hwith, hwithout, -⟩ := other_line_hides_fields
    [(sampleField, {}), (sampleBareField, ⟨" ", "", "", "", "", "", "\n", by decide⟩)] (by decide)
    [sampleField.line {}] [" b=\n"] (by decide +kernel) "    # signs" (by decide) (by decide)
  refine ⟨hwith "a", hwithout ?_ _ List.mem_cons_self⟩
  decide +kernel

end CommandLine
