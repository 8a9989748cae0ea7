import Mathlib.Data.List.TakeWhile
import CommandLine.Proofs.Parsing
import CommandLine.Proofs.Scanning
import CommandLine.Value.Iterate

/-!
# Words are read back

A word of letters, digits and underscores that starts with no digit is one token (`token_word`).  A
word without a meaning of its own is a literal of the grammar (`expr_word`) and stands for itself; of
the words with a meaning only the three constants are expressions, any other stands for its own text.
Either way the value that the word is read as shows as the word (`readText_word`), and `None` alone is
read as nothing.
-/

namespace CommandLine.Literal

/-- a word of plain letters, digits and underscores -/
def IsPlainWord (t : String) : Prop :=
  Text.isWord t.toList = true ∧ ∀ c ∈ t.toList, c.toNat < 0x80

/-! ## one token -/

section
variable {c : Char} {w : List Char}

theorem isWordLike_of_isWordPart (hc : c.toNat < 0x80) (h : Text.isWordPart c = true) :
    isWordLike c = true := by
  unfold Text.isWordPart at h
  rw [if_pos hc] at h
  unfold isWordLike
  rw [h, Bool.true_or]

theorem isWordPart_of_isWordStart (hc : c.toNat < 0x80) (h : Text.isWordStart c = true) :
    Text.isWordPart c = true := by
  unfold Text.isWordStart at h
  unfold Text.isWordPart
  rw [if_pos hc] at h ⊢
  unfold Char.isAlphanum
  rcases Bool.or_eq_true_iff.1 h with ha | hu
  · rw [ha, Bool.true_or, Bool.true_or]
  · rw [hu, Bool.or_true]

theorem isWordLike_of_isWord (h : Text.isWord w = true) (hw : ∀ c ∈ w, c.toNat < 0x80) :
    ∀ c ∈ w, isWordLike c = true := by
  cases w with
  | nil => intro c hc; cases hc
  | cons c r =>
    obtain ⟨hstart, hrest⟩ := Bool.and_eq_true_iff.1 h
    intro d hd
    refine isWordLike_of_isWordPart (hw d hd) ?_
    rcases List.mem_cons.1 hd with rfl | hd
    · exact isWordPart_of_isWordStart (hw d List.mem_cons_self) hstart
    · exact List.all_eq_true.1 hrest d hd

theorem ne_of_isWordLike (h : isWordLike c = true) {d : Char} (hd : isWordLike d = false) : c ≠ d := by
  rintro rfl
  rw [hd] at h
  cases h

theorem toNat_of_isAlpha (h : c.isAlpha = true) : 65 ≤ c.toNat := by
  rcases Bool.or_eq_true_iff.1 h with hupper | hlower
  · exact UInt32.le_iff_toNat_le.1 (of_decide_eq_true hupper).1
  · have hlow : 97 ≤ c.toNat :=
      UInt32.le_iff_toNat_le.1 (of_decide_eq_true (Bool.and_eq_true_iff.1 hlower).1)
    omega

theorem not_isDigit_of_isWordStart (hc : c.toNat < 0x80) (h : Text.isWordStart c = true) :
    c.isDigit = false := by
  unfold Text.isWordStart at h
  rw [if_pos hc] at h
  rw [Bool.eq_false_iff]
  intro hdigit
  rcases Bool.or_eq_true_iff.1 h with halpha | hunder
  · have hle : c.toNat ≤ 57 := (Char.isDigit_iff_toNat.1 hdigit).2
    have hge := toNat_of_isAlpha halpha
    omega
  · obtain rfl := of_decide_eq_true hunder
    cases hdigit

theorem not_isWordLike_of_stops {rest : List Char} (hrest : Stops rest) :
    rest.takeWhile isWordLike = [] ∧ rest.dropWhile isWordLike = rest := by
  cases hrest <;> exact ⟨rfl, rfl⟩

theorem token_word_stops (h : Text.isWord w = true) (hw : ∀ c ∈ w, c.toNat < 0x80) {rest : List Char}
    (hrest : Stops rest) : token? (w ++ rest) = some (.word w w, rest) := by
  have hlike := isWordLike_of_isWord h hw
  obtain ⟨htakeRest, hdropRest⟩ := not_isWordLike_of_stops hrest
  cases w with
  | nil => cases h
  | cons c r =>
    have hstart := (Bool.and_eq_true_iff.1 h).1
    have hc := hlike c List.mem_cons_self
    have hne : ∀ {d : Char}, isWordLike d = false → c ≠ d := ne_of_isWordLike hc
    have htake : (c :: (r ++ rest)).takeWhile isWordLike = c :: r := by
      rw [← List.cons_append, List.takeWhile_append_of_pos hlike, htakeRest, List.append_nil]
    have hdrop : (c :: (r ++ rest)).dropWhile isWordLike = rest := by
      rw [← List.cons_append, List.dropWhile_append_of_pos hlike, hdropRest]
    have hform : Text.compatible (c :: r) = c :: r := by
      unfold Text.compatible
      rw [if_pos (List.all_eq_true.2 fun d hd => decide_eq_true (hw d hd))]
    rw [List.cons_append]
    unfold token?
    simp only [not_isDigit_of_isWordStart (hw c List.mem_cons_self) hstart, hne (d := '.') rfl,
      hne (d := '"') rfl, hne (d := '\'') rfl, hc, htake, hdrop, hform, h, false_and, or_self,
      Bool.false_eq_true, if_false, if_true]
    cases hrest <;> rfl

theorem token_word (h : Text.isWord w = true) (hw : ∀ c ∈ w, c.toNat < 0x80) :
    token? w = some (.word w w, []) := by
  have htoken := token_word_stops h hw .nil
  rw [List.append_nil] at htoken
  exact htoken

theorem not_lineSign_of_isWordLike (h : isWordLike c = true) : c ∉ lineSigns := by
  have hsigns : ∀ d ∈ lineSigns, isWordLike d = false := by
    intro d hd
    simp only [lineSigns, List.mem_cons, List.not_mem_nil, or_false] at hd
    rcases hd with rfl | rfl | rfl | rfl | rfl | rfl <;> rfl
  exact fun hc => ne_of_isWordLike h (hsigns c hc) rfl

theorem scan_word (h : Text.isWord w = true) (hw : ∀ c ∈ w, c.toNat < 0x80) :
    scan? w = some [.word w w] := by
  have hlike := isWordLike_of_isWord h hw
  have htoken := token_word h hw
  cases w with
  | nil => cases h
  | cons c r =>
    have hline : '\r' ∉ c :: r := fun hm => ne_of_isWordLike (hlike _ hm) rfl rfl
    exact scan_one (not_lineSign_of_isWordLike (hlike c List.mem_cons_self)) hline htoken
      (fun s hs => by cases hs)

end

/-! ## the grammar -/

theorem expr_word {w : List Char} (hw : w ∉ keywords) :
    expr? [.word w w] = some (.word (String.ofList w)) := by
  have hconstant : String.ofList w ∉ ["None", "True", "False"] := by
    intro hm
    have hkey : ∀ s ∈ ["None", "True", "False"], s.toList ∈ keywords := by decide
    have hmem := hkey _ hm
    rw [String.toList_ofList] at hmem
    exact hw hmem
  exact (Sentence.one (.whole (.plain (.word hw hconstant)) .done) rfl).parsed

/-! ## the value -/

/-- a text that spells no expression stands for itself -/
theorem readText_of_parse {t : String} (h : parse? t.toList = none) : readText t = .ok (.text t) := by
  unfold readText readChars valueOf
  rw [h]
  exact ite_self _

theorem parse_keyword : keywords.all (fun k =>
    k = "None".toList || k = "True".toList || k = "False".toList || (parse? k).isNone) = true := by
  decide +kernel

theorem readText_keyword {t : String} (h : t.toList ∈ keywords) (hnone : t ≠ "None") :
    ∃ r, readText t = .ok r ∧ r ≠ .null ∧ r.writePlain = .ok t := by
  have hcases := List.all_eq_true.1 parse_keyword _ h
  simp only [Bool.or_eq_true, decide_eq_true_eq, String.toList_inj, hnone, false_or,
    Option.isNone_iff_eq_none] at hcases
  rcases hcases with (rfl | rfl) | hparse
  · exact ⟨.bool true, rfl, by simp, rfl⟩
  · exact ⟨.bool false, rfl, by simp, rfl⟩
  · exact ⟨.text t, readText_of_parse hparse, by simp, rfl⟩

/-- a plain word is read as a value that shows as the word, unless it names nothing -/
theorem readText_word {t : String} (h : IsPlainWord t) (hnone : t ≠ "None") :
    ∃ r, readText t = .ok r ∧ r ≠ .null ∧ r.writePlain = .ok t := by
  by_cases hk : t.toList ∈ keywords
  · exact readText_keyword hk hnone
  · have hzero : '\x00' ∉ t.toList :=
      fun hm => ne_of_isWordLike (isWordLike_of_isWord h.1 h.2 _ hm) rfl rfl
    have hread : readText t = .ok (.text (String.ofList t.toList)) :=
      readText_of_scan hzero (scan_word h.1 h.2) (expr_word hk) rfl rfl rfl
    rw [String.ofList_toList] at hread
    exact ⟨.text t, hread, by simp, rfl⟩

end CommandLine.Literal
