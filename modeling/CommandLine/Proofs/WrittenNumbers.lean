import CommandLine.Proofs.Scanning
import CommandLine.Value.Cast

/-!
# Whole numbers are read back

The text of a whole number is read in two ways: by the cast to a whole number (`castInt_intText`),
and as a literal, through tokens and the grammar (`readText_intText`).  Both give the number back, as
long as it has no more digits than the readers admit.

Both readers rest on the same facts about the text: it is a dash or nothing and then digits
(`toList_intText`), a zero stands in front of nothing (`eq_zero_of_head_toDigits`), and the value of the
digits is the number (`natOfDigits_toDigits`).
-/

namespace CommandLine

/-! ## digits -/

theorem isDigit_of_mem_toDigits {n : Nat} {c : Char} (h : c ∈ Nat.toDigits 10 n) :
    c.isDigit = true := Nat.isDigit_of_mem_toDigits (by decide) (by decide) h

theorem toNat_of_isDigit {c : Char} (h : c.isDigit = true) : 48 ≤ c.toNat ∧ c.toNat ≤ 57 :=
  Char.isDigit_iff_toNat.1 h

theorem ne_of_isDigit {c d : Char} (h : c.isDigit = true) (hd : d.isDigit = false) : c ≠ d := by
  rintro rfl
  exact absurd h (by rw [hd]; decide)

theorem ne_of_digit_or_dash {c : Char} (h : c.isDigit = true ∨ c = '-') {d : Char} (hd : d.isDigit = false)
    (hdash : d ≠ '-') : c ≠ d := by
  rintro rfl
  rcases h with h | h
  · exact ne_of_isDigit h hd rfl
  · exact hdash h

theorem eq_zero_of_head_toDigits {n : Nat} (h : (Nat.toDigits 10 n).head? = some '0') : n = 0 := by
  induction n using Nat.strongRecOn with
  | ind n ih =>
    by_cases hn : n < 10
    · rw [Nat.toDigits_of_lt_base hn] at h
      exact Nat.digitChar_eq_zero.1 (Option.some.inj h)
    · have hle : 10 ≤ n := Nat.le_of_not_lt hn
      obtain ⟨d, ds, hds⟩ := List.exists_cons_of_ne_nil (Nat.toDigits_ne_nil (n := n / 10) (b := 10))
      rw [Nat.toDigits_of_base_le (by decide) hle, hds] at h
      have hdiv := ih (n / 10) (Nat.div_lt_self (by omega) (by decide)) (by rw [hds]; exact h)
      omega

theorem natOfDigits_toDigits (n : Nat) : Number.natOfDigits (Nat.toDigits 10 n) = n := by
  have hfold : ∀ (cs : List Char) (a : Nat),
      cs.foldl (fun m c => m * 10 + (c.toNat - '0'.toNat)) a = Nat.ofDigitChars 10 cs a := by
    intro cs
    induction cs with
    | nil => intro a; rfl
    | cons c cs ih =>
      intro a
      rw [List.foldl_cons, ih, Nat.ofDigitChars_cons, Nat.mul_comm]
  show (Nat.toDigits 10 n).foldl _ 0 = n
  rw [hfold, Nat.ofDigitChars_toDigits (by decide) (by decide)]

theorem toList_intText (i : Int) :
    (Number.intText i).toList = (if i < 0 then ['-'] else []) ++ Nat.toDigits 10 i.natAbs := by
  unfold Number.intText Number.natText
  split
  · rw [String.toList_append]
    exact congrArg ("-".toList ++ ·) String.toList_ofList
  · exact String.toList_ofList

theorem isDigit_or_dash_of_mem_intText {i : Int} {c : Char} (h : c ∈ (Number.intText i).toList) :
    c.isDigit = true ∨ c = '-' := by
  rw [toList_intText] at h
  rcases List.mem_append.1 h with hc | hc
  · split at hc
    · exact Or.inr (List.mem_singleton.1 hc)
    · cases hc
  · exact Or.inl (isDigit_of_mem_toDigits hc)

theorem not_mem_intText (i : Int) {d : Char} (hd : d.isDigit = false) (hdash : d ≠ '-') :
    d ∉ (Number.intText i).toList :=
  fun hm => ne_of_digit_or_dash (isDigit_or_dash_of_mem_intText hm) hd hdash rfl

/-! ## the cast -/

theorem digitValue_of_isDigit {c : Char} (h : c.isDigit = true) :
    Text.digitValue? c = some (c.toNat - 48) := by
  obtain ⟨-, hle⟩ := toNat_of_isDigit h
  unfold Text.digitValue?
  rw [if_pos (by omega), if_pos h]
  rfl

theorem plainDigits_intText (i : Int) :
    Number.plainDigits (Number.intText i).toList = (Number.intText i).toList := by
  unfold Number.plainDigits
  refine (List.map_congr_left (fun c hc => ?_)).trans (List.map_id _)
  rcases isDigit_or_dash_of_mem_intText hc with hd | rfl
  · obtain ⟨hge, -⟩ := toNat_of_isDigit hd
    have hsum : '0'.toNat + (c.toNat - 48) = c.toNat := by
      show 48 + (c.toNat - 48) = c.toNat
      omega
    simp only [digitValue_of_isDigit hd]
    rw [hsum, Char.ofNat_toNat]
    rfl
  · rfl

theorem trimmed_intText (i : Int) :
    Number.trimmed (Number.intText i) = (Number.intText i).toList := by
  have hdrop : ∀ cs : List Char, (∀ c ∈ cs, c ∈ (Number.intText i).toList) →
      cs.dropWhile (· = ' ') = cs := by
    intro cs hcs
    cases cs with
    | nil => rfl
    | cons c cs =>
      refine List.dropWhile_cons_of_neg ?_
      have hdigit := isDigit_or_dash_of_mem_intText (hcs c List.mem_cons_self)
      simpa using ne_of_digit_or_dash hdigit (d := ' ') rfl (by decide)
  unfold Number.trimmed Text.trimRightOf Text.trimLeftOf
  rw [plainDigits_intText, hdrop _ (fun c hc => hc),
    hdrop _ (fun c hc => List.mem_reverse.1 hc), List.reverse_reverse]

theorem digitsOnly_of_isDigit {cs : List Char} (h : ∀ c ∈ cs, c.isDigit = true) (hne : cs ≠ []) :
    Number.digitsOnly? cs = some cs := by
  fun_induction Number.digitsOnly? cs with
  | case1 => exact absurd rfl hne
  | case2 c hc => rfl
  | case3 c hc => exact absurd (h c (by simp)) hc
  | case4 c d cs hc ih => exact absurd (h '_' (by simp)) (by decide)
  | case5 c d cs hc => exact absurd (h '_' (by simp)) (by decide)
  | case6 c cs hnil hunder hc ih =>
    rw [ih (fun d hd => h d (List.mem_cons_of_mem c hd)) (fun he => hnil he)]
    rfl
  | case7 c cs hnil hunder hc => exact absurd (h c (by simp)) hc

theorem splitSign_intText (i : Int) :
    Number.splitSign (Number.intText i).toList = (decide (i < 0), Nat.toDigits 10 i.natAbs) := by
  rw [toList_intText]
  by_cases hi : i < 0
  · rw [if_pos hi, decide_eq_true hi]
    rfl
  · rw [if_neg hi, decide_eq_false hi, List.nil_append]
    have hds : ∀ c ∈ Nat.toDigits 10 i.natAbs, c.isDigit = true := fun _ => isDigit_of_mem_toDigits
    unfold Number.splitSign
    split
    case _ cs heq => exact absurd (hds '-' (by rw [heq]; simp)) (by decide)
    case _ cs heq => exact absurd (hds '+' (by rw [heq]; simp)) (by decide)
    case _ => rfl

theorem parseInt_intText {i : Int} (h : (Nat.toDigits 10 i.natAbs).length ≤ Number.maxDigits) :
    Number.parseInt (Number.intText i) = .ok i := by
  have hds : ∀ c ∈ Nat.toDigits 10 i.natAbs, c.isDigit = true := fun _ => isDigit_of_mem_toDigits
  unfold Number.parseInt
  rw [trimmed_intText, splitSign_intText]
  simp only [digitsOnly_of_isDigit hds Nat.toDigits_ne_nil, if_neg (Nat.not_lt.2 h),
    natOfDigits_toDigits, decide_eq_true_eq]
  congr 1
  have habs : Int.ofNat i.natAbs = (i.natAbs : Int) := rfl
  split <;> omega

/-- the text of a whole number casts to the number -/
theorem castInt_intText {i : Int} (h : (Nat.toDigits 10 i.natAbs).length ≤ Number.maxDigits) :
    castInt (.text (Number.intText i)) = .ok (.int i) := by
  have hread : intOfText (Text.quoted (Number.intText i)) (Number.intText i) = .ok i := by
    unfold intOfText
    rw [parseInt_intText h]
  show (intOfText (Text.quoted (Number.intText i)) (Number.intText i)).map Value.int = _
  rw [hread]
  rfl

/-! ## the literal -/

namespace Literal

theorem digitIn_of_isDigit {c : Char} (h : c.isDigit = true) :
    digitIn? 10 c = some (c.toNat - '0'.toNat) := by
  obtain ⟨-, hle⟩ := toNat_of_isDigit h
  have hlt : c.toNat - '0'.toNat < 10 := by
    show c.toNat - 48 < 10
    omega
  unfold digitIn?
  simp only [if_pos h, if_pos hlt]

theorem digitRun_of_isDigit {cs rest : List Char} (h : ∀ c ∈ cs, c.isDigit = true) (hrest : Stops rest) :
    digitRun 10 (cs ++ rest) = some (cs.map fun c => c.toNat - '0'.toNat, rest) := by
  induction cs with
  | nil => cases hrest <;> rfl
  | cons c cs ih =>
    obtain ⟨hc, hcs⟩ := List.forall_mem_cons.1 h
    have hne : c ≠ '_' := ne_of_isDigit hc rfl
    rw [List.cons_append]
    unfold digitRun
    split
    case _ heq => cases heq
    case _ heq => exact absurd (List.cons.inj heq).1 hne
    case _ heq =>
      obtain ⟨rfl, rfl⟩ := List.cons.inj heq
      rw [if_neg hne, digitIn_of_isDigit hc, ih hcs]
      rfl

theorem ofDigits_map (cs : List Char) :
    ofDigits 10 (cs.map fun c => c.toNat - '0'.toNat) = Number.natOfDigits cs := by
  unfold ofDigits Number.natOfDigits
  rw [List.foldl_map]

/-- no digit but a zero alone starts with a zero, so the digits are no number with leading zeros -/
theorem not_leading_toDigits (n : Nat) :
    ((Nat.toDigits 10 n).map fun c => c.toNat - '0'.toNat).head? ≠ some 0 ∨
      ((Nat.toDigits 10 n).map fun c => c.toNat - '0'.toNat).any (· ≠ 0) = false := by
  by_cases h : (Nat.toDigits 10 n).head? = some '0'
  · rw [eq_zero_of_head_toDigits h]
    exact Or.inr rfl
  · refine Or.inl (fun hz => h ?_)
    rw [List.head?_map] at hz
    obtain ⟨c, hc, hc0⟩ := Option.map_eq_some_iff.1 hz
    obtain ⟨hge, -⟩ := toNat_of_isDigit (isDigit_of_mem_toDigits (List.mem_of_head? hc))
    have hsub : c.toNat - 48 = 0 := hc0
    have hnat : c.toNat = '0'.toNat := by
      show c.toNat = 48
      omega
    rw [hc, Char.toNat_inj.1 hnat]

theorem decimalNumber_of_digitRun {cs rest : List Char} {ds : List Nat}
    (h : digitRun 10 cs = some (ds, rest)) (hrest : Stops rest) :
    decimalNumber cs =
      if (decide (ds.head? = some 0) && ds.any (· ≠ 0) && true) ||
          (ds.any (· ≠ 0) && decide (Number.maxDigits < ds.length))
      then none else some (.whole (ofDigits 10 ds), rest) := by
  unfold decimalNumber
  rw [h]
  cases hrest <;> rfl

theorem decimalNumber_toDigits {n : Nat} (h : (Nat.toDigits 10 n).length ≤ Number.maxDigits) {rest : List Char}
    (hrest : Stops rest) : decimalNumber (Nat.toDigits 10 n ++ rest) = some (.whole n, rest) := by
  have hds : ∀ c ∈ Nat.toDigits 10 n, c.isDigit = true := fun _ => isDigit_of_mem_toDigits
  have hvalue := ofDigits_map (Nat.toDigits 10 n)
  rw [natOfDigits_toDigits] at hvalue
  have hlength : ((Nat.toDigits 10 n).map fun c => c.toNat - '0'.toNat).length ≤ Number.maxDigits := by
    rw [List.length_map]
    exact h
  have hlead := not_leading_toDigits n
  rw [decimalNumber_of_digitRun (digitRun_of_isDigit hds hrest) hrest]
  generalize (Nat.toDigits 10 n).map (fun c => c.toNat - '0'.toNat) = ds at hvalue hlength hlead ⊢
  have hfalse : (decide (ds.head? = some 0) && ds.any (· ≠ 0) && true) = false := by
    rcases hlead with hhead | hany
    · rw [decide_eq_false hhead]
      rfl
    · rw [hany, Bool.and_false]
      rfl
  rw [hfalse, decide_eq_false (Nat.not_lt.2 hlength), Bool.and_false, hvalue]
  rfl

/-- no base mark stands among digits, nor right behind them -/
theorem number_toDigits {n : Nat} (h : (Nat.toDigits 10 n).length ≤ Number.maxDigits) {rest : List Char}
    (hrest : Stops rest) : number (Nat.toDigits 10 n ++ rest) = some (.whole n, rest) := by
  have hmark : ∀ (m : Char) (r : List Char), m.isDigit = false → ¬ Stops (m :: r) →
      Nat.toDigits 10 n ++ rest ≠ '0' :: m :: r := by
    intro m r hm hstop heq
    obtain ⟨c, cs, hcs⟩ := List.exists_cons_of_ne_nil (Nat.toDigits_ne_nil (n := n) (b := 10))
    rw [hcs] at heq
    cases cs with
    | nil =>
      obtain rfl : rest = m :: r := (List.cons.inj heq).2
      exact hstop hrest
    | cons d cs =>
      have hdigit := isDigit_of_mem_toDigits (n := n) (c := d) (by rw [hcs]; simp)
      rw [(List.cons.inj (List.cons.inj heq).2).1, hm] at hdigit
      cases hdigit
  rw [← decimalNumber_toDigits h hrest]
  unfold number
  split
  case _ r heq => exact absurd heq (hmark 'x' r rfl fun hs => by cases hs)
  case _ r heq => exact absurd heq (hmark 'X' r rfl fun hs => by cases hs)
  case _ r heq => exact absurd heq (hmark 'o' r rfl fun hs => by cases hs)
  case _ r heq => exact absurd heq (hmark 'O' r rfl fun hs => by cases hs)
  case _ r heq => exact absurd heq (hmark 'b' r rfl fun hs => by cases hs)
  case _ r heq => exact absurd heq (hmark 'B' r rfl fun hs => by cases hs)
  case _ => rfl

theorem token_toDigits {n : Nat} (h : (Nat.toDigits 10 n).length ≤ Number.maxDigits) {rest : List Char}
    (hrest : Stops rest) :
    token? (Nat.toDigits 10 n ++ rest) = some (.number (.whole n), rest) := by
  have hnumber := number_toDigits h hrest
  obtain ⟨c, r, hcr⟩ := List.exists_cons_of_ne_nil (Nat.toDigits_ne_nil (n := n) (b := 10))
  have hc : c.isDigit = true := isDigit_of_mem_toDigits (n := n) (by rw [hcr]; simp)
  rw [hcr, List.cons_append] at hnumber ⊢
  unfold token?
  simp only [if_pos hc, hnumber]
  rfl

theorem token_dash {c : Char} (h : c.isDigit = true) (r : List Char) :
    token? ('-' :: c :: r) = some (.sign ['-'], c :: r) := by
  -- of the signs that start with a dash, the longer ones go on with no digit
  have hlong : ∀ d : Char, d.isDigit = false → [d].isPrefixOf (c :: r) = false := by
    intro d hd
    simp [List.isPrefixOf, (ne_of_isDigit h hd).symm]
  have hsign : sign? ('-' :: c :: r) = some ['-'] := by
    simp [sign?, signs, hlong '=' rfl, hlong '>' rfl]
  have hfirst : token? ('-' :: c :: r) =
      (sign? ('-' :: c :: r)).map fun s => (.sign s, ('-' :: c :: r).drop s.length) := rfl
  rw [hfirst, hsign]
  rfl

theorem not_lineSign {c : Char} (h : c.isDigit = true ∨ c = '-') : c ∉ lineSigns := by
  have hsigns : ∀ d ∈ lineSigns, d.isDigit = false ∧ d ≠ '-' := by
    intro d hd
    simp only [lineSigns, List.mem_cons, List.not_mem_nil, or_false] at hd
    rcases hd with rfl | rfl | rfl | rfl | rfl | rfl <;> decide
  intro hc
  obtain ⟨hd, hdash⟩ := hsigns c hc
  exact ne_of_digit_or_dash h hd hdash rfl

/-- a whole number is one token, a negative one has its sign in front -/
theorem scan_intText {i : Int} (h : (Nat.toDigits 10 i.natAbs).length ≤ Number.maxDigits) :
    scan? (Number.intText i).toList =
      some ((if i < 0 then [.sign ['-']] else []) ++ [.number (.whole i.natAbs)]) := by
  have hline := not_mem_intText i (d := '\r') rfl (by decide)
  have htoken := token_toDigits h .nil
  rw [List.append_nil] at htoken
  obtain ⟨c, r, hcr⟩ := List.exists_cons_of_ne_nil (Nat.toDigits_ne_nil (n := i.natAbs) (b := 10))
  have hc : c.isDigit = true := isDigit_of_mem_toDigits (n := i.natAbs) (by rw [hcr]; simp)
  rw [hcr] at htoken
  rw [toList_intText, hcr] at hline ⊢
  by_cases hi : i < 0
  · rw [if_pos hi, List.singleton_append] at hline ⊢
    rw [if_pos hi]
    unfold scan?
    rw [unifyLineEnds_of_not_mem hline]
    show scan (2 * (c :: r).length + 1 + 1 + 1 + 1 + 1) 0 true ('-' :: c :: r) = _
    rw [scan_fresh (by decide),
      scan_token (by decide) (token_dash hc r) (fun s hs => Token.sign.inj hs ▸ ⟨rfl, rfl⟩),
      scan_token (not_lineSign (Or.inl hc)) htoken (fun s hs => by cases hs)]
    rfl
  · rw [if_neg hi] at hline ⊢
    rw [if_neg hi]
    exact scan_one (not_lineSign (Or.inl hc)) hline htoken (fun s hs => by cases hs)

theorem readText_intText {i : Int} (h : (Nat.toDigits 10 i.natAbs).length ≤ Number.maxDigits) :
    readText (Number.intText i) = .ok (.int i) := by
  have hzero := not_mem_intText i (d := '\x00') rfl (by decide)
  have habs : Int.ofNat i.natAbs = (i.natAbs : Int) := rfl
  have hscan := scan_intText h
  by_cases hi : i < 0
  · rw [if_pos hi] at hscan
    have hneg : -Int.ofNat i.natAbs = i := by omega
    refine readText_of_scan hzero hscan rfl rfl rfl ?_
    show Except.ok (Value.int (-Int.ofNat i.natAbs)) = _
    rw [hneg]
  · rw [if_neg hi] at hscan
    have hpos : Int.ofNat i.natAbs = i := by omega
    refine readText_of_scan hzero hscan rfl rfl rfl ?_
    show Except.ok (Value.int (Int.ofNat i.natAbs)) = _
    rw [hpos]

theorem readText_bool (b : Bool) : readText (Value.bool b).plain = .ok (.bool b) := by
  cases b <;> rfl

end Literal

end CommandLine
