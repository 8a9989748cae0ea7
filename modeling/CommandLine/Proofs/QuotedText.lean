import Mathlib.Tactic.Ring
import CommandLine.Literal.Token
import CommandLine.Text.Quoted

/-!
# Quoted text is read back

A text in quotes is one token, with the text as its content (`token_quoted`), as long as no quote of
the same kind stands right behind it.  One character inside the quotes is itself, a backslash with a
letter, or a backslash with hexadecimal digits (`escapeChar_cases`).  Each of the three is passed over
by the search for the closing quote (`stringBody_escapeChar`) and read back as the one character
(`unescape_escapeChar`); the rest is by induction on the text.
-/

namespace CommandLine.Literal

open Text (hexChar hexPadded escapeChar escapeCode quoteChars quoteFor isPrintable)

/-! ## hexadecimal digits -/

theorem digitIn_hexChar (n : Nat) : digitIn? 16 (hexChar n) = some (n % 16) := by
  have hdigit : ∀ d < 16, digitIn? 16 ((Nat.toDigits 16 d).headD '0') = some d := by decide
  exact hdigit _ (Nat.mod_lt n (by decide))

/-- the digits of a number, behind those that make `acc` -/
theorem hexRun_hexPadded (w k acc n : Nat) (t : List Char) :
    hexRun (w + k) acc (hexPadded w n ++ t) = hexRun k (acc * 16 ^ w + n % 16 ^ w) t := by
  induction w generalizing n k t with
  | zero => simp [hexPadded, Nat.mod_one]
  | succ w ih =>
    have hsplit : n % 16 ^ (w + 1) = n % 16 + 16 * (n / 16 % 16 ^ w) := by
      rw [pow_succ', Nat.mod_mul]
    have hacc : (acc * 16 ^ w + n / 16 % 16 ^ w) * 16 + n % 16 = acc * 16 ^ (w + 1) + n % 16 ^ (w + 1) := by
      rw [hsplit]
      ring
    have hfuel : w + 1 + k = w + (k + 1) := by omega
    rw [hexPadded, List.append_assoc, List.singleton_append, hfuel, ih, hexRun, digitIn_hexChar]
    show hexRun k _ t = _
    rw [hacc]

theorem mem_hexPadded {w n : Nat} {c : Char} (h : c ∈ hexPadded w n) :
    ∃ d < 16, c = (Nat.toDigits 16 d).headD '0' := by
  induction w generalizing n with
  | zero => cases h
  | succ w ih =>
    rw [hexPadded] at h
    rcases List.mem_append.1 h with h | h
    · exact ih h
    · exact ⟨n % 16, Nat.mod_lt n (by decide), List.mem_singleton.1 h⟩

/-! ## one character -/

/-- the characters that mean something between the quotes `q` -/
def quoteSigns (q : Char) : List Char := [q, '\\', '\n']

/-- the three ways to write a character between quotes -/
inductive Escape (q c : Char) : List Char → Prop where
  | plain : c ∉ quoteSigns q → isPrintable c = true → Escape q c [c]
  | letter {x} : x ≠ '\n' → isPrintable x = true → simpleEscape? x = some c.toNat → Escape q c ['\\', x]
  | code {x w} : (x, w) ∈ [('x', 2), ('u', 4), ('U', 8)] → c.toNat < 16 ^ w →
      Escape q c ('\\' :: x :: hexPadded w c.toNat)

theorem toNat_lt (c : Char) : c.toNat < 0x110000 := by
  rcases c.valid with h | h
  · exact Nat.lt_trans h (by decide)
  · exact h.2

theorem escape_code (q c : Char) : Escape q c (escapeCode c.toNat) := by
  unfold escapeCode
  split
  · rename_i h
    exact .code (by decide) (Nat.lt_of_le_of_lt h (by decide))
  · split
    · rename_i h
      exact .code (by decide) (Nat.lt_of_le_of_lt h (by decide))
    · exact .code (by decide) (Nat.lt_trans (toNat_lt c) (by decide))

theorem escape_escapeChar {q : Char} (hq : q ∈ ['\'', '"']) (c : Char) : Escape q c (escapeChar q c) := by
  unfold escapeChar
  split
  · rename_i h
    simp only [List.mem_cons, List.not_mem_nil, or_false] at hq
    rcases h with rfl | rfl
    · rcases hq with rfl | rfl
      · exact .letter (by decide) rfl rfl
      · exact .letter (by decide) rfl rfl
    · exact .letter (by decide) rfl rfl
  · rename_i hsigns
    split
    · rename_i h
      rw [h]
      exact .letter (by decide) rfl rfl
    · split
      · rename_i h
        rw [h]
        exact .letter (by decide) rfl rfl
      · rename_i hline
        split
        · rename_i h
          rw [h]
          exact .letter (by decide) rfl rfl
        · split
          · rename_i hprint
            refine .plain ?_ hprint
            simp only [quoteSigns, List.mem_cons, List.not_mem_nil, or_false, not_or]
            exact ⟨fun h => hsigns (.inl h), fun h => hsigns (.inr h), hline⟩
          · exact escape_code q c

/-! ## the closing quote -/

section
variable {q : Char} {t : List Char}

theorem stringBody_plain {c : Char} (h : c ∉ quoteSigns q) :
    stringBody q false (c :: t) = (stringBody q false t).map fun p => (c :: p.1, p.2) := by
  simp only [quoteSigns, List.mem_cons, List.not_mem_nil, or_false, not_or] at h
  obtain ⟨hq, hback, hline⟩ := h
  conv => lhs; unfold stringBody
  split
  case _ heq => cases heq
  case _ heq =>
    cases heq
    exact absurd rfl hback
  case _ heq =>
    cases heq
    rw [if_neg hq, if_neg fun h => hline h.1]

theorem stringBody_backslash (x : Char) :
    stringBody q false ('\\' :: x :: t) = (stringBody q false t).map fun p => ('\\' :: x :: p.1, p.2) := by
  rw [stringBody]

theorem stringBody_run {w : List Char} (h : ∀ c ∈ w, c ∉ quoteSigns q) :
    stringBody q false (w ++ t) = (stringBody q false t).map fun p => (w ++ p.1, p.2) := by
  induction w with
  | nil =>
    show stringBody q false t = _
    cases stringBody q false t <;> rfl
  | cons c w ih =>
    obtain ⟨hc, hw⟩ := List.forall_mem_cons.1 h
    rw [List.cons_append, stringBody_plain hc, ih hw, Option.map_map]
    rfl

theorem not_quoteSign_of_hex (hq : q ∈ ['\'', '"']) {w n : Nat} :
    ∀ c ∈ hexPadded w n, c ∉ quoteSigns q := by
  intro c hc
  obtain ⟨d, hd, rfl⟩ := mem_hexPadded hc
  have hsingle : ∀ d < 16, (Nat.toDigits 16 d).headD '0' ∉ quoteSigns '\'' := by decide
  have hdouble : ∀ d < 16, (Nat.toDigits 16 d).headD '0' ∉ quoteSigns '"' := by decide
  simp only [List.mem_cons, List.not_mem_nil, or_false] at hq
  rcases hq with rfl | rfl
  · exact hsingle d hd
  · exact hdouble d hd

theorem stringBody_escape (hq : q ∈ ['\'', '"']) {c : Char} {w : List Char} (h : Escape q c w) :
    stringBody q false (w ++ t) = (stringBody q false t).map fun p => (w ++ p.1, p.2) := by
  cases h with
  | plain hc _ => exact stringBody_plain hc
  | letter => exact stringBody_backslash _
  | code =>
    rw [List.cons_append, List.cons_append, stringBody_backslash, stringBody_run (not_quoteSign_of_hex hq),
      Option.map_map]
    rfl

end

/-! ## the escapes -/

section
variable {q : Char} {t : List Char}

theorem escape_letter {x : Char} {n : Nat} (hline : x ≠ '\n') (hx : simpleEscape? x = some n) :
    escape true (x :: t) = some ([n], t) := by
  unfold escape
  split
  case _ heq => cases heq
  case _ heq =>
    cases heq
    exact absurd rfl hline
  case _ heq =>
    cases heq
    rw [hx]

theorem escape_digits {x : Char} {w n : Nat} (hx : (x, w) ∈ [('x', 2), ('u', 4), ('U', 8)])
    (hn : n < 16 ^ w) (hmax : n < 0x110000) : escape true (x :: (hexPadded w n ++ t)) = some ([n], t) := by
  have hrun : hexRun w 0 (hexPadded w n ++ t) = some (n, t) := by
    have h := hexRun_hexPadded w 0 0 n t
    rw [Nat.zero_mul, Nat.zero_add, Nat.mod_eq_of_lt hn] at h
    exact h
  simp only [List.mem_cons, Prod.mk.injEq, List.not_mem_nil, or_false] at hx
  rcases hx with ⟨rfl, rfl⟩ | ⟨rfl, rfl⟩ | ⟨rfl, rfl⟩
  · show (hexRun 2 0 (hexPadded 2 n ++ t)).map (fun p => ([p.1], p.2)) = _
    rw [hrun]
    rfl
  · show (hexRun 4 0 (hexPadded 4 n ++ t)).map (fun p => ([p.1], p.2)) = _
    rw [hrun]
    rfl
  · have hle : n ≤ 0x10ffff := Nat.le_of_lt_succ hmax
    simp [escape, simpleEscape?, digitIn?, hrun, hle]

theorem unescape_escape {c : Char} {w : List Char} (h : Escape q c w) (fuel : Nat) :
    unescape true (fuel + 1) (w ++ t) = (unescape true fuel t).map (c.toNat :: ·) := by
  have hback : ∀ {r n}, escape true r = some ([n], t) →
      unescape true (fuel + 1) ('\\' :: r) = (unescape true fuel t).map (n :: ·) := by
    intro r n hr
    rw [unescape, hr]
    rfl
  cases h with
  | plain hc _ =>
    have hne : c ≠ '\\' := fun h => hc (by simp [quoteSigns, h])
    show unescape true (fuel + 1) (c :: t) = _
    rw [unescape]
    exact hne
  | letter hline _ hx => exact hback (escape_letter hline hx)
  | code hx hn => exact hback (escape_digits hx hn (toNat_lt c))

end

/-! ## whole texts -/

theorem charOf_toNat (c : Char) : charOf? c.toNat = some c := by
  have hvalid : c.toNat.isValidChar := c.valid
  rw [charOf?, if_pos hvalid, Char.ofNat_toNat]

theorem mapM_charOf_toNat (cs : List Char) : (cs.map Char.toNat).mapM charOf? = some cs := by
  induction cs with
  | nil => rfl
  | cons c cs ih => rw [List.map_cons, List.mapM_cons, charOf_toNat, ih]; rfl

section
variable {q : Char} (hq : q ∈ ['\'', '"'])
include hq

theorem stringBody_quoted (cs rest : List Char) :
    stringBody q false (cs.flatMap (escapeChar q) ++ q :: rest) = some (cs.flatMap (escapeChar q), rest) := by
  induction cs with
  | nil =>
    simp only [List.mem_cons, List.not_mem_nil, or_false] at hq
    rcases hq with rfl | rfl <;> rfl
  | cons c cs ih =>
    rw [List.flatMap_cons, List.append_assoc, stringBody_escape hq (escape_escapeChar hq c), ih]
    rfl

theorem unescape_quoted (cs : List Char) {fuel : Nat} (h : cs.length ≤ fuel) :
    unescape true fuel (cs.flatMap (escapeChar q)) = some (cs.map Char.toNat) := by
  induction cs generalizing fuel with
  | nil => cases fuel <;> rfl
  | cons c cs ih =>
    rw [List.length_cons] at h
    obtain ⟨fuel, rfl⟩ := Nat.exists_eq_add_one_of_ne_zero (n := fuel) (by omega)
    rw [List.flatMap_cons, unescape_escape (escape_escapeChar hq c), ih (by omega)]
    rfl

theorem escape_first (c : Char) : ∃ x w, escapeChar q c = x :: w ∧ x ≠ q := by
  have hback : '\\' ≠ q := by
    simp only [List.mem_cons, List.not_mem_nil, or_false] at hq
    rcases hq with rfl | rfl <;> decide
  have h := escape_escapeChar hq c
  generalize escapeChar q c = w at h
  cases h with
  | plain hc => exact ⟨c, [], rfl, fun h => hc (by simp [quoteSigns, h])⟩
  | letter => exact ⟨_, _, rfl, hback⟩
  | code => exact ⟨_, _, rfl, hback⟩

theorem length_le_quoted (cs : List Char) : cs.length ≤ (cs.flatMap (escapeChar q)).length := by
  induction cs with
  | nil => exact Nat.zero_le _
  | cons c cs ih =>
    obtain ⟨x, w, hw, -⟩ := escape_first hq c
    rw [List.flatMap_cons, List.length_append, hw]
    simp only [List.length_cons]
    omega

theorem isPrintable_of_mem {cs : List Char} {x : Char} (h : x ∈ cs.flatMap (escapeChar q)) :
    isPrintable x = true := by
  obtain ⟨c, -, hx⟩ := List.mem_flatMap.1 h
  have hescape := escape_escapeChar hq c
  generalize escapeChar q c = w at hx hescape
  cases hescape with
  | plain _ hprint =>
    rw [List.mem_singleton.1 hx]
    exact hprint
  | letter _ hprint =>
    simp only [List.mem_cons, List.not_mem_nil, or_false] at hx
    rcases hx with rfl | rfl
    · rfl
    · exact hprint
  | code hw =>
    have hmark : ∀ p ∈ [('x', 2), ('u', 4), ('U', 8)], isPrintable p.1 = true := by decide
    have hdigit : ∀ d < 16, isPrintable ((Nat.toDigits 16 d).headD '0') = true := by decide
    simp only [List.mem_cons] at hx
    rcases hx with rfl | rfl | hx
    · rfl
    · exact hmark _ hw
    · obtain ⟨d, hd, rfl⟩ := mem_hexPadded hx
      exact hdigit d hd

theorem piece_quoted (cs : List Char) : piece {} (cs.flatMap (escapeChar q)) = some (.text cs) := by
  show (unescape true _ (cs.flatMap (escapeChar q))).bind _ = _
  rw [unescape_quoted hq cs (length_le_quoted hq cs)]
  show ((cs.map Char.toNat).mapM charOf?).bind _ = _
  rw [mapM_charOf_toNat]
  rfl

theorem string_quoted (cs : List Char) {rest : List Char} (hrest : rest.head? ≠ some q) :
    string {} q (cs.flatMap (escapeChar q) ++ q :: rest) = some (.text cs, rest) := by
  have hbody := stringBody_quoted hq cs rest
  have hpiece := piece_quoted hq cs
  have hzero : (cs.flatMap (escapeChar q)).contains '\x00' = false := by
    rw [List.contains_eq_mem]
    exact decide_eq_false fun hm => absurd (isPrintable_of_mem hq hm) (by decide)
  cases cs with
  | nil =>
    cases rest with
    | nil => simp [string, piece, unescape]
    | cons b r =>
      have hb : b ≠ q := fun h => hrest (congrArg some h)
      simp [string, hb, piece, unescape]
  | cons c cs =>
    obtain ⟨x, w, hw, hx⟩ := escape_first hq c
    obtain ⟨b, r, hr⟩ := List.exists_cons_of_ne_nil
      (List.append_ne_nil_of_right_ne_nil (w ++ cs.flatMap (escapeChar q)) (List.cons_ne_nil q rest))
    have htext : (c :: cs).flatMap (escapeChar q) ++ q :: rest = x :: b :: r := by
      rw [List.flatMap_cons, hw, ← hr]
      rfl
    rw [htext] at hbody ⊢
    simp only [string, hx, hbody, hzero, hpiece, false_and, if_false, Option.bind_eq_bind, Option.bind_some,
      Bool.false_eq_true]

end

def quoteOf (cs : List Char) : Char := quoteFor (cs.contains '\'') (cs.contains '"')

theorem quoteOf_mem (cs : List Char) : quoteOf cs ∈ ['\'', '"'] := by
  unfold quoteOf quoteFor
  split <;> decide

theorem quoteChars_eq (cs : List Char) :
    quoteChars cs = quoteOf cs :: (cs.flatMap (escapeChar (quoteOf cs)) ++ [quoteOf cs]) := rfl

theorem token_quoted (cs : List Char) {rest : List Char} (hrest : ∀ q ∈ ['\'', '"'], rest.head? ≠ some q) :
    token? (quoteChars cs ++ rest) = some (.string (.text cs), rest) := by
  have hq := quoteOf_mem cs
  have hstring := string_quoted hq cs (hrest _ hq)
  have htext : quoteChars cs ++ rest =
      quoteOf cs :: (cs.flatMap (escapeChar (quoteOf cs)) ++ quoteOf cs :: rest) := by
    rw [quoteChars_eq, List.cons_append, List.append_assoc]
    rfl
  rw [htext]
  generalize quoteOf cs = q at hq hstring ⊢
  generalize cs.flatMap (escapeChar q) ++ q :: rest = r at hstring ⊢
  have hfirst : token? (q :: r) = (string {} q r).map fun p => (.string p.1, p.2) := by
    simp only [List.mem_cons, List.not_mem_nil, or_false] at hq
    rcases hq with rfl | rfl <;> rfl
  rw [hfirst, hstring]
  rfl

theorem isPrintable_of_mem_quoted {cs : List Char} {c : Char} (h : c ∈ quoteChars cs) :
    isPrintable c = true := by
  have hq := quoteOf_mem cs
  have hquote : ∀ {q}, q ∈ ['\'', '"'] → isPrintable q = true := by
    intro q hq
    simp only [List.mem_cons, List.not_mem_nil, or_false] at hq
    rcases hq with rfl | rfl <;> rfl
  rw [quoteChars_eq] at h
  simp only [List.mem_cons, List.mem_append, List.not_mem_nil, or_false] at h
  rcases h with rfl | h | rfl
  · exact hquote hq
  · exact isPrintable_of_mem hq h
  · exact hquote hq

end CommandLine.Literal
