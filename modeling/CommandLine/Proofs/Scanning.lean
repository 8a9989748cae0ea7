import CommandLine.Literal.Read

/-!
# Scanning a text token by token

A text whose first character is no blank, line end, comment mark or backslash starts with a token:
`scan_fresh` starts the scan, `scan_step` takes one token off and goes on behind it.  A text that is
one token is scanned as that token (`scan_one`), and `readText_of_scan` leads from the tokens through
the grammar to the value that a text is read as.
-/

namespace CommandLine.Literal

/-- the characters between tokens, and those that end a line or lead over its end -/
def lineSigns : List Char := [' ', '\t', '\x0c', '\\', '\n', '#']

/-- what ends a word, a number or a quoted text that stands in front of it: a comma, a colon, a closing
bracket, or nothing -/
inductive Stops : List Char → Prop where
  | nil : Stops []
  | comma {r} : Stops (',' :: r)
  | colon {r} : Stops (':' :: r)
  | round {r} : Stops (')' :: r)
  | square {r} : Stops (']' :: r)
  | curly {r} : Stops ('\x7d' :: r)

section
variable {c : Char} {r : List Char}

theorem ne_of_not_lineSign (h : c ∉ lineSigns) {d : Char} (hd : d ∈ lineSigns) : c ≠ d :=
  fun e => h (e ▸ hd)

theorem lineStart_cons (h : c ∉ lineSigns) : lineStart 0 0 (c :: r) = some (0, c :: r) := by
  have hne : ∀ {d : Char} {a b : List Char}, d ∈ lineSigns → c :: a ≠ d :: b :=
    fun hd heq => ne_of_not_lineSign h hd (List.cons.inj heq).1
  unfold lineStart
  split
  case _ heq => exact absurd heq (hne (by decide))
  case _ heq => exact absurd heq (hne (by decide))
  case _ heq => exact absurd heq (hne (by decide))
  case _ heq => exact absurd heq (hne (by decide))
  case _ heq => exact absurd heq (hne (by decide))
  case _ => rfl

theorem scan_fresh (h : c ∉ lineSigns) (fuel : Nat) :
    scan (fuel + 1) 0 true (c :: r) = scan fuel 0 false (c :: r) := by
  rw [scan, lineStart_cons h]
  split
  case _ heq =>
    cases heq
    exact absurd (by decide) h
  case _ heq =>
    cases heq
    exact absurd (by decide) h
  case _ heq => cases heq
  case _ heq => cases heq; rfl
  case _ hzero => exact (hzero _ rfl).elim

/-- how many brackets are open behind a token; `none` if it is one too many, or closes none -/
def Token.depthBehind? (depth : Nat) : Token → Option Nat
  | .sign s =>
    if isOpening s then if depth < maxDepth then some (depth + 1) else none
    else if isClosing s then if depth = 0 then none else some (depth - 1)
    else some depth
  | _ => some depth

/-- one token is taken off the front, and the scan goes on behind it -/
theorem scan_step (h : c ∉ lineSigns) {t : Token} {rest : List Char}
    (ht : token? (c :: r) = some (t, rest)) {depth depth' : Nat} (hd : t.depthBehind? depth = some depth')
    (fuel : Nat) :
    scan (fuel + 1) depth false (c :: r) = (scan fuel depth' false rest).map (t :: ·) := by
  have hblank : isInlineBlank c = false := by
    have hne : ∀ {d : Char}, d ∈ lineSigns → c ≠ d := fun hd => ne_of_not_lineSign h hd
    simp [isInlineBlank, hne (d := ' ') (by decide), hne (d := '\t') (by decide),
      hne (d := '\x0c') (by decide)]
  rw [scan, List.dropWhile_cons_of_neg (by rw [hblank]; decide)]
  split
  case _ heq => cases heq
  case _ heq =>
    cases heq
    exact absurd (by decide) h
  case _ heq =>
    cases heq
    exact absurd (by decide) h
  case _ heq =>
    cases heq
    exact absurd (by decide) h
  case _ =>
    rw [ht]
    cases t with
    | sign s =>
      rw [Token.depthBehind?] at hd
      dsimp only
      split at hd
      · split at hd
        · rename_i hopen hdepth
          cases hd
          rw [if_pos hopen, if_pos hdepth]
        · cases hd
      · rename_i hopen
        split at hd
        · rename_i hclose
          split at hd
          · cases hd
          · rename_i hdepth
            cases hd
            rw [if_neg hopen, if_pos hclose, if_neg hdepth]
        · rename_i hclose
          cases hd
          rw [if_neg hopen, if_neg hclose]
    | _ =>
      cases hd
      rfl

theorem scan_token (h : c ∉ lineSigns) {t : Token} {rest : List Char}
    (ht : token? (c :: r) = some (t, rest))
    (hs : ∀ s, t = .sign s → isOpening s = false ∧ isClosing s = false) (fuel : Nat) :
    scan (fuel + 1) 0 false (c :: r) = (scan fuel 0 false rest).map (t :: ·) := by
  refine scan_step h ht ?_ fuel
  cases t with
  | sign s =>
    obtain ⟨hopen, hclose⟩ := hs s rfl
    simp only [Token.depthBehind?, hopen, hclose, Bool.false_eq_true, if_false]
  | _ => rfl

theorem scan_blank (fuel depth : Nat) : scan fuel depth false (' ' :: r) = scan fuel depth false r := by
  cases fuel with
  | zero => rfl
  | succ fuel =>
    rw [scan, scan]
    rfl

end

theorem unifyLineEnds_of_not_mem {cs : List Char} (h : '\r' ∉ cs) : unifyLineEnds cs = cs := by
  fun_induction unifyLineEnds cs with
  | case1 => rfl
  | case2 cs ih => exact absurd List.mem_cons_self h
  | case3 c cs hne ih =>
    rw [ih fun hm => h (List.mem_cons_of_mem c hm),
      if_neg fun hc => h (by rw [hc]; exact List.mem_cons_self)]

theorem scan_one {c : Char} {r : List Char} (h : c ∉ lineSigns) (hline : '\r' ∉ c :: r) {t : Token}
    (ht : token? (c :: r) = some (t, [])) (hs : ∀ s, t ≠ .sign s) : scan? (c :: r) = some [t] := by
  unfold scan?
  rw [unifyLineEnds_of_not_mem hline]
  show scan (2 * (c :: r).length + 1 + 1 + 1) 0 true (c :: r) = _
  rw [scan_fresh h, scan_token h ht fun s e => absurd e (hs s)]
  rfl

theorem readText_of_scan {t : String} {ts : List Token} {e : Expr} {v : Value}
    (hzero : '\x00' ∉ t.toList) (hscan : scan? t.toList = some ts) (hexpr : expr? ts = some e)
    (hsound : sound (t.toList.length + 1) ts = true) (hop : e.isOperation = false)
    (hvalue : e.value = .ok v) : readText t = .ok v := by
  have hparse : parse? t.toList = some e := by
    unfold parse?
    rw [hscan]
    show (expr? ts >>= _) = _
    rw [hexpr]
    exact if_pos hsound
  have hof : valueOf t.toList = .ok v := by
    unfold valueOf
    rw [hparse]
    simp only [hop, Bool.false_eq_true, if_false]
    exact hvalue
  have hcontains : t.toList.contains '\x00' = false := by
    rw [List.contains_eq_mem]
    exact decide_eq_false hzero
  unfold readText readChars
  rw [hcontains, hof]
  rfl

end CommandLine.Literal
