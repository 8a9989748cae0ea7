import Mathlib.Data.List.Forall2
import CommandLine.Proofs.PlainWords
import CommandLine.Proofs.QuotedText
import CommandLine.Proofs.WrittenNumbers
import CommandLine.Value.Show

/-!
# The tokens of a written value

`Scans n cs ts`: wherever the characters `cs` stand in front of a comma, a colon, a closing bracket or
the end, with room for `n` more brackets, the scan takes the tokens `ts` for them.  Words, numbers and
quoted texts are scanned so, and the property is kept by commas, colons and brackets around.

`Legible n cs e` adds the grammar: the tokens spell the expression `e`.  A row of legible texts between
commas is one of elements (`LegibleRow.joined`), a row of entries one of a dictionary.
-/

namespace CommandLine.Literal

/-- the characters are scanned as the tokens, each of them at the cost of one unit of fuel -/
structure Scans (n : Nat) (cs : List Char) (ts : List Token) : Prop where
  run : ∀ depth fuel rest, depth + n ≤ maxDepth → Stops rest →
    scan (fuel + ts.length) depth false (cs ++ rest) = (scan fuel depth false rest).map (ts ++ ·)
  length_le : ts.length ≤ cs.length
  plain : ∀ c ∈ cs, c ≠ '\r' ∧ c ≠ '\x00'
  /-- no blank in front -/
  fresh : ∀ {c r}, cs = c :: r → c ∉ lineSigns

namespace Scans

theorem nil (n : Nat) : Scans n [] [] where
  run depth fuel rest _ _ := by
    show scan fuel depth false rest = _
    cases scan fuel depth false rest <;> rfl
  length_le := Nat.le_refl _
  plain c hc := by cases hc
  fresh h := by cases h

theorem one {n : Nat} {c : Char} {cs : List Char} {t : Token} (hc : c ∉ lineSigns)
    (ht : ∀ {rest}, Stops rest → token? (c :: cs ++ rest) = some (t, rest)) (hs : ∀ s, t ≠ .sign s)
    (hplain : ∀ x ∈ c :: cs, x ≠ '\r' ∧ x ≠ '\x00') : Scans n (c :: cs) [t] where
  run depth fuel rest _ hrest := by
    have hdepth : t.depthBehind? depth = some depth := by
      cases t with
      | sign s => exact absurd rfl (hs s)
      | _ => rfl
    exact scan_step hc (ht hrest) hdepth fuel
  length_le := Nat.succ_le_succ (Nat.zero_le _)
  plain := hplain
  fresh h := (List.cons.inj h).1 ▸ hc

section
variable {n : Nat} {xs ys : List Char} {us vs : List Token}

theorem fresh_append (hx : Scans n xs us) {c d : Char} {r s : List Char} (hc : c ∉ lineSigns)
    (h : xs ++ c :: r = d :: s) : d ∉ lineSigns := by
  cases xs with
  | nil => exact (List.cons.inj h).1 ▸ hc
  | cons x xs => exact (List.cons.inj h).1 ▸ hx.fresh rfl

theorem between {c : Char} (hc : c ∉ lineSigns) (hplain : c ≠ '\r' ∧ c ≠ '\x00')
    (ht : ∀ r, token? (c :: ' ' :: r) = some (.sign [c], ' ' :: r))
    (hs : ∀ depth, (Token.sign [c]).depthBehind? depth = some depth) (hstop : ∀ {r}, Stops (c :: r))
    (hx : Scans n xs us) (hy : Scans n ys vs) :
    Scans n (xs ++ c :: ' ' :: ys) (us ++ .sign [c] :: vs) where
  run depth fuel rest hdepth hrest := by
    have hfuel : fuel + (us ++ .sign [c] :: vs).length = (fuel + vs.length + 1) + us.length := by
      rw [List.length_append, List.length_cons]
      omega
    have htext : xs ++ c :: ' ' :: ys ++ rest = xs ++ (c :: ' ' :: (ys ++ rest)) := by
      rw [List.append_assoc]
      rfl
    rw [hfuel, htext, hx.run depth _ _ hdepth hstop, scan_step hc (ht _) (hs depth), scan_blank,
      hy.run depth fuel rest hdepth hrest, Option.map_map, Option.map_map]
    congr 1
    funext ts
    show us ++ .sign [c] :: (vs ++ ts) = us ++ .sign [c] :: vs ++ ts
    rw [List.append_assoc]
    rfl
  length_le := by
    have hxl := hx.length_le
    have hyl := hy.length_le
    simp only [List.length_append, List.length_cons]
    omega
  plain x hm := by
    simp only [List.mem_append, List.mem_cons] at hm
    rcases hm with hm | rfl | rfl | hm
    · exact hx.plain x hm
    · exact hplain
    · decide
    · exact hy.plain x hm
  fresh h := hx.fresh_append hc h

theorem comma (hx : Scans n xs us) (hy : Scans n ys vs) :
    Scans n (xs ++ ',' :: ' ' :: ys) (us ++ mark "," :: vs) :=
  between (by decide) (by decide) (fun _ => rfl) (fun _ => rfl) .comma hx hy

theorem colon (hx : Scans n xs us) (hy : Scans n ys vs) :
    Scans n (xs ++ ':' :: ' ' :: ys) (us ++ mark ":" :: vs) :=
  between (by decide) (by decide) (fun _ => rfl) (fun _ => rfl) .colon hx hy

theorem trailing (hx : Scans n xs us) : Scans n (xs ++ [',']) (us ++ [mark ","]) where
  run depth fuel rest hdepth hrest := by
    have hfuel : fuel + (us ++ [mark ","]).length = (fuel + 1) + us.length := by
      rw [List.length_append, List.length_singleton]
      omega
    have htoken : token? (',' :: rest) = some (mark ",", rest) := rfl
    rw [hfuel, List.append_assoc, List.singleton_append, hx.run depth _ _ hdepth .comma,
      scan_step (by decide) htoken rfl, Option.map_map]
    congr 1
    funext ts
    show us ++ mark "," :: ts = us ++ [mark ","] ++ ts
    rw [List.append_assoc]
    rfl
  length_le := by
    have hxl := hx.length_le
    simp only [List.length_append, List.length_singleton]
    omega
  plain x hm := by
    rcases List.mem_append.1 hm with hm | hm
    · exact hx.plain x hm
    · rw [List.mem_singleton.1 hm]
      decide
  fresh h := hx.fresh_append (by decide) h

theorem within {l r : Char} (hl : l ∉ lineSigns) (hr : r ∉ lineSigns)
    (hlplain : l ≠ '\r' ∧ l ≠ '\x00') (hrplain : r ≠ '\r' ∧ r ≠ '\x00')
    (htl : ∀ t, token? (l :: t) = some (.sign [l], t)) (htr : ∀ t, token? (r :: t) = some (.sign [r], t))
    (hopen : isOpening [l] = true) (hclosing : isOpening [r] = false ∧ isClosing [r] = true)
    (hstop : ∀ {t}, Stops (r :: t)) (hx : Scans n xs us) :
    Scans (n + 1) (l :: (xs ++ [r])) (.sign [l] :: (us ++ [.sign [r]])) where
  run depth fuel rest hdepth hrest := by
    have hfuel : fuel + (.sign [l] :: (us ++ [.sign [r]])).length = (fuel + 1 + us.length) + 1 := by
      simp only [List.length_cons, List.length_append, List.length_nil]
      omega
    have htext : l :: (xs ++ [r]) ++ rest = l :: (xs ++ r :: rest) := by
      rw [List.cons_append, List.append_assoc]
      rfl
    have hdeeper : (Token.sign [l]).depthBehind? depth = some (depth + 1) := by
      rw [Token.depthBehind?, if_pos hopen, if_pos (by omega)]
    have hback : (Token.sign [r]).depthBehind? (depth + 1) = some depth := by
      rw [Token.depthBehind?, if_neg (by simp [hclosing.1]), if_pos hclosing.2, if_neg (by omega)]
      rfl
    rw [hfuel, htext, scan_step hl (htl _) hdeeper, hx.run (depth + 1) _ _ (by omega) hstop,
      scan_step hr (htr _) hback, Option.map_map, Option.map_map]
    congr 1
    funext ts
    show .sign [l] :: (us ++ .sign [r] :: ts) = .sign [l] :: (us ++ [.sign [r]]) ++ ts
    rw [List.cons_append, List.append_assoc]
    rfl
  length_le := by
    have hxl := hx.length_le
    simp only [List.length_append, List.length_cons, List.length_nil]
    omega
  plain x hm := by
    simp only [List.mem_cons, List.mem_append, List.not_mem_nil, or_false] at hm
    rcases hm with rfl | hm | rfl
    · exact hlplain
    · exact hx.plain x hm
    · exact hrplain
  fresh h := (List.cons.inj h).1 ▸ hl

theorem round (hx : Scans n xs us) : Scans (n + 1) ('(' :: (xs ++ [')'])) (mark "(" :: (us ++ [mark ")"])) :=
  within (by decide) (by decide) (by decide) (by decide) (fun _ => rfl) (fun _ => rfl) rfl ⟨rfl, rfl⟩ .round hx

theorem square (hx : Scans n xs us) : Scans (n + 1) ('[' :: (xs ++ [']'])) (mark "[" :: (us ++ [mark "]"])) :=
  within (by decide) (by decide) (by decide) (by decide) (fun _ => rfl) (fun _ => rfl) rfl ⟨rfl, rfl⟩ .square hx

theorem curly (hx : Scans n xs us) :
    Scans (n + 1) ('\x7b' :: (xs ++ ['\x7d'])) (mark "\x7b" :: (us ++ [mark "\x7d"])) :=
  within (by decide) (by decide) (by decide) (by decide) (fun _ => rfl) (fun _ => rfl) rfl ⟨rfl, rfl⟩ .curly hx

end

/-! ## single tokens -/

theorem word (n : Nat) {w : List Char} (h : Text.isWord w = true) (hw : ∀ c ∈ w, c.toNat < 0x80) :
    Scans n w [.word w w] := by
  have hlike := isWordLike_of_isWord h hw
  have htoken : ∀ {rest}, Stops rest → token? (w ++ rest) = some (.word w w, rest) := token_word_stops h hw
  have hplain : ∀ x ∈ w, x ≠ '\r' ∧ x ≠ '\x00' := fun x hx =>
    ⟨ne_of_isWordLike (hlike x hx) rfl, ne_of_isWordLike (hlike x hx) rfl⟩
  cases w with
  | nil => cases h
  | cons c r =>
    exact one (not_lineSign_of_isWordLike (hlike c List.mem_cons_self)) htoken (fun s hs => by cases hs) hplain

theorem constant (n : Nat) {s : String} (h : s ∈ ["None", "True", "False"]) :
    Scans n s.toList [.word s.toList s.toList] := by
  have hword : ∀ s ∈ ["None", "True", "False"],
      Text.isWord s.toList = true ∧ s.toList.all (fun c => decide (c.toNat < 0x80)) = true := by decide
  obtain ⟨hw, hall⟩ := hword s h
  exact word n hw fun c hc => of_decide_eq_true (List.all_eq_true.1 hall c hc)

theorem digits (n : Nat) {k : Nat} (h : (Nat.toDigits 10 k).length ≤ Number.maxDigits) :
    Scans n (Nat.toDigits 10 k) [.number (.whole k)] := by
  have hdigit : ∀ c ∈ Nat.toDigits 10 k, c.isDigit = true := fun _ => isDigit_of_mem_toDigits
  have htoken : ∀ {rest}, Stops rest →
      token? (Nat.toDigits 10 k ++ rest) = some (.number (.whole k), rest) := token_toDigits h
  have hne : Nat.toDigits 10 k ≠ [] := Nat.toDigits_ne_nil
  generalize Nat.toDigits 10 k = ds at hdigit htoken hne
  cases ds with
  | nil => exact absurd rfl hne
  | cons c cs =>
    refine one (not_lineSign (.inl (hdigit c List.mem_cons_self))) htoken (fun s hs => by cases hs) ?_
    exact fun x hx => ⟨ne_of_isDigit (hdigit x hx) rfl, ne_of_isDigit (hdigit x hx) rfl⟩

theorem dash (n : Nat) {k : Nat} (h : (Nat.toDigits 10 k).length ≤ Number.maxDigits) :
    Scans n ('-' :: Nat.toDigits 10 k) [mark "-", .number (.whole k)] := by
  have hdigits := digits n h
  obtain ⟨c, r, hcr⟩ := List.exists_cons_of_ne_nil (Nat.toDigits_ne_nil (n := k) (b := 10))
  have hc : c.isDigit = true := isDigit_of_mem_toDigits (n := k) (by rw [hcr]; simp)
  rw [hcr] at hdigits ⊢
  refine ⟨fun depth fuel rest hdepth hrest => ?_, ?_, ?_, ?_⟩
  · have hrun : scan (fuel + 1) depth false (c :: (r ++ rest)) = _ :=
      hdigits.run depth fuel rest hdepth hrest
    show scan (fuel + 1 + 1) depth false ('-' :: c :: (r ++ rest)) = _
    rw [scan_step (by decide) (token_dash hc (r ++ rest)) rfl, hrun, Option.map_map]
    rfl
  · have hle := hdigits.length_le
    simp only [List.length_cons, List.length_nil] at hle ⊢
    omega
  · intro x hx
    rcases List.mem_cons.1 hx with rfl | hx
    · decide
    · exact hdigits.plain x hx
  · intro d s h
    rw [← (List.cons.inj h).1]
    decide

theorem quoted (n : Nat) (cs : List Char) : Scans n (Text.quoteChars cs) [.string (.text cs)] := by
  have htoken : ∀ {rest}, Stops rest →
      token? (Text.quoteChars cs ++ rest) = some (.string (.text cs), rest) := by
    intro rest hrest
    refine token_quoted cs fun q hq hhead => ?_
    simp only [List.mem_cons, List.not_mem_nil, or_false] at hq
    rcases hq with rfl | rfl <;> cases hrest <;> cases hhead
  have hprint : ∀ x ∈ Text.quoteChars cs, x ≠ '\r' ∧ x ≠ '\x00' := by
    intro x hx
    have hx := isPrintable_of_mem_quoted hx
    constructor <;> rintro rfl <;> cases hx
  have hquote : quoteOf cs ∉ lineSigns := by
    have hq := quoteOf_mem cs
    simp only [List.mem_cons, List.not_mem_nil, or_false] at hq
    rcases hq with hq | hq <;> rw [hq] <;> decide
  exact one hquote htoken (fun s hs => by cases hs) hprint

theorem scan_eq {n : Nat} {cs : List Char} {ts : List Token} (h : Scans n cs ts) (hn : n ≤ maxDepth)
    (hne : cs ≠ []) : scan? cs = some ts := by
  have hline : '\r' ∉ cs := fun hm => (h.plain _ hm).1 rfl
  have hle := h.length_le
  have hfuel : 2 * cs.length + 3 = (2 * cs.length + 1 - ts.length) + 1 + ts.length + 1 := by omega
  have hrun := h.run 0 (2 * cs.length + 1 - ts.length + 1) [] (by omega) .nil
  rw [List.append_nil] at hrun
  unfold scan?
  rw [unifyLineEnds_of_not_mem hline]
  show scan (2 * cs.length + 3) 0 true cs = some ts
  rw [hfuel]
  obtain ⟨c, r, rfl⟩ := List.exists_cons_of_ne_nil hne
  rw [scan_fresh (h.fresh rfl), hrun]
  show some (ts ++ []) = some ts
  rw [List.append_nil]

end Scans

/-! ## expressions -/

/-- the characters are scanned as tokens that spell the expression -/
def Legible (n : Nat) (cs : List Char) (e : Expr) : Prop :=
  ∃ ts, Scans n cs ts ∧ ∀ r, Spells (.operand e) (ts ++ r) r

/-- the characters are scanned as tokens that spell the elements, up to a closing bracket -/
def LegibleRow (n : Nat) (cs : List Char) (es : List Expr) : Prop :=
  ∃ ts, Scans n cs ts ∧ ∀ c ∈ closers, ∀ r, Spells (.items c es) (ts ++ mark c :: r) r

/-- the characters are scanned as tokens that spell the entries of a dictionary -/
def LegibleEntries (n : Nat) (cs : List Char) (es : List (Expr × Expr)) : Prop :=
  ∃ ts, Scans n cs ts ∧ ∀ r, Spells (.entries es) (ts ++ mark "\x7d" :: r) r

theorem toList_joinWith (x y : String) (r : List String) :
    (Text.joinWith ", " (x :: y :: r)).toList =
      x.toList ++ ',' :: ' ' :: (Text.joinWith ", " (y :: r)).toList := by
  rw [Text.joinWith, String.toList_append, String.toList_append, List.append_assoc]
  rfl

theorem LegibleRow.joined {n : Nat} {texts : List String} {es : List Expr}
    (h : List.Forall₂ (fun t e => Legible n t.toList e) texts es) :
    LegibleRow n (Text.joinWith ", " texts).toList es := by
  induction h with
  | nil => exact ⟨[], .nil n, fun c hc r => .close hc⟩
  | @cons x e texts es hx hrest ih =>
    obtain ⟨us, hus, hspells⟩ := hx
    cases hrest with
    | nil =>
      refine ⟨us, hus, fun c hc r => ?_⟩
      exact .last hc (.whole (hspells _) .done)
    | cons hy htail =>
      obtain ⟨vs, hvs, hitems⟩ := ih
      refine ⟨us ++ mark "," :: vs, ?_, fun c hc r => ?_⟩
      · rw [toList_joinWith]
        exact hus.comma hvs
      · rw [List.append_assoc]
        exact .comma (.whole (hspells _) .done) (hitems c hc r)

theorem LegibleEntries.joined {n : Nat} {texts : List (String × String)} {es : List (Expr × Expr)}
    (h : List.Forall₂ (fun t e => Legible n t.1.toList e.1 ∧ Legible n t.2.toList e.2) texts es) :
    LegibleEntries n (Text.joinWith ", " (texts.map fun t => t.1 ++ ": " ++ t.2)).toList es := by
  have htext : ∀ a b : String, (a ++ ": " ++ b).toList = a.toList ++ ':' :: ' ' :: b.toList := by
    intro a b
    rw [String.toList_append, String.toList_append, List.append_assoc]
    rfl
  induction h with
  | nil => exact ⟨[], .nil n, fun r => .empty⟩
  | @cons t e texts es ht hrest ih =>
    obtain ⟨⟨us, hus, hkey⟩, vs, hvs, hvalue⟩ := ht
    have hentry : Scans n (t.1 ++ ": " ++ t.2).toList (us ++ mark ":" :: vs) := by
      rw [htext]
      exact hus.colon hvs
    cases hrest with
    | nil =>
      refine ⟨us ++ mark ":" :: vs, hentry, fun r => ?_⟩
      rw [List.append_assoc]
      exact .entry (.whole (hkey _) .done) (.whole (hvalue _) .done)
    | cons hy htail =>
      obtain ⟨ws, hws, hentries⟩ := ih
      refine ⟨us ++ mark ":" :: vs ++ mark "," :: ws, ?_, fun r => ?_⟩
      · rw [List.map_cons, List.map_cons, toList_joinWith]
        exact hentry.comma hws
      · rw [List.append_assoc, List.append_assoc]
        exact .entries (.whole (hkey _) .done) (.whole (hvalue _) .done) (hentries r)

namespace Legible

theorem sentence {n : Nat} {cs : List Char} {e : Expr} (h : Legible n cs e) (hn : n ≤ maxDepth) :
    '\x00' ∉ cs ∧ ∃ ts, scan? cs = some ts ∧ Sentence e ts := by
  obtain ⟨ts, hts, hspells⟩ := h
  have hspelled := hspells []
  rw [List.append_nil] at hspelled
  have hne : cs ≠ [] := by
    rintro rfl
    obtain rfl := List.eq_nil_of_length_eq_zero (Nat.le_zero.1 hts.length_le)
    obtain ⟨used, ⟨htakes, -⟩, t, u, rfl, -⟩ := hspelled.run
    cases htakes
  exact ⟨fun hm => (hts.plain _ hm).2 rfl, ts, hts.scan_eq hn hne, .one (.whole hspelled .done) rfl⟩

theorem toList_bracketed (l r : String) (texts : List String) :
    (bracketed l r texts).toList = l.toList ++ (Text.joinWith ", " texts).toList ++ r.toList := by
  rw [bracketed, String.toList_append, String.toList_append]

section
variable {n : Nat} {texts : List String} {es : List Expr}
  (h : List.Forall₂ (fun t e => Legible n t.toList e) texts es)
include h

theorem list : Legible (n + 1) (bracketed "[" "]" texts).toList (.list es) := by
  obtain ⟨ts, hts, hitems⟩ := LegibleRow.joined h
  refine ⟨mark "[" :: (ts ++ [mark "]"]), ?_, fun r => ?_⟩
  · rw [toList_bracketed]
    exact hts.square
  · rw [List.cons_append, List.append_assoc]
    exact .plain (.list (hitems "]" (by decide) r))

theorem set (hne : es ≠ []) : Legible (n + 1) (bracketed "\x7b" "\x7d" texts).toList (.set es) := by
  obtain ⟨ts, hts, hitems⟩ := LegibleRow.joined h
  obtain ⟨e, es, rfl⟩ := List.exists_cons_of_ne_nil hne
  refine ⟨mark "\x7b" :: (ts ++ [mark "\x7d"]), ?_, fun r => ?_⟩
  · rw [toList_bracketed]
    exact hts.curly
  · rw [List.cons_append, List.append_assoc]
    exact .plain (.set (hitems "\x7d" (by decide) r))

theorem tuple : Legible (n + 1) (tupleText texts).toList (.tuple es) := by
  cases h with
  | nil =>
    refine ⟨mark "(" :: ([] ++ [mark ")"]), (Scans.nil n).round, fun r => ?_⟩
    exact .plain .unit
  | @cons x e texts es hx hrest =>
    obtain ⟨us, hus, hspells⟩ := hx
    cases hrest with
    | nil =>
      refine ⟨mark "(" :: (us ++ [mark ","] ++ [mark ")"]), ?_, fun r => ?_⟩
      · have htext : (tupleText [x]).toList = '(' :: (x.toList ++ [','] ++ [')']) := by
          rw [tupleText, String.toList_append, String.toList_append, List.append_assoc x.toList]
          rfl
        rw [htext]
        exact hus.trailing.round
      · rw [List.cons_append, List.append_assoc, List.append_assoc]
        exact .plain (.tuple (.whole (hspells _) .done) (.close (by decide)))
    | @cons y f texts es hy htail =>
      obtain ⟨vs, hvs, hitems⟩ := LegibleRow.joined (List.Forall₂.cons hy htail)
      refine ⟨mark "(" :: (us ++ mark "," :: vs ++ [mark ")"]), ?_, fun r => ?_⟩
      · have htext : (tupleText (x :: y :: texts)).toList =
            '(' :: (x.toList ++ ',' :: ' ' :: (Text.joinWith ", " (y :: texts)).toList ++ [')']) := by
          rw [tupleText, String.toList_append, String.toList_append, toList_joinWith]
          · rfl
          · intro z hz
            cases hz
        rw [htext]
        exact (hus.comma hvs).round
      · rw [List.cons_append, List.append_assoc, List.append_assoc]
        exact .plain (.tuple (.whole (hspells _) .done) (hitems ")" (by decide) r))

end

theorem dict {n : Nat} {texts : List (String × String)} {es : List (Expr × Expr)}
    (h : List.Forall₂ (fun t e => Legible n t.1.toList e.1 ∧ Legible n t.2.toList e.2) texts es) :
    Legible (n + 1) (bracketed "\x7b" "\x7d" (texts.map fun t => t.1 ++ ": " ++ t.2)).toList (.dict es) := by
  obtain ⟨ts, hts, hentries⟩ := LegibleEntries.joined h
  refine ⟨mark "\x7b" :: (ts ++ [mark "\x7d"]), ?_, fun r => ?_⟩
  · rw [toList_bracketed]
    exact hts.curly
  · rw [List.cons_append, List.append_assoc]
    exact .plain (.dict (hentries r))

/-! ### constants, words, numbers and quoted texts -/

theorem null (n : Nat) : Legible n "None".toList (.constant .null) :=
  ⟨_, .constant n (by decide), fun _ => .plain .null⟩

theorem yes (n : Nat) : Legible n "True".toList (.constant (.bool true)) :=
  ⟨_, .constant n (by decide), fun _ => .plain .yes⟩

theorem no (n : Nat) : Legible n "False".toList (.constant (.bool false)) :=
  ⟨_, .constant n (by decide), fun _ => .plain .no⟩

theorem word (n : Nat) {s : String} (h : IsPlainWord s) (hs : s.toList ∉ keywords) :
    Legible n s.toList (.word s) := by
  refine ⟨[.word s.toList s.toList], .word n h.1 h.2, fun r => .plain ?_⟩
  have hconstant : String.ofList s.toList ∉ ["None", "True", "False"] := by
    have hkey : ∀ s ∈ ["None", "True", "False"], s.toList ∈ keywords := by decide
    rw [String.ofList_toList]
    exact fun hm => hs (hkey s hm)
  have hspells := Spells.word (r := r) hs hconstant
  rw [String.ofList_toList] at hspells
  exact hspells

theorem quoted (n : Nat) (s : String) : Legible n (Text.quoted s).toList (.constant (.text s)) := by
  refine ⟨[.string (.text s.toList)], ?_, fun r => .plain ?_⟩
  · rw [Text.quoted, String.toList_ofList]
    exact .quoted n s.toList
  · have hspells : Spells (.atom (.constant (.text (String.ofList [s.toList].flatten))))
        (.string (.text s.toList) :: r) r := .text
    rw [List.flatten_singleton, String.ofList_toList] at hspells
    exact hspells

theorem int (n : Nat) {i : Int} (h : (Nat.toDigits 10 i.natAbs).length ≤ Number.maxDigits) :
    Legible n (Number.intText i).toList
      (if i < 0 then .signed true (.constant (.int i.natAbs)) else .constant (.int i.natAbs)) := by
  rw [toList_intText]
  by_cases hi : i < 0
  · rw [if_pos hi, if_pos hi]
    exact ⟨_, .dash n h, fun r => .minus (.plain (.number (n := .whole i.natAbs)))⟩
  · rw [if_neg hi, if_neg hi]
    exact ⟨_, .digits n h, fun r => .plain (.number (n := .whole i.natAbs))⟩

end Legible

end CommandLine.Literal
