import CommandLine.Proofs.Grammar

/-!
# Every literal is parsed

The parser finds the expression that the grammar of literals gives (`Spells.parses`, `Sentence.parsed`).
Its fuel falls by one with each nested call; between two tokens there are at most ten calls, so ten
times the number of tokens in front is enough for each function, and a little more for each level of
the grammar: `Parses` says how much.

A phrase ends where the parser stops because of what stands behind it: behind a whole expression
something `Closed`, and a plus or a minus too behind an operand (`Follows`).
-/

namespace CommandLine.Literal

/-! ## what stands behind -/

/-- what can stand behind a whole expression -/
inductive Closed : List Token → Prop where
  | nil : Closed []
  | newline {r} : Closed (.newline :: r)
  | comma {r} : Closed (mark "," :: r)
  | colon {r} : Closed (mark ":" :: r)
  | round {r} : Closed (mark ")" :: r)
  | square {r} : Closed (mark "]" :: r)
  | curly {r} : Closed (mark "\x7d" :: r)

/-- what can stand behind an operand -/
inductive Follows : List Token → Prop where
  | closed {r} : Closed r → Follows r
  | plus {r} : Follows (mark "+" :: r)
  | minus {r} : Follows (mark "-" :: r)

theorem Closed.of_mem {c : String} (h : c ∈ closers) (r : List Token) : Closed (mark c :: r) := by
  simp only [closers, List.mem_cons, List.not_mem_nil, or_false] at h
  rcases h with rfl | rfl | rfl
  · exact .round
  · exact .square
  · exact .curly

theorem Closed.of_newlines {r : List Token} (h : r.all isNewline = true) : Closed r := by
  cases r with
  | nil => exact .nil
  | cons t r =>
    cases t with
    | newline => exact .newline
    | _ => cases h

section
variable {r : List Token}

theorem Closed.climbOn_eq (h : Closed r) (n least : Nat) (l : Expr) :
    climbOn (n + 1) least l r = some (l, r) := by
  cases h <;> rfl

theorem Follows.climbOn_eq (h : Follows r) (n : Nat) (l : Expr) :
    climbOn (n + 1) 10 l r = some (l, r) := by
  cases h with
  | closed h => exact h.climbOn_eq n 10 l
  | plus => rfl
  | minus => rfl

theorem Follows.trailers_eq (h : Follows r) (n : Nat) (e : Expr) :
    trailers (n + 1) e r = some (e, r) := by
  cases h with
  | closed h => cases h <;> rfl
  | plus => rfl
  | minus => rfl

theorem Follows.takeSign_eq_none (h : Follows r) {s : String} (hs : s ∈ ["**", ":="]) :
    takeSign s r = none := by
  simp only [List.mem_cons, List.not_mem_nil, or_false] at hs
  cases h with
  | closed h => rcases hs with rfl | rfl <;> cases h <;> rfl
  | plus => rcases hs with rfl | rfl <;> rfl
  | minus => rcases hs with rfl | rfl <;> rfl

theorem Closed.takeKeyword_eq_none (h : Closed r) (s : String) : takeKeyword s r = none := by
  cases h <;> rfl

theorem Follows.takeStrings_eq (h : Follows r) : takeStrings r = ([], r) := by
  cases h with
  | closed h => cases h <;> rfl
  | plus => rfl
  | minus => rfl

/-- behind an operand the sum goes on, or its end is reached -/
theorem Spells.follows_onward {l e : Expr} {ts r : List Token} (h : Spells (.onward l e) ts r)
    (hr : Closed r) : Follows ts := by
  cases h with
  | done => exact .closed hr
  | add => exact .plus
  | sub => exact .minus

end

/-! ## what stands in front -/

theorem takeSign_mark (s : String) (r : List Token) : takeSign s (mark s :: r) = some r := by
  show (if decide (s.toList = s.toList) = true then some r else none) = some r
  rw [decide_eq_true rfl, if_pos rfl]

theorem takeSign_mark_of_ne {s c : String} (h : c ≠ s) (r : List Token) : takeSign s (mark c :: r) = none := by
  show (if decide (c.toList = s.toList) = true then some r else none) = none
  rw [decide_eq_false fun he => h (String.toList_inj.1 he)]
  rfl

theorem nextIsSign_of_takeSign {s : String} {ts : List Token} (h : takeSign s ts = none) :
    nextIsSign s ts = false := by
  rw [nextIsSign, h]
  rfl

theorem takeName_rest {t : Token} {ts : List Token} {p : String × List Token}
    (h : takeName (t :: ts) = some p) : p.2 = ts := by
  cases t with
  | word raw form =>
    rw [takeName] at h
    split at h
    · cases h
    · rw [← Option.some.inj h]
  | _ => cases h

section
variable {t : Token} {ts : List Token}

theorem Token.Starts.takeKeyword_eq_none (h : t.Starts) {k : String}
    (hk : k ∈ ["lambda", "not", "await", "yield"]) : takeKeyword k (t :: ts) = none := by
  have hword : ∀ {w f : List Char}, w ≠ k.toList → takeKeyword k (.word w f :: ts) = none := by
    intro w f hne
    show (if decide (w = k.toList) = true then some ts else none) = none
    rw [decide_eq_false hne]
    rfl
  cases h with
  | constant hw =>
    have hne : ∀ w ∈ ["None", "True", "False"].map String.toList,
        ∀ k ∈ ["lambda", "not", "await", "yield"], w ≠ String.toList k := by decide
    exact hword (hne _ hw _ hk)
  | word hw =>
    have hkey : ∀ k ∈ ["lambda", "not", "await", "yield"], k.toList ∈ keywords := by decide
    exact hword fun he => hw (he ▸ hkey _ hk)
  | number | string | sign => rfl

theorem Token.Opens.takeKeyword_eq_none (h : t.Opens) {k : String}
    (hk : k ∈ ["lambda", "not", "await", "yield"]) : takeKeyword k (t :: ts) = none := by
  cases h with
  | atom h => exact h.takeKeyword_eq_none hk
  | sign => rfl

theorem Token.Opens.takeSign_eq_none (h : t.Opens) {s : String}
    (hs : s ∈ [")", "]", "\x7d", "*", "**"]) : takeSign s (t :: ts) = none := by
  have hstart : ∀ c ∈ ["(", "[", "\x7b", "..."], ∀ s ∈ [")", "]", "\x7d", "*", "**"], c ≠ s := by decide
  have hsign : ∀ c ∈ ["+", "-"], ∀ s ∈ [")", "]", "\x7d", "*", "**"], c ≠ s := by decide
  cases h with
  | atom h =>
    cases h with
    | sign hc => exact takeSign_mark_of_ne (hstart _ hc _ hs) ts
    | constant | word | number | string => rfl
  | sign hc => exact takeSign_mark_of_ne (hsign _ hc _ hs) ts

theorem Token.Opens.takeSign_closer (h : t.Opens) {c : String} (hc : c ∈ closers) :
    takeSign c (t :: ts) = none := by
  have hsub : ∀ c ∈ closers, c ∈ [")", "]", "\x7d", "*", "**"] := by decide
  exact h.takeSign_eq_none (hsub c hc)

/-- an atom has no sign in front -/
theorem Token.Starts.factor_eq (h : t.Starts) (n : Nat) : factor (n + 1) (t :: ts) = power n (t :: ts) := by
  cases h with
  | sign hc =>
    simp only [List.mem_cons, List.not_mem_nil, or_false] at hc
    rcases hc with rfl | rfl | rfl | rfl <;> rfl
  | constant | word | number | string => rfl

end

/-! ## the levels of the grammar -/

section
variable {t : Token} {u r mid : List Token} {e x : Expr} {n : Nat}

theorem factor_of_atom (ht : t.Starts) (hr : Follows r)
    (h : atom (n + 1) (t :: u) = some (e, r)) : factor (n + 4) (t :: u) = some (e, r) := by
  have hprimary : primary (n + 2) (t :: u) = some (e, r) := by
    rw [primary, h]
    exact hr.trailers_eq n e
  have hpower : power (n + 3) (t :: u) = some (e, r) := by
    simp only [power, ht.takeKeyword_eq_none (k := "await") (by decide), hprimary,
      Option.bind_eq_bind, Option.bind_some, hr.takeSign_eq_none (s := "**") (by decide)]
  rw [ht.factor_eq, hpower]

theorem climb_of_factor (ht : t.Opens) (least : Nat) (h : factor n (t :: u) = some (x, mid))
    (hon : climbOn n least x mid = some (e, r)) : climb (n + 1) least (t :: u) = some (e, r) := by
  rw [climb, ht.takeKeyword_eq_none (by decide), h]
  exact hon

theorem expression_of_climb (ht : t.Opens) (hr : Closed r) (h : climb n 1 (t :: u) = some (e, r)) :
    expression (n + 1) (t :: u) = some (e, r) := by
  simp only [expression, ht.takeKeyword_eq_none (k := "lambda") (by decide), h, Option.bind_eq_bind,
    Option.bind_some, hr.takeKeyword_eq_none]

theorem element_of_expression (ht : t.Opens) (hnamed : takeSign ":=" u = none)
    (h : expression n (t :: u) = some (e, r)) :
    element (n + 1) (t :: u) = some ((false, false, e), r) := by
  have hstar : takeSign "*" (t :: u) = none := ht.takeSign_eq_none (by decide)
  cases hname : takeName (t :: u) with
  | none => simp only [element, hstar, hname, h, Option.bind_eq_bind, Option.bind_some]
  | some p =>
    obtain rfl : p.2 = u := takeName_rest hname
    simp only [element, hstar, hname, hnamed, h, Option.bind_eq_bind, Option.bind_some]

end

/-! ## brackets -/

section
variable {c : String} {ts mid r : List Token} {e k v : Expr} {es : List Expr}
  {ps : List (Expr × Expr)} {n : Nat}

theorem takeSign_comma (hc : c ∈ closers) : takeSign c (mark "," :: r) = none := by
  refine takeSign_mark_of_ne (fun he => ?_) r
  subst he
  exact absurd hc (by decide)

theorem takeSign_colon (hc : c ∈ closers) : takeSign ":" (mark c :: r) = none := by
  refine takeSign_mark_of_ne (fun he => ?_) r
  subst he
  exact absurd hc (by decide)

theorem itemsUntil_last (h : element n ts = some ((false, false, e), mark c :: r)) :
    itemsUntil (n + 1) c ts = some (.one false e, r) := by
  simp only [itemsUntil, h, Option.bind_eq_bind, Option.bind_some, takeSign_mark]

theorem itemsUntil_comma (hc : c ∈ closers) (h : element n ts = some ((false, false, e), mark "," :: mid))
    (hes : moreItems n c mid = some (es, r)) : itemsUntil (n + 1) c ts = some (.many (e :: es), r) := by
  simp only [itemsUntil, h, Option.bind_eq_bind, Option.bind_some, takeSign_comma hc, takeSign_mark, hes]

theorem moreItems_close : moreItems (n + 1) c (mark c :: r) = some ([], r) := by
  simp only [moreItems, takeSign_mark]

theorem moreItems_last (hopen : takeSign c ts = none)
    (h : element n ts = some ((false, false, e), mark c :: r)) :
    moreItems (n + 1) c ts = some ([e], r) := by
  simp only [moreItems, hopen, h, Option.bind_eq_bind, Option.bind_some, takeSign_mark]

theorem moreItems_comma (hc : c ∈ closers) (hopen : takeSign c ts = none)
    (h : element n ts = some ((false, false, e), mark "," :: mid))
    (hes : moreItems n c mid = some (es, r)) : moreItems (n + 1) c ts = some (e :: es, r) := by
  simp only [moreItems, hopen, h, Option.bind_eq_bind, Option.bind_some, takeSign_comma hc,
    takeSign_mark, hes]

/-- the elements of a bracket: one without a comma, or several -/
def Items.Holds : Items → List Expr → Prop
  | .one starred e, es => starred = false ∧ es = [e]
  | .many es', es => es' = es
  | .comprehension, _ => False

end

section
variable {t : Token} {u mid mid' r : List Token} {e k v : Expr} {es : List Expr}
  {ps : List (Expr × Expr)} {it : Items} {n : Nat}

theorem group_one (ht : t.Opens) (h : itemsUntil n ")" (t :: u) = some (.one false e, r)) :
    group (n + 1) (t :: u) = some (e, r) := by
  have hopen : nextIsSign ")" (t :: u) = false := nextIsSign_of_takeSign (ht.takeSign_eq_none (by decide))
  simp only [group, hopen, ht.takeKeyword_eq_none (k := "yield") (by decide), h, Option.bind_eq_bind,
    Option.bind_some, Bool.false_eq_true, if_false]

theorem group_many (ht : t.Opens) (h : itemsUntil n ")" (t :: u) = some (.many es, r)) :
    group (n + 1) (t :: u) = some (.tuple es, r) := by
  have hopen : nextIsSign ")" (t :: u) = false := nextIsSign_of_takeSign (ht.takeSign_eq_none (by decide))
  simp only [group, hopen, ht.takeKeyword_eq_none (k := "yield") (by decide), h, Option.bind_eq_bind,
    Option.bind_some, Bool.false_eq_true, if_false]

theorem atom_list (ht : t.Opens) (h : itemsUntil n "]" (t :: u) = some (it, r)) (hit : it.Holds es) :
    atom (n + 1) (mark "[" :: t :: u) = some (.list es, r) := by
  have hopen : nextIsSign "]" (t :: u) = false := nextIsSign_of_takeSign (ht.takeSign_eq_none (by decide))
  have hatom : atom (n + 1) (mark "[" :: t :: u) = if nextIsSign "]" (t :: u) then _ else _ := rfl
  rw [hatom, hopen, h]
  cases it with
  | one starred e => rw [hit.2]; rfl
  | many es' => rw [← show es' = es from hit]; rfl
  | comprehension => exact hit.elim

theorem braces_set (ht : t.Opens) (hfirst : element n (t :: u) = some ((false, false, e), mid))
    (hcolon : takeSign ":" mid = none) (h : itemsUntil n "\x7d" (t :: u) = some (it, r))
    (hit : it.Holds es) : braces (n + 1) (t :: u) = some (.set es, r) := by
  have hopen : nextIsSign "\x7d" (t :: u) = false := nextIsSign_of_takeSign (ht.takeSign_eq_none (by decide))
  have hstar : nextIsSign "**" (t :: u) = false := nextIsSign_of_takeSign (ht.takeSign_eq_none (by decide))
  have hkey : nextIsSign ":" mid = false := nextIsSign_of_takeSign hcolon
  simp only [braces, hopen, hstar, hfirst, hkey, h, Option.bind_eq_bind, Option.bind_some,
    Bool.false_eq_true, Bool.not_false, Bool.and_false, if_false]
  cases it with
  | one starred e => rw [hit.2]
  | many es' => rw [← show es' = es from hit]
  | comprehension => exact hit.elim

theorem braces_last (ht : t.Opens) (hk : element n (t :: u) = some ((false, false, k), mark ":" :: mid))
    (hv : expression n mid = some (v, mark "\x7d" :: r)) :
    braces (n + 1) (t :: u) = some (.dict [(k, v)], r) := by
  have hopen : nextIsSign "\x7d" (t :: u) = false := nextIsSign_of_takeSign (ht.takeSign_eq_none (by decide))
  have hstar : nextIsSign "**" (t :: u) = false := nextIsSign_of_takeSign (ht.takeSign_eq_none (by decide))
  have hkey : nextIsSign ":" (mark ":" :: mid) = true := rfl
  simp only [braces, hopen, hstar, hk, hkey, hv, Option.bind_eq_bind, Option.bind_some, takeSign_mark,
    Bool.false_eq_true, Bool.not_false, Bool.and_true, if_false, if_true, List.drop_succ_cons, List.drop_zero]

theorem braces_comma (ht : t.Opens) (hk : element n (t :: u) = some ((false, false, k), mark ":" :: mid))
    (hv : expression n mid = some (v, mark "," :: mid')) (hps : entries n mid' = some (ps, r)) :
    braces (n + 1) (t :: u) = some (.dict ((k, v) :: ps), r) := by
  have hopen : nextIsSign "\x7d" (t :: u) = false := nextIsSign_of_takeSign (ht.takeSign_eq_none (by decide))
  have hstar : nextIsSign "**" (t :: u) = false := nextIsSign_of_takeSign (ht.takeSign_eq_none (by decide))
  have hkey : nextIsSign ":" (mark ":" :: mid) = true := rfl
  have hcomma : takeSign "\x7d" (mark "," :: mid') = none := rfl
  simp only [braces, hopen, hstar, hk, hkey, hv, hcomma, hps, Option.bind_eq_bind, Option.bind_some,
    takeSign_mark, Bool.false_eq_true, Bool.not_false, Bool.and_true, if_false, if_true,
    List.drop_succ_cons, List.drop_zero]

theorem entries_last (ht : t.Opens) (hk : expression n (t :: u) = some (k, mark ":" :: mid))
    (hv : expression n mid = some (v, mark "\x7d" :: r)) :
    entries (n + 1) (t :: u) = some ([(k, v)], r) := by
  simp only [entries, ht.takeSign_eq_none (s := "\x7d") (by decide),
    ht.takeSign_eq_none (s := "**") (by decide), hk, hv, Option.bind_eq_bind, Option.bind_some, takeSign_mark]

theorem entries_comma (ht : t.Opens) (hk : expression n (t :: u) = some (k, mark ":" :: mid))
    (hv : expression n mid = some (v, mark "," :: mid')) (hps : entries n mid' = some (ps, r)) :
    entries (n + 1) (t :: u) = some ((k, v) :: ps, r) := by
  have hcomma : takeSign "\x7d" (mark "," :: mid') = none := rfl
  simp only [entries, ht.takeSign_eq_none (s := "\x7d") (by decide),
    ht.takeSign_eq_none (s := "**") (by decide), hk, hv, hcomma, hps, Option.bind_eq_bind, Option.bind_some,
    takeSign_mark]

end

/-- how much fuel is enough to parse a phrase -/
def Parses : Phrase → List Token → List Token → Prop
  | .atom e, ts, r => Follows r → ∀ n, 10 * ts.length + 1 ≤ n → atom n ts = some (e, r)
  | .operand e, ts, r => Follows r → ∀ n, 10 * ts.length + 4 ≤ n → factor n ts = some (e, r)
  | .onward l e, ts, r => Closed r → ∀ n least, least ≤ 9 → 10 * ts.length + 1 ≤ n →
      climbOn n least l ts = some (e, r)
  | .whole e, ts, r => Closed r → ∀ n, 10 * ts.length + 6 ≤ n → expression n ts = some (e, r)
  | .items c es, ts, r => ∀ n, 10 * ts.length + 8 ≤ n → moreItems n c ts = some (es, r) ∧
      (es ≠ [] → (∃ it, itemsUntil n c ts = some (it, r) ∧ it.Holds es) ∧
        ∃ t u e mid, ts = t :: u ∧ t.Opens ∧ element n ts = some ((false, false, e), mid) ∧
          takeSign ":" mid = none)
  | .entries es, ts, r => ∀ n, 10 * ts.length + 8 ≤ n → entries n ts = some (es, r) ∧
      braces (n + 1) ts = some (.dict es, r)
  | .listed es, ts, r => r.all isNewline = true → ∀ n m, 10 * ts.length + 6 ≤ n → ts.length + 1 ≤ m →
      expr?.listed n m ts = some (es, r)

/-! ## every phrase is parsed -/

theorem plainAtom_word {w f : List Char} (hw : w ∉ keywords)
    (hf : String.ofList f ∉ ["None", "True", "False"]) (ts : List Token) :
    plainAtom (.word w f :: ts) = some (.word (String.ofList f), ts) := by
  have hne : ∀ s : String, s.toList ∈ keywords → String.ofList w ≠ s := by
    rintro s hs rfl
    rw [String.toList_ofList] at hs
    exact hw hs
  have hnone := hne "None" (by decide)
  have htrue := hne "True" (by decide)
  have hfalse := hne "False" (by decide)
  have hcontains : keywords.contains w = false := by
    rw [List.contains_eq_mem]
    exact decide_eq_false hw
  simp only [List.mem_cons, List.not_mem_nil, or_false, not_or] at hf
  obtain ⟨hfnone, hftrue, hffalse⟩ := hf
  unfold plainAtom
  simp only [hcontains, Bool.false_eq_true, if_false]

theorem takeStrings_append (ps : List Piece) {r : List Token} (hr : Follows r) :
    takeStrings (ps.map .string ++ r) = (ps, r) := by
  induction ps with
  | nil => exact hr.takeStrings_eq
  | cons p ps ih =>
    rw [List.map_cons, List.cons_append, takeStrings, ih]

theorem plainAtom_strings (p : Piece) (ps : List Piece) {r : List Token} (hr : Follows r) :
    plainAtom ((p :: ps).map .string ++ r) = (joinPieces (p :: ps)).map fun e => (e, r) := by
  have htake := takeStrings_append (p :: ps) hr
  have hplain : plainAtom ((p :: ps).map .string ++ r) =
      (joinPieces (takeStrings ((p :: ps).map .string ++ r)).1).map
        fun e => (e, (takeStrings ((p :: ps).map .string ++ r)).2) := rfl
  rw [hplain, htake]

theorem joinPieces_text (cs : List Char) (css : List (List Char)) :
    joinPieces ((cs :: css).map .text) = some (.constant (.text (String.ofList (cs :: css).flatten))) := by
  simp [joinPieces, List.flatMap_map, List.flatMap_id']

theorem joinPieces_bytes (bs : List UInt8) (bss : List (List UInt8)) :
    joinPieces ((bs :: bss).map .bytes) = some (.constant (.bytes (bs :: bss).flatten)) := by
  simp [joinPieces, List.flatMap_map, List.flatMap_id']

/-- a whole expression takes at least one token, the first one opens it, and none of the others makes
it a named one -/
theorem Spells.front {e : Expr} {ts r : List Token} (h : Spells (.whole e) ts r) :
    ∃ t u, ts = t :: (u ++ r) ∧ t.Opens ∧ ∀ x ∈ u, x.Tame := by
  obtain ⟨used, ⟨rfl, htame⟩, t, u, rfl, ht⟩ := h.run
  exact ⟨t, u, rfl, ht, fun x hx => htame x (List.mem_cons_of_mem t hx)⟩

theorem Spells.length_lt {e : Expr} {ts r : List Token} (h : Spells (.whole e) ts r) :
    r.length + 1 ≤ ts.length := by
  obtain ⟨t, u, rfl, -, -⟩ := h.front
  simp only [List.length_cons, List.length_append]
  omega

theorem Spells.length_le {x : Expr} {ts r : List Token} (h : Spells (.operand x) ts r) :
    r.length + 1 ≤ ts.length := by
  obtain ⟨used, ⟨rfl, -⟩, t, u, rfl, -⟩ := h.run
  simp only [List.length_cons, List.length_append]
  omega

/-- a list without brackets has something in it -/
theorem Spells.not_newlines {es : List Expr} {ts r : List Token} (h : Spells (.listed es) ts r) :
    ts.all isNewline = false := by
  obtain ⟨used, ⟨rfl, -⟩, t, u, rfl, ht⟩ := h.run
  have hfirst : isNewline t = false := by
    cases ht with
    | atom ht => cases ht <;> rfl
    | sign => rfl
  rw [List.cons_append, List.all_cons, hfirst]
  rfl

theorem takeSign_newlines {r : List Token} (h : r.all isNewline = true) (s : String) :
    takeSign s r = none := by
  cases r with
  | nil => rfl
  | cons t r =>
    cases t with
    | newline => rfl
    | _ => cases h

theorem takeSign_of_tame {t : Token} (h : t.Tame) (ts : List Token) : takeSign ":=" (t :: ts) = none := by
  have hnot : t.isSign ":=" = false := by
    cases t with
    | sign cs => exact decide_eq_false fun he => h.1 (congrArg Token.sign he)
    | _ => rfl
  rw [takeSign, hnot]
  rfl

theorem element_of_whole {e : Expr} {ts r : List Token} (h : Spells (.whole e) ts r)
    (hp : Parses (.whole e) ts r) (hr : Closed r) {n : Nat} (hn : 10 * ts.length + 7 ≤ n) :
    element n ts = some ((false, false, e), r) := by
  obtain ⟨t, u, rfl, ht, htame⟩ := h.front
  obtain ⟨n, rfl⟩ := Nat.exists_eq_add_one_of_ne_zero (n := n) (by omega)
  have hnamed : takeSign ":=" (u ++ r) = none := by
    cases u with
    | nil => exact (Follows.closed hr).takeSign_eq_none (by decide)
    | cons x u => exact takeSign_of_tame (htame x List.mem_cons_self) (u ++ r)
  exact element_of_expression ht hnamed (hp hr n (by omega))

theorem climb_of_operand {x : Expr} {ts mid : List Token} (h : Spells (.operand x) ts mid)
    (hp : Parses (.operand x) ts mid) (hmid : Follows mid) {n : Nat} (hn : 10 * ts.length + 5 ≤ n) :
    climb n 10 ts = some (x, mid) := by
  obtain ⟨used, ⟨rfl, -⟩, t, u, rfl, ht⟩ := h.run
  obtain ⟨n, rfl⟩ := Nat.exists_eq_add_of_le' (show 2 ≤ n by omega)
  exact climb_of_factor ht 10 (hp hmid (n + 1) (by omega)) (hmid.climbOn_eq n x)

/-- the operators of a sum have the level nine -/
theorem climbOn_of_operand {o : Operator} {s : String} {l x e : Expr} {ts mid r : List Token}
    (ho : operator? (mark s :: ts) = some (9, o, ts)) (h : Spells (.operand x) ts mid)
    (hp : Parses (.operand x) ts mid) (hmid : Follows mid) {n least : Nat} (hleast : least ≤ 9)
    (hn : 10 * ts.length + 5 ≤ n) (hon : climbOn n least (o.apply l x) mid = some (e, r)) :
    climbOn (n + 1) least l (mark s :: ts) = some (e, r) := by
  have hlevel : least ≤ 9 ∧ 9 < 12 := ⟨hleast, by decide⟩
  simp only [climbOn, ho, if_pos hlevel, climb_of_operand h hp hmid hn, Option.bind_eq_bind, Option.bind_some,
    hon]

/-! ### one rule of the grammar at a time -/

namespace Parses

section
variable {c : String} {e k v x l : Expr} {es : List Expr} {ps : List (Expr × Expr)}
  {ts mid mid' r : List Token}

theorem text (cs : List Char) (css : List (List Char)) :
    Parses (.atom (.constant (.text (String.ofList (cs :: css).flatten))))
      ((cs :: css).map (.string ∘ .text) ++ r) r := by
  intro hr n hn
  obtain ⟨n, rfl⟩ := Nat.exists_eq_add_one_of_ne_zero (n := n) (by omega)
  have hplain := plainAtom_strings (.text cs) (css.map .text) hr
  rw [← List.map_cons, joinPieces_text, List.map_map] at hplain
  exact hplain

theorem bytes (bs : List UInt8) (bss : List (List UInt8)) :
    Parses (.atom (.constant (.bytes (bs :: bss).flatten)))
      ((bs :: bss).map (.string ∘ .bytes) ++ r) r := by
  intro hr n hn
  obtain ⟨n, rfl⟩ := Nat.exists_eq_add_one_of_ne_zero (n := n) (by omega)
  have hplain := plainAtom_strings (.bytes bs) (bss.map .bytes) hr
  rw [← List.map_cons, joinPieces_bytes, List.map_map] at hplain
  exact hplain

theorem group (he : Spells (.whole e) ts (mark ")" :: r)) (ihe : Parses (.whole e) ts (mark ")" :: r)) :
    Parses (.atom e) (mark "(" :: ts) r := by
  intro hr n hn
  rw [List.length_cons] at hn
  obtain ⟨n, rfl⟩ := Nat.exists_eq_add_of_le' (show 3 ≤ n by omega)
  have helement := element_of_whole he ihe .round (n := n) (by omega)
  obtain ⟨t, u, rfl, ht, -⟩ := he.front
  exact group_one ht (itemsUntil_last helement)

theorem tuple (he : Spells (.whole e) ts (mark "," :: mid)) (ihe : Parses (.whole e) ts (mark "," :: mid))
    (ihes : Parses (.items ")" es) mid r) : Parses (.atom (.tuple (e :: es))) (mark "(" :: ts) r := by
  intro hr n hn
  rw [List.length_cons] at hn
  obtain ⟨n, rfl⟩ := Nat.exists_eq_add_of_le' (show 3 ≤ n by omega)
  have hlength := he.length_lt
  rw [List.length_cons] at hlength
  have helement := element_of_whole he ihe .comma (n := n) (by omega)
  have hmore := (ihes n (by omega)).1
  obtain ⟨t, u, rfl, ht, -⟩ := he.front
  exact group_many ht (itemsUntil_comma (by decide) helement hmore)

theorem list (hes : Spells (.items "]" es) ts r) (ihes : Parses (.items "]" es) ts r) :
    Parses (.atom (.list es)) (mark "[" :: ts) r := by
  intro hr n hn
  rw [List.length_cons] at hn
  obtain ⟨n, rfl⟩ := Nat.exists_eq_add_one_of_ne_zero (n := n) (by omega)
  cases es with
  | nil =>
    cases hes
    rfl
  | cons e es =>
    obtain ⟨⟨it, hit, hholds⟩, t, u, e', mid, rfl, ht, -⟩ := (ihes n (by omega)).2 (by simp)
    exact atom_list ht hit hholds

theorem set (ihes : Parses (.items "\x7d" (e :: es)) ts r) :
    Parses (.atom (.set (e :: es))) (mark "\x7b" :: ts) r := by
  intro hr n hn
  rw [List.length_cons] at hn
  obtain ⟨n, rfl⟩ := Nat.exists_eq_add_of_le' (show 2 ≤ n by omega)
  obtain ⟨⟨it, hit, hholds⟩, t, u, e', mid, rfl, ht, hfirst, hcolon⟩ := (ihes n (by omega)).2 (by simp)
  exact braces_set ht hfirst hcolon hit hholds

theorem dict (ihps : Parses (.entries ps) ts r) : Parses (.atom (.dict ps)) (mark "\x7b" :: ts) r := by
  intro hr n hn
  rw [List.length_cons] at hn
  obtain ⟨n, rfl⟩ := Nat.exists_eq_add_of_le' (show 2 ≤ n by omega)
  exact (ihps n (by omega)).2

theorem plain (he : Spells (.atom e) ts r) (ihe : Parses (.atom e) ts r) : Parses (.operand e) ts r := by
  intro hr n hn
  obtain ⟨n, rfl⟩ := Nat.exists_eq_add_of_le' (show 4 ≤ n by omega)
  have hatom := ihe hr (n + 1) (by omega)
  obtain ⟨used, ⟨rfl, -⟩, t, u, rfl, ht⟩ := he.run
  exact factor_of_atom ht hr hatom

/-- a further operand, behind a sign that stands for `o` -/
theorem onward {o : Operator} {s : String} (ho : operator? (mark s :: ts) = some (9, o, ts))
    (hx : Spells (.operand x) ts mid) (he : Spells (.onward (o.apply l x) e) mid r)
    (ihx : Parses (.operand x) ts mid) (ihe : Parses (.onward (o.apply l x) e) mid r) :
    Parses (.onward l e) (mark s :: ts) r := by
  intro hr n least hleast hn
  rw [List.length_cons] at hn
  have hmid := he.follows_onward hr
  have hlength := hx.length_le
  obtain ⟨n, rfl⟩ := Nat.exists_eq_add_one_of_ne_zero (n := n) (by omega)
  exact climbOn_of_operand ho hx ihx hmid hleast (by omega) (ihe hr n least hleast (by omega))

theorem whole (hx : Spells (.operand x) ts mid) (he : Spells (.onward x e) mid r)
    (ihx : Parses (.operand x) ts mid) (ihe : Parses (.onward x e) mid r) : Parses (.whole e) ts r := by
  intro hr n hn
  have hmid := he.follows_onward hr
  have hlength := hx.length_le
  obtain ⟨n, rfl⟩ := Nat.exists_eq_add_of_le' (show 2 ≤ n by omega)
  have hfactor := ihx hmid n (by omega)
  have hon := ihe hr n 1 (by decide) (by omega)
  obtain ⟨used, ⟨rfl, -⟩, t, u, rfl, ht⟩ := hx.run
  exact expression_of_climb ht hr (climb_of_factor ht 1 hfactor hon)

theorem last (hc : c ∈ closers) (he : Spells (.whole e) ts (mark c :: r))
    (ihe : Parses (.whole e) ts (mark c :: r)) : Parses (.items c [e]) ts r := by
  intro n hn
  obtain ⟨n, rfl⟩ := Nat.exists_eq_add_one_of_ne_zero (n := n) (by omega)
  have hclosed := Closed.of_mem hc
  have helement := element_of_whole he ihe (hclosed _) (n := n) (by omega)
  have hfirst := element_of_whole he ihe (hclosed _) (n := n + 1) (by omega)
  obtain ⟨t, u, rfl, ht, -⟩ := he.front
  exact ⟨moreItems_last (ht.takeSign_closer hc) helement, fun _ =>
    ⟨⟨_, itemsUntil_last helement, rfl, rfl⟩, t, _, _, _, rfl, ht, hfirst, takeSign_colon hc⟩⟩

theorem comma (hc : c ∈ closers) (he : Spells (.whole e) ts (mark "," :: mid))
    (ihe : Parses (.whole e) ts (mark "," :: mid)) (ihes : Parses (.items c es) mid r) :
    Parses (.items c (e :: es)) ts r := by
  intro n hn
  obtain ⟨n, rfl⟩ := Nat.exists_eq_add_one_of_ne_zero (n := n) (by omega)
  have hlength := he.length_lt
  rw [List.length_cons] at hlength
  have helement := element_of_whole he ihe .comma (n := n) (by omega)
  have hfirst := element_of_whole he ihe .comma (n := n + 1) (by omega)
  have hmore := (ihes n (by omega)).1
  obtain ⟨t, u, rfl, ht, -⟩ := he.front
  exact ⟨moreItems_comma hc (ht.takeSign_closer hc) helement hmore, fun _ =>
    ⟨⟨_, itemsUntil_comma hc helement hmore, rfl⟩, t, _, _, _, rfl, ht, hfirst, rfl⟩⟩

theorem entry (hk : Spells (.whole k) ts (mark ":" :: mid)) (ihk : Parses (.whole k) ts (mark ":" :: mid))
    (ihv : Parses (.whole v) mid (mark "\x7d" :: r)) : Parses (.entries [(k, v)]) ts r := by
  intro n hn
  obtain ⟨n, rfl⟩ := Nat.exists_eq_add_one_of_ne_zero (n := n) (by omega)
  have hlength := hk.length_lt
  rw [List.length_cons] at hlength
  have helement := element_of_whole hk ihk .colon (n := n + 1) (by omega)
  have hkey := ihk .colon n (by omega)
  have hvalue := ihv .curly n (by omega)
  have hvalue' := ihv .curly (n + 1) (by omega)
  obtain ⟨t, u, rfl, ht, -⟩ := hk.front
  exact ⟨entries_last ht hkey hvalue, braces_last ht helement hvalue'⟩

theorem entries (hk : Spells (.whole k) ts (mark ":" :: mid)) (hv : Spells (.whole v) mid (mark "," :: mid'))
    (ihk : Parses (.whole k) ts (mark ":" :: mid)) (ihv : Parses (.whole v) mid (mark "," :: mid'))
    (ihps : Parses (.entries ps) mid' r) : Parses (.entries ((k, v) :: ps)) ts r := by
  intro n hn
  obtain ⟨n, rfl⟩ := Nat.exists_eq_add_one_of_ne_zero (n := n) (by omega)
  have hlength := hk.length_lt
  have hlength' := hv.length_lt
  rw [List.length_cons] at hlength hlength'
  have helement := element_of_whole hk ihk .colon (n := n + 1) (by omega)
  have hkey := ihk .colon n (by omega)
  have hvalue := ihv .comma n (by omega)
  have hvalue' := ihv .comma (n + 1) (by omega)
  have hmore := (ihps n (by omega)).1
  have hmore' := (ihps (n + 1) (by omega)).1
  obtain ⟨t, u, rfl, ht, -⟩ := hk.front
  exact ⟨entries_comma ht hkey hvalue hmore, braces_comma ht helement hvalue' hmore'⟩

theorem single (ihe : Parses (.whole e) ts r) : Parses (.listed [e]) ts r := by
  intro hr n m hn hm
  obtain ⟨m, rfl⟩ := Nat.exists_eq_add_one_of_ne_zero (n := m) (by omega)
  have hexpression := ihe (.of_newlines hr) n hn
  simp only [expr?.listed, hexpression, Option.bind_eq_bind, Option.bind_some, takeSign_newlines hr]

theorem trailing (ihe : Parses (.whole e) ts (mark "," :: r)) : Parses (.listed [e]) ts r := by
  intro hr n m hn hm
  obtain ⟨m, rfl⟩ := Nat.exists_eq_add_one_of_ne_zero (n := m) (by omega)
  have hexpression := ihe .comma n hn
  simp only [expr?.listed, hexpression, Option.bind_eq_bind, Option.bind_some, takeSign_mark, if_pos hr]

theorem further (he : Spells (.whole e) ts (mark "," :: mid)) (hes : Spells (.listed es) mid r)
    (ihe : Parses (.whole e) ts (mark "," :: mid)) (ihes : Parses (.listed es) mid r) :
    Parses (.listed (e :: es)) ts r := by
  intro hr n m hn hm
  obtain ⟨m, rfl⟩ := Nat.exists_eq_add_one_of_ne_zero (n := m) (by omega)
  have hlength := he.length_lt
  rw [List.length_cons] at hlength
  have hexpression := ihe .comma n hn
  have hmore := ihes hr n m (by omega) (by omega)
  simp only [expr?.listed, hexpression, Option.bind_eq_bind, Option.bind_some, takeSign_mark,
    hes.not_newlines, Bool.false_eq_true, if_false, hmore]

end

end Parses

/-- what the tokens spell, the parser finds -/
theorem Spells.parses {φ : Phrase} {ts r : List Token} (h : Spells φ ts r) : Parses φ ts r := by
  induction h with
  | null | yes | no | number | ellipsis =>
    intro hr n hn
    obtain ⟨n, rfl⟩ := Nat.exists_eq_add_one_of_ne_zero (n := n) (by omega)
    rfl
  | word hw hf =>
    intro hr n hn
    obtain ⟨n, rfl⟩ := Nat.exists_eq_add_one_of_ne_zero (n := n) (by omega)
    exact plainAtom_word hw hf _
  | @text cs css r => exact .text cs css
  | @bytes bs bss r => exact .bytes bs bss
  | unit =>
    intro hr n hn
    simp only [List.length_cons] at hn
    obtain ⟨n, rfl⟩ := Nat.exists_eq_add_of_le' (show 2 ≤ n by omega)
    rfl
  | group he ihe => exact .group he ihe
  | tuple he hes ihe ihes => exact .tuple he ihe ihes
  | list hes ihes => exact .list hes ihes
  | set hes ihes => exact .set ihes
  | dict hps ihps => exact .dict ihps
  | plain he ihe => exact .plain he ihe
  | plus hs ih | minus hs ih =>
    intro hr n hn
    rw [List.length_cons] at hn
    obtain ⟨n, rfl⟩ := Nat.exists_eq_add_one_of_ne_zero (n := n) (by omega)
    have hfactor := ih hr n (by omega)
    show Option.bind _ _ = _
    rw [hfactor]
    rfl
  | done =>
    intro hr n least hleast hn
    obtain ⟨n, rfl⟩ := Nat.exists_eq_add_one_of_ne_zero (n := n) (by omega)
    exact hr.climbOn_eq n least _
  | add hx he ihx ihe => exact .onward (o := .add) rfl hx he ihx ihe
  | sub hx he ihx ihe => exact .onward (o := .sub) rfl hx he ihx ihe
  | whole hx he ihx ihe => exact .whole hx he ihx ihe
  | close hc =>
    intro n hn
    obtain ⟨n, rfl⟩ := Nat.exists_eq_add_one_of_ne_zero (n := n) (by omega)
    exact ⟨moreItems_close, fun h => absurd rfl h⟩
  | last hc he ihe => exact .last hc he ihe
  | comma he hes ihe ihes =>
    -- the closing bracket is known from the phrase for the other elements
    obtain ⟨-, -, hc, -⟩ := hes.run
    exact .comma hc he ihe ihes
  | empty =>
    intro n hn
    obtain ⟨n, rfl⟩ := Nat.exists_eq_add_one_of_ne_zero (n := n) (by omega)
    exact ⟨rfl, rfl⟩
  | entry hk hv ihk ihv => exact .entry hk ihk ihv
  | entries hk hv hes ihk ihv ihps => exact .entries hk hv ihk ihv ihps
  | single he ihe => exact .single ihe
  | trailing he ihe => exact .trailing ihe
  | further he hes ihe ihes => exact .further he hes ihe ihes

/-- the parser gives back what a whole argument spells -/
theorem Sentence.parsed {e : Expr} {ts : List Token} (h : Sentence e ts) : expr? ts = some e := by
  cases h with
  | one he hr =>
    have hexpression := he.parses (.of_newlines hr) (24 * (ts.length + 2)) (by omega)
    simp only [expr?, hexpression, Option.bind_eq_bind, Option.bind_some, takeSign_newlines hr, if_pos hr]
  | pair he hr =>
    have hexpression := he.parses .comma (24 * (ts.length + 2)) (by omega)
    simp only [expr?, hexpression, Option.bind_eq_bind, Option.bind_some, takeSign_mark, if_pos hr]
  | several he hes hr =>
    have hlength := he.length_lt
    rw [List.length_cons] at hlength
    have hexpression := he.parses .comma (24 * (ts.length + 2)) (by omega)
    have hmore := hes.parses hr (24 * (ts.length + 2)) (24 * (ts.length + 2)) (by omega) (by omega)
    simp only [expr?, hexpression, Option.bind_eq_bind, Option.bind_some, takeSign_mark, hes.not_newlines,
      Bool.false_eq_true, if_false, hmore, if_pos hr]

end CommandLine.Literal
