import CommandLine.Literal.Read

/-!
# The grammar of literals

`Spells φ ts r`: the tokens `ts` start with the phrase `φ`, and the tokens `r` stand behind it.  The
rules name neither fuel nor precedence: a literal is a sum of operands, an operand an atom with signs
in front, and an atom a constant, a word or something in brackets.  `Sentence e ts` is what a whole
argument can be, with or without commas, line ends behind it.

What the later modules need of the rules is stated here once.  The tokens of a phrase are `Tame`: none
is a template or the sign of a named expression.  An atom starts with a token that `Starts` one, an
operand or a whole expression with one that `Opens` it (`Spells.run`).

A text here is made of characters, so it cannot hold half of a surrogate pair.  What the reader does
is stated for arguments in which no escape names one (`namesSurrogate`).
-/

namespace CommandLine.Literal

def isSurrogate (n : Nat) : Bool := 0xd800 ≤ n && n ≤ 0xdfff

/-- does an escape for half of a surrogate pair stand at the front? -/
def startsSurrogate : List Char → Bool
  | '\\' :: 'u' :: cs => (hexRun 4 0 cs).any (isSurrogate ·.1)
  | '\\' :: 'U' :: cs => (hexRun 8 0 cs).any (isSurrogate ·.1)
  | _ => false

def holdsSurrogate : List Char → Bool
  | [] => false
  | c :: cs => startsSurrogate (c :: cs) || holdsSurrogate cs

/-- does an escape for half of a surrogate pair stand somewhere in a text? -/
def namesSurrogate (s : String) : Bool := holdsSurrogate s.toList

def mark (s : String) : Token := .sign s.toList

/-- what the tokens of a literal spell -/
inductive Phrase where
  /-- an operand without a sign -/
  | atom (e : Expr)
  /-- an atom with signs in front -/
  | operand (e : Expr)
  /-- the operands behind the left part `l` of a sum, which make it `e` -/
  | onward (l e : Expr)
  | whole (e : Expr)
  /-- what follows the opening bracket, or a comma, up to the closing bracket -/
  | items (close : String) (es : List Expr)
  | entries (es : List (Expr × Expr))
  /-- several expressions between commas, without brackets -/
  | listed (es : List Expr)

def closers : List String := [")", "]", "\x7d"]

inductive Spells : Phrase → List Token → List Token → Prop where
  | null {f r} : Spells (.atom (.constant .null)) (.word "None".toList f :: r) r
  | yes {f r} : Spells (.atom (.constant (.bool true))) (.word "True".toList f :: r) r
  | no {f r} : Spells (.atom (.constant (.bool false))) (.word "False".toList f :: r) r
  | word {w f r} : w ∉ keywords → String.ofList f ∉ ["None", "True", "False"] →
      Spells (.atom (.word (String.ofList f))) (.word w f :: r) r
  | number {n r} : Spells (.atom (.constant n.value)) (.number n :: r) r
  | text {cs css r} :
      Spells (.atom (.constant (.text (String.ofList (cs :: css).flatten))))
        ((cs :: css).map (.string ∘ .text) ++ r) r
  | bytes {bs bss r} :
      Spells (.atom (.constant (.bytes (bs :: bss).flatten)))
        ((bs :: bss).map (.string ∘ .bytes) ++ r) r
  | ellipsis {r} : Spells (.atom (.constant .ellipsis)) (mark "..." :: r) r
  | group {e ts r} : Spells (.whole e) ts (mark ")" :: r) → Spells (.atom e) (mark "(" :: ts) r
  | unit {r} : Spells (.atom (.tuple [])) (mark "(" :: mark ")" :: r) r
  | tuple {e es ts mid r} : Spells (.whole e) ts (mark "," :: mid) → Spells (.items ")" es) mid r →
      Spells (.atom (.tuple (e :: es))) (mark "(" :: ts) r
  | list {es ts r} : Spells (.items "]" es) ts r → Spells (.atom (.list es)) (mark "[" :: ts) r
  | set {e es ts r} : Spells (.items "\x7d" (e :: es)) ts r →
      Spells (.atom (.set (e :: es))) (mark "\x7b" :: ts) r
  | dict {es ts r} : Spells (.entries es) ts r → Spells (.atom (.dict es)) (mark "\x7b" :: ts) r
  | plain {e ts r} : Spells (.atom e) ts r → Spells (.operand e) ts r
  | plus {e ts r} : Spells (.operand e) ts r → Spells (.operand (.signed false e)) (mark "+" :: ts) r
  | minus {e ts r} : Spells (.operand e) ts r → Spells (.operand (.signed true e)) (mark "-" :: ts) r
  | done {l r} : Spells (.onward l l) r r
  | add {l x e ts mid r} : Spells (.operand x) ts mid → Spells (.onward (.sum false l x) e) mid r →
      Spells (.onward l e) (mark "+" :: ts) r
  | sub {l x e ts mid r} : Spells (.operand x) ts mid → Spells (.onward (.sum true l x) e) mid r →
      Spells (.onward l e) (mark "-" :: ts) r
  | whole {x e ts mid r} : Spells (.operand x) ts mid → Spells (.onward x e) mid r →
      Spells (.whole e) ts r
  | close {c r} : c ∈ closers → Spells (.items c []) (mark c :: r) r
  | last {c e ts r} : c ∈ closers → Spells (.whole e) ts (mark c :: r) → Spells (.items c [e]) ts r
  | comma {c e es ts mid r} : Spells (.whole e) ts (mark "," :: mid) → Spells (.items c es) mid r →
      Spells (.items c (e :: es)) ts r
  | empty {r} : Spells (.entries []) (mark "\x7d" :: r) r
  | entry {k v ts mid r} : Spells (.whole k) ts (mark ":" :: mid) →
      Spells (.whole v) mid (mark "\x7d" :: r) → Spells (.entries [(k, v)]) ts r
  | entries {k v es ts mid mid' r} : Spells (.whole k) ts (mark ":" :: mid) →
      Spells (.whole v) mid (mark "," :: mid') → Spells (.entries es) mid' r →
      Spells (.entries ((k, v) :: es)) ts r
  | single {e ts r} : Spells (.whole e) ts r → Spells (.listed [e]) ts r
  | trailing {e ts r} : Spells (.whole e) ts (mark "," :: r) → Spells (.listed [e]) ts r
  | further {e es ts mid r} : Spells (.whole e) ts (mark "," :: mid) → Spells (.listed es) mid r →
      Spells (.listed (e :: es)) ts r

/-- what a whole argument can be: one expression or a tuple without brackets, and line ends -/
inductive Sentence : Expr → List Token → Prop where
  | one {e ts r} : Spells (.whole e) ts r → r.all isNewline = true → Sentence e ts
  | pair {e ts r} : Spells (.whole e) ts (mark "," :: r) → r.all isNewline = true →
      Sentence (.tuple [e]) ts
  | several {e es ts mid r} : Spells (.whole e) ts (mark "," :: mid) → Spells (.listed es) mid r →
      r.all isNewline = true → Sentence (.tuple (e :: es)) ts

/-! ## the tokens of a phrase -/

/-- a token that keeps its meaning wherever it stands in a literal -/
def Token.Tame (t : Token) : Prop :=
  t ≠ mark ":=" ∧ ∀ raw body, t ≠ .string (.template raw body)

/-- a token that an atom can start with -/
inductive Token.Starts : Token → Prop where
  | constant {w f} : w ∈ ["None", "True", "False"].map String.toList → Starts (.word w f)
  | word {w f} : w ∉ keywords → Starts (.word w f)
  | number {n} : Starts (.number n)
  | string {p} : Starts (.string p)
  | sign {s} : s ∈ ["(", "[", "\x7b", "..."] → Starts (mark s)

/-- a token that an expression can start with -/
inductive Token.Opens : Token → Prop where
  | atom {t} : t.Starts → Opens t
  | sign {s} : s ∈ ["+", "-"] → Opens (mark s)

/-- what is known of the tokens that a phrase takes -/
def Phrase.Begins : Phrase → List Token → Prop
  | .atom _, used => ∃ t u, used = t :: u ∧ t.Starts
  | .operand _, used | .whole _, used | .listed _, used => ∃ t u, used = t :: u ∧ t.Opens
  | .items c _, used => c ∈ closers ∧ used ≠ []
  | .entries _, used => used ≠ []
  | .onward .., _ => True

theorem tame_mark {s : String} (h : s ≠ ":=") : (mark s).Tame := by
  refine ⟨fun he => h ?_, fun raw body he => by cases he⟩
  exact String.toList_inj.1 (Token.sign.inj he)

theorem tame_closer {c : String} (h : c ∈ closers) : (mark c).Tame := by
  refine tame_mark fun he => ?_
  subst he
  exact absurd h (by decide)

theorem tame_word (w f : List Char) : (Token.word w f).Tame :=
  ⟨fun he => (by cases he), fun raw body he => by cases he⟩

theorem tame_strings {α : Type} {piece : α → Piece} (h : ∀ x raw body, piece x ≠ .template raw body)
    (xs : List α) : ∀ t ∈ xs.map (Token.string ∘ piece), t.Tame := by
  intro t ht
  obtain ⟨x, -, rfl⟩ := List.mem_map.1 ht
  exact ⟨fun he => (by cases he), fun raw body he => h x raw body (Token.string.inj he)⟩

/-- tokens that stand in front of others, all of them tame -/
def Takes (used ts r : List Token) : Prop := ts = used ++ r ∧ ∀ t ∈ used, t.Tame

theorem Takes.cons {t : Token} {used ts r : List Token} (ht : t.Tame) (h : Takes used ts r) :
    Takes (t :: used) (t :: ts) r :=
  ⟨congrArg (t :: ·) h.1, List.forall_mem_cons.2 ⟨ht, h.2⟩⟩

theorem Takes.one {t : Token} {r : List Token} (ht : t.Tame) : Takes [t] (t :: r) r :=
  ⟨rfl, List.forall_mem_singleton.2 ht⟩

theorem Takes.trans {us vs ts mid r : List Token} (h : Takes us ts mid) (h' : Takes vs mid r) :
    Takes (us ++ vs) ts r := by
  refine ⟨by rw [h.1, h'.1, List.append_assoc], fun t ht => ?_⟩
  rcases List.mem_append.1 ht with ht | ht
  · exact h.2 t ht
  · exact h'.2 t ht

/-- a phrase takes tame tokens off the front, and it starts as its kind does -/
theorem Spells.run {φ : Phrase} {ts r : List Token} (h : Spells φ ts r) :
    ∃ used, Takes used ts r ∧ φ.Begins used := by
  induction h with
  | null | yes | no => exact ⟨_, .one (tame_word _ _), _, _, rfl, .constant (by decide)⟩
  | word hw => exact ⟨_, .one (tame_word _ _), _, _, rfl, .word hw⟩
  | number =>
    exact ⟨_, .one ⟨fun he => (by cases he), fun raw body he => by cases he⟩, _, _, rfl, .number⟩
  | text | bytes => exact ⟨_, ⟨rfl, tame_strings (fun x raw body he => by cases he) _⟩, _, _, rfl, .string⟩
  | ellipsis => exact ⟨_, .one (tame_mark (by decide)), _, _, rfl, .sign (by decide)⟩
  | unit =>
    exact ⟨_, .cons (tame_mark (by decide)) (.one (tame_mark (by decide))), _, _, rfl, .sign (by decide)⟩
  | group _ ih =>
    obtain ⟨used, htakes, -⟩ := ih
    exact ⟨_, .cons (tame_mark (by decide)) (htakes.trans (.one (tame_mark (by decide)))), _, _, rfl,
      .sign (by decide)⟩
  | tuple _ _ ihe ihes =>
    obtain ⟨us, hus, -⟩ := ihe
    obtain ⟨vs, hvs, -⟩ := ihes
    exact ⟨_, .cons (tame_mark (by decide)) (hus.trans (.cons (tame_mark (by decide)) hvs)), _, _, rfl,
      .sign (by decide)⟩
  | list _ ih | set _ ih | dict _ ih =>
    obtain ⟨used, htakes, -⟩ := ih
    exact ⟨_, .cons (tame_mark (by decide)) htakes, _, _, rfl, .sign (by decide)⟩
  | plain _ ih =>
    obtain ⟨used, htakes, t, u, rfl, ht⟩ := ih
    exact ⟨_, htakes, t, u, rfl, .atom ht⟩
  | plus _ ih | minus _ ih =>
    obtain ⟨used, htakes, -⟩ := ih
    exact ⟨_, .cons (tame_mark (by decide)) htakes, _, _, rfl, .sign (by decide)⟩
  | done => exact ⟨[], ⟨rfl, fun t ht => by cases ht⟩, trivial⟩
  | add _ _ ihx ihe | sub _ _ ihx ihe =>
    obtain ⟨us, hus, -⟩ := ihx
    obtain ⟨vs, hvs, -⟩ := ihe
    exact ⟨_, .cons (tame_mark (by decide)) (hus.trans hvs), trivial⟩
  | whole _ _ ihx ihe =>
    obtain ⟨us, hus, t, u, rfl, ht⟩ := ihx
    obtain ⟨vs, hvs, -⟩ := ihe
    exact ⟨_, hus.trans hvs, t, u ++ vs, rfl, ht⟩
  | close hc => exact ⟨_, .one (tame_closer hc), hc, List.cons_ne_nil _ _⟩
  | last hc _ ih =>
    obtain ⟨us, hus, -⟩ := ih
    exact ⟨_, hus.trans (.one (tame_closer hc)), hc, List.append_ne_nil_of_right_ne_nil _ (by simp)⟩
  | comma _ _ ihe ihes =>
    obtain ⟨us, hus, -⟩ := ihe
    obtain ⟨vs, hvs, hc, -⟩ := ihes
    exact ⟨_, hus.trans (.cons (tame_mark (by decide)) hvs), hc,
      List.append_ne_nil_of_right_ne_nil _ (by simp)⟩
  | empty => exact ⟨_, .one (tame_mark (by decide)), List.cons_ne_nil _ _⟩
  | entry _ _ ihk ihv =>
    obtain ⟨us, hus, -⟩ := ihk
    obtain ⟨vs, hvs, -⟩ := ihv
    exact ⟨_, hus.trans (.cons (tame_mark (by decide)) (hvs.trans (.one (tame_mark (by decide))))),
      List.append_ne_nil_of_right_ne_nil _ (by simp)⟩
  | entries _ _ _ ihk ihv ihes =>
    obtain ⟨us, hus, -⟩ := ihk
    obtain ⟨vs, hvs, -⟩ := ihv
    obtain ⟨ws, hws, -⟩ := ihes
    exact ⟨_, hus.trans (.cons (tame_mark (by decide)) (hvs.trans (.cons (tame_mark (by decide)) hws))),
      List.append_ne_nil_of_right_ne_nil _ (by simp)⟩
  | single _ ih => exact ih
  | trailing _ ih =>
    obtain ⟨us, hus, t, u, rfl, ht⟩ := ih
    exact ⟨_, hus.trans (.one (tame_mark (by decide))), t, u ++ _, rfl, ht⟩
  | further _ _ ihe ihes =>
    obtain ⟨us, hus, t, u, rfl, ht⟩ := ihe
    obtain ⟨vs, hvs, -⟩ := ihes
    exact ⟨_, hus.trans (.cons (tame_mark (by decide)) hvs), t, u ++ _, rfl, ht⟩

theorem tame_newlines {r : List Token} (h : r.all isNewline = true) : ∀ t ∈ r, t.Tame := by
  intro t ht
  have hnewline := List.all_eq_true.1 h t ht
  cases t with
  | newline => exact ⟨fun he => (by cases he), fun raw body he => by cases he⟩
  | _ => cases hnewline

theorem Takes.tame {used ts r : List Token} (h : Takes used ts r) (hr : ∀ t ∈ r, t.Tame) :
    ∀ t ∈ ts, t.Tame := by
  rw [h.1]
  intro t ht
  rcases List.mem_append.1 ht with ht | ht
  · exact h.2 t ht
  · exact hr t ht

theorem Sentence.tame {e : Expr} {ts : List Token} (h : Sentence e ts) : ∀ t ∈ ts, t.Tame := by
  cases h with
  | one he hr =>
    obtain ⟨used, htakes, -⟩ := he.run
    exact htakes.tame (tame_newlines hr)
  | pair he hr =>
    obtain ⟨used, htakes, -⟩ := he.run
    exact (htakes.trans (.one (tame_mark (by decide)))).tame (tame_newlines hr)
  | several he hes hr =>
    obtain ⟨us, hus, -⟩ := he.run
    obtain ⟨vs, hvs, -⟩ := hes.run
    exact (hus.trans (.cons (tame_mark (by decide)) hvs)).tame (tame_newlines hr)

end CommandLine.Literal
