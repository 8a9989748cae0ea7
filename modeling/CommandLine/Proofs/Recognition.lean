import Mathlib.Data.Set.List
import CommandLine.Proofs.Parsing

/-!
# Only literals are parsed as such

If the parser gives an expression without any other form inside (`Expr.Clean`), then the tokens spell
it by the grammar of literals.  `Sound n` says this of all functions of the parser with the fuel `n`;
one lemma for each function leads from `n` to `n + 1`, and `sound_all` goes by induction.  With the
module before, the parser and the grammar agree on literals (`expr_eq_some_iff`, `parse_eq_some_iff`).

A form that is no literal is never lost on the way: attributes, calls and subscripts behind it
(`trailers_clean`) and operators behind it (`climbOn_clean`) leave it in the expression.
-/

namespace CommandLine.Literal

/-- an expression with literals only in it -/
inductive Expr.Clean : Expr → Prop where
  | constant {v} : Clean (.constant v)
  | word {s} : Clean (.word s)
  | tuple {es} : (∀ e ∈ es, Clean e) → Clean (.tuple es)
  | list {es} : (∀ e ∈ es, Clean e) → Clean (.list es)
  | set {es} : (∀ e ∈ es, Clean e) → Clean (.set es)
  | dict {es} : (∀ p ∈ es, Clean p.1) → (∀ p ∈ es, Clean p.2) → Clean (.dict es)
  | signed {negative e} : Clean e → Clean (.signed negative e)
  | sum {minus l r} : Clean l → Clean r → Clean (.sum minus l r)

theorem not_clean_compound : ¬ Expr.compound.Clean := fun h => by cases h

theorem not_clean_operation : ¬ Expr.operation.Clean := fun h => by cases h

theorem eq_mark_of_takeSign {s : String} {ts r : List Token} (h : takeSign s ts = some r) :
    ts = mark s :: r := by
  cases ts with
  | nil => cases h
  | cons t ts =>
    rw [takeSign] at h
    split at h
    · cases t with
      | sign cs =>
        rename_i hsign
        obtain rfl : cs = s.toList := of_decide_eq_true hsign
        rw [Option.some.inj h]
        rfl
      | _ => rename_i hsign; cases hsign
    · cases h

theorem eq_mark_of_nextIsSign {s : String} {ts : List Token} (h : nextIsSign s ts = true) :
    ts = mark s :: ts.drop 1 := by
  obtain ⟨r, hr⟩ := Option.isSome_iff_exists.1 h
  rw [eq_mark_of_takeSign hr]
  rfl

theorem eq_mark_of_ofList {cs : List Char} {s : String} (h : String.ofList cs = s) :
    Token.sign cs = mark s := by
  rw [← h, mark, String.toList_ofList]

/-! ## other forms stay in the expression -/

theorem trailers_compound {n : Nat} {ts r : List Token} {e : Expr}
    (h : trailers n .compound ts = some (e, r)) : e = .compound := by
  induction n generalizing ts with
  | zero => cases h
  | succ n ih =>
    unfold trailers at h
    split at h
    · split at h
      -- an attribute, a call or a subscript, and on with what stands behind it
      iterate 3
        · obtain ⟨x, -, h⟩ := Option.bind_eq_some_iff.1 h
          exact ih h
      · cases h
        rfl
    · cases h
      rfl

theorem trailers_clean {n : Nat} {ts r : List Token} {e x : Expr}
    (h : trailers n x ts = some (e, r)) (he : e.Clean) : e = x ∧ r = ts := by
  cases n with
  | zero => cases h
  | succ n =>
    have hnot : ∀ {r'}, trailers n .compound r' ≠ some (e, r) := fun h' =>
      not_clean_compound (trailers_compound h' ▸ he)
    unfold trailers at h
    split at h
    · split at h
      iterate 3
        · obtain ⟨x, -, h⟩ := Option.bind_eq_some_iff.1 h
          exact absurd h hnot
      · cases h
        exact ⟨rfl, rfl⟩
    · cases h
      exact ⟨rfl, rfl⟩

theorem climbOn_clean {n least : Nat} {l e : Expr} {ts r : List Token}
    (h : climbOn n least l ts = some (e, r)) (he : e.Clean) : l.Clean := by
  induction n generalizing l ts with
  | zero => cases h
  | succ n ih =>
    unfold climbOn at h
    split at h
    · rename_i level o rest ho
      split at h
      · obtain ⟨⟨x, mid⟩, -, h⟩ := Option.bind_eq_some_iff.1 h
        have hsum := ih h
        cases o with
        | add | sub =>
          cases hsum with
          | sum hl hx => exact hl
        | arithmetic | power => exact absurd hsum not_clean_operation
        | logical => exact absurd hsum not_clean_compound
      · cases h
        exact he
    · cases h
      exact he

theorem operator_clean {ts rest : List Token} {level : Nat} {o : Operator} {l x : Expr}
    (h : operator? ts = some (level, o, rest)) (hclean : (o.apply l x).Clean) :
    level = 9 ∧ (o = .add ∧ ts = mark "+" :: rest ∨ o = .sub ∧ ts = mark "-" :: rest) := by
  unfold operator? at h
  split at h
  · split at h <;> cases h
    all_goals first
      | exact absurd hclean not_clean_compound
      | exact absurd hclean not_clean_operation
      | exact ⟨rfl, .inl ⟨rfl, congrArg (· :: rest) (eq_mark_of_ofList ‹_›)⟩⟩
      | exact ⟨rfl, .inr ⟨rfl, congrArg (· :: rest) (eq_mark_of_ofList ‹_›)⟩⟩
  · -- the operators that are words compare or combine truth values
    split at h
    case h_4 =>
      obtain ⟨_, -, h⟩ := Option.map_eq_some_iff.1 h
      cases h
      exact absurd hclean not_clean_compound
    all_goals cases h
    all_goals exact absurd hclean not_clean_compound
  · cases h

/-! ## atoms -/

theorem takeStrings_eq (ts : List Token) :
    ts = (takeStrings ts).1.map .string ++ (takeStrings ts).2 := by
  fun_induction takeStrings ts with
  | case1 p ts ps r hps ih => 
    rw [hps] at ih
    rw [List.map_cons, List.cons_append, ← ih]
  | case2 ts hts => rfl

/-- strings in a row that make a literal are all texts, or all byte strings -/
theorem joinPieces_clean {ps : List Piece} {e : Expr} (h : joinPieces ps = some e) (he : e.Clean) :
    (∃ bss : List (List UInt8), ps = bss.map .bytes ∧ e = .constant (.bytes bss.flatten)) ∨
      ∃ css : List (List Char), ps = css.map .text ∧ e = .constant (.text (String.ofList css.flatten)) := by
  unfold joinPieces at h
  dsimp only at h
  split at h
  · rename_i hall
    have hps : ∀ p ∈ ps, p ∈ Set.range Piece.bytes := by
      intro p hp
      have hbytes := List.all_eq_true.1 hall p hp
      cases p with
      | bytes bs => exact ⟨bs, rfl⟩
      | _ => cases hbytes
    obtain ⟨bss, rfl⟩ : ps ∈ Set.range (List.map Piece.bytes) := by
      rw [Set.range_list_map]
      exact hps
    refine .inl ⟨bss, rfl, ?_⟩
    rw [← Option.some.inj h, List.flatMap_map, List.flatMap_id']
  · split at h
    · cases h
    · split at h
      · cases h
        exact absurd he not_clean_compound
      · rename_i hbytes htemplate
        have hps : ∀ p ∈ ps, p ∈ Set.range Piece.text := by
          intro p hp
          cases p with
          | text cs => exact ⟨cs, rfl⟩
          | bytes bs => exact absurd (List.any_eq_true.2 ⟨_, hp, rfl⟩) hbytes
          | template raw body => exact absurd (List.any_eq_true.2 ⟨_, hp, rfl⟩) htemplate
        obtain ⟨css, rfl⟩ : ps ∈ Set.range (List.map Piece.text) := by
          rw [Set.range_list_map]
          exact hps
        refine .inr ⟨css, rfl, ?_⟩
        rw [← Option.some.inj h, List.flatMap_map, List.flatMap_id']

theorem plainAtom_clean {ts r : List Token} {e : Expr} (h : plainAtom ts = some (e, r))
    (he : e.Clean) : Spells (.atom e) ts r := by
  have hword : ∀ {w s}, String.ofList w = s → w = String.toList s := by
    rintro w s rfl
    exact String.toList_ofList.symm
  unfold plainAtom at h
  split at h
  · split at h
    · rename_i hw
      cases h
      obtain rfl := hword hw
      exact .null
    · rename_i hw
      cases h
      obtain rfl := hword hw
      exact .yes
    · rename_i hw
      cases h
      obtain rfl := hword hw
      exact .no
    · split at h
      · cases h
      · rename_i hkey
        have hw : _ ∉ keywords := fun hm => hkey (List.contains_iff_mem.2 hm)
        split at h
        iterate 3
          · cases h
            exact absurd he not_clean_compound
        · cases h
          refine .word hw ?_
          simp only [List.mem_cons, List.not_mem_nil, or_false, not_or]
          exact ⟨‹_›, ‹_›, ‹_›⟩
  · cases h
    exact .number
  · rename_i p ts
    obtain ⟨e', hjoin, heq⟩ := Option.map_eq_some_iff.1 h
    cases heq
    have htokens := takeStrings_eq ts
    generalize takeStrings ts = q at htokens hjoin ⊢
    rcases joinPieces_clean hjoin he with ⟨bss, hps, rfl⟩ | ⟨css, hps, rfl⟩
    · obtain ⟨bs, bss, rfl, rfl, htail⟩ := List.map_eq_cons_iff.1 hps.symm
      rw [htokens, ← htail, List.map_map]
      exact .bytes
    · obtain ⟨cs, css, rfl, rfl, htail⟩ := List.map_eq_cons_iff.1 hps.symm
      rw [htokens, ← htail, List.map_map]
      exact .text
  · split at h
    · cases h
      rw [eq_mark_of_ofList ‹_›]
      exact .ellipsis
    · cases h
  · cases h

/-! ## the functions of the parser -/

/-- with the fuel `n`, what the parser gives as a literal is spelled so -/
structure Sound (n : Nat) : Prop where
  expression {ts r e} : expression n ts = some (e, r) → e.Clean → Spells (.whole e) ts r
  climb {least ts r e} : least ≤ 9 → climb n least ts = some (e, r) → e.Clean → Spells (.whole e) ts r
  tight {ts r e} : Literal.climb n 10 ts = some (e, r) → e.Clean → Spells (.operand e) ts r
  onward {least l ts r e} : least ≤ 9 → climbOn n least l ts = some (e, r) → e.Clean →
    Spells (.onward l e) ts r
  factor {ts r e} : factor n ts = some (e, r) → e.Clean → Spells (.operand e) ts r
  power {ts r e} : power n ts = some (e, r) → e.Clean → Spells (.atom e) ts r
  primary {ts r e} : primary n ts = some (e, r) → e.Clean → Spells (.atom e) ts r
  atom {ts r e} : atom n ts = some (e, r) → e.Clean → Spells (.atom e) ts r
  group {ts r e} : group n ts = some (e, r) → e.Clean → Spells (.atom e) (mark "(" :: ts) r
  element {ts r starred named e} : element n ts = some ((starred, named, e), r) → e.Clean →
    starred = false ∧ named = false ∧ Spells (.whole e) ts r
  one {c ts r starred e} : c ∈ closers → itemsUntil n c ts = some (.one starred e, r) → e.Clean →
    starred = false ∧ Spells (.whole e) ts (mark c :: r)
  many {c ts r es} : c ∈ closers → itemsUntil n c ts = some (.many es, r) → (∀ e ∈ es, e.Clean) →
    ∃ e es' mid, es = e :: es' ∧ Spells (.whole e) ts (mark "," :: mid) ∧ Spells (.items c es') mid r
  more {c ts r es} : c ∈ closers → moreItems n c ts = some (es, r) → (∀ e ∈ es, e.Clean) →
    Spells (.items c es) ts r
  braces {ts r e} : braces n ts = some (e, r) → e.Clean → Spells (.atom e) (mark "\x7b" :: ts) r
  entries {ts r es} : entries n ts = some (es, r) → (∀ p ∈ es, p.1.Clean) → (∀ p ∈ es, p.2.Clean) →
    Spells (.entries es) ts r

/-- one element and the closing bracket, or a comma and more elements -/
theorem itemsUntil_inv {n : Nat} {c : String} {ts r : List Token} {it : Items}
    (h : itemsUntil (n + 1) c ts = some (it, r)) :
    (∃ starred named e, it = .one starred e ∧
      element n ts = some ((starred, named, e), mark c :: r)) ∨
    (∃ starred named e es mid, it = .many (e :: es) ∧
      element n ts = some ((starred, named, e), mark "," :: mid) ∧
      moreItems n c mid = some (es, r)) ∨ it = .comprehension := by
  unfold itemsUntil at h
  obtain ⟨⟨⟨starred, named, e⟩, mid⟩, he, h⟩ := Option.bind_eq_some_iff.1 h
  dsimp only at h
  split at h
  · rename_i hclose
    cases h
    rw [eq_mark_of_takeSign hclose] at he
    exact .inl ⟨starred, named, e, rfl, he⟩
  · split at h
    · rename_i hcomma
      obtain ⟨⟨es, mid'⟩, hes, h⟩ := Option.bind_eq_some_iff.1 h
      cases h
      rw [eq_mark_of_takeSign hcomma] at he
      exact .inr (.inl ⟨starred, named, e, es, _, rfl, he, hes⟩)
    · split at h
      · cases h
      · simp only [Option.bind_eq_bind, Option.bind_eq_some_iff, Option.some.injEq, Prod.mk.injEq] at h
        obtain ⟨_, -, _, -, rfl, -⟩ := h
        exact .inr (.inr rfl)

theorem yielded_eq {n : Nat} {ts r : List Token} {e : Expr} (h : yielded n ts = some (e, r)) :
    e = .compound := by
  cases n with
  | zero => cases h
  | succ n =>
    unfold yielded at h
    split at h
    · simp only [Option.bind_eq_bind, Option.bind_eq_some_iff, Option.some.injEq, Prod.mk.injEq] at h
      obtain ⟨_, -, _, -, rfl, -⟩ := h
      rfl
    · split at h
      · cases h
        rfl
      · obtain ⟨_, -, h⟩ := Option.bind_eq_some_iff.1 h
        cases h
        rfl

namespace Sound

section
variable {n : Nat} (ih : Sound n) {ts r : List Token} {e : Expr}
include ih

theorem expression_succ (h : Literal.expression (n + 1) ts = some (e, r)) (he : e.Clean) :
    Spells (.whole e) ts r := by
  unfold Literal.expression at h
  split at h
  · simp only [Option.bind_eq_bind, Option.bind_eq_some_iff, Option.some.injEq, Prod.mk.injEq] at h
    obtain ⟨_, -, _, -, _, -, rfl, -⟩ := h
    exact absurd he not_clean_compound
  · obtain ⟨⟨x, mid⟩, hclimb, h⟩ := Option.bind_eq_some_iff.1 h
    dsimp only at h
    split at h
    · cases h
      exact ih.climb (by decide) hclimb he
    · simp only [Option.bind_eq_bind, Option.bind_eq_some_iff, Option.some.injEq, Prod.mk.injEq] at h
      obtain ⟨_, -, _, -, _, -, rfl, -⟩ := h
      exact absurd he not_clean_compound

/-- a literal starts with an operand, and the operators behind it lead on -/
theorem climb_inv {least : Nat} (h : Literal.climb (n + 1) least ts = some (e, r)) (he : e.Clean) :
    ∃ x mid, Spells (.operand x) ts mid ∧ climbOn n least x mid = some (e, r) := by
  unfold Literal.climb at h
  split at h
  · split at h
    · obtain ⟨⟨x, mid⟩, -, h⟩ := Option.bind_eq_some_iff.1 h
      exact absurd (climbOn_clean h he) not_clean_compound
    · cases h
  · obtain ⟨⟨x, mid⟩, hx, h⟩ := Option.bind_eq_some_iff.1 h
    exact ⟨x, mid, ih.factor hx (climbOn_clean h he), h⟩

theorem onward_succ {least : Nat} {l : Expr} (hleast : least ≤ 9)
    (h : climbOn (n + 1) least l ts = some (e, r)) (he : e.Clean) : Spells (.onward l e) ts r := by
  unfold climbOn at h
  split at h
  · rename_i level o rest ho
    split at h
    · obtain ⟨⟨x, mid⟩, hx, hon⟩ := Option.bind_eq_some_iff.1 h
      have hsum := climbOn_clean hon he
      obtain ⟨rfl, ⟨rfl, rfl⟩ | ⟨rfl, rfl⟩⟩ := operator_clean ho hsum
      · cases hsum with
        | sum hl hxclean => exact .add (ih.tight hx hxclean) (ih.onward hleast hon he)
      · cases hsum with
        | sum hl hxclean => exact .sub (ih.tight hx hxclean) (ih.onward hleast hon he)
    · cases h
      exact .done
  · cases h
    exact .done

theorem factor_succ (h : Literal.factor (n + 1) ts = some (e, r)) (he : e.Clean) :
    Spells (.operand e) ts r := by
  unfold Literal.factor at h
  split at h
  · rename_i cs ts
    split at h
    · obtain ⟨⟨x, mid⟩, hx, h⟩ := Option.bind_eq_some_iff.1 h
      cases h
      cases he with
      | signed hclean =>
        rw [eq_mark_of_ofList ‹_›]
        exact .plus (ih.factor hx hclean)
    · obtain ⟨⟨x, mid⟩, hx, h⟩ := Option.bind_eq_some_iff.1 h
      cases h
      cases he with
      | signed hclean =>
        rw [eq_mark_of_ofList ‹_›]
        exact .minus (ih.factor hx hclean)
    · obtain ⟨⟨x, mid⟩, hx, h⟩ := Option.bind_eq_some_iff.1 h
      cases h
      exact absurd he not_clean_compound
    · exact .plain (ih.power h he)
  · exact .plain (ih.power h he)

theorem power_succ (h : Literal.power (n + 1) ts = some (e, r)) (he : e.Clean) :
    Spells (.atom e) ts r := by
  unfold Literal.power at h
  dsimp only at h
  split at h
  · obtain ⟨⟨x, mid⟩, -, h⟩ := Option.bind_eq_some_iff.1 h
    rw [Option.bind_eq_bind, Option.bind_some] at h
    split at h
    · obtain ⟨_, -, h⟩ := Option.bind_eq_some_iff.1 h
      cases h
      exact absurd he not_clean_operation
    · cases h
      exact absurd he not_clean_compound
  · obtain ⟨⟨x, mid⟩, hx, h⟩ := Option.bind_eq_some_iff.1 h
    dsimp only at h
    split at h
    · obtain ⟨_, -, h⟩ := Option.bind_eq_some_iff.1 h
      cases h
      exact absurd he not_clean_operation
    · cases h
      exact ih.primary hx he

theorem primary_succ (h : Literal.primary (n + 1) ts = some (e, r)) (he : e.Clean) :
    Spells (.atom e) ts r := by
  unfold Literal.primary at h
  obtain ⟨⟨x, mid⟩, hx, h⟩ := Option.bind_eq_some_iff.1 h
  obtain ⟨rfl, rfl⟩ := trailers_clean h he
  exact ih.atom hx he

theorem atom_succ (h : Literal.atom (n + 1) ts = some (e, r)) (he : e.Clean) : Spells (.atom e) ts r := by
  unfold Literal.atom at h
  split at h
  · rename_i cs ts
    split at h
    · rw [eq_mark_of_ofList ‹_›]
      exact ih.group h he
    · rw [eq_mark_of_ofList ‹_›]
      split at h
      · rename_i hclose
        cases h
        rw [eq_mark_of_nextIsSign hclose]
        exact .list (.close (by decide))
      · obtain ⟨⟨it, mid⟩, hit, h⟩ := Option.bind_eq_some_iff.1 h
        dsimp only at h
        split at h
        · cases h
          cases he with
          | list hclean =>
            obtain ⟨-, hone⟩ := ih.one (by decide) hit (hclean _ List.mem_cons_self)
            exact .list (.last (by decide) hone)
        · cases h
          cases he with
          | list hclean =>
            obtain ⟨x, xs, mid, rfl, hx, hxs⟩ := ih.many (by decide) hit hclean
            exact .list (.comma hx hxs)
        · cases h
          exact absurd he not_clean_compound
    · rw [eq_mark_of_ofList ‹_›]
      exact ih.braces h he
    · exact plainAtom_clean h he
  · exact plainAtom_clean h he

theorem group_succ (h : Literal.group (n + 1) ts = some (e, r)) (he : e.Clean) :
    Spells (.atom e) (mark "(" :: ts) r := by
  unfold Literal.group at h
  split at h
  · rename_i hclose
    cases h
    rw [eq_mark_of_nextIsSign hclose]
    exact .unit
  · split at h
    · exact absurd (yielded_eq h ▸ he) not_clean_compound
    · obtain ⟨⟨it, mid⟩, hit, h⟩ := Option.bind_eq_some_iff.1 h
      dsimp only at h
      split at h
      · cases h
      · cases h
        exact .group (ih.one (by decide) hit he).2
      · cases h
        cases he with
        | tuple hclean =>
          obtain ⟨x, xs, mid, rfl, hx, hxs⟩ := ih.many (by decide) hit hclean
          exact .tuple hx hxs
      · cases h
        exact absurd he not_clean_compound

theorem element_succ {starred named : Bool}
    (h : Literal.element (n + 1) ts = some ((starred, named, e), r)) (he : e.Clean) :
    starred = false ∧ named = false ∧ Spells (.whole e) ts r := by
  unfold Literal.element at h
  split at h
  · obtain ⟨_, -, h⟩ := Option.bind_eq_some_iff.1 h
    cases h
    exact absurd he not_clean_compound
  · split at h
    · split at h
      · obtain ⟨_, -, h⟩ := Option.bind_eq_some_iff.1 h
        cases h
        exact absurd he not_clean_compound
      · obtain ⟨⟨x, mid⟩, hx, h⟩ := Option.bind_eq_some_iff.1 h
        cases h
        exact ⟨rfl, rfl, ih.expression hx he⟩
    · obtain ⟨⟨x, mid⟩, hx, h⟩ := Option.bind_eq_some_iff.1 h
      cases h
      exact ⟨rfl, rfl, ih.expression hx he⟩

theorem one_succ {c : String} {starred : Bool} (h : itemsUntil (n + 1) c ts = some (.one starred e, r))
    (he : e.Clean) : starred = false ∧ Spells (.whole e) ts (mark c :: r) := by
  rcases itemsUntil_inv h with ⟨_, named, _, heq, helement⟩ | ⟨_, _, _, _, _, heq, -⟩ | heq
  · cases heq
    obtain ⟨hstarred, -, hspells⟩ := ih.element helement he
    exact ⟨hstarred, hspells⟩
  · cases heq
  · cases heq

theorem many_succ {c : String} {es : List Expr} (hc : c ∈ closers)
    (h : itemsUntil (n + 1) c ts = some (.many es, r)) (hes : ∀ e ∈ es, e.Clean) :
    ∃ e es' mid, es = e :: es' ∧ Spells (.whole e) ts (mark "," :: mid) ∧ Spells (.items c es') mid r := by
  rcases itemsUntil_inv h with ⟨_, _, _, heq, -⟩ | ⟨_, _, e, es', mid, heq, helement, hmore⟩ | heq
  · cases heq
  · cases heq
    obtain ⟨he, hes'⟩ := List.forall_mem_cons.1 hes
    exact ⟨e, es', mid, rfl, (ih.element helement he).2.2, ih.more hc hmore hes'⟩
  · cases heq

theorem more_succ {c : String} {es : List Expr} (hc : c ∈ closers)
    (h : moreItems (n + 1) c ts = some (es, r)) (hes : ∀ e ∈ es, e.Clean) : Spells (.items c es) ts r := by
  unfold moreItems at h
  split at h
  · rename_i hclose
    cases h
    rw [eq_mark_of_takeSign hclose]
    exact .close hc
  · obtain ⟨⟨⟨starred, named, e⟩, mid⟩, helement, h⟩ := Option.bind_eq_some_iff.1 h
    dsimp only at h
    split at h
    · rename_i hclose
      cases h
      rw [eq_mark_of_takeSign hclose] at helement
      exact .last hc (ih.element helement (hes e List.mem_cons_self)).2.2
    · obtain ⟨mid', hcomma, h⟩ := Option.bind_eq_some_iff.1 h
      obtain ⟨⟨es', r'⟩, hmore, h⟩ := Option.bind_eq_some_iff.1 h
      cases h
      obtain ⟨he, hes'⟩ := List.forall_mem_cons.1 hes
      rw [eq_mark_of_takeSign hcomma] at helement
      exact .comma (ih.element helement he).2.2 (ih.more hc hmore hes')

theorem entries_succ {es : List (Expr × Expr)} (h : Literal.entries (n + 1) ts = some (es, r))
    (hkeys : ∀ p ∈ es, p.1.Clean) (hvalues : ∀ p ∈ es, p.2.Clean) : Spells (.entries es) ts r := by
  unfold Literal.entries at h
  split at h
  · rename_i hclose
    cases h
    rw [eq_mark_of_takeSign hclose]
    exact .empty
  · dsimp only at h
    split at h
    · -- a double star leaves a key that is no literal
      obtain ⟨⟨x, mid⟩, -, h⟩ := Option.bind_eq_some_iff.1 h
      rw [Option.bind_eq_bind, Option.bind_some] at h
      split at h
      · cases h
        exact absurd (hkeys _ List.mem_cons_self) not_clean_compound
      · obtain ⟨_, -, h⟩ := Option.bind_eq_some_iff.1 h
        obtain ⟨_, -, h⟩ := Option.bind_eq_some_iff.1 h
        cases h
        exact absurd (hkeys _ List.mem_cons_self) not_clean_compound
    · obtain ⟨⟨k, mid⟩, hk, h⟩ := Option.bind_eq_some_iff.1 h
      obtain ⟨mid', hcolon, h⟩ := Option.bind_eq_some_iff.1 h
      obtain ⟨⟨v, mid''⟩, hv, h⟩ := Option.bind_eq_some_iff.1 h
      rw [Option.bind_eq_bind, Option.bind_some] at h
      dsimp only at hcolon h
      rw [eq_mark_of_takeSign hcolon] at hk
      split at h
      · rename_i hclose
        cases h
        rw [eq_mark_of_takeSign hclose] at hv
        exact .entry (ih.expression hk (hkeys _ List.mem_cons_self))
          (ih.expression hv (hvalues _ List.mem_cons_self))
      · obtain ⟨mid3, hcomma, h⟩ := Option.bind_eq_some_iff.1 h
        obtain ⟨⟨es', r'⟩, hes, h⟩ := Option.bind_eq_some_iff.1 h
        cases h
        rw [eq_mark_of_takeSign hcomma] at hv
        obtain ⟨hkclean, hkeys'⟩ := List.forall_mem_cons.1 hkeys
        obtain ⟨hvclean, hvalues'⟩ := List.forall_mem_cons.1 hvalues
        exact .entries (ih.expression hk hkclean) (ih.expression hv hvclean) (ih.entries hes hkeys' hvalues')

theorem braces_succ (h : Literal.braces (n + 1) ts = some (e, r)) (he : e.Clean) :
    Spells (.atom e) (mark "\x7b" :: ts) r := by
  unfold Literal.braces at h
  split at h
  · rename_i hclose
    cases h
    rw [eq_mark_of_nextIsSign hclose]
    exact .dict .empty
  · split at h
    · obtain ⟨⟨es, mid⟩, hes, h⟩ := Option.bind_eq_some_iff.1 h
      cases h
      cases he with
      | dict hkeys hvalues => exact .dict (ih.entries hes hkeys hvalues)
    · obtain ⟨⟨⟨starred, named, k⟩, mid⟩, hk, h⟩ := Option.bind_eq_some_iff.1 h
      dsimp only at h
      split at h
      · rename_i hcolon
        obtain ⟨⟨v, mid'⟩, hv, h⟩ := Option.bind_eq_some_iff.1 h
        have hmid := eq_mark_of_nextIsSign (Bool.and_eq_true_iff.1 hcolon).2
        rw [hmid] at hk
        dsimp only at h
        split at h
        · rename_i hclose
          cases h
          cases he with
          | dict hkeys hvalues =>
            rw [eq_mark_of_takeSign hclose] at hv
            exact .dict (.entry (ih.element hk (hkeys _ List.mem_cons_self)).2.2
              (ih.expression hv (hvalues _ List.mem_cons_self)))
        · split at h
          · rename_i hcomma
            obtain ⟨⟨es, r'⟩, hes, h⟩ := Option.bind_eq_some_iff.1 h
            cases h
            cases he with
            | dict hkeys hvalues =>
              rw [eq_mark_of_takeSign hcomma] at hv
              obtain ⟨hkclean, hkeys'⟩ := List.forall_mem_cons.1 hkeys
              obtain ⟨hvclean, hvalues'⟩ := List.forall_mem_cons.1 hvalues
              exact .dict (.entries (ih.element hk hkclean).2.2 (ih.expression hv hvclean)
                (ih.entries hes hkeys' hvalues'))
          · simp only [Option.bind_eq_bind, Option.bind_eq_some_iff, Option.some.injEq, Prod.mk.injEq] at h
            obtain ⟨_, -, _, -, rfl, -⟩ := h
            exact absurd he not_clean_compound
      · obtain ⟨⟨it, mid⟩, hit, h⟩ := Option.bind_eq_some_iff.1 h
        dsimp only at h
        split at h
        · cases h
          cases he with
          | set hclean =>
            obtain ⟨-, hone⟩ := ih.one (by decide) hit (hclean _ List.mem_cons_self)
            exact .set (.last (by decide) hone)
        · cases h
          cases he with
          | set hclean =>
            obtain ⟨x, xs, mid, rfl, hx, hxs⟩ := ih.many (by decide) hit hclean
            exact .set (.comma hx hxs)
        · cases h
          exact absurd he not_clean_compound

end

theorem climb_succ {n : Nat} (ih : Sound n) {least : Nat} {ts r : List Token} {e : Expr} (hleast : least ≤ 9)
    (h : Literal.climb (n + 1) least ts = some (e, r)) (he : e.Clean) : Spells (.whole e) ts r := by
  obtain ⟨x, mid, hx, hon⟩ := ih.climb_inv h he
  exact .whole hx (ih.onward hleast hon he)

/-- no operator that binds tighter than a sum makes a literal -/
theorem climbOn_tight {n : Nat} {l e : Expr} {ts r : List Token} (h : climbOn n 10 l ts = some (e, r))
    (he : e.Clean) : e = l ∧ r = ts := by
  cases n with
  | zero => cases h
  | succ n =>
    unfold climbOn at h
    split at h
    · rename_i level o rest ho
      split at h
      · rename_i hlevel
        obtain ⟨⟨x, mid⟩, -, h⟩ := Option.bind_eq_some_iff.1 h
        obtain ⟨rfl, -⟩ := operator_clean ho (climbOn_clean h he)
        omega
      · cases h
        exact ⟨rfl, rfl⟩
    · cases h
      exact ⟨rfl, rfl⟩

theorem tight_succ {n : Nat} (ih : Sound n) {ts r : List Token} {e : Expr}
    (h : Literal.climb (n + 1) 10 ts = some (e, r)) (he : e.Clean) : Spells (.operand e) ts r := by
  obtain ⟨x, mid, hx, hon⟩ := ih.climb_inv h he
  obtain ⟨rfl, rfl⟩ := climbOn_tight hon he
  exact hx

end Sound

theorem sound_all (n : Nat) : Sound n := by
  induction n with
  | zero => constructor <;> intros <;> contradiction
  | succ n ih =>
    exact {
      expression := ih.expression_succ
      climb := ih.climb_succ
      tight := ih.tight_succ
      onward := ih.onward_succ
      factor := ih.factor_succ
      power := ih.power_succ
      primary := ih.primary_succ
      atom := ih.atom_succ
      group := ih.group_succ
      element := ih.element_succ
      one := fun _ => ih.one_succ
      many := ih.many_succ
      more := ih.more_succ
      braces := ih.braces_succ
      entries := ih.entries_succ }

/-! ## whole arguments -/

theorem listed_clean {n m : Nat} {ts r : List Token} {es : List Expr}
    (h : expr?.listed n m ts = some (es, r)) (hes : ∀ e ∈ es, e.Clean) :
    Spells (.listed es) ts r := by
  induction m generalizing ts es with
  | zero => cases h
  | succ m ih =>
    unfold expr?.listed at h
    obtain ⟨⟨e, mid⟩, he, h⟩ := Option.bind_eq_some_iff.1 h
    dsimp only at h
    split at h
    · cases h
      exact .single ((sound_all n).expression he (hes _ List.mem_cons_self))
    · rename_i hcomma
      rw [eq_mark_of_takeSign hcomma] at he
      split at h
      · cases h
        exact .trailing ((sound_all n).expression he (hes _ List.mem_cons_self))
      · obtain ⟨⟨es', r'⟩, hmore, h⟩ := Option.bind_eq_some_iff.1 h
        cases h
        obtain ⟨hclean, hes'⟩ := List.forall_mem_cons.1 hes
        exact .further ((sound_all n).expression he hclean) (ih hmore hes')

theorem sentence_of_expr {ts : List Token} {e : Expr} (h : expr? ts = some e) (he : e.Clean) :
    Sentence e ts := by
  have hsound := sound_all (24 * (ts.length + 2))
  unfold expr? at h
  dsimp only at h
  obtain ⟨⟨x, mid⟩, hx, h⟩ := Option.bind_eq_some_iff.1 h
  dsimp only at h
  split at h
  · rw [Option.bind_eq_bind, Option.bind_some] at h
    split at h
    · rename_i hend
      cases h
      exact .one (hsound.expression hx he) hend
    · cases h
  · rename_i hcomma
    rw [eq_mark_of_takeSign hcomma] at hx
    split at h
    · rename_i hend
      rw [Option.bind_eq_bind, Option.bind_some, if_pos hend] at h
      cases h
      cases he with
      | tuple hclean => exact .pair (hsound.expression hx (hclean _ List.mem_cons_self)) hend
    · obtain ⟨⟨xs, r⟩, hxs, h⟩ := Option.bind_eq_some_iff.1 h
      rw [Option.bind_eq_bind, Option.bind_some] at h
      dsimp only at h
      split at h
      · rename_i hend
        cases h
        cases he with
        | tuple hclean =>
          obtain ⟨hxclean, hxsclean⟩ := List.forall_mem_cons.1 hclean
          exact .several (hsound.expression hx hxclean) (listed_clean hxs hxsclean) hend
      · cases h

/-- on literals the parser and the grammar agree -/
theorem expr_eq_some_iff {ts : List Token} {e : Expr} (he : e.Clean) :
    expr? ts = some e ↔ Sentence e ts :=
  ⟨fun h => sentence_of_expr h he, Sentence.parsed⟩

/-! ## texts -/

theorem sound_of_tame {ts : List Token} (h : ∀ t ∈ ts, t.Tame) (n : Nat) : sound (n + 1) ts = true := by
  rw [sound, List.all_eq_true]
  intro t ht
  obtain ⟨-, htemplate⟩ := h t ht
  cases t with
  | string p =>
    cases p with
    | template raw body => exact absurd rfl (htemplate raw body)
    | _ => rfl
  | _ => rfl

theorem parse_eq_some_iff {cs : List Char} {e : Expr} (he : e.Clean) :
    parse? cs = some e ↔ ∃ ts, scan? cs = some ts ∧ Sentence e ts := by
  unfold parse?
  constructor
  · intro h
    obtain ⟨ts, hts, h⟩ := Option.bind_eq_some_iff.1 h
    obtain ⟨e', hexpr, h⟩ := Option.bind_eq_some_iff.1 h
    split at h
    · cases h
      exact ⟨ts, hts, (expr_eq_some_iff he).1 hexpr⟩
    · cases h
  · rintro ⟨ts, hts, hsentence⟩
    refine Option.bind_eq_some_iff.2 ⟨ts, hts, Option.bind_eq_some_iff.2 ⟨e, hsentence.parsed, ?_⟩⟩
    rw [if_pos (sound_of_tame hsentence.tame _)]

end CommandLine.Literal
