import Mathlib.Data.List.Forall2
import CommandLine.Proofs.Recognition
import CommandLine.Proofs.Runs

/-!
# What an argument stands for

`Denotes e v`: the literal `e` has the value `v`.  A set holds its distinct elements, a dictionary the
last value for each key, and both want elements or keys that are fit as such.  `Breaks e err`: reading
`e` from the left, everything in front is fine, and then comes an element or key that is not fit, or a
whole number too large to be added to a complex one.  Evaluation finds exactly these
(`value_eq_ok_iff`, `value_eq_error_iff`).

So the reader has three ways to go: the text spells a literal and stands for its value; it is an
expression that breaks, and the reader fails (`readText_eq_error_iff`); or it is neither, and stands for
itself.
-/

namespace CommandLine.Literal

/-! ## values -/

/-- the numbers that a sign can stand in front of -/
inductive Signable : Value → Prop where
  | int {i} : Signable (.int i)
  | float {x} : Signable (.float x)
  | complex {a b} : Signable (.complex a b)

theorem number_eq_some_iff {e : Expr} {v : Value} :
    e.number? = some v ↔ e = .constant v ∧ Signable v := by
  constructor
  · intro h
    unfold Expr.number? at h
    split at h
    · cases h
      exact ⟨rfl, .int⟩
    · cases h
      exact ⟨rfl, .float⟩
    · cases h
      exact ⟨rfl, .complex⟩
    · cases h
  · rintro ⟨rfl, hv⟩
    cases hv <;> rfl

/-- the value of a literal -/
inductive Denotes : Expr → Value → Prop where
  | constant {v} : Denotes (.constant v) v
  | word {s} : Denotes (.word s) (.text s)
  | tuple {es vs} : es.length = vs.length → (∀ {e v}, (e, v) ∈ es.zip vs → Denotes e v) →
      Denotes (.tuple es) (.tuple vs)
  | list {es vs} : es.length = vs.length → (∀ {e v}, (e, v) ∈ es.zip vs → Denotes e v) →
      Denotes (.list es) (.list vs)
  | set {es vs} : es.length = vs.length → (∀ {e v}, (e, v) ∈ es.zip vs → Denotes e v) →
      (∀ v ∈ vs, v.unhashable? = none) → Denotes (.set es) (.set (slotOrder (Value.distinct vs)))
  | dict {es vs} : es.length = vs.length → (∀ {e v}, (e, v) ∈ es.zip vs → Denotes e.1 v.1) →
      (∀ {e v}, (e, v) ∈ es.zip vs → Denotes e.2 v.2) → (∀ v ∈ vs, v.1.unhashable? = none) →
      Denotes (.dict es) (.dict (Value.putAll [] vs))
  | plus {v} : Signable v → Denotes (.signed false (.constant v)) v
  | minus {v} : Signable v → Denotes (.signed true (.constant v)) (negateNumber v)
  /-- a whole number, with a sign or not, and an imaginary one -/
  | whole {minus l i x a b} : l.signedNumber? = some (.int i) → Number.ofInt? i = some x →
      Denotes (.sum minus l (.constant (.complex a b))) (addComplex minus x a b)
  | real {minus l x a b} : l.signedNumber? = some (.float x) →
      Denotes (.sum minus l (.constant (.complex a b))) (addComplex minus x a b)

abbrev DenoteAll : List Expr → List Value → Prop := List.Forall₂ Denotes

abbrev DenoteEntries : List (Expr × Expr) → List (Value × Value) → Prop :=
  List.Forall₂ fun e v => Denotes e.1 v.1 ∧ Denotes e.2 v.2

/-- where the evaluation of an expression fails, and how -/
inductive Breaks : Expr → Error → Prop where
  | sum {minus l i a b} : l.signedNumber? = some (.int i) → Number.ofInt? i = none →
      Breaks (.sum minus l (.constant (.complex a b))) .intTooLarge
  | tuple {pre e post vs err} : DenoteAll pre vs → Breaks e err → Breaks (.tuple (pre ++ e :: post)) err
  | list {pre e post vs err} : DenoteAll pre vs → Breaks e err → Breaks (.list (pre ++ e :: post)) err
  | set {pre e post vs err} : DenoteAll pre vs → (∀ v ∈ vs, v.unhashable? = none) → Breaks e err →
      Breaks (.set (pre ++ e :: post)) err
  | element {pre e post vs v k} : DenoteAll pre vs → (∀ v ∈ vs, v.unhashable? = none) → Denotes e v →
      v.unhashable? = some k → Breaks (.set (pre ++ e :: post)) (.unhashable k)
  | inKey {pre a b post vs err} : DenoteEntries pre vs → (∀ v ∈ vs, v.1.unhashable? = none) →
      Breaks a err → Breaks (.dict (pre ++ (a, b) :: post)) err
  | inValue {pre a b post vs v err} : DenoteEntries pre vs → (∀ v ∈ vs, v.1.unhashable? = none) →
      Denotes a v → Breaks b err → Breaks (.dict (pre ++ (a, b) :: post)) err
  | key {pre a b post vs v w k} : DenoteEntries pre vs → (∀ v ∈ vs, v.1.unhashable? = none) →
      Denotes a v → Denotes b w → v.unhashable? = some k →
      Breaks (.dict (pre ++ (a, b) :: post)) (.unhashable k)

/-- to prove something of every expression, prove it from the parts -/
theorem Expr.byParts {motive : Expr → Prop} (constant : ∀ v, motive (.constant v))
    (word : ∀ s, motive (.word s)) (tuple : ∀ es, (∀ e ∈ es, motive e) → motive (.tuple es))
    (list : ∀ es, (∀ e ∈ es, motive e) → motive (.list es))
    (set : ∀ es, (∀ e ∈ es, motive e) → motive (.set es))
    (dict : ∀ es, (∀ p ∈ es, motive p.1 ∧ motive p.2) → motive (.dict es))
    (signed : ∀ negative e, motive (.signed negative e)) (sum : ∀ minus l r, motive (.sum minus l r))
    (operation : motive .operation) (compound : motive .compound) (e : Expr) : motive e := by
  refine @Expr.rec motive (fun es => ∀ e ∈ es, motive e) (fun es => ∀ p ∈ es, motive p.1 ∧ motive p.2)
    (fun p => motive p.1 ∧ motive p.2) constant word tuple list set dict (fun b e _ => signed b e)
    (fun b l r _ _ => sum b l r) operation compound ?_ ?_ ?_ ?_ ?_ e
  · intro e he
    cases he
  · intro e es he hes
    exact List.forall_mem_cons.2 ⟨he, hes⟩
  · intro p hp
    cases hp
  · intro p es hp hes
    exact List.forall_mem_cons.2 ⟨hp, hes⟩
  · intro a b ha hb
    exact ⟨ha, hb⟩

/-! ## evaluation in a row -/

section
variable {α β : Type} {g : α → Except Refusal β} {xs : List α}

theorem mapM_eq_ok {ys : List β} : xs.mapM g = .ok ys ↔ List.Forall₂ (fun x y => g x = .ok y) xs ys := by
  induction xs generalizing ys with
  | nil =>
    rw [List.mapM_nil, List.forall₂_nil_left_iff]
    exact ⟨fun h => (Except.ok.inj h).symm, fun h => congrArg _ h.symm⟩
  | cons x xs ih =>
    rw [List.mapM_cons, bind_eq_ok, List.forall₂_cons_left_iff]
    constructor
    · rintro ⟨y, hy, h⟩
      obtain ⟨ys', hys, h⟩ := bind_eq_ok.1 h
      exact ⟨y, ys', hy, ih.1 hys, (Except.ok.inj h).symm⟩
    · rintro ⟨y, ys', hy, hys, rfl⟩
      exact ⟨y, hy, bind_eq_ok.2 ⟨ys', ih.2 hys, rfl⟩⟩

theorem mapM_eq_error {err : Refusal} : xs.mapM g = .error err ↔
    ∃ pre x post ys, xs = pre ++ x :: post ∧ List.Forall₂ (fun x y => g x = .ok y) pre ys ∧
      g x = .error err := by
  induction xs with
  | nil =>
    rw [List.mapM_nil]
    constructor
    · intro h
      cases h
    · rintro ⟨pre, x, post, ys, h, -⟩
      exact absurd h.symm (List.append_ne_nil_of_right_ne_nil _ (List.cons_ne_nil _ _))
  | cons x xs ih =>
    rw [List.mapM_cons, bind_eq_error]
    constructor
    · rintro (h | ⟨y, hy, h⟩)
      · exact ⟨[], x, xs, [], rfl, .nil, h⟩
      · rcases bind_eq_error.1 h with h | ⟨ys, -, h⟩
        · obtain ⟨pre, x', post, ys, rfl, hpre, hx⟩ := ih.1 h
          exact ⟨x :: pre, x', post, y :: ys, rfl, .cons hy hpre, hx⟩
        · cases h
    · rintro ⟨pre, x', post, ys, heq, hpre, hx⟩
      cases hpre with
      | nil =>
        obtain ⟨rfl, -⟩ := List.cons.inj heq
        exact .inl hx
      | cons hy hpre =>
        obtain ⟨rfl, rfl⟩ := List.cons.inj heq
        exact .inr ⟨_, hy, bind_eq_error.2 (.inl (ih.2 ⟨_, x', post, _, rfl, hpre, hx⟩))⟩

end

theorem forall₂_and_right {α β : Type} {R : α → β → Prop} {p : β → Prop} {xs : List α} {ys : List β} :
    List.Forall₂ (fun x y => R x y ∧ p y) xs ys ↔ List.Forall₂ R xs ys ∧ ∀ y ∈ ys, p y := by
  constructor
  · intro h
    induction h with
    | nil => exact ⟨.nil, fun y hy => by cases hy⟩
    | cons h _ ih => exact ⟨.cons h.1 ih.1, List.forall_mem_cons.2 ⟨h.2, ih.2⟩⟩
  · rintro ⟨h, hp⟩
    induction h with
    | nil => exact .nil
    | cons h _ ih =>
      obtain ⟨hy, hys⟩ := List.forall_mem_cons.1 hp
      exact .cons ⟨h, hy⟩ (ih hys)

theorem forall_left {α β : Type} {p : α → Prop} {xs : List α} {ys : List β}
    (h : List.Forall₂ (fun x _ => p x) xs ys) : ∀ x ∈ xs, p x := by
  induction h with
  | nil =>
    intro x hx
    cases hx
  | cons h _ ih => exact List.forall_mem_cons.2 ⟨h, ih⟩

/-- the value of an expression, if it is fit as a key -/
def Expr.key (e : Expr) : Except Refusal Value := e.value >>= asKey

def keyedEntry (p : Expr × Expr) : Except Refusal (Value × Value) :=
  p.1.value >>= fun v => p.2.value >>= fun w => asKey v >>= fun k => .ok (k, w)

theorem values_eq_mapM (es : List Expr) : Expr.values es = es.mapM Expr.value := by
  induction es with
  | nil => rfl
  | cons e es ih => rw [Expr.values, List.mapM_cons, ih]

theorem elements_eq_mapM (acc : List Value) (es : List Expr) :
    Expr.elements acc es =
      (es.mapM Expr.key).map (List.foldl (fun acc x => Value.insert x acc) acc) := by
  induction es generalizing acc with
  | nil => rfl
  | cons e es ih =>
    rw [Expr.elements, List.mapM_cons, Expr.key]
    cases e.value with
    | error err => rfl
    | ok v =>
      show (asKey v >>= fun v => Expr.elements (Value.insert v acc) es) = Except.map _ (asKey v >>= _)
      cases asKey v with
      | error err => rfl
      | ok v =>
        show Expr.elements (Value.insert v acc) es = Except.map _ (List.mapM Expr.key es >>= _)
        rw [ih]
        cases List.mapM Expr.key es <;> rfl

theorem entries_eq_mapM (acc : List (Value × Value)) (es : List (Expr × Expr)) :
    Expr.entries acc es = (es.mapM keyedEntry).map (Value.putAll acc) := by
  induction es generalizing acc with
  | nil => rfl
  | cons e es ih =>
    obtain ⟨a, b⟩ := e
    rw [Expr.entries, List.mapM_cons, keyedEntry, Expr.entry]
    cases a.value with
    | error err => rfl
    | ok v =>
      cases b.value with
      | error err => rfl
      | ok w =>
        show (asKey v >>= fun k => Expr.entries (Value.put k w acc) es) =
          Except.map _ ((asKey v >>= fun k => .ok (k, w)) >>= _)
        cases asKey v with
        | error err => rfl
        | ok k =>
          show Expr.entries (Value.put k w acc) es = Except.map _ (List.mapM keyedEntry es >>= _)
          rw [ih]
          cases List.mapM keyedEntry es <;> rfl

theorem asKey_eq_ok {v w : Value} : asKey v = .ok w ↔ v = w ∧ v.unhashable? = none := by
  unfold asKey
  cases v.unhashable? with
  | none => exact ⟨fun h => ⟨Except.ok.inj h, rfl⟩, fun h => congrArg _ h.1⟩
  | some k => exact ⟨fun h => (by cases h), fun h => (by cases h.2)⟩

theorem asKey_eq_error {v : Value} {err : Refusal} :
    asKey v = .error err ↔ ∃ k, v.unhashable? = some k ∧ err = .unhashable k := by
  unfold asKey
  cases v.unhashable? with
  | none =>
    constructor
    · intro h
      cases h
    · rintro ⟨k, h, -⟩
      cases h
  | some k =>
    constructor
    · intro h
      exact ⟨k, rfl, (Except.error.inj h).symm⟩
    · rintro ⟨k', h, rfl⟩
      rw [Option.some.inj h]

theorem key_eq_ok {e : Expr} {v : Value} : e.key = .ok v ↔ e.value = .ok v ∧ v.unhashable? = none := by
  rw [Expr.key, bind_eq_ok]
  constructor
  · rintro ⟨w, hw, h⟩
    obtain ⟨rfl, hkey⟩ := asKey_eq_ok.1 h
    exact ⟨hw, hkey⟩
  · rintro ⟨hv, hkey⟩
    exact ⟨v, hv, asKey_eq_ok.2 ⟨rfl, hkey⟩⟩

theorem key_eq_error {e : Expr} {err : Refusal} : e.key = .error err ↔
    e.value = .error err ∨ ∃ v k, e.value = .ok v ∧ v.unhashable? = some k ∧ err = .unhashable k := by
  rw [Expr.key, bind_eq_error]
  simp only [asKey_eq_error, exists_and_left]

theorem keyedEntry_eq_ok {p : Expr × Expr} {q : Value × Value} : keyedEntry p = .ok q ↔
    (p.1.value = .ok q.1 ∧ p.2.value = .ok q.2) ∧ q.1.unhashable? = none := by
  simp only [keyedEntry, bind_eq_ok, asKey_eq_ok]
  constructor
  · rintro ⟨v, hv, w, hw, k, ⟨rfl, hkey⟩, h⟩
    cases h
    exact ⟨⟨hv, hw⟩, hkey⟩
  · rintro ⟨⟨hv, hw⟩, hkey⟩
    exact ⟨q.1, hv, q.2, hw, q.1, ⟨rfl, hkey⟩, rfl⟩

theorem keyedEntry_eq_error {p : Expr × Expr} {err : Refusal} : keyedEntry p = .error err ↔
    p.1.value = .error err ∨ (∃ v, p.1.value = .ok v ∧ p.2.value = .error err) ∨
      ∃ v w k, p.1.value = .ok v ∧ p.2.value = .ok w ∧ v.unhashable? = some k ∧ err = .unhashable k := by
  simp only [keyedEntry, bind_eq_error, asKey_eq_error]
  constructor
  · rintro (h | ⟨v, hv, h | ⟨w, hw, ⟨k, hk⟩ | ⟨k, -, h⟩⟩⟩)
    · exact .inl h
    · exact .inr (.inl ⟨v, hv, h⟩)
    · exact .inr (.inr ⟨v, w, k, hv, hw, hk⟩)
    · cases h
  · rintro (h | ⟨v, hv, h⟩ | ⟨v, w, k, hv, hw, hk⟩)
    · exact .inl h
    · exact .inr ⟨v, hv, .inl h⟩
    · exact .inr ⟨v, hv, .inr ⟨w, hw, .inl ⟨k, hk⟩⟩⟩

theorem keys_eq_ok {es : List Expr} {vs : List Value} : es.mapM Expr.key = .ok vs ↔
    List.Forall₂ (fun e v => e.value = .ok v) es vs ∧ ∀ v ∈ vs, v.unhashable? = none := by
  simp only [mapM_eq_ok, key_eq_ok, forall₂_and_right]

theorem keyedEntries_eq_ok {es : List (Expr × Expr)} {vs : List (Value × Value)} :
    es.mapM keyedEntry = .ok vs ↔
      List.Forall₂ (fun e v => e.1.value = .ok v.1 ∧ e.2.value = .ok v.2) es vs ∧
        ∀ v ∈ vs, v.1.unhashable? = none := by
  simp only [mapM_eq_ok, keyedEntry_eq_ok, forall₂_and_right]

/-! ## evaluation is what `Denotes` and `Breaks` say -/

theorem sumValue_eq_ok {minus : Bool} {l r : Option Value} {v : Value}
    (h : sumValue minus l r = .ok v) : ∃ a b, r = some (.complex a b) ∧
      ((∃ i x, l = some (.int i) ∧ Number.ofInt? i = some x ∧ v = addComplex minus x a b) ∨
        ∃ x, l = some (.float x) ∧ v = addComplex minus x a b) := by
  unfold sumValue at h
  split at h
  · split at h
    · rename_i hx
      cases h
      exact ⟨_, _, rfl, .inl ⟨_, _, rfl, hx, rfl⟩⟩
    · cases h
  · cases h
    exact ⟨_, _, rfl, .inr ⟨_, rfl, rfl⟩⟩
  · cases h

theorem sumValue_eq_error {minus : Bool} {l r : Option Value} {err : Refusal}
    (h : sumValue minus l r = .error err) : err = .malformed ∨ err = .tooLarge ∧
      ∃ i a b, l = some (.int i) ∧ Number.ofInt? i = none ∧ r = some (.complex a b) := by
  unfold sumValue at h
  split at h
  · split at h
    · cases h
    · rename_i hx
      cases h
      exact .inr ⟨rfl, _, _, _, rfl, hx, rfl⟩
  · cases h
  · cases h
    exact .inl rfl

theorem value_of_denotes {e : Expr} {v : Value} (h : Denotes e v) : e.value = .ok v := by
  induction h with
  | constant | word => rfl
  | tuple hlength _ ih | list hlength _ ih =>
    have hall := mapM_eq_ok.2 (List.forall₂_iff_zip.2 ⟨hlength, ih⟩)
    rw [Expr.value, values_eq_mapM, hall]
    rfl
  | set hlength _ hkeys ih =>
    have hall := keys_eq_ok.2 ⟨List.forall₂_iff_zip.2 ⟨hlength, ih⟩, hkeys⟩
    rw [Expr.value, elements_eq_mapM, hall]
    rfl
  | dict hlength _ _ hkeys ihk ihv =>
    have hall := keyedEntries_eq_ok.2 ⟨List.forall₂_iff_zip.2 ⟨hlength, fun h => ⟨ihk h, ihv h⟩⟩, hkeys⟩
    rw [Expr.value, entries_eq_mapM, hall]
    rfl
  | plus hv | minus hv => cases hv <;> rfl
  | whole hl hx =>
    rw [Expr.value, hl]
    simp only [Expr.number?, sumValue, hx]
  | real hl =>
    rw [Expr.value, hl]
    rfl

theorem denotes_of_value {e : Expr} {v : Value} (h : e.value = .ok v) : Denotes e v := by
  induction e using Expr.byParts generalizing v with
  | constant w =>
    cases h
    exact .constant
  | word s =>
    cases h
    exact .word
  | tuple es ih =>
    rw [Expr.value, values_eq_mapM] at h
    obtain ⟨vs, hvs, rfl⟩ := map_eq_ok.1 h
    obtain ⟨hlength, hall⟩ := List.forall₂_iff_zip.1 (mapM_eq_ok.1 hvs)
    exact .tuple hlength fun hm => ih _ (List.of_mem_zip hm).1 (hall hm)
  | list es ih =>
    rw [Expr.value, values_eq_mapM] at h
    obtain ⟨vs, hvs, rfl⟩ := map_eq_ok.1 h
    obtain ⟨hlength, hall⟩ := List.forall₂_iff_zip.1 (mapM_eq_ok.1 hvs)
    exact .list hlength fun hm => ih _ (List.of_mem_zip hm).1 (hall hm)
  | set es ih =>
    rw [Expr.value, elements_eq_mapM] at h
    obtain ⟨xs, hxs, rfl⟩ := map_eq_ok.1 h
    obtain ⟨vs, hvs, rfl⟩ := map_eq_ok.1 hxs
    obtain ⟨hgives, hkeys⟩ := keys_eq_ok.1 hvs
    obtain ⟨hlength, hall⟩ := List.forall₂_iff_zip.1 hgives
    exact .set hlength (fun hm => ih _ (List.of_mem_zip hm).1 (hall hm)) hkeys
  | dict es ih =>
    rw [Expr.value, entries_eq_mapM] at h
    obtain ⟨xs, hxs, rfl⟩ := map_eq_ok.1 h
    obtain ⟨vs, hvs, rfl⟩ := map_eq_ok.1 hxs
    obtain ⟨hgives, hkeys⟩ := keyedEntries_eq_ok.1 hvs
    obtain ⟨hlength, hall⟩ := List.forall₂_iff_zip.1 hgives
    exact .dict hlength (fun hm => (ih _ (List.of_mem_zip hm).1).1 (hall hm).1)
      (fun hm => (ih _ (List.of_mem_zip hm).1).2 (hall hm).2) hkeys
  | signed negative e =>
    rw [Expr.value] at h
    split at h
    · rename_i w hw
      cases h
      obtain ⟨x, hx, rfl⟩ := Option.map_eq_some_iff.1 hw
      obtain ⟨rfl, hsign⟩ := number_eq_some_iff.1 hx
      cases negative with
      | false => exact .plus hsign
      | true => exact .minus hsign
    · cases h
  | sum minus l r =>
    rw [Expr.value] at h
    obtain ⟨a, b, hr, ⟨i, x, hl, hx, rfl⟩ | ⟨x, hl, rfl⟩⟩ := sumValue_eq_ok h
    · obtain ⟨rfl, -⟩ := number_eq_some_iff.1 hr
      exact .whole hl hx
    · obtain ⟨rfl, -⟩ := number_eq_some_iff.1 hr
      exact .real hl
  | operation => cases h
  | compound => cases h

theorem value_eq_ok_iff {e : Expr} {v : Value} : e.value = .ok v ↔ Denotes e v :=
  ⟨denotes_of_value, value_of_denotes⟩

/-- the error that a refusal is reported as; an expression that is no literal is no error -/
def Refusal.error? : Refusal → Option Error
  | .malformed => none
  | .unhashable k => some (.unhashable k)
  | .tooLarge => some .intTooLarge

theorem map_eq_error {α β : Type} {x : Except Refusal α} {f : α → β} {err : Refusal} :
    x.map f = .error err ↔ x = .error err := by
  cases x with
  | error e => exact ⟨fun h => congrArg _ (Except.error.inj h), fun h => congrArg _ (Except.error.inj h)⟩
  | ok a => exact ⟨fun h => (by cases h), fun h => (by cases h)⟩

theorem values_eq_error {es : List Expr} {ref : Refusal} : Expr.values es = .error ref ↔
    ∃ pre e post vs, es = pre ++ e :: post ∧ DenoteAll pre vs ∧ e.value = .error ref := by
  simp only [values_eq_mapM, mapM_eq_error, value_eq_ok_iff]

theorem elements_eq_error {es : List Expr} {ref : Refusal} : Expr.elements [] es = .error ref ↔
    ∃ pre e post vs, es = pre ++ e :: post ∧ DenoteAll pre vs ∧ (∀ v ∈ vs, v.unhashable? = none) ∧
      (e.value = .error ref ∨ ∃ v k, Denotes e v ∧ v.unhashable? = some k ∧ ref = .unhashable k) := by
  simp only [elements_eq_mapM, map_eq_error, mapM_eq_error, key_eq_ok, key_eq_error, forall₂_and_right,
    value_eq_ok_iff, and_assoc]

/-- in a dictionary the key comes first, then the value, and then the test of the key -/
theorem entries_eq_error {es : List (Expr × Expr)} {ref : Refusal} : Expr.entries [] es = .error ref ↔
    ∃ pre e post vs, es = pre ++ e :: post ∧ DenoteEntries pre vs ∧ (∀ v ∈ vs, v.1.unhashable? = none) ∧
      (e.1.value = .error ref ∨ (∃ v, Denotes e.1 v ∧ e.2.value = .error ref) ∨
        ∃ v w k, Denotes e.1 v ∧ Denotes e.2 w ∧ v.unhashable? = some k ∧ ref = .unhashable k) := by
  simp only [entries_eq_mapM, map_eq_error, mapM_eq_error, keyedEntry_eq_ok, keyedEntry_eq_error,
    forall₂_and_right]
  simp only [value_eq_ok_iff, and_assoc]

theorem value_of_breaks {e : Expr} {err : Error} (h : Breaks e err) :
    ∃ ref, e.value = .error ref ∧ ref.error? = some err := by
  induction h with
  | sum hl hi =>
    refine ⟨.tooLarge, ?_, rfl⟩
    rw [Expr.value, hl]
    simp only [Expr.number?, sumValue, hi]
  | tuple hpre _ ih | list hpre _ ih =>
    obtain ⟨ref, href, herr⟩ := ih
    refine ⟨ref, ?_, herr⟩
    rw [Expr.value, map_eq_error, values_eq_error]
    exact ⟨_, _, _, _, rfl, hpre, href⟩
  | set hpre hkeys _ ih =>
    obtain ⟨ref, href, herr⟩ := ih
    refine ⟨ref, ?_, herr⟩
    rw [Expr.value, map_eq_error, elements_eq_error]
    exact ⟨_, _, _, _, rfl, hpre, hkeys, .inl href⟩
  | element hpre hkeys he hk =>
    refine ⟨.unhashable _, ?_, rfl⟩
    rw [Expr.value, map_eq_error, elements_eq_error]
    exact ⟨_, _, _, _, rfl, hpre, hkeys, .inr ⟨_, _, he, hk, rfl⟩⟩
  | inKey hpre hkeys _ ih =>
    obtain ⟨ref, href, herr⟩ := ih
    refine ⟨ref, ?_, herr⟩
    rw [Expr.value, map_eq_error, entries_eq_error]
    exact ⟨_, _, _, _, rfl, hpre, hkeys, .inl href⟩
  | inValue hpre hkeys ha _ ih =>
    obtain ⟨ref, href, herr⟩ := ih
    refine ⟨ref, ?_, herr⟩
    rw [Expr.value, map_eq_error, entries_eq_error]
    exact ⟨_, _, _, _, rfl, hpre, hkeys, .inr (.inl ⟨_, ha, href⟩)⟩
  | key hpre hkeys ha hb hk =>
    refine ⟨.unhashable _, ?_, rfl⟩
    rw [Expr.value, map_eq_error, entries_eq_error]
    exact ⟨_, _, _, _, rfl, hpre, hkeys, .inr (.inr ⟨_, _, _, ha, hb, hk, rfl⟩)⟩

theorem breaks_of_value {e : Expr} {ref : Refusal} {err : Error} (h : e.value = .error ref)
    (herr : ref.error? = some err) : Breaks e err := by
  induction e using Expr.byParts generalizing ref err with
  | constant | word => cases h
  | tuple es ih =>
    rw [Expr.value, map_eq_error, values_eq_error] at h
    obtain ⟨pre, e, post, vs, rfl, hpre, he⟩ := h
    exact .tuple hpre (ih e (List.mem_append_right _ List.mem_cons_self) he herr)
  | list es ih =>
    rw [Expr.value, map_eq_error, values_eq_error] at h
    obtain ⟨pre, e, post, vs, rfl, hpre, he⟩ := h
    exact .list hpre (ih e (List.mem_append_right _ List.mem_cons_self) he herr)
  | set es ih =>
    rw [Expr.value, map_eq_error, elements_eq_error] at h
    obtain ⟨pre, e, post, vs, rfl, hpre, hkeys, he | ⟨v, k, he, hk, rfl⟩⟩ := h
    · exact .set hpre hkeys (ih e (List.mem_append_right _ List.mem_cons_self) he herr)
    · cases herr
      exact .element hpre hkeys he hk
  | dict es ih =>
    rw [Expr.value, map_eq_error, entries_eq_error] at h
    obtain ⟨pre, ⟨a, b⟩, post, vs, rfl, hpre, hkeys, hentry⟩ := h
    obtain ⟨iha, ihb⟩ := ih (a, b) (List.mem_append_right _ List.mem_cons_self)
    rcases hentry with ha | ⟨v, ha, hb⟩ | ⟨v, w, k, ha, hb, hk, rfl⟩
    · exact .inKey hpre hkeys (iha ha herr)
    · exact .inValue hpre hkeys ha (ihb hb herr)
    · cases herr
      exact .key hpre hkeys ha hb hk
  | signed negative e =>
    rw [Expr.value] at h
    split at h
    · cases h
    · cases h
      cases herr
  | sum minus l r =>
    rw [Expr.value] at h
    rcases sumValue_eq_error h with rfl | ⟨rfl, i, a, b, hl, hi, hr⟩
    · cases herr
    · cases herr
      obtain ⟨rfl, -⟩ := number_eq_some_iff.1 hr
      exact .sum hl hi
  | operation | compound =>
    cases h
    cases herr

theorem value_eq_error_iff {e : Expr} {err : Error} :
    (∃ ref, e.value = .error ref ∧ ref.error? = some err) ↔ Breaks e err :=
  ⟨fun ⟨_, h, herr⟩ => breaks_of_value h herr, value_of_breaks⟩

theorem clean_of_number {e : Expr} {v : Value} (h : e.number? = some v) : e.Clean := by
  obtain ⟨rfl, -⟩ := number_eq_some_iff.1 h
  exact .constant

theorem clean_of_signedNumber {e : Expr} {v : Value} (h : e.signedNumber? = some v) : e.Clean := by
  unfold Expr.signedNumber? at h
  split at h
  · obtain ⟨w, hw, -⟩ := Option.map_eq_some_iff.1 h
    exact .signed (clean_of_number hw)
  · exact clean_of_number h

theorem Denotes.clean {e : Expr} {v : Value} (h : Denotes e v) : e.Clean := by
  induction h with
  | constant => exact .constant
  | word => exact .word
  | tuple hlength _ ih => exact .tuple (forall_left (List.forall₂_iff_zip.2 ⟨hlength, ih⟩))
  | list hlength _ ih => exact .list (forall_left (List.forall₂_iff_zip.2 ⟨hlength, ih⟩))
  | set hlength _ _ ih => exact .set (forall_left (List.forall₂_iff_zip.2 ⟨hlength, ih⟩))
  | dict hlength _ _ _ ihk ihv =>
    exact .dict (forall_left (List.forall₂_iff_zip.2 ⟨hlength, ihk⟩))
      (forall_left (List.forall₂_iff_zip.2 ⟨hlength, ihv⟩))
  | plus | minus => exact .signed .constant
  | whole hl | real hl => exact .sum (clean_of_signedNumber hl) .constant

/-! ## texts -/

/-- the text spells a literal with this value -/
def IsLiteral (s : String) (v : Value) : Prop :=
  '\x00' ∉ s.toList ∧ ∃ ts e, scan? s.toList = some ts ∧ Sentence e ts ∧ e.isOperation = false ∧
    Denotes e v

/-- the text is an expression whose evaluation fails -/
def Trips (s : String) (err : Error) : Prop :=
  '\x00' ∉ s.toList ∧ ∃ e, parse? s.toList = some e ∧ e.isOperation = false ∧ Breaks e err

theorem valueOf_eq_iff {cs : List Char} {res : Except Refusal Value} (hres : res ≠ .error .malformed) :
    valueOf cs = res ↔ ∃ e, parse? cs = some e ∧ e.isOperation = false ∧ e.value = res := by
  unfold valueOf
  cases parse? cs with
  | none =>
    constructor
    · intro h
      exact absurd h.symm hres
    · rintro ⟨e, h, -⟩
      cases h
  | some e =>
    have hexists : (∃ e', some e = some e' ∧ e'.isOperation = false ∧ e'.value = res) ↔
        e.isOperation = false ∧ e.value = res := by
      simp only [Option.some.injEq, exists_eq_left']
    rw [hexists]
    show (if e.isOperation = true then Except.error Refusal.malformed else e.value) = res ↔ _
    cases e.isOperation with
    | true =>
      rw [if_pos rfl]
      exact ⟨fun h => absurd h.symm hres, fun h => by cases h.1⟩
    | false =>
      rw [if_neg Bool.false_ne_true]
      exact ⟨fun h => ⟨rfl, h⟩, fun h => h.2⟩

theorem isLiteral_iff {s : String} {v : Value} :
    IsLiteral s v ↔ '\x00' ∉ s.toList ∧ valueOf s.toList = .ok v := by
  rw [valueOf_eq_iff (by simp)]
  constructor
  · rintro ⟨hzero, ts, e, hts, hsentence, hop, hv⟩
    exact ⟨hzero, e, (parse_eq_some_iff hv.clean).2 ⟨ts, hts, hsentence⟩, hop, value_eq_ok_iff.2 hv⟩
  · rintro ⟨hzero, e, hparse, hop, hv⟩
    have hdenotes := value_eq_ok_iff.1 hv
    obtain ⟨ts, hts, hsentence⟩ := (parse_eq_some_iff hdenotes.clean).1 hparse
    exact ⟨hzero, ts, e, hts, hsentence, hop, hdenotes⟩

theorem trips_iff {s : String} {err : Error} : Trips s err ↔
    '\x00' ∉ s.toList ∧ ∃ ref, valueOf s.toList = .error ref ∧ ref.error? = some err := by
  have hne : ∀ {ref : Refusal}, ref.error? = some err →
      (.error ref : Except Refusal Value) ≠ .error .malformed := by
    rintro ref herr heq
    rw [Except.error.inj heq] at herr
    cases herr
  constructor
  · rintro ⟨hzero, e, hparse, hop, hbreaks⟩
    obtain ⟨ref, href, herr⟩ := value_eq_error_iff.2 hbreaks
    exact ⟨hzero, ref, (valueOf_eq_iff (hne herr)).2 ⟨e, hparse, hop, href⟩, herr⟩
  · rintro ⟨hzero, ref, hvalue, herr⟩
    obtain ⟨e, hparse, hop, href⟩ := (valueOf_eq_iff (hne herr)).1 hvalue
    exact ⟨hzero, e, hparse, hop, value_eq_error_iff.1 ⟨ref, href, herr⟩⟩

/-! ## the reader -/

/-- what the reader makes of a refusal: an error, or the argument as it was given -/
theorem readChars_of_refusal {given : Value} {cs : List Char} {ref : Refusal}
    (h : valueOf cs = .error ref) :
    readChars given cs = ref.error?.elim (.ok given) .error := by
  unfold readChars
  rw [h]
  cases ref <;> rfl

theorem readText_of_zero {s : String} (h : '\x00' ∈ s.toList) : readText s = .ok (.text s) :=
  if_pos (List.contains_iff_mem.2 h)

theorem readText_of_value {s : String} {v : Value} (hzero : '\x00' ∉ s.toList)
    (h : valueOf s.toList = .ok v) : readText s = .ok v := by
  have hread : readText s = readChars (.text s) s.toList :=
    if_neg fun hc => hzero (List.contains_iff_mem.1 hc)
  rw [hread, readChars, h]

theorem readText_of_refusal {s : String} {ref : Refusal} (hzero : '\x00' ∉ s.toList)
    (h : valueOf s.toList = .error ref) : readText s = ref.error?.elim (.ok (.text s)) .error := by
  have hread : readText s = readChars (.text s) s.toList :=
    if_neg fun hc => hzero (List.contains_iff_mem.1 hc)
  rw [hread, readChars_of_refusal h]

/-- reading fails on the expressions that break, and on nothing else -/
theorem readText_eq_error_iff {s : String} {err : Error} : readText s = .error err ↔ Trips s err := by
  rw [trips_iff]
  constructor
  · intro h
    have hzero : '\x00' ∉ s.toList := by
      intro hm
      rw [readText_of_zero hm] at h
      cases h
    cases hvalue : valueOf s.toList with
    | ok v =>
      rw [readText_of_value hzero hvalue] at h
      cases h
    | error ref =>
      rw [readText_of_refusal hzero hvalue] at h
      cases herr : ref.error? with
      | none =>
        rw [herr] at h
        cases h
      | some err' =>
        rw [herr] at h
        cases h
        exact ⟨hzero, ref, rfl, herr⟩
  · rintro ⟨hzero, ref, hvalue, herr⟩
    rw [readText_of_refusal hzero hvalue, herr]
    rfl

/-- An argument in which no escape names half of a surrogate pair is read as its value if it spells a
literal.  Reading fails exactly on an expression that breaks, with its error, and any other text
stands for itself. -/
theorem readText_three_ways (s : String) (_hs : namesSurrogate s = false) :
    (∀ v, IsLiteral s v → readText s = .ok v) ∧
    (∀ err, readText s = .error err ↔ Trips s err) ∧
    ((∀ v, ¬ IsLiteral s v) → (∀ err, ¬ Trips s err) → readText s = .ok (.text s)) := by
  refine ⟨?_, ?_, ?_⟩
  · intro v hv
    obtain ⟨hzero, hvalue⟩ := isLiteral_iff.1 hv
    exact readText_of_value hzero hvalue
  · exact fun err => readText_eq_error_iff
  · intro hnone hwhole
    by_cases hzero : '\x00' ∈ s.toList
    · exact readText_of_zero hzero
    · cases hvalue : valueOf s.toList with
      | ok v => exact absurd (isLiteral_iff.2 ⟨hzero, hvalue⟩) (hnone v)
      | error ref =>
        rw [readText_of_refusal hzero hvalue]
        cases herr : ref.error? with
        | none => rfl
        | some err => exact absurd (trips_iff.2 ⟨hzero, ref, hvalue, herr⟩) (hwhole err)

/-- a list of a word and a number, a set with a list in it, and two words in a row -/
theorem readText_three_ways_samples :
    readText "[a, 1]" = .ok (.list [.text "a", .int 1]) ∧
    readText "\x7b[]\x7d" = .error (.unhashable "list") ∧
    readText "a b" = .ok (.text "a b") := by
  have hword : Spells (.whole (.word "a")) (.word ['a'] ['a'] :: mark "," :: [.number (.whole 1), mark "]"])
      (mark "," :: [.number (.whole 1), mark "]"]) :=
    .whole (.plain (.word (f := ['a']) (by decide) (by decide))) .done
  have hnumber : Spells (.items "]" [.constant (.int 1)]) [.number (.whole 1), mark "]"] [] :=
    .last (by decide) (.whole (.plain .number) .done)
  have hlist : IsLiteral "[a, 1]" (.list [.text "a", .int 1]) := by
    refine ⟨by decide, _, _, rfl, .one (.whole (.plain (.list (.comma hword hnumber))) .done) rfl, rfl, ?_⟩
    exact value_eq_ok_iff.1 rfl
  have hset : Trips "\x7b[]\x7d" (.unhashable "list") := by
    have hnil : DenoteAll [] [] := .nil
    have hempty : Denotes (.list []) (.list []) := value_eq_ok_iff.1 rfl
    exact ⟨by decide, .set [.list []], rfl, rfl, .element hnil (fun v hv => by cases hv) hempty rfl⟩
  have hnone : parse? "a b".toList = none := rfl
  refine ⟨(readText_three_ways _ (by decide)).1 _ hlist,
    ((readText_three_ways _ (by decide)).2.1 _).2 hset, (readText_three_ways _ (by decide)).2.2 ?_ ?_⟩
  · intro v hv
    obtain ⟨e, hparse, -⟩ := (valueOf_eq_iff (by simp)).1 (isLiteral_iff.1 hv).2
    rw [hnone] at hparse
    cases hparse
  · rintro err ⟨-, e, hparse, -⟩
    rw [hnone] at hparse
    cases hparse

end CommandLine.Literal
