import CommandLine.Proofs.Denotation
import CommandLine.Proofs.SlotOrder
import CommandLine.Proofs.WrittenTokens

/-!
# Written data is read back

`Value.IsData n v`: the value is built from nothing, truth values, whole numbers and texts by lists,
tuples, sets and dictionaries, at most `n` deep.  `Value.Spelled v t`: the text `t` is the written form
of `v`, where some of its texts that are plain words may stand without quotes.  Reading such a text
gives the value back (`readText_spelled`), with the elements of a set in the order of its table
(`Value.Alike`).

The value is followed by induction on the data: its text is legible as an expression, and the expression
denotes a value that is alike.  Elements of sets and keys are fit as keys, so they come back as they were
(`Value.Alike.eq_of_hashable`), and no two of them fall together (`distinct_of_pairwise`,
`putAll_of_pairwise`).
-/

namespace CommandLine

/-! ## data -/

/-- data, at most `n` deep -/
inductive Value.IsData : Nat → Value → Prop where
  | null {n} : IsData n .null
  | bool {n b} : IsData n (.bool b)
  | int {n i} : (Nat.toDigits 10 (Int.natAbs i)).length ≤ Number.maxDigits → IsData n (.int i)
  | text {n s} : IsData n (.text s)
  | list {n xs} : (∀ x ∈ xs, IsData n x) → IsData (n + 1) (.list xs)
  | tuple {n xs} : (∀ x ∈ xs, IsData n x) → IsData (n + 1) (.tuple xs)
  | set {n xs} : xs ≠ [] → (∀ x ∈ xs, IsData n x) → (∀ x ∈ xs, x.unhashable? = none) →
      xs.Pairwise (fun x y => x.eqv y = false) → IsData (n + 1) (.set xs)
  | dict {n es} : (∀ e ∈ es, IsData n e.1) → (∀ e ∈ es, IsData n e.2) →
      (∀ e ∈ es, e.1.unhashable? = none) → es.Pairwise (fun e f => e.1.eqv f.1 = false) →
      IsData (n + 1) (.dict es)

/-- the text is a written form of the value; words in it may stand without quotes -/
inductive Value.Spelled : Value → String → Prop where
  | null : Spelled .null "None"
  | yes : Spelled (.bool true) "True"
  | no : Spelled (.bool false) "False"
  | int {i} : Spelled (.int i) (Number.intText i)
  | quoted {s} : Spelled (.text s) (Text.quoted s)
  | bare {s} : Literal.IsPlainWord s → s.toList ∉ Literal.keywords → Spelled (.text s) s
  | list {xs ts} : xs.length = ts.length → (∀ {x t}, (x, t) ∈ xs.zip ts → Spelled x t) →
      Spelled (.list xs) (bracketed "[" "]" ts)
  | tuple {xs ts} : xs.length = ts.length → (∀ {x t}, (x, t) ∈ xs.zip ts → Spelled x t) →
      Spelled (.tuple xs) (tupleText ts)
  | set {xs ts} : xs.length = ts.length → (∀ {x t}, (x, t) ∈ xs.zip ts → Spelled x t) →
      Spelled (.set xs) (bracketed "\x7b" "\x7d" ts)
  | dict {es} {ts : List (String × String)} : es.length = ts.length →
      (∀ {e t}, (e, t) ∈ es.zip ts → Spelled e.1 t.1) →
      (∀ {e t}, (e, t) ∈ es.zip ts → Spelled e.2 t.2) →
      Spelled (.dict es) (bracketed "\x7b" "\x7d" (ts.map fun t => t.1 ++ ": " ++ t.2))

/-- the same value, up to the order of elements in the sets inside -/
inductive Value.Alike : Value → Value → Prop where
  | same {v} : Alike v v
  | list {xs ys} : xs.length = ys.length → (∀ {x y}, (x, y) ∈ xs.zip ys → Alike x y) →
      Alike (.list xs) (.list ys)
  | tuple {xs ys} : xs.length = ys.length → (∀ {x y}, (x, y) ∈ xs.zip ys → Alike x y) →
      Alike (.tuple xs) (.tuple ys)
  | set {xs ys} : xs.Perm ys → Alike (.set xs) (.set ys)
  | dict {es fs} : es.length = fs.length → (∀ {e f}, (e, f) ∈ es.zip fs → e.1 = f.1) →
      (∀ {e f}, (e, f) ∈ es.zip fs → Alike e.2 f.2) → Alike (.dict es) (.dict fs)

section
variable {xs : List Value} {es : List (Value × Value)} {r : Value}

theorem alike_list : Value.Alike (.list xs) r ↔ ∃ ys, r = .list ys ∧ List.Forall₂ Value.Alike xs ys := by
  constructor
  · intro h
    cases h with
    | same => exact ⟨xs, rfl, List.forall₂_same.2 fun _ _ => .same⟩
    | list hlength hall => exact ⟨_, rfl, List.forall₂_iff_zip.2 ⟨hlength, hall⟩⟩
  · rintro ⟨ys, rfl, h⟩
    exact .list h.length_eq (List.forall₂_iff_zip.1 h).2

theorem alike_tuple :
    Value.Alike (.tuple xs) r ↔ ∃ ys, r = .tuple ys ∧ List.Forall₂ Value.Alike xs ys := by
  constructor
  · intro h
    cases h with
    | same => exact ⟨xs, rfl, List.forall₂_same.2 fun _ _ => .same⟩
    | tuple hlength hall => exact ⟨_, rfl, List.forall₂_iff_zip.2 ⟨hlength, hall⟩⟩
  · rintro ⟨ys, rfl, h⟩
    exact .tuple h.length_eq (List.forall₂_iff_zip.1 h).2

theorem alike_set : Value.Alike (.set xs) r ↔ ∃ ys, r = .set ys ∧ xs.Perm ys := by
  constructor
  · intro h
    cases h with
    | same => exact ⟨xs, rfl, .refl xs⟩
    | set hperm => exact ⟨_, rfl, hperm⟩
  · rintro ⟨ys, rfl, h⟩
    exact .set h

theorem alike_dict : Value.Alike (.dict es) r ↔
    ∃ fs, r = .dict fs ∧ List.Forall₂ (fun e f => e.1 = f.1 ∧ e.2.Alike f.2) es fs := by
  constructor
  · intro h
    cases h with
    | same => exact ⟨es, rfl, List.forall₂_same.2 fun _ _ => ⟨rfl, .same⟩⟩
    | dict hlength hkeys hvalues =>
      exact ⟨_, rfl, List.forall₂_iff_zip.2 ⟨hlength, fun hm => ⟨hkeys hm, hvalues hm⟩⟩⟩
  · rintro ⟨fs, rfl, h⟩
    obtain ⟨hlength, hall⟩ := List.forall₂_iff_zip.1 h
    exact .dict hlength (fun hm => (hall hm).1) (fun hm => (hall hm).2)

end

/-! ## equality -/

section
variable {α β : Type} {R S : α → β → Prop} {xs : List α} {ys : List β}

theorem forall₂_of_mem (h : ∀ x ∈ xs, ∀ y, R x y → S x y) (hr : List.Forall₂ R xs ys) :
    List.Forall₂ S xs ys :=
  ((List.forall₂_and_left xs ys).2 ⟨h, hr⟩).imp fun _ y hxy => hxy.1 y hxy.2

theorem exists_of_mem_left (h : List.Forall₂ R xs ys) : ∀ x ∈ xs, ∃ y ∈ ys, R x y := by
  intro x hx
  obtain ⟨i, hi, rfl⟩ := List.getElem_of_mem hx
  have hj : i < ys.length := h.length_eq ▸ hi
  exact ⟨ys[i], List.getElem_mem hj, h.get hi hj⟩

end

theorem eqvAll_of_forall₂ {xs ys : List Value} (h : List.Forall₂ (fun x y => x.eqv y = true) xs ys) :
    Value.eqvAll xs ys = true := by
  induction h with
  | nil => rw [Value.eqvAll]
  | cons hx _ ih =>
    rw [Value.eqvAll, hx, ih]
    rfl

theorem within_of_mem {xs ys : List Value} (h : ∀ x ∈ xs, ∃ y ∈ ys, x.eqv y = true) :
    Value.within xs ys = true := by
  induction xs with
  | nil => rw [Value.within]
  | cons x xs ih =>
    obtain ⟨hx, hxs⟩ := List.forall_mem_cons.1 h
    rw [Value.within, List.any_eq_true.2 hx, ih hxs]
    rfl

theorem entriesWithin_of_mem {es fs : List (Value × Value)}
    (h : ∀ e ∈ es, ∃ f ∈ fs, e.1.eqv f.1 = true ∧ e.2.eqv f.2 = true) :
    Value.entriesWithin es fs = true := by
  induction es with
  | nil => rw [Value.entriesWithin]
  | cons e es ih =>
    obtain ⟨⟨f, hf, hkey, hvalue⟩, hes⟩ := List.forall_mem_cons.1 h
    have hentry : Value.entryEqv e f = true := by
      obtain ⟨k, v⟩ := e
      obtain ⟨l, w⟩ := f
      rw [Value.entryEqv, hkey, hvalue]
      rfl
    rw [Value.entriesWithin, List.any_eq_true.2 ⟨f, hf, hentry⟩, ih hes]
    rfl

/-- data that are alike are equal: the order of elements is no part of a set -/
theorem Value.Alike.eqv {n : Nat} {v r : Value} (h : v.Alike r) (hv : v.IsData n) : v.eqv r = true := by
  induction hv generalizing r with
  | null =>
    cases h
    rw [Value.eqv]
  | bool =>
    cases h
    simp [Value.eqv, Value.asNumber, eqNumber]
  | int _ =>
    cases h
    simp [Value.eqv, Value.asNumber, eqNumber]
  | text =>
    cases h
    simp [Value.eqv]
  | list _ ih =>
    obtain ⟨ys, rfl, hys⟩ := alike_list.1 h
    rw [Value.eqv]
    exact eqvAll_of_forall₂ (forall₂_of_mem (fun x hx _ hxy => ih x hx hxy) hys)
  | tuple _ ih =>
    obtain ⟨ys, rfl, hys⟩ := alike_tuple.1 h
    rw [Value.eqv]
    exact eqvAll_of_forall₂ (forall₂_of_mem (fun x hx _ hxy => ih x hx hxy) hys)
  | set _ _ _ _ ih =>
    obtain ⟨ys, rfl, hperm⟩ := alike_set.1 h
    rw [Value.eqv, within_of_mem fun x hx => ⟨x, hperm.mem_iff.1 hx, ih x hx .same⟩, hperm.length_eq]
    simp
  | @dict n es _ _ _ _ ihkeys ihvalues =>
    obtain ⟨fs, rfl, hfs⟩ := alike_dict.1 h
    have hequal : List.Forall₂ (fun e f => e.1.eqv f.1 = true ∧ e.2.eqv f.2 = true) es fs :=
      forall₂_of_mem (R := fun e f => e.1 = f.1 ∧ e.2.Alike f.2)
        (fun e he f hef => ⟨hef.1 ▸ ihkeys e he .same, ihvalues e he hef.2⟩) hfs
    rw [Value.eqv, entriesWithin_of_mem (exists_of_mem_left hequal), hfs.length_eq]
    simp

/-! ## keys -/

theorem unhashable_of_mem {xs : List Value} (h : Value.unhashableIn xs = none) :
    ∀ x ∈ xs, x.unhashable? = none := by
  induction xs with
  | nil =>
    intro x hx
    cases hx
  | cons x xs ih =>
    rw [Value.unhashableIn] at h
    split at h
    · cases h
    · rename_i hx
      exact List.forall_mem_cons.2 ⟨hx, ih h⟩

/-- what is fit as a key has no sets inside, so it is itself -/
theorem Value.Alike.eq_of_hashable {v r : Value} (h : v.Alike r) (hv : v.unhashable? = none) : r = v := by
  induction h with
  | same => rfl
  | list | set | dict =>
    rw [Value.unhashable?] at hv
    cases hv
  | @tuple xs ys hlength _ ih =>
    rw [Value.unhashable?] at hv
    have hmem := unhashable_of_mem hv
    have hall : List.Forall₂ (· = ·) xs ys := List.forall₂_iff_zip.2 ⟨hlength, fun hm =>
      (ih hm (hmem _ (List.of_mem_zip hm).1)).symm⟩
    rw [List.forall₂_eq_eq_eq] at hall
    rw [hall]

theorem distinct_of_pairwise {acc xs : List Value} (h : (acc ++ xs).Pairwise fun x y => x.eqv y = false) :
    xs.foldl (fun acc x => Value.insert x acc) acc = acc ++ xs := by
  induction xs generalizing acc with
  | nil => exact (List.append_nil acc).symm
  | cons x xs ih =>
    have hnew : acc.any (·.eqv x) = false := by
      rw [List.any_eq_false]
      intro a ha
      have hcross := (List.pairwise_append.1 h).2.2 a ha x List.mem_cons_self
      rw [hcross]
      decide
    have hinsert : Value.insert x acc = acc ++ [x] := by
      rw [Value.insert, hnew]
      rfl
    have happend : acc ++ x :: xs = acc ++ [x] ++ xs := by rw [List.append_assoc]; rfl
    rw [List.foldl_cons, hinsert, happend, ih (happend ▸ h)]

theorem put_of_new {k v : Value} {es : List (Value × Value)} (h : ∀ e ∈ es, e.1.eqv k = false) :
    Value.put k v es = es ++ [(k, v)] := by
  induction es with
  | nil => rfl
  | cons e es ih =>
    obtain ⟨he, hes⟩ := List.forall_mem_cons.1 h
    obtain ⟨l, w⟩ := e
    rw [Value.put, if_neg (by rw [he]; decide), ih hes]
    rfl

theorem putAll_of_pairwise {acc es : List (Value × Value)}
    (h : (acc ++ es).Pairwise fun e f => e.1.eqv f.1 = false) : Value.putAll acc es = acc ++ es := by
  unfold Value.putAll
  induction es generalizing acc with
  | nil => exact (List.append_nil acc).symm
  | cons e es ih =>
    have hput : Value.put e.1 e.2 acc = acc ++ [e] :=
      put_of_new fun a ha => (List.pairwise_append.1 h).2.2 a ha e List.mem_cons_self
    have happend : acc ++ e :: es = acc ++ [e] ++ es := by rw [List.append_assoc]; rfl
    rw [List.foldl_cons, hput, happend, ih (happend ▸ h)]

/-! ## reading -/

namespace Literal

/-- the text is legible as an expression, which denotes the value -/
def ReadsAs (n : Nat) (v : Value) (t : String) : Prop :=
  ∃ e r, Legible n t.toList e ∧ e.isOperation = false ∧ Denotes e r ∧ v.Alike r

theorem readsAs_row {n : Nat} {xs : List Value} {texts : List String}
    (h : List.Forall₂ (ReadsAs n) xs texts) :
    ∃ es rs, List.Forall₂ (fun t e => Legible n t.toList e) texts es ∧ DenoteAll es rs ∧
      List.Forall₂ Value.Alike xs rs := by
  induction h with
  | nil => exact ⟨[], [], .nil, .nil, .nil⟩
  | cons hx _ ih =>
    obtain ⟨e, r, hlegible, -, hdenotes, halike⟩ := hx
    obtain ⟨es, rs, hes, hrs, hxs⟩ := ih
    exact ⟨e :: es, r :: rs, .cons hlegible hes, .cons hdenotes hrs, .cons halike hxs⟩

theorem readsAs_entries {n : Nat} {xs : List (Value × Value)} {texts : List (String × String)}
    (h : List.Forall₂ (fun x t => ReadsAs n x.1 t.1 ∧ ReadsAs n x.2 t.2) xs texts) :
    ∃ es rs, List.Forall₂ (fun t e => Legible n t.1.toList e.1 ∧ Legible n t.2.toList e.2) texts es ∧
      DenoteEntries es rs ∧ List.Forall₂ (fun x r => x.1.Alike r.1 ∧ x.2.Alike r.2) xs rs := by
  induction h with
  | nil => exact ⟨[], [], .nil, .nil, .nil⟩
  | cons hx _ ih =>
    obtain ⟨⟨k, a, hk, -, hka, halike⟩, e, b, he, -, heb, hblike⟩ := hx
    obtain ⟨es, rs, hes, hrs, hxs⟩ := ih
    exact ⟨(k, e) :: es, (a, b) :: rs, .cons ⟨hk, he⟩ hes, .cons ⟨hka, heb⟩ hrs,
      .cons ⟨halike, hblike⟩ hxs⟩

theorem readsAs_int (n : Nat) {i : Int} (h : (Nat.toDigits 10 i.natAbs).length ≤ Number.maxDigits) :
    ReadsAs n (.int i) (Number.intText i) := by
  have hlegible := Legible.int n h
  by_cases hi : i < 0
  · rw [if_pos hi] at hlegible
    have hvalue : negateNumber (.int i.natAbs) = .int i := by
      show Value.int (-(i.natAbs : Int)) = .int i
      congr 1
      omega
    exact ⟨_, _, hlegible, rfl, .minus .int, hvalue ▸ .same⟩
  · rw [if_neg hi] at hlegible
    have hvalue : (i.natAbs : Int) = i := by omega
    exact ⟨_, _, hlegible, rfl, .constant, hvalue ▸ .same⟩

theorem readsAs_set {n : Nat} {xs : List Value} {texts : List String} (hne : xs ≠ [])
    (hkeys : ∀ x ∈ xs, x.unhashable? = none) (hdistinct : xs.Pairwise fun x y => x.eqv y = false)
    (h : List.Forall₂ (ReadsAs n) xs texts) :
    ReadsAs (n + 1) (.set xs) (bracketed "\x7b" "\x7d" texts) := by
  obtain ⟨es, rs, hes, hrs, hxs⟩ := readsAs_row h
  have heq : List.Forall₂ (· = ·) xs rs :=
    forall₂_of_mem (fun x hx y hxy => (hxy.eq_of_hashable (hkeys x hx)).symm) hxs
  rw [List.forall₂_eq_eq_eq] at heq
  subst heq
  have hlength : es ≠ [] := by
    rintro rfl
    exact hne (List.forall₂_nil_left_iff.1 hrs)
  have horder : Value.distinct xs = [] ++ xs := distinct_of_pairwise hdistinct
  refine ⟨.set es, _, .set hes hlength, rfl, .set hrs.length_eq (List.forall₂_zip hrs) hkeys, .set ?_⟩
  rw [horder]
  exact (slotOrder_perm xs).symm

theorem readsAs_dict {n : Nat} {xs : List (Value × Value)} {texts : List (String × String)}
    (hkeys : ∀ x ∈ xs, x.1.unhashable? = none) (hdistinct : xs.Pairwise fun x y => x.1.eqv y.1 = false)
    (h : List.Forall₂ (fun x t => ReadsAs n x.1 t.1 ∧ ReadsAs n x.2 t.2) xs texts) :
    ReadsAs (n + 1) (.dict xs) (bracketed "\x7b" "\x7d" (texts.map fun t => t.1 ++ ": " ++ t.2)) := by
  obtain ⟨es, rs, hes, hrs, hxs⟩ := readsAs_entries h
  have hsame : List.Forall₂ (fun x r => x.1 = r.1 ∧ x.2.Alike r.2) xs rs :=
    forall₂_of_mem (fun x hx y hxy => ⟨(hxy.1.eq_of_hashable (hkeys x hx)).symm, hxy.2⟩) hxs
  have hfirst : xs.map Prod.fst = rs.map Prod.fst := by
    have hmap : List.Forall₂ (· = ·) (xs.map Prod.fst) (rs.map Prod.fst) :=
      List.forall₂_map_left_iff.2 (List.forall₂_map_right_iff.2 (hsame.imp fun _ _ hxy => hxy.1))
    rwa [List.forall₂_eq_eq_eq] at hmap
  have hfit : ∀ r ∈ rs, r.1.unhashable? = none := by
    have hall : ∀ k ∈ rs.map Prod.fst, k.unhashable? = none := hfirst ▸ List.forall_mem_map.2 hkeys
    exact List.forall_mem_map.1 hall
  have hpairs : (rs.map Prod.fst).Pairwise fun a b => a.eqv b = false :=
    hfirst ▸ List.pairwise_map.2 hdistinct
  have hput : Value.putAll [] rs = [] ++ rs := putAll_of_pairwise (List.pairwise_map.1 hpairs)
  obtain ⟨hlength, hzip⟩ := List.forall₂_iff_zip.1 hrs
  have hdenotes : Denotes (.dict es) (.dict (Value.putAll [] rs)) :=
    .dict hlength (fun hm => (hzip hm).1) (fun hm => (hzip hm).2) hfit
  rw [hput] at hdenotes
  exact ⟨.dict es, .dict rs, .dict hes, rfl, hdenotes, alike_dict.2 ⟨rs, rfl, hsame⟩⟩

/-- every spelling of data is legible, and denotes the data -/
theorem readsAs_spelled {n : Nat} {v : Value} (hv : v.IsData n) {t : String} (ht : v.Spelled t) :
    ReadsAs n v t := by
  induction hv generalizing t with
  | @null n =>
    cases ht
    exact ⟨_, _, .null n, rfl, .constant, .same⟩
  | @bool n b =>
    cases ht with
    | yes => exact ⟨_, _, .yes n, rfl, .constant, .same⟩
    | no => exact ⟨_, _, .no n, rfl, .constant, .same⟩
  | @int n i hi =>
    cases ht
    exact readsAs_int n hi
  | @text n s =>
    cases ht with
    | quoted => exact ⟨_, _, .quoted n s, rfl, .constant, .same⟩
    | bare hword hkeyword => exact ⟨_, _, .word n hword hkeyword, rfl, .word, .same⟩
  | list _ ih =>
    cases ht with
    | list hlength hall =>
      have hrow := forall₂_of_mem (fun x hx _ hxt => ih x hx hxt) (List.forall₂_iff_zip.2 ⟨hlength, hall⟩)
      obtain ⟨es, rs, hes, hrs, hxs⟩ := readsAs_row hrow
      exact ⟨.list es, .list rs, .list hes, rfl, .list hrs.length_eq (List.forall₂_zip hrs),
        alike_list.2 ⟨rs, rfl, hxs⟩⟩
  | tuple _ ih =>
    cases ht with
    | tuple hlength hall =>
      have hrow := forall₂_of_mem (fun x hx _ hxt => ih x hx hxt) (List.forall₂_iff_zip.2 ⟨hlength, hall⟩)
      obtain ⟨es, rs, hes, hrs, hxs⟩ := readsAs_row hrow
      exact ⟨.tuple es, .tuple rs, .tuple hes, rfl, .tuple hrs.length_eq (List.forall₂_zip hrs),
        alike_tuple.2 ⟨rs, rfl, hxs⟩⟩
  | set hne _ hkeys hdistinct ih =>
    cases ht with
    | set hlength hall =>
      exact readsAs_set hne hkeys hdistinct
        (forall₂_of_mem (fun x hx _ hxt => ih x hx hxt) (List.forall₂_iff_zip.2 ⟨hlength, hall⟩))
  | dict _ _ hkeys hdistinct ihkeys ihvalues =>
    cases ht with
    | dict hlength hfirst hsecond =>
      have hentries := List.forall₂_iff_zip.2 ⟨hlength, fun hm => And.intro (hfirst hm) (hsecond hm)⟩
      exact readsAs_dict hkeys hdistinct (forall₂_of_mem (fun e he _ het =>
        And.intro (ihkeys e he het.1) (ihvalues e he het.2)) hentries)

/-! ## the written form -/

theorem shownAll_eq_map (xs : List Value) : Value.shownAll xs = xs.map Value.shown := by
  induction xs with
  | nil => rfl
  | cons x xs ih => rw [Value.shownAll, ih, List.map_cons]

theorem shownEntries_eq_map (es : List (Value × Value)) :
    Value.shownEntries es = (es.map fun e => (e.1.shown, e.2.shown)).map fun t => t.1 ++ ": " ++ t.2 := by
  induction es with
  | nil => rfl
  | cons e es ih =>
    obtain ⟨k, v⟩ := e
    rw [Value.shownEntries, Value.shownEntry, ih, List.map_cons, List.map_cons]

theorem spelled_shownAll {xs : List Value} (h : ∀ x ∈ xs, x.Spelled x.shown) :
    List.Forall₂ Value.Spelled xs (Value.shownAll xs) := by
  rw [shownAll_eq_map, List.forall₂_map_right_iff, List.forall₂_same]
  exact h

/-- the written form of data, with all quotes, is one of the spellings -/
theorem spelled_shown {n : Nat} {v : Value} (hv : v.IsData n) : v.Spelled v.shown := by
  induction hv with
  | null => exact .null
  | @bool n b => cases b with
    | true => exact .yes
    | false => exact .no
  | int _ => exact .int
  | text => exact .quoted
  | list _ ih =>
    obtain ⟨hlength, hall⟩ := List.forall₂_iff_zip.1 (spelled_shownAll ih)
    exact .list hlength hall
  | tuple _ ih =>
    obtain ⟨hlength, hall⟩ := List.forall₂_iff_zip.1 (spelled_shownAll ih)
    exact .tuple hlength hall
  | @set n xs hne _ _ _ ih =>
    obtain ⟨hlength, hall⟩ := List.forall₂_iff_zip.1 (spelled_shownAll ih)
    obtain ⟨x, xs, rfl⟩ := List.exists_cons_of_ne_nil hne
    have htext : (Value.set (x :: xs)).shown = bracketed "\x7b" "\x7d" (x.shown :: Value.shownAll xs) := rfl
    rw [htext, ← Value.shownAll]
    exact .set hlength hall
  | @dict n es _ _ _ _ ihkeys ihvalues =>
    have hentries : List.Forall₂ (fun e t => e.1.Spelled t.1 ∧ e.2.Spelled t.2) es
        (es.map fun e => (e.1.shown, e.2.shown)) := by
      rw [List.forall₂_map_right_iff, List.forall₂_same]
      exact fun e he => ⟨ihkeys e he, ihvalues e he⟩
    obtain ⟨hlength, hall⟩ := List.forall₂_iff_zip.1 hentries
    have htext : (Value.dict es).shown = bracketed "\x7b" "\x7d" (Value.shownEntries es) := rfl
    rw [htext, shownEntries_eq_map]
    exact .dict hlength (fun hm => (hall hm).1) (fun hm => (hall hm).2)

/-- Data are read back from every spelling, with quotes around their words or without: what is read is
the same value, up to the order of elements in sets, and equal to it.  The written form is a spelling. -/
theorem readText_spelled {n : Nat} {v : Value} (hv : v.IsData n) (hn : n ≤ maxDepth) :
    v.Spelled v.shown ∧ ∀ t, v.Spelled t → ∃ r, readText t = .ok r ∧ v.Alike r ∧ v.eqv r = true := by
  refine ⟨spelled_shown hv, fun t ht => ?_⟩
  obtain ⟨e, r, hlegible, hop, hdenotes, halike⟩ := readsAs_spelled hv ht
  obtain ⟨hzero, ts, hts, hsentence⟩ := hlegible.sentence hn
  obtain ⟨-, hvalue⟩ := isLiteral_iff.1 ⟨hzero, ts, e, hts, hsentence, hop, hdenotes⟩
  exact ⟨r, readText_of_value hzero hvalue, halike, halike.eqv hv⟩

/-- a dictionary with a word as a key without quotes, a tuple as a key, and a set inside -/
theorem readText_spelled_nested :
    let v : Value := .dict [(.text "mode", .text "it's"),
      (.tuple [.int 1, .null], .list [.bool true, .set [.int (-2), .text "fast"]])]
    v.IsData 3 ∧ v.Spelled "\x7bmode: \"it's\", (1, None): [True, \x7b-2, fast\x7d]\x7d" ∧
      ∃ r, readText "\x7bmode: \"it's\", (1, None): [True, \x7b-2, fast\x7d]\x7d" = .ok r ∧
        v.Alike r ∧ v.eqv r = true := by
  intro v
  have hset : Value.IsData 1 (.set [.int (-2), .text "fast"]) := by
    refine .set (by simp) (n := 0) ?_ ?_ ?_
    · simp only [List.forall_mem_cons]
      exact ⟨.int (by decide), .text, fun x hx => by cases hx⟩
    · simp [Value.unhashable?]
    · simp [Value.eqv, eqNumber, Value.asNumber]
  have hpair : Value.IsData 2 (.tuple [.int 1, .null]) := by
    refine .tuple (n := 1) ?_
    simp only [List.forall_mem_cons]
    exact ⟨.int (by decide), .null, fun x hx => by cases hx⟩
  have hlist : Value.IsData 2 (.list [.bool true, .set [.int (-2), .text "fast"]]) := by
    refine .list (n := 1) ?_
    simp only [List.forall_mem_cons]
    exact ⟨.bool, hset, fun x hx => by cases hx⟩
  have hv : v.IsData 3 := by
    refine .dict (n := 2) ?_ ?_ ?_ ?_
    · simp only [List.forall_mem_cons]
      exact ⟨.text, hpair, fun x hx => by cases hx⟩
    · simp only [List.forall_mem_cons]
      exact ⟨.text, hlist, fun x hx => by cases hx⟩
    · simp [Value.unhashable?, Value.unhashableIn]
    · simp [Value.eqv]
  have hbare : ∀ s ∈ ["mode", "fast"], Value.Spelled (.text s) s := by
    intro s hs
    simp only [List.mem_cons, List.not_mem_nil, or_false] at hs
    rcases hs with rfl | rfl
    · exact .bare ⟨rfl, by simp⟩ (by decide)
    · exact .bare ⟨rfl, by simp⟩ (by decide)
  have hsetText : Value.Spelled (.set [.int (-2), .text "fast"]) (bracketed "\x7b" "\x7d" ["-2", "fast"]) :=
    .set rfl (List.forall₂_zip (.cons .int (.cons (hbare "fast" (by decide)) .nil)))
  have hpairText : Value.Spelled (.tuple [.int 1, .null]) (tupleText ["1", "None"]) :=
    .tuple rfl (List.forall₂_zip (.cons .int (.cons .null .nil)))
  have hlistText : Value.Spelled (.list [.bool true, .set [.int (-2), .text "fast"]])
      (bracketed "[" "]" ["True", "\x7b-2, fast\x7d"]) :=
    .list rfl (List.forall₂_zip (.cons .yes (.cons hsetText .nil)))
  have ht : v.Spelled (bracketed "\x7b" "\x7d" ([("mode", "\"it's\""),
      ("(1, None)", "[True, \x7b-2, fast\x7d]")].map fun t => t.1 ++ ": " ++ t.2)) := by
    refine .dict rfl (List.forall₂_zip (R := fun (e : Value × Value) (t : String × String) => e.1.Spelled t.1) ?_)
      (List.forall₂_zip (R := fun (e : Value × Value) (t : String × String) => e.2.Spelled t.2) ?_)
    · exact .cons (hbare "mode" (by decide)) (.cons hpairText .nil)
    · exact .cons .quoted (.cons hlistText .nil)
  exact ⟨hv, ht, (readText_spelled hv (by decide)).2 _ ht⟩

end Literal

end CommandLine
