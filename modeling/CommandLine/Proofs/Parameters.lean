import CommandLine.Proofs.Bindings
import CommandLine.Proofs.Layers

/-!
# Which value a parameter gets

A call without decorations reads every text as a literal.  Of its parameters, those that are named by
a flag have the value of the flag.  The others stand in a row, `unnamed`, and so do the single
arguments: the first has the value of the first, and so on, and where the arguments end the defaults
begin.

* `Lacking`            a parameter without a default finds no argument, or a keyword parameter
                       without a default no flag;
* `Bound.Specified`    what becomes of all the parameters and of all the arguments;
* `bind_specified`     a call is refused exactly in the first case, and otherwise is as specified.

The parameters are filled one after the other.  `Filled.Gives` says what the filling from one
parameter on has given, with one lemma for each of the three ways in which the next parameter gets
its value.
-/

namespace CommandLine

open Binding

/-! ## what is specified -/

/-- parameters as a routine can be declared with: no name stands twice or is empty, and no default
stands without a parameter -/
structure Signature.Sound (s : Signature Value) : Prop where
  nodup : (s.args ++ s.flagParams).Nodup
  defaults : s.defaults.length ≤ s.args.length
  more : s.more ≠ some ""
  moreNamed : s.moreNamed ≠ some ""

/-- how many parameters have no default: the defaults belong to the last ones -/
def Signature.required (s : Signature Value) : Nat := s.args.length - s.defaults.length

/-- the default of a parameter -/
def Signature.default? (s : Signature Value) (p : String) : Option Value :=
  ((s.args.drop s.required).zip s.defaults).lookup p

def Bound.valueOf (b : Bound) (s : Signature Value) (p : String) : Option Value :=
  (s.args.zip b.positional).lookup p

namespace Binding

/-- the parameters that no flag names, in their order -/
def unnamed (named : List (String × String)) (ps : List String) : List String :=
  ps.filter fun p => (named.lookup p).isNone

def Keywords.texts (k : Keywords) : List String := k.named.map (·.2) ++ k.rest

/-- is something missing?  There are more unnamed parameters without a default than single arguments,
or no flag for a keyword parameter without a default. -/
def Lacking (s : Signature Value) (k : Keywords) : Prop :=
  k.rest.length < ((unnamed k.named s.args).filter fun p => (s.default? p).isNone).length ∨
    ∃ q ∈ s.flagParams, s.flagDefaults.lookup q = none ∧ k.named.lookup q = none

end Binding

/-- what a call makes of sorted arguments -/
structure Bound.Specified (s : Signature Value) (k : Keywords) (b : Bound) : Prop where
  /-- a parameter that a flag names has the value of the flag -/
  flag : ∀ p ∈ s.args, ∀ t, k.named.lookup p = some t →
    ∃ v, Literal.readText t = .ok v ∧ b.valueOf s p = some v
  /-- the others have the values of the single arguments, in turn -/
  single : ∀ (i : Nat) p t, (unnamed k.named s.args)[i]? = some p → k.rest[i]? = some t →
    ∃ v, Literal.readText t = .ok v ∧ b.valueOf s p = some v
  /-- and where these end, their own defaults -/
  default : ∀ (i : Nat) p, (unnamed k.named s.args)[i]? = some p → k.rest.length ≤ i →
    ∃ v, s.default? p = some v ∧ b.valueOf s p = some v
  /-- what is left of the single arguments is read, if the call takes any number of them -/
  count : s.args.length ≤ b.positional.length
  extra : (if s.more.isSome then k.rest.drop (unnamed k.named s.args).length else []).map
    Literal.readText = (b.positional.drop s.args.length).map .ok
  /-- the flags that name no parameter stay flags -/
  named : (k.named.filter fun e => !s.args.contains e.1).map
    (fun e => (e.1, Literal.readText e.2)) = b.named.map fun e => (e.1, .ok e.2)
  remaining : b.remaining =
    (if s.more.isSome then [] else k.rest.drop (unnamed k.named s.args).length) ++ k.unknown
  /-- more could have been given where a default was used, or where any number can be given -/
  capacity : b.capacity = true ↔ k.rest.length < (unnamed k.named s.args).length ∨
    s.more.isSome = true ∨ s.moreNamed.isSome = true

/-! ## names and values side by side -/

section
variable {p q : String} {ps : List String} {v : Value} {vs : List Value}

theorem lookup_zip_cons_of_mem (hp : p ∉ ps) (hq : q ∈ ps) :
    ((p :: ps).zip (v :: vs)).lookup q = (ps.zip vs).lookup q := by
  have hne : q ≠ p := fun e => hp (e ▸ hq)
  rw [List.zip_cons_cons, lookup_cons_name, if_neg hne]

theorem lookup_zip_cons_self : ((p :: ps).zip (v :: vs)).lookup p = some v := by
  rw [List.zip_cons_cons, lookup_cons_name, if_pos rfl]

theorem lookup_zip_of_getElem (hps : ps.Nodup) {i : Nat} (hp : ps[i]? = some p)
    (hv : vs[i]? = some v) : (ps.zip vs).lookup p = some v := by
  induction ps generalizing vs i with
  | nil => cases hp
  | cons p' ps ih =>
    cases vs with
    | nil => cases hv
    | cons v' vs =>
      obtain ⟨hp', hps⟩ := List.nodup_cons.1 hps
      cases i with
      | zero =>
        obtain rfl := Option.some.inj hp
        obtain rfl := Option.some.inj hv
        exact lookup_zip_cons_self
      | succ i =>
        rw [lookup_zip_cons_of_mem hp' (List.mem_of_getElem? hp)]
        exact ih hps hp hv

end

/-! ## reading without decorations -/

/-- a call that takes arguments by position, and reads each of them as a literal -/
structure Metadata.Plain (m : Metadata) : Prop where
  positional : m.positional = true
  readings : m.readings = {}

inductive Value.IsUndecorated : Value → Prop where
  | routine (r : Routine) (h : r.decorations = []) : IsUndecorated (.routine r)
  | method (receiver : Value) (r : Routine) (h : r.decorations = []) :
    IsUndecorated (.method receiver r)

theorem Value.IsUndecorated.plain {v : Value} (h : v.IsUndecorated) : v.metadata.Plain := by
  cases h with
  | routine r h =>
    have hmeta : (Value.routine r).metadata = .ofDecorations true r.decorations := rfl
    rw [hmeta, h]
    exact ⟨rfl, rfl⟩
  | method receiver r h =>
    have hmeta : (Value.method receiver r).metadata = .ofDecorations true r.decorations := rfl
    rw [hmeta, h]
    exact ⟨rfl, rfl⟩

namespace Binding

section
variable {m : Metadata}

theorem readFor_plain (hm : m.Plain) (index : Option Nat) (name : Option String) (t : String) :
    readFor m index name t = (Literal.readText t).mapError .reading := by
  have hchosen : (m.readings.choose index name).read t = Literal.readText t := by
    rw [hm.readings]
    cases index <;> cases name <;> rfl
  unfold readFor
  rw [hchosen]
  cases Literal.readText t <;> rfl

theorem readFor_of_ok (hm : m.Plain) (index : Option Nat) (name : Option String) {t : String}
    {v : Value} (h : Literal.readText t = .ok v) : readFor m index name t = .ok v := by
  rw [readFor_plain hm, h]
  rfl

theorem readNamed_of_readable (hm : m.Plain) {es : List (String × String)}
    (h : ∀ e ∈ es, ∃ v, Literal.readText e.2 = .ok v) :
    ∃ vs, readNamed m es = .ok vs ∧
      es.map (fun e => (e.1, Literal.readText e.2)) = vs.map fun e => (e.1, .ok e.2) := by
  induction es with
  | nil => exact ⟨[], rfl, rfl⟩
  | cons e es ih =>
    rw [List.forall_mem_cons] at h
    obtain ⟨v, hv⟩ := h.1
    obtain ⟨vs, hvs, hmap⟩ := ih h.2
    refine ⟨(e.1, v) :: vs, ?_, ?_⟩
    · show (readFor m none (some e.1) e.2 >>= _) = _
      rw [readFor_of_ok hm _ _ hv]
      show (readNamed m es >>= _) = _
      rw [hvs]
      rfl
    · rw [List.map_cons, List.map_cons, hv, hmap]

theorem readExtra_of_readable (hm : m.Plain) {ts : List String}
    (h : ∀ t ∈ ts, ∃ v, Literal.readText t = .ok v) :
    ∃ vs, readExtra m ts = .ok vs ∧ ts.map Literal.readText = vs.map .ok := by
  induction ts with
  | nil => exact ⟨[], rfl, rfl⟩
  | cons t ts ih =>
    rw [List.forall_mem_cons] at h
    obtain ⟨v, hv⟩ := h.1
    obtain ⟨vs, hvs, hmap⟩ := ih h.2
    refine ⟨v :: vs, ?_, ?_⟩
    · show (readFor m none none t >>= _) = _
      rw [readFor_of_ok hm _ _ hv]
      show (readExtra m ts >>= _) = _
      rw [hvs]
      rfl
    · rw [List.map_cons, List.map_cons, hv, hmap]

end

/-! ## filling the parameters -/

section
variable {m : Metadata} {defaults : List Value} {required : Nat} {named : List (String × String)}
  {index : Nat} {p : String} {ps single : List String} {f : Filled}

theorem unnamed_of_some {t : String} (h : named.lookup p = some t) :
    unnamed named (p :: ps) = unnamed named ps := by
  refine List.filter_cons_of_neg ?_
  rw [h]
  exact Bool.false_ne_true

theorem unnamed_of_none (h : named.lookup p = none) :
    unnamed named (p :: ps) = p :: unnamed named ps := by
  refine List.filter_cons_of_pos ?_
  rw [h]
  rfl

theorem mem_of_unnamed {i : Nat} {q : String} (h : (unnamed named ps)[i]? = some q) : q ∈ ps :=
  (List.mem_filter.1 (List.mem_of_getElem? h)).1

/-- of the single arguments the parameters take as many as no flag names, if they take any -/
theorem fill_single (h : fill m defaults required named index ps single = .ok f) :
    f.single = single.drop (if m.positional then (unnamed named ps).length else 0) := by
  induction ps generalizing index single f with
  | nil =>
    obtain rfl := Except.ok.inj h
    cases m.positional <;> rfl
  | cons p ps ih =>
    cases hp : named.lookup p with
    | some t =>
      rw [fill_of_lookup hp] at h
      obtain ⟨v, -, h⟩ := bind_eq_ok.1 h
      obtain ⟨g, hg, rfl⟩ := map_eq_ok.1 h
      rw [unnamed_of_some hp, ← ih hg]
      rfl
    | none =>
      rw [unnamed_of_none hp]
      by_cases hm : m.positional = true → single = []
      · rw [fill_of_default hp hm] at h
        split at h
        · cases h
        · obtain ⟨g, hg, rfl⟩ := map_eq_ok.1 h
          refine (ih hg).trans ?_
          cases hpositional : m.positional with
          | false => rfl
          | true => rw [hm hpositional, List.drop_nil, List.drop_nil]
      · obtain ⟨hpositional, hsingle⟩ := Classical.not_imp.1 hm
        cases single with
        | nil => exact absurd rfl hsingle
        | cons t single =>
          rw [fill_of_positional hp hpositional] at h
          obtain ⟨v, -, h⟩ := bind_eq_ok.1 h
          obtain ⟨g, hg, rfl⟩ := map_eq_ok.1 h
          refine (ih hg).trans ?_
          rw [hpositional, if_pos rfl, if_pos rfl, List.length_cons, List.drop_succ_cons]

/-- what the parameters from `index` on are given -/
structure Filled.Gives (defaults : List Value) (required : Nat) (named : List (String × String))
    (index : Nat) (ps single : List String) (f : Filled) : Prop where
  count : f.values.length = ps.length
  capacity : f.capacity = true ↔ single.length < (unnamed named ps).length
  flag : ∀ q ∈ ps, ∀ t, named.lookup q = some t →
    ∃ v, Literal.readText t = .ok v ∧ (ps.zip f.values).lookup q = some v
  token : ∀ (i : Nat) q t, (unnamed named ps)[i]? = some q → single[i]? = some t →
    ∃ v, Literal.readText t = .ok v ∧ (ps.zip f.values).lookup q = some v
  default : ∀ (i j : Nat) q, (unnamed named ps)[i]? = some q → single.length ≤ i →
    ps[j]? = some q → required ≤ index + j ∧
      (ps.zip f.values).lookup q = some (defaults.getD (index + j - required) .null)

theorem exists_of_getElem_cons {j : Nat} {q : String} (hp : p ∉ ps) (hq : q ∈ ps)
    (h : (p :: ps)[j]? = some q) : ∃ j', j = j' + 1 ∧ ps[j']? = some q := by
  cases j with
  | zero =>
    obtain rfl := Option.some.inj h
    exact absurd hq hp
  | succ j => exact ⟨j, rfl, h⟩

section
variable (hp : p ∉ ps)

include hp

theorem Filled.Gives.of_flag {t : String} {v : Value} (ht : named.lookup p = some t)
    (hv : Literal.readText t = .ok v) (hf : f.Gives defaults required named (index + 1) ps single) :
    (f.put v).Gives defaults required named index (p :: ps) single where
  count := congrArg (· + 1) hf.count
  capacity := by
    rw [unnamed_of_some ht]
    exact hf.capacity
  flag := by
    intro q hq t' ht'
    rcases List.mem_cons.1 hq with rfl | hq
    · rw [ht] at ht'
      obtain rfl := Option.some.inj ht'
      exact ⟨v, hv, lookup_zip_cons_self⟩
    · obtain ⟨u, hu, hlookup⟩ := hf.flag q hq t' ht'
      exact ⟨u, hu, (lookup_zip_cons_of_mem hp hq).trans hlookup⟩
  token := by
    intro i q t' hq ht'
    rw [unnamed_of_some ht] at hq
    obtain ⟨u, hu, hlookup⟩ := hf.token i q t' hq ht'
    exact ⟨u, hu, (lookup_zip_cons_of_mem hp (mem_of_unnamed hq)).trans hlookup⟩
  default := by
    intro i j q hq hi hj
    rw [unnamed_of_some ht] at hq
    have hmem := mem_of_unnamed hq
    obtain ⟨j, rfl, hj⟩ := exists_of_getElem_cons hp hmem hj
    obtain ⟨hle, hlookup⟩ := hf.default i j q hq hi hj
    rw [Nat.add_right_comm, Nat.add_assoc] at hle hlookup
    exact ⟨hle, (lookup_zip_cons_of_mem hp hmem).trans hlookup⟩

theorem Filled.Gives.of_single {t : String} {v : Value} (hnone : named.lookup p = none)
    (hv : Literal.readText t = .ok v) (hf : f.Gives defaults required named (index + 1) ps single) :
    (f.put v).Gives defaults required named index (p :: ps) (t :: single) where
  count := congrArg (· + 1) hf.count
  capacity := by
    rw [unnamed_of_none hnone, List.length_cons, List.length_cons, Nat.add_lt_add_iff_right]
    exact hf.capacity
  flag := by
    intro q hq t' ht'
    rcases List.mem_cons.1 hq with rfl | hq
    · rw [hnone] at ht'
      cases ht'
    · obtain ⟨u, hu, hlookup⟩ := hf.flag q hq t' ht'
      exact ⟨u, hu, (lookup_zip_cons_of_mem hp hq).trans hlookup⟩
  token := by
    intro i q t' hq ht'
    rw [unnamed_of_none hnone] at hq
    cases i with
    | zero =>
      obtain rfl := Option.some.inj hq
      obtain rfl := Option.some.inj ht'
      exact ⟨v, hv, lookup_zip_cons_self⟩
    | succ i =>
      obtain ⟨u, hu, hlookup⟩ := hf.token i q t' hq ht'
      exact ⟨u, hu, (lookup_zip_cons_of_mem hp (mem_of_unnamed hq)).trans hlookup⟩
  default := by
    intro i j q hq hi hj
    rw [unnamed_of_none hnone] at hq
    cases i with
    | zero => exact absurd hi (Nat.not_succ_le_zero _)
    | succ i =>
      have hmem : q ∈ ps := mem_of_unnamed hq
      obtain ⟨j, rfl, hj⟩ := exists_of_getElem_cons hp hmem hj
      obtain ⟨hle, hlookup⟩ := hf.default i j q hq (Nat.le_of_succ_le_succ hi) hj
      rw [Nat.add_right_comm, Nat.add_assoc] at hle hlookup
      exact ⟨hle, (lookup_zip_cons_of_mem hp hmem).trans hlookup⟩

theorem Filled.Gives.of_default (hnone : named.lookup p = none) (hindex : required ≤ index)
    (hf : f.Gives defaults required named (index + 1) ps []) :
    Filled.Gives defaults required named index (p :: ps) []
      { f.put (defaults.getD (index - required) .null) with capacity := true } where
  count := congrArg (· + 1) hf.count
  capacity := by
    rw [unnamed_of_none hnone]
    exact ⟨fun _ => Nat.succ_pos _, fun _ => rfl⟩
  flag := by
    intro q hq t' ht'
    rcases List.mem_cons.1 hq with rfl | hq
    · rw [hnone] at ht'
      cases ht'
    · obtain ⟨u, hu, hlookup⟩ := hf.flag q hq t' ht'
      exact ⟨u, hu, (lookup_zip_cons_of_mem hp hq).trans hlookup⟩
  token := by
    intro i q t' hq ht'
    cases ht'
  default := by
    intro i j q hq hi hj
    rw [unnamed_of_none hnone] at hq
    cases i with
    | zero =>
      obtain rfl := Option.some.inj hq
      have hzero : j = 0 := by
        cases j with
        | zero => rfl
        | succ j => exact absurd (List.mem_of_getElem? (l := ps) hj) hp
      subst hzero
      exact ⟨hindex, lookup_zip_cons_self⟩
    | succ i =>
      have hmem : q ∈ ps := mem_of_unnamed hq
      obtain ⟨j, rfl, hj⟩ := exists_of_getElem_cons hp hmem hj
      obtain ⟨hle, hlookup⟩ := hf.default i j q hq (Nat.zero_le _) hj
      rw [Nat.add_right_comm, Nat.add_assoc] at hle hlookup
      exact ⟨hle, (lookup_zip_cons_of_mem hp hmem).trans hlookup⟩

end

/-- of the parameters that are still required, how many no flag names -/
def owed (required : Nat) (named : List (String × String)) (index : Nat) (ps : List String) : Nat :=
  (unnamed named (ps.take (required - index))).length

theorem owed_of_some {t : String} (h : named.lookup p = some t) :
    owed required named index (p :: ps) = owed required named (index + 1) ps := by
  unfold owed
  by_cases hindex : index < required
  · have hnext : required - index = required - (index + 1) + 1 := by omega
    rw [hnext, List.take_succ_cons, unnamed_of_some h]
  · have hzero : required - index = 0 := by omega
    have hnext : required - (index + 1) = 0 := by omega
    rw [hzero, hnext, List.take_zero, List.take_zero]

theorem owed_of_none (h : named.lookup p = none) (hindex : index < required) :
    owed required named index (p :: ps) = owed required named (index + 1) ps + 1 := by
  unfold owed
  have hnext : required - index = required - (index + 1) + 1 := by omega
  rw [hnext, List.take_succ_cons, unnamed_of_none h]
  rfl

theorem owed_of_le (hindex : required ≤ index) : owed required named index ps = 0 := by
  unfold owed
  rw [Nat.sub_eq_zero_of_le hindex]
  rfl

/-- if every text can be read, the parameters are filled exactly if the single arguments are enough -/
theorem fill_of_readable (defaults : List Value) (required index : Nat) (hm : m.Plain)
    (hps : ps.Nodup) (hnamed : ∀ q t, named.lookup q = some t → ∃ v, Literal.readText t = .ok v)
    (hsingle : ∀ t ∈ single, ∃ v, Literal.readText t = .ok v) :
    (∃ f, fill m defaults required named index ps single = .ok f ∧
      f.Gives defaults required named index ps single ∧
      owed required named index ps ≤ single.length) ∨
    (∃ q, fill m defaults required named index ps single = .error (.command (.noValue q)) ∧
      single.length < owed required named index ps) := by
  induction ps generalizing index single with
  | nil =>
    refine .inl ⟨{ single }, rfl, ?_, ?_⟩
    · exact {
        count := rfl
        capacity := ⟨fun h => absurd h Bool.false_ne_true, fun h => absurd h (Nat.not_lt_zero _)⟩
        flag := fun q hq => absurd hq List.not_mem_nil
        token := fun i q t h => by cases h
        default := fun i j q h => by cases h }
    · unfold owed
      rw [List.take_nil]
      exact Nat.zero_le _
  | cons p ps ih =>
    obtain ⟨hp, hps⟩ := List.nodup_cons.1 hps
    cases hlookup : named.lookup p with
    | some t =>
      obtain ⟨v, hv⟩ := hnamed p t hlookup
      rw [fill_of_lookup hlookup, readFor_of_ok hm _ _ hv, owed_of_some hlookup]
      obtain ⟨f, hf, hgives, howed⟩ | ⟨q, hq, howed⟩ := ih (index + 1) hps hsingle
      · exact .inl ⟨f.put v, by rw [hf]; rfl, hgives.of_flag hp hlookup hv, howed⟩
      · exact .inr ⟨q, by rw [hq]; rfl, howed⟩
    | none =>
      cases single with
      | nil =>
        rw [fill_of_default hlookup fun _ => rfl]
        by_cases hindex : index < required
        · rw [if_pos hindex, owed_of_none hlookup hindex]
          exact .inr ⟨p, rfl, Nat.succ_pos _⟩
        · have hle := Nat.le_of_not_lt hindex
          rw [if_neg hindex, owed_of_le hle]
          obtain ⟨f, hf, hgives, -⟩ | ⟨q, -, howed⟩ := ih (index + 1) hps hsingle
          · exact .inl ⟨_, by rw [hf]; rfl, hgives.of_default hp hlookup hle, Nat.le_refl _⟩
          · rw [owed_of_le (Nat.le_succ_of_le hle)] at howed
            exact absurd howed (Nat.not_lt_zero _)
      | cons t single =>
        obtain ⟨⟨v, hv⟩, hsingle⟩ := List.forall_mem_cons.1 hsingle
        have howed' : owed required named index (p :: ps) - 1 =
            owed required named (index + 1) ps := by
          by_cases hindex : index < required
          · rw [owed_of_none hlookup hindex, Nat.add_sub_cancel]
          · rw [owed_of_le (Nat.le_of_not_lt hindex), owed_of_le (by omega)]
        rw [fill_of_positional hlookup hm.positional, readFor_of_ok hm _ _ hv]
        obtain ⟨f, hf, hgives, howed⟩ | ⟨q, hq, howed⟩ := ih (index + 1) hps hsingle
        · refine .inl ⟨f.put v, by rw [hf]; rfl, hgives.of_single hp hlookup hv, ?_⟩
          rw [List.length_cons]
          omega
        · refine .inr ⟨q, by rw [hq]; rfl, ?_⟩
          rw [List.length_cons]
          omega

end

end Binding

/-! ## defaults and required parameters -/

section
variable {s : Signature Value} (hs : s.Sound)

include hs

theorem Signature.Sound.args_nodup : s.args.Nodup := (List.nodup_append.1 hs.nodup).1

/-- the default of the parameter at a place -/
theorem Signature.Sound.default?_of_le {j : Nat} {p : String} (hp : s.args[j]? = some p)
    (hj : s.required ≤ j) : s.default? p = some (s.defaults.getD (j - s.required) .null) := by
  have hlt : j < s.args.length := (List.getElem?_eq_some_iff.1 hp).1
  have hdefaults := hs.defaults
  have hplace : j - s.required < s.defaults.length := by
    unfold Signature.required at hj ⊢
    omega
  refine lookup_zip_of_getElem (hs.args_nodup.sublist (List.drop_sublist _ _)) ?_ ?_
    (i := j - s.required)
  · rw [List.getElem?_drop, Nat.add_sub_cancel' hj]
    exact hp
  · rw [List.getD_eq_getElem?_getD, List.getElem?_eq_getElem hplace]
    rfl

theorem Signature.Sound.default?_of_mem_take {p : String} (hp : p ∈ s.args.take s.required) :
    s.default? p = none := by
  have hnodup := hs.args_nodup
  rw [← List.take_append_drop s.required s.args, List.nodup_append] at hnodup
  refine List.lookup_eq_none_iff.2 fun e he => bne_iff_ne.2 ?_
  exact hnodup.2.2 p hp e.1 (List.of_mem_zip he).1

theorem Signature.Sound.default?_of_mem_drop {p : String} (hp : p ∈ s.args.drop s.required) :
    (s.default? p).isSome = true := by
  obtain ⟨j, hj⟩ := List.getElem?_of_mem hp
  rw [List.getElem?_drop] at hj
  rw [hs.default?_of_le hj (Nat.le_add_right _ _)]
  rfl

/-- the parameters without a default are the first ones -/
theorem Signature.Sound.length_unnamed_required (named : List (String × String)) :
    ((unnamed named s.args).filter fun p => (s.default? p).isNone).length =
      owed s.required named 0 s.args := by
  have hsplit : (s.args.filter fun p => (s.default? p).isNone) = s.args.take s.required := by
    have htake : (s.args.take s.required).filter (fun p => (s.default? p).isNone) =
        s.args.take s.required := by
      refine List.filter_eq_self.2 fun p hp => ?_
      rw [hs.default?_of_mem_take hp]
      rfl
    have hdrop : (s.args.drop s.required).filter (fun p => (s.default? p).isNone) = [] := by
      refine List.filter_eq_nil_iff.2 fun p hp => ?_
      rw [← Option.not_isSome, hs.default?_of_mem_drop hp]
      exact Bool.false_ne_true
    calc s.args.filter (fun p => (s.default? p).isNone)
        = (s.args.take s.required ++ s.args.drop s.required).filter
            (fun p => (s.default? p).isNone) := by rw [List.take_append_drop]
      _ = s.args.take s.required := by rw [List.filter_append, htake, hdrop, List.append_nil]
  have hcomm : (unnamed named s.args).filter (fun p => (s.default? p).isNone) =
      unnamed named (s.args.filter fun p => (s.default? p).isNone) := by
    unfold unnamed
    rw [List.filter_filter, List.filter_filter]
    exact List.filter_congr fun p _ => Bool.and_comm _ _
  rw [hcomm, hsplit]
  rfl

end

/-! ## the whole call -/

namespace Binding

/-- the keyword parameters without a default that no flag names -/
def missing (s : Signature Value) (k : Keywords) : List String :=
  (requiredFlags s).filter fun p =>
    ((k.named.filter fun e => !s.args.contains e.1).lookup p).isNone

section
variable {s : Signature Value} {m : Metadata} {args : List String} {f : Filled}
  {vs : List (String × Value)}

theorem bindWith_of_unfilled {e : BindError}
    (h : fill m s.defaults s.required (sortedFor s args).named 0 s.args (sortedFor s args).rest =
      .error e) : bindWith s m args = .error e := by
  unfold bindWith
  unfold sortedFor Signature.required at h
  simp only [h]
  rfl

variable
  (hf : fill m s.defaults s.required (sortedFor s args).named 0 s.args (sortedFor s args).rest =
    .ok f)
  (hvs : readNamed m ((sortedFor s args).named.filter fun e => !s.args.contains e.1) = .ok vs)

include hf hvs

theorem bindWith_of_missing (h : missing s (sortedFor s args) ≠ []) :
    bindWith s m args = .error (.command (.missingFlags (missing s (sortedFor s args)))) := by
  unfold bindWith
  unfold sortedFor Signature.required at hf
  unfold sortedFor at hvs
  unfold missing sortedFor at h ⊢
  have hempty := Bool.eq_false_iff.2 fun e => h (List.isEmpty_iff.1 e)
  simp only [hf, hvs]
  show (if (!List.isEmpty _) = true then _ else _) = _
  rw [hempty]
  rfl

theorem bindWith_of_filled (h : missing s (sortedFor s args) = []) {extra : List Value}
    (hextra : readExtra m (if s.more.isSome then f.single else []) = .ok extra) :
    ∃ b, bindWith s m args = .ok b := by
  refine exists_of_isOk ?_
  unfold bindWith
  unfold sortedFor Signature.required at hf
  unfold sortedFor at hvs
  unfold missing sortedFor at h
  simp only [hf, hvs]
  show Except.isOk (if (!List.isEmpty _) = true then _ else _) = true
  rw [List.isEmpty_iff.2 h]
  have hfirst : (if s.more.isSome then (f.single, []) else ([], f.single)).1 =
      if s.more.isSome then f.single else [] := by
    split <;> rfl
  show Except.isOk (readExtra m (if s.more.isSome then (f.single, []) else ([], f.single)).1 >>= _)
    = true
  rw [hfirst, hextra]
  rfl

end

section
variable {s : Signature Value} (hs : s.Sound) {k : Keywords}

include hs

/-- a keyword parameter is no positional one, so its flag is among those that stay flags -/
theorem missing_ne_nil :
    missing s k ≠ [] ↔
      ∃ q ∈ s.flagParams, s.flagDefaults.lookup q = none ∧ k.named.lookup q = none := by
  have hlookup : ∀ q ∈ s.flagParams,
      (k.named.filter fun e => !s.args.contains e.1).lookup q = k.named.lookup q := by
    intro q hq
    have hargs : q ∉ s.args := fun h => (List.nodup_append.1 hs.nodup).2.2 q h q hq rfl
    exact lookup_filter_names (fun p => !s.args.contains p) _ (by simp [hargs])
  rw [ne_eq, ← List.isEmpty_iff, Bool.not_eq_true, List.isEmpty_eq_false_iff_exists_mem]
  unfold missing requiredFlags
  simp only [List.mem_filter, Option.isNone_iff_eq_none]
  constructor
  · rintro ⟨q, ⟨hq, hdefault⟩, hnone⟩
    rw [hlookup q hq] at hnone
    exact ⟨q, hq, hdefault, hnone⟩
  · rintro ⟨q, hq, hdefault, hnone⟩
    rw [← hlookup q hq] at hnone
    exact ⟨q, ⟨hq, hdefault⟩, hnone⟩

theorem lacking_iff : Lacking s k ↔
    k.rest.length < owed s.required k.named 0 s.args ∨ missing s k ≠ [] := by
  unfold Lacking
  rw [hs.length_unnamed_required, missing_ne_nil hs]

end

end Binding

section
variable {s : Signature Value} (hs : s.Sound) {m : Metadata} {args : List String} {b : Bound}
  {f : Filled} {extra : List Value}

include hs

/-- the parameters as they are filled, with what is read besides -/
theorem Bound.Specified.of_gives {k : Keywords}
    (hf : f.Gives s.defaults s.required k.named 0 s.args k.rest)
    (hsingle : f.single = k.rest.drop (unnamed k.named s.args).length)
    (hpositional : b.positional = f.values ++ extra)
    (hextra : (if s.more.isSome then f.single else []).map Literal.readText = extra.map .ok)
    (hnamed : (k.named.filter fun e => !s.args.contains e.1).map
      (fun e => (e.1, Literal.readText e.2)) = b.named.map fun e => (e.1, .ok e.2))
    (hremaining : b.remaining = (if s.more.isSome then [] else f.single) ++ k.unknown)
    (hcapacity : b.capacity = (f.capacity || s.more.any (· ≠ "") || s.moreNamed.any (· ≠ ""))) :
    b.Specified s k := by
  have hvalue : ∀ p, b.valueOf s p = (s.args.zip f.values).lookup p := by
    intro p
    have hzip : s.args.zip (f.values ++ extra) = s.args.zip f.values := by
      have happend : (s.args ++ []).zip (f.values ++ extra) =
          s.args.zip f.values ++ [].zip extra := List.zip_append hf.count.symm
      rw [List.append_nil, List.zip_nil_left, List.append_nil] at happend
      exact happend
    unfold Bound.valueOf
    rw [hpositional, hzip]
  have hany : ∀ name : Option String, name ≠ some "" → name.any (· ≠ "") = name.isSome := by
    intro name hname
    cases name with
    | none => rfl
    | some n => exact decide_eq_true fun e => hname (congrArg some e)
  refine {
    flag := ?_, single := ?_, default := ?_, count := ?_, extra := ?_, named := hnamed
    remaining := ?_, capacity := ?_ }
  · intro p hp t ht
    rw [hvalue]
    exact hf.flag p hp t ht
  · intro i p t hp ht
    rw [hvalue]
    exact hf.token i p t hp ht
  · intro i p hp hi
    obtain ⟨j, hj⟩ := List.getElem?_of_mem (mem_of_unnamed hp)
    obtain ⟨hle, hlookup⟩ := hf.default i j p hp hi hj
    rw [Nat.zero_add] at hle hlookup
    exact ⟨_, hs.default?_of_le hj hle, (hvalue p).trans hlookup⟩
  · rw [hpositional, List.length_append, hf.count]
    exact Nat.le_add_right _ _
  · rw [hpositional, ← hf.count, List.drop_left, ← hsingle]
    exact hextra
  · rw [hremaining, hsingle]
  · rw [hcapacity, hany _ hs.more, hany _ hs.moreNamed, Bool.or_eq_true, Bool.or_eq_true,
      hf.capacity, or_assoc]

end

/-- **Arguments go to parameters as specified.**  A routine without decorations is called with texts
that can all be read.  The call is refused for lack of an argument exactly if one is lacking, and
otherwise each parameter has the value of its flag, of its turn among the single arguments, or its
default. -/
theorem bind_specified {v : Value} (hv : v.IsUndecorated) (hs : v.spec.Sound) (args : List String)
    (hread : ∀ t ∈ (sortedFor v.spec args).texts, ∃ r, Literal.readText t = .ok r) :
    ((∃ e, v.bind args = .error (.command e)) ↔ Lacking v.spec (sortedFor v.spec args)) ∧
    (¬ Lacking v.spec (sortedFor v.spec args) →
      ∃ b, v.bind args = .ok b ∧ b.Specified v.spec (sortedFor v.spec args)) := by
  have hm := hv.plain
  have hentry : ∀ e ∈ (sortedFor v.spec args).named, ∃ r, Literal.readText e.2 = .ok r :=
    fun e he => hread _ (List.mem_append.2 (.inl (List.mem_map.2 ⟨e, he, rfl⟩)))
  have hnamed : ∀ q t, (sortedFor v.spec args).named.lookup q = some t →
      ∃ r, Literal.readText t = .ok r := fun q t ht => hentry (q, t) (mem_of_lookup ht)
  have hrest : ∀ t ∈ (sortedFor v.spec args).rest, ∃ r, Literal.readText t = .ok r :=
    fun t ht => hread t (List.mem_append.2 (.inr ht))
  rw [lacking_iff hs]
  obtain ⟨f, hf, hgives, howed⟩ | ⟨q, hq, howed⟩ :=
    fill_of_readable v.spec.defaults v.spec.required 0 hm hs.args_nodup hnamed hrest
  · have hsingle : f.single = (sortedFor v.spec args).rest.drop
        (unnamed (sortedFor v.spec args).named v.spec.args).length := by
      rw [fill_single hf, if_pos hm.positional]
    have hflags : ∀ e ∈ (sortedFor v.spec args).named.filter fun e => !v.spec.args.contains e.1,
        ∃ r, Literal.readText e.2 = .ok r := fun e he => hentry e (List.mem_filter.1 he).1
    obtain ⟨vs, hvs, hvalues⟩ := readNamed_of_readable hm hflags
    by_cases hmissing : missing v.spec (sortedFor v.spec args) = []
    · have hleft : ∀ t ∈ if v.spec.more.isSome then f.single else [],
          ∃ r, Literal.readText t = .ok r := by
        intro t ht
        split at ht
        · rw [hsingle] at ht
          exact hrest t (List.mem_of_mem_drop ht)
        · exact absurd ht List.not_mem_nil
      obtain ⟨extra, hextra, hextras⟩ := readExtra_of_readable hm hleft
      obtain ⟨b, hb⟩ := bindWith_of_filled hf hvs hmissing hextra
      obtain ⟨f', extra', hf', hvs', hextra', hpositional, hremaining, -, hcapacity⟩ :=
        bindWith_eq_ok hb
      obtain rfl := Except.ok.inj (hf.symm.trans hf')
      obtain rfl := Except.ok.inj (hextra.symm.trans hextra')
      rw [Except.ok.inj (hvs.symm.trans hvs')] at hvalues
      have hspecified : b.Specified v.spec (sortedFor v.spec args) :=
        .of_gives hs hgives hsingle hpositional hextras hvalues hremaining hcapacity
      refine ⟨⟨?_, ?_⟩, fun _ => ⟨b, hb, hspecified⟩⟩
      · rintro ⟨e, he⟩
        cases hb.symm.trans he
      · rintro (hlt | hne)
        · exact absurd hlt (Nat.not_lt.2 howed)
        · exact absurd hmissing hne
    · have herror := bindWith_of_missing hf hvs hmissing
      exact ⟨⟨fun _ => .inr hmissing, fun _ => ⟨_, herror⟩⟩, fun h => absurd (.inr hmissing) h⟩
  · have herror := bindWith_of_unfilled hq
    exact ⟨⟨fun _ => .inl howed, fun _ => ⟨_, herror⟩⟩, fun h => absurd (.inl howed) h⟩

def greeting : Routine where
  name := "greet"
  receiver := none
  signature :=
    { args := ["name", "times", "mark"], defaults := [.int 1, .text "!"], flagParams := ["loud"] }
  doc := none
  body := .echo
  place := none
  decorations := []
  announced := none

def greetingWords : List String := ["--times=2", "Ada", "--loud"]

theorem sortedFor_greeting : sortedFor (Value.routine greeting).spec greetingWords =
    { named := [("times", "2"), ("loud", "True")], unknown := [], rest := ["Ada"] } := rfl

theorem greeting_sound : (Value.routine greeting).spec.Sound where
  nodup := by decide
  defaults := by decide
  more := by decide
  moreNamed := by decide

theorem readText_greeting :
    ∀ t ∈ (sortedFor (Value.routine greeting).spec greetingWords).texts,
      ∃ r, Literal.readText t = .ok r := by
  rw [sortedFor_greeting]
  intro t ht
  rcases List.mem_cons.1 ht with rfl | ht
  · exact ⟨.int 2, rfl⟩
  · rcases List.mem_cons.1 ht with rfl | ht
    · exact ⟨.bool true, rfl⟩
    · obtain rfl := List.mem_singleton.1 ht
      exact ⟨.text "Ada", rfl⟩

theorem bind_specified_greeting :
    ∃ b, (Value.routine greeting).bind greetingWords = .ok b ∧
      b.valueOf (Value.routine greeting).spec "name" = some (.text "Ada") ∧
      b.valueOf (Value.routine greeting).spec "times" = some (.int 2) ∧
      b.valueOf (Value.routine greeting).spec "mark" = some (.text "!") ∧
      b.capacity = true := by
  have hbind := (bind_specified (.routine greeting rfl) greeting_sound greetingWords
    readText_greeting).2
  rw [sortedFor_greeting] at hbind
  obtain ⟨b, hb, hspecified⟩ := hbind (by
    rintro (hlt | ⟨q, hq, -, hnone⟩)
    · exact absurd hlt (by decide)
    · obtain rfl := List.mem_singleton.1 hq
      cases hnone)
  obtain ⟨name, hname, hfirst⟩ := hspecified.single 0 "name" "Ada" rfl rfl
  obtain ⟨times, htimes, hsecond⟩ := hspecified.flag "times" (by decide) "2" rfl
  obtain ⟨mark, hmark, hthird⟩ := hspecified.default 1 "mark" rfl (by decide)
  have hada : Literal.readText "Ada" = .ok (.text "Ada") := rfl
  have htwo : Literal.readText "2" = .ok (.int 2) := rfl
  have hbang : (Value.routine greeting).spec.default? "mark" = some (.text "!") := rfl
  obtain rfl := Except.ok.inj (hname.symm.trans hada)
  obtain rfl := Except.ok.inj (htimes.symm.trans htwo)
  obtain rfl := Option.some.inj (hmark.symm.trans hbang)
  exact ⟨b, hb, hfirst, hsecond, hthird, hspecified.capacity.2 (.inl (by decide))⟩

end CommandLine
