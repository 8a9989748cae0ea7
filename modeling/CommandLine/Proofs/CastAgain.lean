import Mathlib.Data.List.Perm.Subperm
import CommandLine.Proofs.GivenText
import CommandLine.Proofs.PathParts
import CommandLine.Proofs.SlotOrder

/-!
# Casting twice

A value is cast to the type of its field more than once on its way to the configuration.  The second cast
succeeds, and gives the same value (`cast_again`), a set in an order of its own, unless the value is a drive path
that is not read from its parts as itself: `a/c:b` is cast to `a\c:b`, and that to `c:b`.

A container has the elements of a list, a tuple or a set, and any other value as its only element
(`series_wrapped`, `cast_keeps`).
-/

namespace CommandLine

variable {k : Kind} {u v w : Value} {xs ys : List Value}

/-! ## what is kept -/

/-- the same value, a set in any order -/
inductive Value.Again : Value → Value → Prop where
  | same (v : Value) : Again v v
  | set {xs ys : List Value} (h : ys.Perm xs) : Again (.set xs) (.set ys)

/-- the elements of a list, a tuple or a set -/
def Value.series? : Value → Option (List Value)
  | .list xs | .tuple xs | .set xs => some xs
  | _ => none

/-- a container of type `k` that is made of `xs` holds `ys`: these are `xs` unless it is a set, which holds some of
them in any order, and for each of them one that is equal -/
structure Kind.Keeps (k : Kind) (xs ys : List Value) : Prop where
  some : ys.Subperm xs
  each : ∀ x ∈ xs, ∃ y ∈ ys, y = x ∨ y.eqv x = true
  all : k ≠ .set → ys = xs

theorem Kind.Keeps.of_perm (hall : k ≠ .set → ys = xs) (h : ys.Perm xs) : k.Keeps xs ys :=
  ⟨h.subperm, fun x hx => ⟨x, h.mem_iff.2 hx, .inl rfl⟩, hall⟩

theorem Kind.Keeps.singleton (h : k.Keeps [v] ys) : ys = [v] := by
  obtain ⟨y, hy, -⟩ := h.each v List.mem_cons_self
  have hlength : [v].length ≤ ys.length := List.length_pos_of_mem hy
  exact List.perm_singleton.1 (h.some.perm_of_length_le hlength)

/-! ## sets -/

theorem insert_covers (x : Value) (acc : List Value) :
    acc ⊆ Value.insert x acc ∧ ∃ y ∈ Value.insert x acc, y = x ∨ y.eqv x = true := by
  unfold Value.insert
  split
  case isTrue h =>
    obtain ⟨y, hy, he⟩ := List.any_eq_true.1 h
    exact ⟨List.Subset.refl acc, y, hy, .inr he⟩
  case isFalse =>
    exact ⟨List.subset_append_left acc [x], x, List.mem_append_right acc List.mem_cons_self, .inl rfl⟩

theorem foldl_insert_covers (xs acc : List Value) :
    acc ⊆ xs.foldl (fun acc x => Value.insert x acc) acc ∧
      ∀ x ∈ xs, ∃ y ∈ xs.foldl (fun acc x => Value.insert x acc) acc, y = x ∨ y.eqv x = true := by
  induction xs generalizing acc with
  | nil => exact ⟨List.Subset.refl acc, fun x hx => absurd hx List.not_mem_nil⟩
  | cons x xs ih =>
    obtain ⟨hold, y, hy, he⟩ := insert_covers x acc
    obtain ⟨hkept, hrest⟩ := ih (Value.insert x acc)
    exact ⟨fun z hz => hkept (hold hz), List.forall_mem_cons.2 ⟨⟨y, hkept hy, he⟩, hrest⟩⟩

theorem exists_mem_distinct {x : Value} (hx : x ∈ xs) : ∃ y ∈ Value.distinct xs, y = x ∨ y.eqv x = true :=
  (foldl_insert_covers xs []).2 x hx

theorem keeps_orderFrom (h : u.series? = some xs) : Kind.set.Keeps xs (u.orderFrom xs) := by
  have hordered : Kind.set.Keeps xs (slotOrder (Value.distinct xs)) := by
    have hperm := slotOrder_perm (Value.distinct xs)
    refine ⟨hperm.subperm.trans (distinct_sublist xs).subperm, fun x hx => ?_, fun h => absurd rfl h⟩
    obtain ⟨y, hy, he⟩ := exists_mem_distinct hx
    exact ⟨y, hperm.mem_iff.2 hy, he⟩
  cases u with
  | list | tuple => exact hordered
  | set => exact .of_perm (fun h => absurd rfl h) (copyOrder_perm xs)
  | _ => cases h

theorem elements_of_series (h : u.series? = some xs) : u.elements = .ok xs := by
  cases u with
  | list | tuple | set => exact congrArg Except.ok (Option.some.inj h)
  | _ => cases h

theorem cast_set_eq_ok (hu : u.series? = some xs) :
    Kind.set.cast u = .ok w ↔ (∀ x ∈ xs, x.unhashable? = none) ∧ w = .set (u.orderFrom xs) := by
  show (u.elements >>= fun xs => checkKeys xs >>= fun _ => Except.ok (Value.set (u.orderFrom xs))) = _ ↔ _
  rw [elements_of_series hu, ← checkKeys_iff]
  show (checkKeys xs >>= fun _ => Except.ok (Value.set (u.orderFrom xs))) = _ ↔ _
  cases checkKeys xs with
  | error e => exact ⟨fun h => (nomatch h), fun h => (nomatch h.1)⟩
  | ok => exact ⟨fun h => ⟨rfl, (Except.ok.inj h).symm⟩, fun h => congrArg Except.ok h.2.symm⟩

/-! ## containers -/

theorem series_wrapped (hk : k.isContainer = true) (h : k.cast (v.wrapped k) = .ok w) :
    (v.wrapped k).series? = some (v.series?.getD [v]) := by
  cases v with
  | kind j =>
    cases hj : j.isContainer with
    | true =>
      -- such a type is not wrapped, and has no elements
      have hwrapped : (Value.kind j).wrapped k = .kind j :=
        if_neg (by simp [Value.isWrapped, Value.isContainer, hj])
      rw [hwrapped] at h
      cases k <;> cases hk <;> cases h
    | false =>
      have hwrapped : (Value.kind j).wrapped k = .list [.kind j] :=
        if_pos (by simp [Value.isWrapped, Value.isContainer, hj, hk])
      rw [hwrapped]
      rfl
  | _ => cases k <;> cases hk <;> rfl

theorem cast_keeps (hk : k.isContainer = true) (hu : u.series? = some xs) (h : k.cast u = .ok w) :
    ∃ ys, w.elements? = some ys ∧ k.Keeps xs ys := by
  cases k with
  | list | tuple =>
    unfold Kind.cast at h
    rw [elements_of_series hu] at h
    obtain rfl := Except.ok.inj h
    exact ⟨xs, rfl, .of_perm (fun _ => rfl) (List.Perm.refl xs)⟩
  | set =>
    obtain ⟨-, rfl⟩ := (cast_set_eq_ok hu).1 h
    exact ⟨_, rfl, keeps_orderFrom hu⟩
  | _ => cases hk

/-! ## the second cast -/

theorem castPath_pureWindows (p : Path) :
    castPath .pureWindows (.path p) = .ok (.path (Path.ofParts .pureWindows p.parts)) :=
  congrArg (fun q => Except.ok (Value.path q)) (if_neg (by simp))

theorem castPath_pureWindows_eq_ok (h : castPath .pureWindows v = .ok w) :
    ∃ parts, w = .path (Path.ofParts .pureWindows parts) := by
  cases v with
  | path p => exact ⟨p.parts, Except.ok.inj (h.symm.trans (castPath_pureWindows p))⟩
  | text s => exact ⟨[s], (Except.ok.inj h).symm⟩
  | _ => cases h

theorem again_path_iff {p q : Path} : (Value.path p).Again (.path q) ↔ q = p := by
  constructor
  · rintro ⟨⟩
    rfl
  · rintro rfl
    exact .same _

/-- what a type has cast is cast again; only a drive path can come back as another value -/
theorem cast_cast (h : k.cast (v.wrapped k) = .ok w) : ∃ w', k.cast (w.wrapped k) = .ok w' ∧
    (w.Again w' ↔ (k = .path .pureWindows → ∀ p, w = .path p → p.Lasting)) := by
  by_cases hset : k = .set
  · subst hset
    have hu := series_wrapped rfl h
    obtain ⟨hkeys, rfl⟩ := (cast_set_eq_ok hu).1 h
    have hsubset := (keeps_orderFrom hu).some.subset
    refine ⟨_, (cast_set_eq_ok (u := .set _) rfl).2 ⟨fun x hx => hkeys x (hsubset hx), rfl⟩, ?_⟩
    exact ⟨fun _ e => (nomatch e), fun _ => .set (copyOrder_perm _)⟩
  by_cases hpath : k = .path .pureWindows
  · subst hpath
    obtain ⟨parts, rfl⟩ := castPath_pureWindows_eq_ok h
    have hkind := ofParts_kind .pureWindows parts
    have hnames := Path.isName_ofParts .pureWindows parts
    generalize Path.ofParts .pureWindows parts = p at hkind hnames
    refine ⟨_, castPath_pureWindows p, again_path_iff.trans ?_⟩
    rw [← hkind] at hnames ⊢
    rw [Path.reread_eq_iff hnames]
    exact ⟨fun h _ q e => Value.path.inj e ▸ h, fun h => h rfl p rfl⟩
  · exact ⟨w, (cast_makes h).cast_wrapped hset hpath, fun _ e => absurd e hpath, fun _ => .same w⟩

/-- **Casting twice.**  If a value other than nothing is cast for a field, then its cast value is cast again, and
the same value comes back, unless it is a drive path that does not last.  A list, a tuple or a set takes the
elements of a list, a tuple or a set, and any other value, also a text, as its only element. -/
theorem cast_again {s : Settings} {name : String} {k : Kind} {v w : Value}
    (hk : s.schema.kinds.lookup name = some k) (hv : v ≠ .null) (h : s.cast name v = .ok w) :
    (∃ w', s.cast name w = .ok w' ∧
      (w.Again w' ↔ (k = .path .pureWindows → ∀ p, w = .path p → p.Lasting))) ∧
    (k.isContainer = true →
      (v.series? = none → w.elements? = some [v]) ∧
      ∀ xs, v.series? = some xs → ∃ ys, w.elements? = some ys ∧ k.Keeps xs ys) := by
  have hcast : ∀ u, u ≠ .null → s.cast name u = k.cast (u.wrapped k) := by
    intro u hu
    rw [cast_of_ne_null hu, Schema.cast, hk]
  rw [hcast v hv] at h
  rw [hcast w (cast_makes h).ne_null]
  refine ⟨cast_cast h, fun hcontainer => ?_⟩
  obtain ⟨ys, hys, hkeeps⟩ := cast_keeps hcontainer (series_wrapped hcontainer h) h
  constructor
  · intro hnone
    rw [hnone] at hkeeps
    exact hkeeps.singleton ▸ hys
  · intro xs hxs
    rw [hxs] at hkeeps
    exact ⟨ys, hys, hkeeps⟩

/-- a directory is lost by the second cast -/
theorem cast_again_drive :
    (sampleSettings [("p", .path .pureWindows)] []).cast "p" (.text "a/c:b") =
      .ok (.path ⟨.pureWindows, "", "", ["a", "c:b"]⟩) ∧
    ∃ w', (sampleSettings [("p", .path .pureWindows)] []).cast "p"
        (.path ⟨.pureWindows, "", "", ["a", "c:b"]⟩) = .ok w' ∧
      ¬ (Value.path ⟨.pureWindows, "", "", ["a", "c:b"]⟩).Again w' := by
  have hpath : Path.ofText .pureWindows "a/c:b" = ⟨.pureWindows, "", "", ["a", "c:b"]⟩ := by decide +kernel
  have hcast : (sampleSettings [("p", .path .pureWindows)] []).cast "p" (.text "a/c:b") =
      .ok (.path ⟨.pureWindows, "", "", ["a", "c:b"]⟩) := congrArg (fun p => Except.ok (Value.path p)) hpath
  obtain ⟨⟨w', hw', hiff⟩, -⟩ := cast_again (k := .path .pureWindows) rfl (by rintro ⟨⟩) hcast
  refine ⟨hcast, w', hw', fun hagain => ?_⟩
  have hname := (hiff.1 hagain rfl _ rfl).names "c:b" (by simp)
  exact absurd hname (by decide +kernel)

end CommandLine
