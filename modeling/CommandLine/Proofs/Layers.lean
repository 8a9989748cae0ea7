import CommandLine.Config.Configuration
import CommandLine.Config.Sources

/-!
# The first layer wins

`merged` lists every name that some layer knows, with the value of the first layer that knows it.
Here the list is read back: looking a name up in it is asking the layers in turn (`lookup_merged`),
and its names are those of the layers (`merged_names`, `mem_namesIn`).  The same is said of the
dictionary that is made of it (`record_entry`), which is what stands behind a draft.
-/

namespace CommandLine

/-! ## names of layers -/

theorem lookup_cons_name {α : Type} (k : String) (v : α) (es : List (String × α)) (n : String) :
    ((k, v) :: es).lookup n = if n = k then some v else es.lookup n := by
  rw [List.lookup_cons]
  by_cases e : n = k
  · rw [if_pos e, e, beq_self_eq_true]
  · rw [if_neg e, beq_false_of_ne e]

theorem firstIn_cons (l : Layer) (layers : List Layer) (n : String) :
    firstIn (l :: layers) n = (l.lookup n).or (firstIn layers n) := by
  unfold firstIn
  rw [List.findSome?_cons]
  cases l.lookup n <;> rfl

theorem mem_names_iff_lookup {α : Type} (l : List (String × α)) (n : String) :
    n ∈ l.map (·.1) ↔ (l.lookup n).isSome = true := by
  rw [List.lookup_isSome_iff, List.mem_map]
  constructor
  · rintro ⟨p, hp, rfl⟩
    exact ⟨p, hp, beq_self_eq_true _⟩
  · rintro ⟨p, hp, e⟩
    exact ⟨p, hp, (eq_of_beq e).symm⟩

theorem lookup_of_mem {α : Type} {l : List (String × α)} (h : (l.map (·.1)).Nodup) {n : String}
    {v : α} (hm : (n, v) ∈ l) : l.lookup n = some v := by
  induction l with
  | nil => cases hm
  | cons p l ih =>
    obtain ⟨k, u⟩ := p
    obtain ⟨hk, hl⟩ := List.nodup_cons.1 h
    rw [lookup_cons_name]
    rcases List.mem_cons.1 hm with e | hm
    · obtain ⟨rfl, rfl⟩ := Prod.mk.inj e
      rw [if_pos rfl]
    · have hne : n ≠ k := fun e => hk (List.mem_map.2 ⟨(n, v), hm, e⟩)
      rw [if_neg hne]
      exact ih hl hm

theorem mem_of_lookup {α : Type} {l : List (String × α)} {n : String} {v : α}
    (h : l.lookup n = some v) : (n, v) ∈ l := by
  obtain ⟨front, behind, rfl, -⟩ := List.lookup_eq_some_iff.1 h
  exact List.mem_append_right front List.mem_cons_self

theorem lookup_filter_names {α : Type} (keep : String → Bool) (es : List (String × α)) {q : String}
    (hq : keep q = true) : (es.filter fun e => keep e.1).lookup q = es.lookup q := by
  induction es with
  | nil => rfl
  | cons e es ih =>
    by_cases he : keep e.1 = true
    · rw [List.filter_cons, if_pos he, lookup_cons_name, lookup_cons_name, ih]
    · have hne : q ≠ e.1 := fun h => he (h ▸ hq)
      rw [List.filter_cons, if_neg he, lookup_cons_name, if_neg hne, ih]

theorem lookup_map_values {α β : Type} (g : α → β) (es : List (String × α)) (n : String) :
    (es.map fun e => (e.1, g e.2)).lookup n = (es.lookup n).map g := by
  induction es with
  | nil => rfl
  | cons e es ih =>
    rw [List.map_cons, lookup_cons_name, lookup_cons_name, ih]
    split <;> rfl

theorem mem_namesIn (layers : List Layer) (n : String) :
    n ∈ namesIn layers ↔ (firstIn layers n).isSome = true := by
  unfold namesIn firstIn
  rw [List.mem_eraseDups, List.mem_flatMap, List.findSome?_isSome_iff]
  constructor
  · rintro ⟨l, hl, hn⟩
    exact ⟨l, List.mem_reverse.1 hl, (mem_names_iff_lookup l n).1 hn⟩
  · rintro ⟨l, hl, hn⟩
    exact ⟨l, List.mem_reverse.2 hl, (mem_names_iff_lookup l n).2 hn⟩

/-! ## the merged layers -/

theorem lookup_filterMap_names (g : String → Option Value) (names : List String) (n : String) :
    (names.filterMap fun m => (g m).map (m, ·)).lookup n = if n ∈ names then g n else none := by
  induction names with
  | nil => rfl
  | cons m names ih =>
    rw [List.filterMap_cons]
    by_cases e : n = m
    · subst e
      cases hg : g n with
      | none => simp [hg, ih]
      | some v => simp
    · cases hg : g m with
      | none => simp [ih, e]
      | some v => simp [lookup_cons_name, ih, e]

/-- looking a name up in the merged layers is asking the layers in turn -/
theorem lookup_merged (layers : List Layer) (n : String) :
    (merged layers).lookup n = firstIn layers n := by
  unfold merged
  rw [lookup_filterMap_names]
  by_cases h : n ∈ namesIn layers
  · rw [if_pos h]
  · rw [if_neg h]
    have hn : ¬ (firstIn layers n).isSome = true := fun hs => h ((mem_namesIn layers n).2 hs)
    exact (Option.not_isSome_iff_eq_none.1 hn).symm

theorem merged_names (layers : List Layer) : (merged layers).map (·.1) = namesIn layers := by
  have keep : ∀ names : List String, (∀ n ∈ names, n ∈ namesIn layers) →
      (names.filterMap fun n => (firstIn layers n).map (n, ·)).map (·.1) = names := by
    intro names
    induction names with
    | nil => intro _; rfl
    | cons n names ih =>
      intro h
      obtain ⟨v, hv⟩ := Option.isSome_iff_exists.1 ((mem_namesIn layers n).1 (h n (by simp)))
      rw [List.filterMap_cons, hv]
      show n :: _ = n :: names
      rw [ih (fun m hm => h m (by simp [hm]))]
  exact keep (namesIn layers) (fun n hn => hn)

/-! ## dictionaries of names -/

theorem eqv_text (s t : String) : (Value.text s).eqv (.text t) = decide (s = t) := by
  rw [Value.eqv]

theorem record_entry (es : List (String × Value)) (n : String) :
    Value.entry? (Value.record es) n = es.lookup n := by
  show (List.find? (fun e => e.1.eqv (.text n)) (es.map fun e => (Value.text e.1, e.2))).map (·.2)
    = es.lookup n
  induction es with
  | nil => rfl
  | cons p es ih =>
    obtain ⟨k, v⟩ := p
    rw [List.map_cons, lookup_cons_name]
    by_cases e : n = k
    · subst e
      rw [List.find?_cons_of_pos (by rw [eqv_text]; simp), if_pos rfl]
      rfl
    · have hk : ¬ k = n := fun h => e h.symm
      rw [List.find?_cons_of_neg (by rw [eqv_text]; simpa using hk), if_neg e]
      exact ih

theorem elements_record (es : List (String × Value)) :
    (Value.record es).elements = .ok ((es.map (·.1)).map .text) := by
  show Except.ok ((es.map fun e => (Value.text e.1, e.2)).map (·.1)) = _
  rw [List.map_map, List.map_map]
  rfl

end CommandLine
