import CommandLine.Proofs.SortedArguments

/-!
# Arguments in two parts

A list of arguments can be cut in front of a flag and sorted in parts.  The end of a part and a flag behind
it mean the same to a bare flag, so the groups of the parts are those of the whole (`groups_append`).  Names
of the second part overwrite those of the first and keep their places (`update_putName`).

* `sorted_append`  the whole is sorted into what its parts are sorted into, joined.
-/

namespace CommandLine

/-! ## dictionaries that are overwritten -/

/-- puts the entries in, one after the other -/
def update {α : Type} (es more : List (String × α)) : List (String × α) :=
  more.foldl (fun acc e => putName e.1 e.2 acc) es

section
variable {α : Type} {k n : String} {es : List (String × α)}

theorem update_cons (e : String × α) (more : List (String × α)) :
    update es (e :: more) = update (putName e.1 e.2 es) more := rfl

theorem lookup_update (es more : List (String × α)) (n : String) :
    (update es more).lookup n = (more.reverse.lookup n).or (es.lookup n) := by
  induction more generalizing es with
  | nil => rfl
  | cons e more ih =>
    rw [update_cons, ih, lookup_putName, List.reverse_cons, List.lookup_append, lookup_cons_name,
      Option.or_assoc]
    split <;> rfl

theorem putName_putName (u v : α) : putName k v (putName k u es) = putName k v es := by
  induction es with
  | nil => simp [putName]
  | cons e es ih =>
    simp only [putName]
    by_cases he : e.1 = k
    · simp [putName, he]
    · simp [putName, he, ih]

theorem putName_comm (hmem : k ∈ es.map (·.1)) (hne : n ≠ k) (u v : α) :
    putName k v (putName n u es) = putName n u (putName k v es) := by
  induction es with
  | nil => cases hmem
  | cons e es ih =>
    simp only [putName]
    by_cases hk : e.1 = k
    · simp [putName, hk, hne.symm]
    · have htail : k ∈ es.map (·.1) := (List.mem_cons.1 hmem).resolve_left fun h => hk h.symm
      by_cases hn : e.1 = n
      · simp [putName, hn, hne]
      · simp [putName, hk, hn, ih htail]

theorem update_putName_of_mem {more : List (String × α)} (hmem : k ∈ es.map (·.1))
    (hnot : k ∉ more.map (·.1)) (v : α) : update (putName k v es) more = putName k v (update es more) := by
  induction more generalizing es with
  | nil => rfl
  | cons e more ih =>
    rw [List.map_cons, List.mem_cons, not_or] at hnot
    have hplace : k ∈ (putName e.1 e.2 es).map (·.1) := by
      rw [putName_names]
      split
      · exact hmem
      · exact List.mem_append_left _ hmem
    rw [update_cons, update_cons, ← putName_comm hmem (Ne.symm hnot.1), ih hplace hnot.2]

theorem update_putName {more : List (String × α)} (hnodup : (more.map (·.1)).Nodup)
    (es : List (String × α)) (k : String) (v : α) :
    update es (putName k v more) = putName k v (update es more) := by
  induction more generalizing es with
  | nil => rfl
  | cons e more ih =>
    obtain ⟨hnot, htail⟩ := List.nodup_cons.1 hnodup
    simp only [putName]
    split
    · rename_i he
      subst he
      have hmem : e.1 ∈ (putName e.1 e.2 es).map (·.1) := by
        rw [putName_names]
        split
        · assumption
        · exact List.mem_append_right _ List.mem_cons_self
      rw [update_cons, update_cons, ← update_putName_of_mem hmem hnot, putName_putName]
    · rw [update_cons, update_cons, ih htail]

end

namespace Binding

/-! ## groups of two parts -/

/-- the first argument of the second part is a flag, or there is none -/
theorem Splits.append {xs ys : List String} {gs hs : List Group} (hx : Splits xs gs) (hy : Splits ys hs)
    (hflag : ∀ y ∈ ys.head?, isFlag y = true) : Splits (xs ++ ys) (gs ++ hs) := by
  induction hx with
  | nil => exact hy
  | single ha _ ih => exact .single ha ih
  | inline hname _ ih => exact .inline hname ih
  | next hname hv _ ih => exact .next hname hv ih
  | @bare name args gs hname hnext _ ih =>
    refine .bare hname ?_ ih
    cases args with
    | nil => exact hflag
    | cons b args => exact hnext

theorem groups_append {xs ys : List String} (hflag : ∀ y ∈ ys.head?, isFlag y = true) :
    groups (xs ++ ys) = groups xs ++ groups ys :=
  groups_of_splits ((splits_groups xs).append (splits_groups ys) hflag)

/-! ## sorting two parts -/

/-- what two parts are sorted into, put together: names of the second overwrite those of the first -/
def Keywords.join (k l : Keywords) : Keywords where
  named := update k.named l.named
  unknown := k.unknown ++ l.unknown
  rest := k.rest ++ l.rest

section
variable {params : List String} {anyName : Bool} {k l : Keywords}

theorem join_add (hnodup : (l.named.map (·.1)).Nodup) (g : Group) :
    (k.join l).add params anyName g = k.join (l.add params anyName g) := by
  cases g with
  | single a => simp only [Keywords.join, Keywords.add, List.append_assoc]
  | flag name value =>
    simp only [Keywords.join, Keywords.add]
    split
    · simp only [update_putName hnodup]
    · simp only [List.append_assoc]

theorem join_foldl (gs : List Group) (hnodup : (l.named.map (·.1)).Nodup) :
    gs.foldl (Keywords.add params anyName) (k.join l) =
      k.join (gs.foldl (Keywords.add params anyName) l) := by
  induction gs generalizing l with
  | nil => rfl
  | cons g gs ih =>
    have htail : ((l.add params anyName g).named.map (·.1)).Nodup := nodup_foldl_named [g] hnodup
    rw [List.foldl_cons, List.foldl_cons, join_add hnodup, ih htail]

end

/-- **Arguments can be cut in front of a flag.**  If the second part is empty or begins with a flag, both parts
together give the names of the first overwritten with those of the second, and the unknown flags and the single
arguments of the first before those of the second. -/
theorem sorted_append (params : List String) (anyName : Bool) (xs ys : List String)
    (hflag : ∀ y ∈ ys.head?, isFlag y = true) :
    Keywords.of params anyName (xs ++ ys) =
      (Keywords.of params anyName xs).join (Keywords.of params anyName ys) := by
  have hempty : (Keywords.of params anyName xs).join {} = Keywords.of params anyName xs := by
    simp [Keywords.join, update]
  calc Keywords.of params anyName (xs ++ ys)
      = (groups ys).foldl (Keywords.add params anyName) (Keywords.of params anyName xs) := by
        unfold Keywords.of
        rw [groups_append hflag, List.foldl_append]
    _ = (groups ys).foldl (Keywords.add params anyName) ((Keywords.of params anyName xs).join {}) := by
        rw [hempty]
    _ = (Keywords.of params anyName xs).join (Keywords.of params anyName ys) :=
        join_foldl (groups ys) List.nodup_nil

/-- the bare flag `--c` at the end of the first part stays bare, and both names keep their places -/
theorem sorted_append_sample :
    (∀ y ∈ ["--noc", "--a_b", "2", "x"].head?, isFlag y = true) ∧
    Keywords.of ["a_b", "c"] false (["--a-b", "1", "y", "--z=1", "--c"] ++ ["--noc", "--a_b", "2", "x"]) =
      { named := [("a_b", "2"), ("c", "False")], unknown := ["--z=1"], rest := ["y"] ++ ["x"] } := by
  have hflag : ∀ y ∈ ["--noc", "--a_b", "2", "x"].head?, isFlag y = true := by
    rintro y ⟨⟩
    decide
  refine ⟨hflag, ?_⟩
  rw [sorted_append _ _ _ _ hflag]
  decide

end Binding

end CommandLine
