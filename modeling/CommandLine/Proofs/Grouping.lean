import CommandLine.Binding.Keywords

/-!
# How arguments fall into groups

Grouping loses nothing and can be read back:

* `flatMap_args_groups`   the arguments of the groups are the arguments;
* `groups_flatMap_args`   well-formed groups are found again in their arguments;
* `groups_singles`        arguments of which none is a flag are single ones.

For a routine that knows none of the flags, sorting puts the single arguments in front (`sorted`) and
drops nothing.  A sorting that keeps the number of arguments is of this kind (`not_known_of_length`);
what it leaves is settled (`settled_left`), and a second one changes nothing, whatever names the next
routine knows (`left_of_settled`).
-/

namespace CommandLine.Binding

/-! ## cutting -/

theorem cutChars_append {c : Char} {xs : List Char} (h : c ∉ xs) (ys : List Char) :
    Text.cutChars c (xs ++ c :: ys) = some (xs, ys) := by
  induction xs with
  | nil => exact if_pos rfl
  | cons x xs ih =>
    have hx : x ≠ c := fun e => h (e ▸ List.mem_cons_self)
    rw [List.cons_append, Text.cutChars, if_neg hx, ih fun hm => h (List.mem_cons_of_mem x hm)]
    rfl

theorem cutChars_eq_none {c : Char} {xs : List Char} :
    Text.cutChars c xs = none ↔ c ∉ xs := by
  induction xs with
  | nil => simp [Text.cutChars]
  | cons x xs ih =>
    rw [Text.cutChars]
    by_cases hx : x = c
    · simp [hx]
    · rw [if_neg hx, Option.map_eq_none_iff, ih, List.mem_cons, not_or]
      exact (and_iff_right fun e => hx e.symm).symm

theorem cutChars_eq_some {c : Char} {xs a b : List Char} (h : Text.cutChars c xs = some (a, b)) :
    xs = a ++ c :: b ∧ c ∉ a := by
  induction xs generalizing a with
  | nil => cases h
  | cons x xs ih =>
    rw [Text.cutChars] at h
    by_cases hx : x = c
    · rw [if_pos hx] at h
      obtain ⟨rfl, rfl⟩ := Prod.mk.inj (Option.some.inj h)
      exact ⟨hx ▸ rfl, List.not_mem_nil⟩
    · rw [if_neg hx] at h
      obtain ⟨p, hp, he⟩ := Option.map_eq_some_iff.1 h
      obtain ⟨rfl, rfl⟩ := Prod.mk.inj he
      obtain ⟨hxs, hc⟩ := ih hp
      refine ⟨congrArg (x :: ·) hxs, ?_⟩
      rw [List.mem_cons, not_or]
      exact ⟨fun e => hx e.symm, hc⟩

theorem cutAt_append {c : Char} {sign : String} (hsign : sign.toList = [c]) {s : String}
    (h : c ∉ s.toList) (t : String) : Text.cutAt c (s ++ sign ++ t) = some (s, t) := by
  have hlist : (s ++ sign ++ t).toList = s.toList ++ c :: t.toList := by
    rw [String.toList_append, String.toList_append, List.append_assoc, hsign]
    rfl
  unfold Text.cutAt
  rw [hlist, cutChars_append h]
  show some (String.ofList s.toList, String.ofList t.toList) = _
  rw [String.ofList_toList, String.ofList_toList]

theorem cutAt_equals {s : String} (h : '=' ∉ s.toList) (t : String) :
    Text.cutAt '=' (s ++ "=" ++ t) = some (s, t) := cutAt_append rfl h t

theorem cutAt_eq_some {c : Char} {sign : String} (hsign : sign.toList = [c]) {s a b : String}
    (h : Text.cutAt c s = some (a, b)) : s = a ++ sign ++ b ∧ c ∉ a.toList := by
  obtain ⟨p, hp, he⟩ := Option.map_eq_some_iff.1 h
  obtain ⟨rfl, rfl⟩ := Prod.mk.inj he
  obtain ⟨hs, hc⟩ := cutChars_eq_some hp
  refine ⟨String.toList_inj.1 ?_, by rwa [String.toList_ofList]⟩
  simp only [hs, hsign, String.toList_append, String.toList_ofList, List.append_assoc]
  rfl

theorem cutAt_equals_eq_some {s a b : String} (h : Text.cutAt '=' s = some (a, b)) :
    s = a ++ "=" ++ b ∧ '=' ∉ a.toList := cutAt_eq_some rfl h

theorem cutAt_eq_none {c : Char} {s : String} : Text.cutAt c s = none ↔ c ∉ s.toList := by
  unfold Text.cutAt
  rw [Option.map_eq_none_iff, cutChars_eq_none]

/-! ## flags -/

theorem dashes_equals (name v : String) :
    "--" ++ name ++ "=" ++ v = "--" ++ (name ++ "=" ++ v) := by
  rw [String.append_assoc, String.append_assoc, String.append_assoc]

theorem isFlag_dashes (s : String) : isFlag ("--" ++ s) = true := by
  unfold isFlag Text.startsWith
  rw [String.toList_append]
  exact List.isPrefixOf_iff_prefix.2 (List.prefix_append _ _)

theorem flagBody_dashes (s : String) : flagBody ("--" ++ s) = s := by
  unfold flagBody Text.dropChars
  rw [String.toList_append]
  show String.ofList s.toList = s
  exact String.ofList_toList

theorem dashes_flagBody {a : String} (h : isFlag a = true) : "--" ++ flagBody a = a := by
  obtain ⟨cs, hcs⟩ := List.isPrefixOf_iff_prefix.1 h
  have ha : a = "--" ++ String.ofList cs := by
    refine String.toList_inj.1 ?_
    rw [← hcs, String.toList_append]
    exact congrArg _ String.toList_ofList.symm
  rw [ha, flagBody_dashes]

/-! ## well-formed groups -/

def Group.isSingle : Group → Bool
  | .single _ => true
  | .flag .. => false

/-- can the group be told from its arguments? -/
def Group.Proper : Group → Prop
  | .single a => isFlag a = false
  | .flag name (.inline _) => '=' ∉ name.toList
  | .flag name .bare => '=' ∉ name.toList
  | .flag name (.next v) => '=' ∉ name.toList ∧ isFlag v = false

/-- a bare flag would take a single argument behind it -/
def Group.Apart : Group → List Group → Prop
  | .flag _ .bare, h :: _ => h.isSingle = false
  | _, _ => True

def WellFormed : List Group → Prop
  | [] => True
  | g :: gs => g.Proper ∧ g.Apart gs ∧ WellFormed gs

theorem groups_single {a : String} (h : isFlag a = false) (rest : List String) :
    groups (a :: rest) = .single a :: groups rest := by
  rw [groups.eq_def]
  simp only [h, Bool.false_eq_true, if_false]

theorem groups_inline {name : String} (h : '=' ∉ name.toList) (v : String) (rest : List String) :
    groups (("--" ++ name ++ "=" ++ v) :: rest) = .flag name (.inline v) :: groups rest := by
  rw [groups.eq_def, dashes_equals]
  simp only [isFlag_dashes, flagBody_dashes, cutAt_equals h, if_true]

theorem groups_next {name v : String} (h : '=' ∉ name.toList) (hv : isFlag v = false)
    (rest : List String) :
    groups (("--" ++ name) :: v :: rest) = .flag name (.next v) :: groups rest := by
  rw [groups.eq_def]
  simp only [isFlag_dashes, flagBody_dashes, cutAt_eq_none.2 h, hv, Bool.false_eq_true, if_true,
    if_false]

theorem groups_bare {name : String} (h : '=' ∉ name.toList) {rest : List String}
    (hrest : ∀ b ∈ rest.head?, isFlag b = true) :
    groups (("--" ++ name) :: rest) = .flag name .bare :: groups rest := by
  rw [groups.eq_def]
  simp only [isFlag_dashes, flagBody_dashes, cutAt_eq_none.2 h, if_true]
  cases rest with
  | nil => rfl
  | cons b rest => simp only [hrest b rfl, if_true]

theorem isFlag_head_args {g : Group} (h : g.isSingle = false) (ws : List String) :
    ∀ b ∈ (g.args ++ ws).head?, isFlag b = true := by
  cases g with
  | single a => cases h
  | flag name value =>
    cases value <;> rintro b ⟨⟩
    · rw [dashes_equals]
      exact isFlag_dashes _
    · exact isFlag_dashes _
    · exact isFlag_dashes _

theorem groups_flatMap_args {gs : List Group} (h : WellFormed gs) :
    groups (gs.flatMap Group.args) = gs := by
  induction gs with
  | nil => rfl
  | cons g gs ih =>
    obtain ⟨hg, hapart, hgs⟩ := h
    rw [List.flatMap_cons]
    cases g with
    | single a => exact (groups_single hg _).trans (congrArg _ (ih hgs))
    | flag name value =>
      cases value with
      | inline v => exact (groups_inline hg v _).trans (congrArg _ (ih hgs))
      | next v => exact (groups_next hg.1 hg.2 _).trans (congrArg _ (ih hgs))
      | bare =>
        refine (groups_bare hg ?_).trans (congrArg _ (ih hgs))
        cases gs with
        | nil => rintro b ⟨⟩
        | cons g' gs =>
          rw [List.flatMap_cons]
          exact isFlag_head_args hapart _

/-- the arguments of the groups are the arguments, and the groups are well-formed -/
theorem groups_spec (ws : List String) :
    (groups ws).flatMap Group.args = ws ∧ WellFormed (groups ws) := by
  fun_induction groups ws with
  | case1 => exact ⟨rfl, trivial⟩
  | case2 a rest ha name v hcut ih =>
    obtain ⟨hbody, hname⟩ := cutAt_equals_eq_some hcut
    refine ⟨?_, hname, trivial, ih.2⟩
    rw [List.flatMap_cons, ih.1]
    show ("--" ++ name ++ "=" ++ v) :: rest = _
    rw [dashes_equals, ← hbody, dashes_flagBody ha]
  | case3 a ha hcut =>
    refine ⟨?_, cutAt_eq_none.1 hcut, trivial, trivial⟩
    show ["--" ++ flagBody a] = _
    rw [dashes_flagBody ha]
  | case4 a ha hcut b rest hb ih =>
    refine ⟨?_, cutAt_eq_none.1 hcut, ?_, ih.2⟩
    · rw [List.flatMap_cons, ih.1]
      show ("--" ++ flagBody a) :: b :: rest = _
      rw [dashes_flagBody ha]
    · cases hgs : groups (b :: rest) with
      | nil => trivial
      | cons g gs =>
        cases g with
        | flag name value => rfl
        | single c =>
          -- the first group would be `b`, which is a flag
          rw [hgs] at ih
          obtain rfl : c = b := (List.cons.inj ih.1).1
          have hc : isFlag c = false := ih.2.1
          rw [hc] at hb
          cases hb
  | case5 a ha hcut b rest hb ih =>
    refine ⟨?_, ⟨cutAt_eq_none.1 hcut, Bool.eq_false_iff.2 hb⟩, trivial, ih.2⟩
    rw [List.flatMap_cons, ih.1]
    show ("--" ++ flagBody a) :: b :: rest = _
    rw [dashes_flagBody ha]
  | case6 a rest ha ih =>
    refine ⟨?_, Bool.eq_false_iff.2 ha, trivial, ih.2⟩
    rw [List.flatMap_cons, ih.1]
    rfl

theorem flatMap_args_groups (ws : List String) : (groups ws).flatMap Group.args = ws :=
  (groups_spec ws).1

theorem groups_singles {ws : List String} (h : ∀ a ∈ ws, isFlag a = false) :
    groups ws = ws.map .single := by
  induction ws with
  | nil => rfl
  | cons a ws ih =>
    rw [groups_single (h a List.mem_cons_self), ih fun b hb => h b (List.mem_cons_of_mem a hb)]
    rfl

/-! ## sorting -/

def Group.known (params : List String) (anyName : Bool) : Group → Bool
  | .single _ => false
  | .flag name value => params.contains (flagEntry params name value).1 || anyName

def Group.unknown (params : List String) (anyName : Bool) (g : Group) : Bool :=
  !g.isSingle && !g.known params anyName

def Keywords.left (k : Keywords) : List String := k.rest ++ k.unknown

section
variable {params : List String} {anyName : Bool}

theorem add_rest (k : Keywords) (g : Group) :
    (k.add params anyName g).rest = k.rest ++ if g.isSingle then g.args else [] := by
  cases g with
  | single a => rfl
  | flag name value =>
    simp only [Keywords.add, Group.isSingle, Bool.false_eq_true, if_false, List.append_nil]
    split <;> rfl

theorem add_unknown (k : Keywords) (g : Group) :
    (k.add params anyName g).unknown =
      k.unknown ++ if g.unknown params anyName then g.args else [] := by
  cases g with
  | single a => exact (List.append_nil _).symm
  | flag name value =>
    simp only [Keywords.add, Group.unknown, Group.isSingle, Group.known, Bool.not_false,
      Bool.true_and]
    cases params.contains (flagEntry params name value).1 || anyName with
    | true => exact (List.append_nil _).symm
    | false => rfl

theorem add_named_of_not_known {k : Keywords} {g : Group} (h : g.known params anyName = false) :
    (k.add params anyName g).named = k.named := by
  cases g with
  | single a => rfl
  | flag name value =>
    have h' : (params.contains (flagEntry params name value).1 || anyName) = false := h
    simp only [Keywords.add, h', Bool.false_eq_true, if_false]

theorem foldl_rest (gs : List Group) (k : Keywords) :
    (gs.foldl (Keywords.add params anyName) k).rest =
      k.rest ++ (gs.filter Group.isSingle).flatMap Group.args := by
  induction gs generalizing k with
  | nil => exact (List.append_nil _).symm
  | cons g gs ih =>
    rw [List.foldl_cons, ih, add_rest, List.filter_cons]
    split <;> simp

theorem foldl_unknown (gs : List Group) (k : Keywords) :
    (gs.foldl (Keywords.add params anyName) k).unknown =
      k.unknown ++ (gs.filter (Group.unknown params anyName)).flatMap Group.args := by
  induction gs generalizing k with
  | nil => exact (List.append_nil _).symm
  | cons g gs ih =>
    rw [List.foldl_cons, ih, add_unknown, List.filter_cons]
    split <;> simp

theorem foldl_named_of_not_known {gs : List Group} (h : ∀ g ∈ gs, g.known params anyName = false)
    (k : Keywords) : (gs.foldl (Keywords.add params anyName) k).named = k.named := by
  induction gs generalizing k with
  | nil => rfl
  | cons g gs ih =>
    rw [List.foldl_cons, ih fun g' hg' => h g' (List.mem_cons_of_mem g hg'),
      add_named_of_not_known (h g List.mem_cons_self)]

theorem left_of (ws : List String) :
    (Keywords.of params anyName ws).left =
      ((groups ws).filter Group.isSingle ++
        (groups ws).filter (Group.unknown params anyName)).flatMap Group.args := by
  unfold Keywords.left Keywords.of
  rw [foldl_rest, foldl_unknown, List.flatMap_append]
  rfl

theorem mem_of_mem_left {ws : List String} {a : String}
    (h : a ∈ (Keywords.of params anyName ws).left) : a ∈ ws := by
  rw [left_of] at h
  obtain ⟨g, hg, ha⟩ := List.mem_flatMap.1 h
  rw [← flatMap_args_groups ws]
  refine List.mem_flatMap.2 ⟨g, ?_, ha⟩
  rcases List.mem_append.1 hg with hg | hg <;> exact (List.mem_filter.1 hg).1

theorem length_args_pos (g : Group) : 0 < g.args.length := by
  cases g with
  | single a => exact Nat.one_pos
  | flag name value => cases value <;> exact Nat.succ_pos _

theorem not_known_of_isSingle {g : Group} (h : g.isSingle = true) :
    g.known params anyName = false := by
  cases g with
  | single a => rfl
  | flag name value => cases h

theorem length_kinds (params : List String) (anyName : Bool) (gs : List Group) :
    ((gs.filter Group.isSingle ++ gs.filter (Group.unknown params anyName)).flatMap
        Group.args).length + ((gs.filter (Group.known params anyName)).flatMap Group.args).length =
      (gs.flatMap Group.args).length := by
  induction gs with
  | nil => rfl
  | cons g gs ih =>
    simp only [List.flatMap_append, List.length_append] at ih
    cases hs : g.isSingle with
    | true =>
      simp only [List.filter_cons, Group.unknown, hs, not_known_of_isSingle hs,
        List.flatMap_append, List.flatMap_cons, List.length_append, Bool.not_true, Bool.false_and,
        Bool.false_eq_true, if_true, if_false]
      omega
    | false =>
      cases hk : g.known params anyName <;>
        simp only [List.filter_cons, Group.unknown, hs, hk, List.flatMap_append, List.flatMap_cons,
          List.length_append, Bool.not_true, Bool.not_false, Bool.and_true, Bool.and_false,
          Bool.false_eq_true, if_true, if_false] <;>
        omega

theorem length_left_le (ws : List String) :
    (Keywords.of params anyName ws).left.length ≤ ws.length := by
  have h := length_kinds params anyName (groups ws)
  rw [flatMap_args_groups, ← left_of] at h
  omega

/-- the single groups in front -/
def sorted (gs : List Group) : List Group :=
  gs.filter Group.isSingle ++ gs.filter fun g => !g.isSingle

/-- a sorting that keeps the number of arguments knows none of the flags -/
theorem not_known_of_length {ws : List String}
    (h : (Keywords.of params anyName ws).left.length = ws.length) :
    ∀ g ∈ groups ws, g.known params anyName = false := by
  have hall := length_kinds params anyName (groups ws)
  rw [flatMap_args_groups, ← left_of, h] at hall
  have hnone : ((groups ws).filter (Group.known params anyName)).flatMap Group.args = [] :=
    List.eq_nil_of_length_eq_zero (by omega)
  intro g hg
  cases hknown : g.known params anyName with
  | false => rfl
  | true =>
    have hargs := List.flatMap_eq_nil_iff.1 hnone g (List.mem_filter.2 ⟨hg, hknown⟩)
    exact absurd (length_args_pos g) (by rw [hargs]; exact Nat.lt_irrefl 0)

theorem left_eq_of_not_known {ws : List String}
    (h : ∀ g ∈ groups ws, g.known params anyName = false) :
    (Keywords.of params anyName ws).left = (sorted (groups ws)).flatMap Group.args := by
  rw [left_of]
  unfold sorted
  congr 2
  refine List.filter_congr fun g hg => ?_
  rw [Group.unknown, h g hg, Bool.not_false, Bool.and_true]

theorem named_eq_of_not_known {ws : List String}
    (h : ∀ g ∈ groups ws, g.known params anyName = false) :
    (Keywords.of params anyName ws).named = [] :=
  foldl_named_of_not_known h {}

end

/-! ### sorting twice -/

theorem proper_of_wellFormed {gs : List Group} (h : WellFormed gs) : ∀ g ∈ gs, g.Proper := by
  induction gs with
  | nil => exact fun g hg => absurd hg List.not_mem_nil
  | cons g gs ih => exact List.forall_mem_cons.2 ⟨h.1, ih h.2.2⟩

theorem wellFormed_of_flags {gs : List Group} (hproper : ∀ g ∈ gs, g.Proper)
    (hflags : ∀ g ∈ gs, g.isSingle = false) : WellFormed gs := by
  induction gs with
  | nil => trivial
  | cons g gs ih =>
    rw [List.forall_mem_cons] at hproper hflags
    refine ⟨hproper.1, ?_, ih hproper.2 hflags.2⟩
    cases gs with
    | nil => unfold Group.Apart; split <;> trivial
    | cons h gs =>
      have hh : h.isSingle = false := hflags.2 h List.mem_cons_self
      unfold Group.Apart
      split
      · rename_i heq
        exact (List.cons.inj heq).1 ▸ hh
      · trivial

theorem wellFormed_append {ss gs : List Group} (hproper : ∀ g ∈ ss, g.Proper)
    (hsingle : ∀ g ∈ ss, g.isSingle = true) (hgs : WellFormed gs) : WellFormed (ss ++ gs) := by
  induction ss with
  | nil => exact hgs
  | cons g ss ih =>
    rw [List.forall_mem_cons] at hproper hsingle
    refine ⟨hproper.1, ?_, ih hproper.2 hsingle.2⟩
    cases g with
    | single a => trivial
    | flag name value => cases hsingle.1

theorem wellFormed_sorted {gs : List Group} (h : WellFormed gs) : WellFormed (sorted gs) := by
  have hproper := proper_of_wellFormed h
  refine wellFormed_append (fun g hg => hproper g (List.mem_filter.1 hg).1)
    (fun g hg => (List.mem_filter.1 hg).2)
    (wellFormed_of_flags (fun g hg => hproper g (List.mem_filter.1 hg).1) fun g hg => ?_)
  simpa using (List.mem_filter.1 hg).2

/-- do the single arguments stand in front of all flags? -/
def Settled (ws : List String) : Prop := sorted (groups ws) = groups ws

theorem sorted_sorted (gs : List Group) : sorted (sorted gs) = sorted gs := by
  have hempty : gs.filter (fun _ => false) = [] :=
    List.filter_eq_nil_iff.2 fun _ _ => Bool.false_ne_true
  simp [sorted, List.filter_append, List.filter_filter, hempty]

section
variable {params : List String} {anyName : Bool} {ws : List String}

theorem settled_left (h : (Keywords.of params anyName ws).left.length = ws.length) :
    Settled (Keywords.of params anyName ws).left := by
  rw [left_eq_of_not_known (not_known_of_length h)]
  unfold Settled
  rw [groups_flatMap_args (wellFormed_sorted (groups_spec ws).2), sorted_sorted]

theorem left_of_settled (hws : Settled ws)
    (h : (Keywords.of params anyName ws).left.length = ws.length) :
    (Keywords.of params anyName ws).left = ws := by
  rw [left_eq_of_not_known (not_known_of_length h), hws, flatMap_args_groups]

/-! ### arguments without flags -/

theorem foldl_singles (ws : List String) (k : Keywords) :
    (ws.map Group.single).foldl (Keywords.add params anyName) k =
      { k with rest := k.rest ++ ws } := by
  induction ws generalizing k with
  | nil => rw [List.append_nil]; rfl
  | cons a ws ih =>
    rw [List.map_cons, List.foldl_cons, ih]
    simp only [Keywords.add, List.append_assoc, List.singleton_append]

theorem keywords_of_singles (h : ∀ a ∈ ws, isFlag a = false) :
    Keywords.of params anyName ws = { rest := ws } := by
  unfold Keywords.of
  rw [groups_singles h, foldl_singles]
  rfl

end

end CommandLine.Binding
