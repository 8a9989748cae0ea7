import CommandLine.Proofs.Drafts
import CommandLine.Proofs.Schemas
import CommandLine.Proofs.TakenWords

/-!
# Sorting loses no argument

`Splits` says, argument by argument, how a list of arguments falls into groups, and `Stands` which name
and text a flag stands for.  Both are rules on their own: `splits_iff` and `stands_flag_iff` tie them to
the functions that cut and sort.

* `splits_iff`          the rules cut every list of arguments, in one way only;
* `lookup_foldl_named`  of the groups that give a name a text the last one counts;
* `sorted_by_groups`    single arguments, refused flags and named values, each read off the groups.
-/

namespace CommandLine.Binding

/-! ## how arguments fall into groups -/

/-- the arguments fall into these groups, from left to right -/
inductive Splits : List String → List Group → Prop where
  | nil : Splits [] []
  /-- an argument that is no flag stands alone -/
  | single {a : String} {args : List String} {gs : List Group} (hflag : isFlag a = false)
      (h : Splits args gs) : Splits (a :: args) (.single a :: gs)
  /-- so does a flag with an equals sign -/
  | inline {name v : String} {args : List String} {gs : List Group} (hname : '=' ∉ name.toList)
      (h : Splits args gs) :
      Splits (("--" ++ name ++ "=" ++ v) :: args) (.flag name (.inline v) :: gs)
  /-- and a flag that is the last argument or has a flag behind it -/
  | bare {name : String} {args : List String} {gs : List Group} (hname : '=' ∉ name.toList)
      (hnext : ∀ b ∈ args.head?, isFlag b = true) (h : Splits args gs) :
      Splits (("--" ++ name) :: args) (.flag name .bare :: gs)
  /-- any other flag goes with the argument behind it -/
  | next {name v : String} {args : List String} {gs : List Group} (hname : '=' ∉ name.toList)
      (hv : isFlag v = false) (h : Splits args gs) :
      Splits (("--" ++ name) :: v :: args) (.flag name (.next v) :: gs)

theorem groups_of_splits {args : List String} {gs : List Group} (h : Splits args gs) :
    groups args = gs := by
  induction h with
  | nil => rfl
  | single hflag _ ih => rw [groups_single hflag, ih]
  | inline hname _ ih => rw [groups_inline hname, ih]
  | bare hname hnext _ ih => rw [groups_bare hname hnext, ih]
  | next hname hv _ ih => rw [groups_next hname hv, ih]

theorem splits_of_wellFormed {gs : List Group} (h : WellFormed gs) :
    Splits (gs.flatMap Group.args) gs := by
  induction gs with
  | nil => exact .nil
  | cons g gs ih =>
    obtain ⟨hg, hapart, hgs⟩ := h
    have hrest := ih hgs
    rw [List.flatMap_cons]
    cases g with
    | single a => exact .single hg hrest
    | flag name value =>
      cases value with
      | inline v => exact .inline hg hrest
      | next v => exact .next hg.1 hg.2 hrest
      | bare =>
        refine .bare hg ?_ hrest
        cases gs with
        | nil => intro b hb; cases hb
        | cons g' gs =>
          rw [List.flatMap_cons]
          exact isFlag_head_args hapart _

theorem splits_groups (args : List String) : Splits args (groups args) := by
  have hsplits := splits_of_wellFormed (groups_spec args).2
  rwa [flatMap_args_groups] at hsplits

theorem splits_iff {args : List String} {gs : List Group} : Splits args gs ↔ gs = groups args := by
  constructor
  · intro h
    exact (groups_of_splits h).symm
  · rintro rfl
    exact splits_groups args

/-! ## what a flag stands for -/

/-- the name and the text of its value that a flag stands for; dashes in it count as underscores -/
inductive Stands (params : List String) : Group → String → String → Prop where
  | inline (name v : String) : Stands params (.flag name (.inline v)) (normal name) v
  | next (name v : String) : Stands params (.flag name (.next v)) (normal name) v
  /-- a bare flag that is written like a parameter turns it on -/
  | known {name : String} (h : name ∈ params) : Stands params (.flag name .bare) (normal name) "True"
  /-- else `no` in front turns the rest of the name off -/
  | off {rest : String} (h : "no" ++ rest ∉ params) :
      Stands params (.flag ("no" ++ rest) .bare) (normal rest) "False"
  /-- and without it the name is turned on -/
  | on {name : String} (h : name ∉ params) (hno : Text.startsWith "no" name = false) :
      Stands params (.flag name .bare) (normal name) "True"

theorem startsWith_no {name : String} :
    Text.startsWith "no" name = true ↔ ∃ rest, name = "no" ++ rest := by
  unfold Text.startsWith
  rw [List.isPrefixOf_iff_prefix]
  constructor
  · rintro ⟨cs, hcs⟩
    refine ⟨String.ofList cs, String.toList_inj.1 ?_⟩
    rw [String.toList_append, ← hcs]
    exact congrArg _ String.toList_ofList.symm
  · rintro ⟨rest, rfl⟩
    rw [String.toList_append]
    exact List.prefix_append _ _

theorem dropChars_no (rest : String) : Text.dropChars 2 ("no" ++ rest) = rest := by
  unfold Text.dropChars
  rw [String.toList_append]
  show String.ofList rest.toList = rest
  exact String.ofList_toList

section
variable {params : List String} {anyName : Bool} {name key v : String}

theorem bareFlag_of_mem (h : name ∈ params) : bareFlag params name = (name, "True") := by
  unfold bareFlag
  rw [if_pos (List.contains_iff_mem.2 h)]

theorem bareFlag_of_no {rest : String} (h : "no" ++ rest ∉ params) :
    bareFlag params ("no" ++ rest) = (rest, "False") := by
  unfold bareFlag
  rw [if_neg fun hc => h (List.contains_iff_mem.1 hc), if_pos (startsWith_no.2 ⟨rest, rfl⟩),
    dropChars_no]

theorem bareFlag_of_not_no (h : name ∉ params) (hno : Text.startsWith "no" name = false) :
    bareFlag params name = (name, "True") := by
  unfold bareFlag
  rw [if_neg fun hc => h (List.contains_iff_mem.1 hc), if_neg (Bool.eq_false_iff.1 hno)]

theorem stands_flagEntry (params : List String) (name : String) (value : FlagValue) :
    Stands params (.flag name value) (flagEntry params name value).1
      (flagEntry params name value).2 := by
  cases value with
  | inline v => exact .inline name v
  | next v => exact .next name v
  | bare =>
    show Stands params _ (normal (bareFlag params name).1) (bareFlag params name).2
    by_cases hname : name ∈ params
    · rw [bareFlag_of_mem hname]
      exact .known hname
    · cases hno : Text.startsWith "no" name with
      | false =>
        rw [bareFlag_of_not_no hname hno]
        exact .on hname hno
      | true =>
        obtain ⟨rest, rfl⟩ := startsWith_no.1 hno
        rw [bareFlag_of_no hname]
        exact .off hname

theorem stands_flag_iff {value : FlagValue} :
    Stands params (.flag name value) key v ↔ flagEntry params name value = (key, v) := by
  constructor
  · intro h
    cases h with
    | inline => rfl
    | next => rfl
    | known hname =>
      show (normal (bareFlag params name).1, (bareFlag params name).2) = _
      rw [bareFlag_of_mem hname]
    | @off rest hname =>
      show (normal (bareFlag params ("no" ++ rest)).1, (bareFlag params ("no" ++ rest)).2) = _
      rw [bareFlag_of_no hname]
    | on hname hno =>
      show (normal (bareFlag params name).1, (bareFlag params name).2) = _
      rw [bareFlag_of_not_no hname hno]
  · intro h
    have hstands := stands_flagEntry params name value
    rwa [h] at hstands

end

/-! ## where the groups go -/

/-- the group gives a name that is admitted a text -/
def Group.Gives (params : List String) (anyName : Bool) (g : Group) (key v : String) : Prop :=
  Stands params g key v ∧ (key ∈ params ∨ anyName = true)

/-- the group is a flag whose name is admitted -/
def Group.Admitted (params : List String) (anyName : Bool) (g : Group) : Prop :=
  ∃ key v, g.Gives params anyName key v

/-- the group is a flag whose name is not admitted -/
def Group.Refused (params : List String) (anyName : Bool) (g : Group) : Prop :=
  ∃ key v, Stands params g key v ∧ key ∉ params ∧ anyName = false

/-- the argument of a group of one that is no flag -/
def Group.single? : Group → Option String
  | .single a => some a
  | .flag .. => none

/-- the text that the group gives the name, if it does -/
def Group.valueFor (params : List String) (anyName : Bool) (key : String) : Group → Option String
  | .single _ => none
  | .flag name value =>
    if (flagEntry params name value).1 = key ∧ (key ∈ params ∨ anyName = true) then
      some (flagEntry params name value).2
    else none

section
variable {params : List String} {anyName : Bool} {key v : String}

theorem valueFor_flag (name : String) (value : FlagValue) :
    (Group.flag name value).valueFor params anyName key =
      if (flagEntry params name value).1 = key ∧ (key ∈ params ∨ anyName = true) then
        some (flagEntry params name value).2
      else none := rfl

theorem gives_iff {g : Group} :
    g.Gives params anyName key v ↔ g.valueFor params anyName key = some v := by
  unfold Group.Gives
  cases g with
  | single a =>
    constructor
    · rintro ⟨h, -⟩
      cases h
    · intro h
      cases h
  | flag name value =>
    rw [stands_flag_iff, valueFor_flag]
    constructor
    · rintro ⟨hentry, hkey⟩
      rw [hentry, if_pos ⟨rfl, hkey⟩]
    · intro h
      split at h
      · rename_i hkey
        exact ⟨Prod.ext hkey.1 (Option.some.inj h), hkey.2⟩
      · cases h

theorem refused_iff_unknown {g : Group} :
    g.Refused params anyName ↔ g.unknown params anyName = true := by
  unfold Group.Refused
  cases g with
  | single a =>
    constructor
    · rintro ⟨key, v, h, -⟩
      cases h
    · intro h
      cases h
  | flag name value =>
    have hunknown : (Group.flag name value).unknown params anyName = true ↔
        (flagEntry params name value).1 ∉ params ∧ anyName = false := by
      simp [Group.unknown, Group.isSingle, Group.known]
    rw [hunknown]
    constructor
    · rintro ⟨key, v, hstands, hkey⟩
      rw [stands_flag_iff] at hstands
      rwa [hstands]
    · intro h
      exact ⟨_, _, stands_flagEntry params name value, h⟩

instance (g : Group) : Decidable (g.Refused params anyName) :=
  decidable_of_iff _ refused_iff_unknown.symm

theorem admitted_iff_known {g : Group} :
    g.Admitted params anyName ↔ g.known params anyName = true := by
  unfold Group.Admitted
  cases g with
  | single a =>
    constructor
    · rintro ⟨key, v, h, -⟩
      cases h
    · intro h
      cases h
  | flag name value =>
    have hknown : (Group.flag name value).known params anyName = true ↔
        (flagEntry params name value).1 ∈ params ∨ anyName = true := by
      simp [Group.known]
    rw [hknown]
    constructor
    · rintro ⟨key, v, hstands, hkey⟩
      rw [stands_flag_iff] at hstands
      rwa [hstands]
    · intro h
      exact ⟨_, _, stands_flagEntry params name value, h⟩

instance (g : Group) : Decidable (g.Admitted params anyName) :=
  decidable_of_iff _ admitted_iff_known.symm

/-! ## named values -/

theorem named_add_flag (k : Keywords) (name : String) (value : FlagValue) :
    (k.add params anyName (.flag name value)).named =
      if (flagEntry params name value).1 ∈ params ∨ anyName = true then
        putName (flagEntry params name value).1 (flagEntry params name value).2 k.named
      else k.named := by
  have hiff : (params.contains (flagEntry params name value).1 || anyName) = true ↔
      (flagEntry params name value).1 ∈ params ∨ anyName = true := by
    simp
  unfold Keywords.add
  by_cases h : (flagEntry params name value).1 ∈ params ∨ anyName = true
  · simp only [hiff.2 h, h, if_true]
  · simp only [Bool.eq_false_iff.2 fun hc => h (hiff.1 hc), h, Bool.false_eq_true, if_false]

theorem lookup_named_add (k : Keywords) (g : Group) :
    (k.add params anyName g).named.lookup key =
      (g.valueFor params anyName key).or (k.named.lookup key) := by
  cases g with
  | single a => rfl
  | flag name value =>
    rw [named_add_flag, valueFor_flag]
    by_cases hname : (flagEntry params name value).1 ∈ params ∨ anyName = true
    · rw [if_pos hname, lookup_putName]
      by_cases hkey : (flagEntry params name value).1 = key
      · rw [if_pos hkey.symm, if_pos ⟨hkey, hkey ▸ hname⟩]
        rfl
      · rw [if_neg fun e => hkey e.symm, if_neg fun h => hkey h.1]
        rfl
    · have hnot : ¬ ((flagEntry params name value).1 = key ∧ (key ∈ params ∨ anyName = true)) := by
        rintro ⟨rfl, hkey⟩
        exact hname hkey
      rw [if_neg hname, if_neg hnot]
      rfl

theorem lookup_foldl_named (gs : List Group) (k : Keywords) :
    (gs.foldl (Keywords.add params anyName) k).named.lookup key =
      (gs.reverse.findSome? (Group.valueFor params anyName key)).or (k.named.lookup key) := by
  induction gs generalizing k with
  | nil => rfl
  | cons g gs ih =>
    rw [List.foldl_cons, ih, lookup_named_add, List.reverse_cons, List.findSome?_append,
      Option.or_assoc]
    congr 1
    cases hg : g.valueFor params anyName key <;> simp [List.findSome?, hg]

theorem nodup_foldl_named (gs : List Group) {k : Keywords} (h : (k.named.map (·.1)).Nodup) :
    ((gs.foldl (Keywords.add params anyName) k).named.map (·.1)).Nodup := by
  induction gs generalizing k with
  | nil => exact h
  | cons g gs ih =>
    refine ih ?_
    cases g with
    | single a => exact h
    | flag name value =>
      rw [named_add_flag]
      split
      · exact nodup_putName _ _ h
      · exact h

theorem lookup_named_of (args : List String) :
    (Keywords.of params anyName args).named.lookup key =
      (groups args).reverse.findSome? (Group.valueFor params anyName key) := by
  unfold Keywords.of
  rw [lookup_foldl_named]
  exact Option.or_none

/-- the text of a name is that of the last group that gives it one -/
theorem lookup_named_eq_some (args : List String) :
    (Keywords.of params anyName args).named.lookup key = some v ↔
      ∃ front g behind, groups args = front ++ g :: behind ∧ g.Gives params anyName key v ∧
        ∀ g' ∈ behind, ∀ v', ¬ g'.Gives params anyName key v' := by
  have hnone : ∀ g : Group, g.valueFor params anyName key = none ↔
      ∀ v', ¬ g.Gives params anyName key v' := by
    intro g
    simp only [gives_iff]
    exact Option.eq_none_iff_forall_ne_some
  rw [lookup_named_of, List.findSome?_eq_some_iff]
  constructor
  · rintro ⟨behind, g, front, hgs, hg, hbehind⟩
    refine ⟨front.reverse, g, behind.reverse, ?_, gives_iff.2 hg, fun g' hg' => ?_⟩
    · rw [← List.reverse_reverse (groups args), hgs]
      simp
    · exact (hnone g').1 (hbehind g' (List.mem_reverse.1 hg'))
  · rintro ⟨front, g, behind, hgs, hg, hbehind⟩
    refine ⟨behind.reverse, g, front.reverse, ?_, gives_iff.1 hg, fun g' hg' => ?_⟩
    · rw [hgs]
      simp
    · exact (hnone g').2 (hbehind g' (List.mem_reverse.1 hg'))

/-! ## what is left -/

theorem rest_of (args : List String) :
    (Keywords.of params anyName args).rest = (groups args).filterMap Group.single? := by
  unfold Keywords.of
  rw [foldl_rest]
  show [] ++ ((groups args).filter Group.isSingle).flatMap Group.args = _
  rw [List.nil_append]
  induction groups args with
  | nil => rfl
  | cons g gs ih =>
    cases g with
    | single a =>
      rw [List.filterMap_cons_some (rfl : Group.single? (.single a) = some a), ← ih]
      rfl
    | flag name value =>
      rw [List.filterMap_cons_none (rfl : Group.single? (.flag name value) = none), ← ih]
      rfl

theorem unknown_of (args : List String) :
    (Keywords.of params anyName args).unknown =
      ((groups args).filter fun g => decide (g.Refused params anyName)).flatMap Group.args := by
  have hfilter : (groups args).filter (Group.unknown params anyName) =
      (groups args).filter fun g => decide (g.Refused params anyName) := by
    refine List.filter_congr fun g _ => ?_
    rw [Bool.eq_iff_iff, decide_eq_true_iff]
    exact refused_iff_unknown.symm
  unfold Keywords.of
  rw [foldl_unknown, hfilter]
  rfl

/-- the arguments of the admitted flags and what is left are all the arguments -/
theorem admitted_left_perm (args : List String) :
    (((groups args).filter fun g => decide (g.Admitted params anyName)).flatMap Group.args ++
      (Keywords.of params anyName args).left).Perm args := by
  have hfilter : (groups args).filter (fun g => decide (g.Admitted params anyName)) =
      (groups args).filter (Group.known params anyName) := by
    refine List.filter_congr fun g _ => ?_
    rw [Bool.eq_iff_iff, decide_eq_true_iff]
    exact admitted_iff_known
  rw [hfilter]
  exact knownWords_left_perm params anyName args

theorem not_isFlag_of_mem_rest {args : List String} {a : String}
    (h : a ∈ (Keywords.of params anyName args).rest) : isFlag a = false := by
  rw [rest_of] at h
  obtain ⟨g, hg, ha⟩ := List.mem_filterMap.1 h
  have hproper := proper_of_wellFormed (groups_spec args).2 g hg
  cases g with
  | single b => exact Option.some.inj ha ▸ hproper
  | flag name value => cases ha

end

/-- **Sorting is lossless.**  Arguments fall into groups in one way only.  Sorting keeps the single
arguments and the arguments of the refused flags, each in their order; under a name stands the text of
the last group that gives it one.  So every argument goes to one place, no flag is left among the single
arguments, and only a routine that takes every name is given names that are none of its parameters. -/
theorem sorted_by_groups (params : List String) (anyName : Bool) (args : List String) :
    let k := Keywords.of params anyName args
    ∃ gs, (∀ gs', Splits args gs' ↔ gs' = gs) ∧
      k.rest = gs.filterMap Group.single? ∧
      k.unknown = (gs.filter fun g => decide (g.Refused params anyName)).flatMap Group.args ∧
      (∀ key v, k.named.lookup key = some v ↔
        ∃ front g behind, gs = front ++ g :: behind ∧ g.Gives params anyName key v ∧
          ∀ g' ∈ behind, ∀ v', ¬ g'.Gives params anyName key v') ∧
      (k.named.map (·.1)).Nodup ∧
      ((gs.filter fun g => decide (g.Admitted params anyName)).flatMap Group.args ++
        (k.rest ++ k.unknown)).Perm args ∧
      (∀ a ∈ k.rest, isFlag a = false) ∧
      (anyName = false → ∀ key ∈ k.named.map (·.1), key ∈ params) := by
  intro k
  refine ⟨groups args, fun gs' => splits_iff, rest_of args, unknown_of args,
    fun key v => lookup_named_eq_some args, nodup_foldl_named _ List.nodup_nil,
    admitted_left_perm args, fun a ha => not_isFlag_of_mem_rest ha, ?_⟩
  intro hany key hkey
  obtain ⟨v, hv⟩ := Option.isSome_iff_exists.1 ((mem_names_iff_lookup _ _).1 hkey)
  obtain ⟨-, g, -, -, ⟨-, hparam⟩, -⟩ := (lookup_named_eq_some args).1 hv
  rcases hparam with hparam | hname
  · exact hparam
  · rw [hany] at hname
    cases hname

/-- a name that is given twice has its last text, and a flag that is not known stays as it is -/
example : Keywords.of ["a_b", "c"] false ["--a-b", "1", "x", "--noc", "--z=1", "--a_b=2"] =
    { named := [("a_b", "2"), ("c", "False")], unknown := ["--z=1"], rest := ["x"] } := by decide

end CommandLine.Binding
