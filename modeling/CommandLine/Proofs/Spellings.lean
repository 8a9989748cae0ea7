import CommandLine.Proofs.FlagWords
import CommandLine.Proofs.MarkedLine
import CommandLine.Proofs.SortedArguments
import CommandLine.Show.Help

/-!
# Spellings of a flag

A parameter can be written with dashes for its underscores, any of them or all: `q` is a spelling of the
parameter `p` if `normal q = p`.  The flags in completions and usage are spelled with dashes throughout
(`normal_dashed`).

A flag with a value gives the parameter that value in every spelling.  A bare flag is another matter: it
is first compared, as it is written, with the parameters, and after that a leading `no` is taken for a
negation.  So a parameter that starts with `no` is turned on by a bare flag in its own spelling only
(`stands_bare_iff`), and `spelled_flag_gives` says for every flag what becomes of the parameter.
-/

namespace CommandLine.Binding

/-! ## spellings -/

theorem toList_normal (q : String) :
    (normal q).toList = q.toList.map fun c => if c = '-' then '_' else c := by
  unfold normal Text.replaceChar
  rw [String.toList_ofList]

theorem beq_normal {c d : Char} (hdash : d ≠ '-') (hunder : d ≠ '_') :
    (d == if c = '-' then '_' else c) = (d == c) := by
  by_cases hc : c = '-'
  · rw [if_pos hc, hc, beq_false_of_ne hunder, beq_false_of_ne hdash]
  · rw [if_neg hc]

theorem startsWith_no_normal (q : String) :
    Text.startsWith "no" (normal q) = Text.startsWith "no" q := by
  show ['n', 'o'].isPrefixOf (normal q).toList = ['n', 'o'].isPrefixOf q.toList
  rw [toList_normal]
  rcases q.toList with _ | ⟨a, _ | ⟨b, r⟩⟩
  · rfl
  · show (('n' == if a = '-' then '_' else a) && false) = (('n' == a) && false)
    rw [Bool.and_false, Bool.and_false]
  · show (('n' == if a = '-' then '_' else a) && (('o' == if b = '-' then '_' else b) && true)) =
      (('n' == a) && (('o' == b) && true))
    rw [beq_normal (by decide) (by decide), beq_normal (by decide) (by decide)]

theorem no_dash_of_isWord {p : String} (h : Text.isWord p.toList = true) : '-' ∉ p.toList :=
  not_mem_of_isWord h (by decide) (by decide)

theorem normal_dashed {p : String} (h : '-' ∉ p.toList) :
    normal (Text.replaceChar '_' '-' p) = p := by
  refine String.toList_inj.1 ?_
  rw [toList_normal]
  unfold Text.replaceChar
  rw [String.toList_ofList, List.map_map]
  refine (List.map_congr_left fun c hc => ?_).trans (List.map_id _)
  have hdash : c ≠ '-' := fun e => h (e ▸ hc)
  show (if (if c = '_' then '-' else c) = '-' then '_' else if c = '_' then '-' else c) = c
  by_cases hunder : c = '_'
  · rw [if_pos hunder, if_pos rfl, hunder]
  · rw [if_neg hunder, if_neg hdash]

/-- every completion behind a callable component is a spelling of one of its parameters -/
theorem completions_spelled {c : Value} {verbose : Bool} (hc : c.isCallable = true)
    (h : ∀ a ∈ c.spec.args ++ c.spec.flagParams, '-' ∉ a.toList) :
    ∀ w ∈ c.completions verbose,
      ∃ a ∈ c.spec.args ++ c.spec.flagParams, ∃ r, w = "--" ++ r ∧ normal r = a := by
  intro w hw
  unfold Value.completions at hw
  rw [if_pos hc] at hw
  obtain ⟨a, ha, rfl⟩ := List.mem_map.1 hw
  exact ⟨a, ha, Text.replaceChar '_' '-' a, rfl, normal_dashed (h a ha)⟩

/-- and so is the flag in the usage of a parameter -/
theorem paramUsage_spelled {p : String} (h : '-' ∉ p.toList) :
    ∃ r, normal r = p ∧ (paramUsage false p).1 = "--" ++ r ++ " " ++ Text.upper p ∧
      (paramUsage true p).1 = "[" ++ (paramUsage false p).1 ++ "]" :=
  ⟨Text.replaceChar '_' '-' p, normal_dashed h, rfl, rfl⟩

/-- a parameter is written like another spelling of it only if the two are the same -/
theorem eq_of_mem_params {params : List String} (h : ∀ a ∈ params, Text.isWord a.toList = true)
    {p q : String} (hq : normal q = p) (hmem : q ∈ params) : q = p := by
  rw [← hq, normal_of_no_dash (no_dash_of_isWord (h q hmem))]

/-! ## groups about a parameter -/

/-- the group is a flag that names the parameter, in some spelling -/
def Group.Names (p : String) : Group → Prop
  | .single _ => False
  | .flag name _ => normal name = p

/-- the group is a bare flag that turns the parameter off: `no` and a spelling of it -/
def Group.TurnsOff (params : List String) (p : String) (g : Group) : Prop :=
  ∃ rest, g = .flag ("no" ++ rest) .bare ∧ "no" ++ rest ∉ params ∧ normal rest = p

section
variable {params : List String} {anyName : Bool} {p q : String}

/-- a bare flag turns a parameter on that it names in its own spelling, or that does not start with
`no` -/
theorem stands_bare_iff (hparams : ∀ a ∈ params, Text.isWord a.toList = true) (hp : p ∈ params)
    (hq : normal q = p) :
    Stands params (.flag q .bare) p "True" ↔ q = p ∨ Text.startsWith "no" p = false := by
  have hno : Text.startsWith "no" q = Text.startsWith "no" p := by
    rw [← hq, startsWith_no_normal]
  constructor
  · intro h
    rw [stands_flag_iff] at h
    by_cases hmem : q ∈ params
    · exact Or.inl (eq_of_mem_params hparams hq hmem)
    · refine Or.inr (Bool.eq_false_iff.2 fun hstarts => ?_)
      obtain ⟨rest, rfl⟩ := startsWith_no.1 (hno.trans hstarts)
      rw [show flagEntry params ("no" ++ rest) .bare =
        (normal (bareFlag params ("no" ++ rest)).1, (bareFlag params ("no" ++ rest)).2) from rfl,
        bareFlag_of_no hmem] at h
      have hvalue : "False" = "True" := congrArg Prod.snd h
      exact absurd hvalue (by decide)
  · intro h
    by_cases hmem : q ∈ params
    · exact hq ▸ .known hmem
    · rcases h with rfl | h
      · exact absurd hp hmem
      · exact hq ▸ .on hmem (hno.trans h)

/-- otherwise it turns the rest of its name off, and that is never the parameter -/
theorem valueFor_bare_eq_none (anyName : Bool) (hparams : ∀ a ∈ params, Text.isWord a.toList = true)
    (hq : normal q = p) (hne : q ≠ p) (hno : Text.startsWith "no" p = true) :
    (∃ rest, q = "no" ++ rest ∧ Stands params (.flag q .bare) (normal rest) "False") ∧
      (Group.flag q .bare).valueFor params anyName p = none := by
  have hmem : q ∉ params := fun hmem => hne (eq_of_mem_params hparams hq hmem)
  have hstarts : Text.startsWith "no" q = true := by rw [← startsWith_no_normal, hq, hno]
  obtain ⟨rest, rfl⟩ := startsWith_no.1 hstarts
  have hoff : Stands params (.flag ("no" ++ rest) .bare) (normal rest) "False" := .off hmem
  refine ⟨⟨rest, rfl, hoff⟩, ?_⟩
  -- the rest of the name is shorter than the parameter
  have hrest : normal rest ≠ p := by
    intro e
    have hlength := congrArg (fun s => s.toList.length) (e.trans hq.symm)
    simp only [toList_normal, String.toList_append, List.length_map, List.length_append] at hlength
    have htwo : "no".toList.length = 2 := rfl
    omega
  rw [valueFor_flag, stands_flag_iff.1 hoff, if_neg fun h => hrest h.1]

theorem valueFor_valued (hp : p ∈ params) (hq : normal q = p) {value : FlagValue} {v : String}
    (h : value = .inline v ∨ value = .next v) :
    (Group.flag q value).valueFor params anyName p = some v := by
  refine gives_iff.1 ⟨?_, Or.inl hp⟩
  rcases h with rfl | rfl
  · exact hq ▸ .inline q v
  · exact hq ▸ .next q v

/-- a group that does not name a parameter leaves it alone or turns it off -/
theorem valueFor_of_not_names {g : Group} (h : ¬ g.Names p) {v : String}
    (hv : g.valueFor params anyName p = some v) : g.TurnsOff params p ∧ v = "False" := by
  obtain ⟨hstands, -⟩ := gives_iff.2 hv
  cases hstands with
  | inline name v => exact absurd rfl h
  | next name v => exact absurd rfl h
  | known hname => exact absurd rfl h
  | @off rest hname => exact ⟨⟨rest, rfl, hname, rfl⟩, rfl⟩
  | on hname hno => exact absurd rfl h

theorem valueFor_of_turnsOff (hp : p ∈ params) {g : Group} (h : g.TurnsOff params p) :
    g.valueFor params anyName p = some "False" := by
  obtain ⟨rest, rfl, hrest, rfl⟩ := h
  exact gives_iff.1 ⟨.off hrest, Or.inl hp⟩

/-! ## the last group about a parameter -/

/-- what the groups behind the last one that names a parameter can do to it -/
theorem findSome_of_not_names (anyName : Bool) (hp : p ∈ params) {gs : List Group} (h : ∀ g ∈ gs, ¬ g.Names p) :
    ((∃ g ∈ gs, g.TurnsOff params p) →
      gs.findSome? (Group.valueFor params anyName p) = some "False") ∧
    ((∀ g ∈ gs, ¬ g.TurnsOff params p) →
      gs.findSome? (Group.valueFor params anyName p) = none) := by
  constructor
  · rintro ⟨g, hg, hoff⟩
    have hsome : (gs.findSome? (Group.valueFor params anyName p)).isSome = true :=
      List.findSome?_isSome_iff.2 ⟨g, hg, by rw [valueFor_of_turnsOff hp hoff]; rfl⟩
    obtain ⟨v, hv⟩ := Option.isSome_iff_exists.1 hsome
    obtain ⟨g', hg', hv'⟩ := List.exists_of_findSome?_eq_some hv
    rw [hv, (valueFor_of_not_names (h g' hg') hv').2]
  · intro hnone
    refine List.findSome?_eq_none_iff.2 fun g hg => Option.eq_none_iff_forall_ne_some.2 ?_
    intro v hv
    exact hnone g hg (valueFor_of_not_names (h g hg) hv).1

theorem wellFormed_front {front behind : List Group} (h : WellFormed (front ++ behind)) :
    WellFormed front := by
  induction front with
  | nil => trivial
  | cons g front ih =>
    obtain ⟨hg, hapart, hrest⟩ := h
    refine ⟨hg, ?_, ih hrest⟩
    cases front with
    | nil => unfold Group.Apart; split <;> trivial
    | cons g' front =>
      cases g with
      | single a => trivial
      | flag name value =>
        cases value with
        | inline v => trivial
        | bare => exact hapart
        | next v => trivial

theorem groups_front {args : List String} {front behind : List Group}
    (h : Splits args (front ++ behind)) : groups (front.flatMap Group.args) = front := by
  have hspec := (groups_spec args).2
  rw [groups_of_splits h] at hspec
  exact groups_flatMap_args (wellFormed_front hspec)

/-- what a group gives counts, unless a group behind it says otherwise -/
theorem lookup_named_split {args : List String} {front behind : List Group} {g : Group}
    (h : Splits args (front ++ g :: behind)) :
    (Keywords.of params anyName args).named.lookup p =
      (behind.reverse.findSome? (Group.valueFor params anyName p)).or
        ((g.valueFor params anyName p).or
          ((Keywords.of params anyName (front.flatMap Group.args)).named.lookup p)) := by
  rw [lookup_named_of, lookup_named_of, groups_of_splits h, groups_front h, List.reverse_append,
    List.reverse_cons, List.append_assoc, List.findSome?_append, List.findSome?_append]
  congr 2
  cases hg : g.valueFor params anyName p <;> simp [List.findSome?, hg]

end

/-- **Dashes and underscores in flags.**  Take the last flag that names a parameter, in whatever
spelling.  If a bare `no` flag behind it turns the parameter off, it is off.  Otherwise a flag with a
value gives that value, and a bare flag turns the parameter on if it is spelled like the parameter or
the parameter does not start with `no`.  A bare flag in another spelling of a parameter that starts
with `no` does nothing to it: it turns off what stands behind the `no`.  Every completion of a component
with these parameters, and the usage of each of them, is a flag of this kind. -/
theorem spelled_flag_gives {params : List String}
    (hparams : ∀ a ∈ params, Text.isWord a.toList = true) (anyName : Bool) {p q : String}
    (hp : p ∈ params) (hq : normal q = p) {args : List String} {front behind : List Group}
    {value : FlagValue} (hargs : Splits args (front ++ .flag q value :: behind))
    (hbehind : ∀ g ∈ behind, ¬ g.Names p) :
    let given := (Keywords.of params anyName args).named.lookup p
    ((∃ g ∈ behind, g.TurnsOff params p) → given = some "False") ∧
    ((∀ g ∈ behind, ¬ g.TurnsOff params p) →
      (∀ v, value = .inline v ∨ value = .next v → given = some v) ∧
      (value = .bare → q = p ∨ Text.startsWith "no" p = false → given = some "True") ∧
      (value = .bare → q ≠ p → Text.startsWith "no" p = true →
        given = (Keywords.of params anyName (front.flatMap Group.args)).named.lookup p ∧
        ∃ rest, q = "no" ++ rest ∧ Stands params (.flag q .bare) (normal rest) "False")) ∧
    (∀ (c : Value) verbose, c.isCallable = true → c.spec.args ++ c.spec.flagParams = params →
      ∀ w ∈ c.completions verbose, ∃ a ∈ params, ∃ r, w = "--" ++ r ∧ normal r = a) ∧
    ∃ r, normal r = p ∧ (paramUsage false p).1 = "--" ++ r ++ " " ++ Text.upper p ∧
      (paramUsage true p).1 = "[" ++ (paramUsage false p).1 ++ "]" := by
  intro given
  have hgiven : given = (behind.reverse.findSome? (Group.valueFor params anyName p)).or
      (((Group.flag q value).valueFor params anyName p).or
        ((Keywords.of params anyName (front.flatMap Group.args)).named.lookup p)) :=
    lookup_named_split hargs
  have hreverse : ∀ g ∈ behind.reverse, ¬ g.Names p := fun g hg => hbehind g (List.mem_reverse.1 hg)
  obtain ⟨hoff, hnone⟩ := findSome_of_not_names anyName hp hreverse
  refine ⟨?_, ?_, ?_, paramUsage_spelled (no_dash_of_isWord (hparams p hp))⟩
  · rintro ⟨g, hg, hg'⟩
    rw [hgiven, hoff ⟨g, List.mem_reverse.2 hg, hg'⟩]
    rfl
  · intro hleft
    have hself : given = ((Group.flag q value).valueFor params anyName p).or
        ((Keywords.of params anyName (front.flatMap Group.args)).named.lookup p) := by
      rw [hgiven, hnone fun g hg => hleft g (List.mem_reverse.1 hg)]
      rfl
    refine ⟨?_, ?_, ?_⟩
    · intro v hv
      rw [hself, valueFor_valued hp hq hv]
      rfl
    · rintro rfl hon
      have hgives : (Group.flag q .bare).Gives params anyName p "True" :=
        ⟨(stands_bare_iff hparams hp hq).2 hon, Or.inl hp⟩
      rw [hself, gives_iff.1 hgives]
      rfl
    · rintro rfl hne hno
      obtain ⟨hrest, hvalue⟩ := valueFor_bare_eq_none anyName hparams hq hne hno
      rw [hself, hvalue]
      exact ⟨rfl, hrest⟩
  · rintro c verbose hc rfl
    exact completions_spelled hc fun a ha => no_dash_of_isWord (hparams a ha)

/-- the flag that completions offer for `no_cache`, given bare, does not turn it on -/
theorem spelled_flag_gives_no_cache :
    flagWord "no_cache" = "--no-cache" ∧
    (Keywords.of ["no_cache"] false ["--no-cache"]).named.lookup "no_cache" = none ∧
    (Keywords.of ["no_cache"] false ["--no-cache", "1"]).named.lookup "no_cache" = some "1" := by
  have hparams : ∀ a ∈ ["no_cache"], Text.isWord a.toList = true := by decide
  have hbare : Splits ["--no-cache"] ([] ++ .flag "no-cache" .bare :: []) := splits_groups _
  have hnext : Splits ["--no-cache", "1"] ([] ++ .flag "no-cache" (.next "1") :: []) :=
    splits_groups _
  have hnone : ∀ g ∈ ([] : List Group), ¬ g.Names "no_cache" := fun g hg => absurd hg List.not_mem_nil
  have hleft : ∀ g ∈ ([] : List Group), ¬ g.TurnsOff ["no_cache"] "no_cache" :=
    fun g hg => absurd hg List.not_mem_nil
  have hgives := spelled_flag_gives hparams false (by decide) (by decide) hbare hnone
  have hvalued := spelled_flag_gives hparams false (by decide) (by decide) hnext hnone
  refine ⟨by decide, ?_, (hvalued.2.1 hleft).1 "1" (Or.inr rfl)⟩
  exact ((hgives.2.1 hleft).2.2 rfl (by decide) (by decide)).1

end CommandLine.Binding
