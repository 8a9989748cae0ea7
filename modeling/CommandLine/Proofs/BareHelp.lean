import CommandLine.Proofs.NamePaths
import CommandLine.Proofs.Outcomes
import CommandLine.Proofs.TraceAdditions

/-!
# Components without help

Help is laid out from the usage of a component, its documentation and its length, and cannot be laid
out if all three are missing (`help_eq_error_iff`).  Behind a command the usage is never empty.  Without
one it is empty at a component that cannot be called, if no name is listed there, and only nothing, an
ellipsis, a generator, an object or a module can be without documentation and length as well
(`Value.Bare`).
-/

namespace CommandLine

open Binding

/-! ## the layout -/

theorem natText_ne_empty (n : Nat) : Number.natText n ≠ "" := by
  intro h
  have hdigits : Nat.toDigits 10 n = [] := by
    rw [← String.toList_ofList (l := Nat.toDigits 10 n)]
    exact congrArg String.toList h
  exact Nat.toDigits_ne_nil hdigits

section
variable {v : Value} {verbose : Bool}

/-- help fails only if there is neither a usage nor documentation nor a length -/
theorem help_eq_error_iff (v : Value) (command : Option String) (verbose : Bool) (e : Error) :
    v.help command verbose = .error e ↔ (v.usage command verbose = "" ∧ v.document?.getD "" = "" ∧
      v.length? = none) ∧ e = .emptyMaximum := by
  have hfields : ((helpFields v.info (v.usage command verbose)).filter fun f => f.2 ≠ "") = [] ↔
      v.usage command verbose = "" ∧ v.document?.getD "" = "" ∧ v.length? = none := by
    have hdocument : v.info.document = v.document? := rfl
    have hlength : v.info.length = v.length? := rfl
    unfold helpFields
    rw [hdocument, hlength]
    cases v.document? <;> cases v.length? <;> simp [natText_ne_empty]
  unfold Value.help helpLayout
  dsimp only
  split
  · rename_i hnone
    rw [List.max?_eq_none_iff, List.map_eq_nil_iff] at hnone
    rw [← hfields, and_iff_right hnone, eq_comm]
    exact ⟨Except.error.inj, congrArg Except.error⟩
  · rename_i hsome
    constructor
    · intro h
      cases h
    · rintro ⟨h, -⟩
      rw [hfields.2 h] at hsome
      cases hsome

/-! ## the usage without a command -/

theorem joinWith_ne_empty {sep x : String} {xs : List String} (hx : x ∈ xs) (hne : x ≠ "") :
    Text.joinWith sep xs ≠ "" := by
  induction xs with
  | nil => exact absurd hx List.not_mem_nil
  | cons y ys ih =>
    rcases List.mem_cons.1 hx with rfl | hx
    · exact joinWith_cons_ne_empty hne sep ys
    · cases ys with
      | nil => exact absurd hx List.not_mem_nil
      | cons z zs => exact append_ne_empty (.inr (ih hx))

/-- a component whose usage is made of its names -/
structure Value.ByNames (v : Value) : Prop where
  callable : v.isCallable = false
  series : v.isSeries = false
  members : v.members = v.namedMembers.map fun m => (.text m.1, m.2)

def Value.names (v : Value) : List String := v.namedMembers.map Prod.fst

theorem usage_of_names (hv : v.ByNames) : v.usage none verbose =
    Text.joinWith "\n" ((v.names.filter fun n => isListed verbose (.text n)).map commandWord) := by
  have hcompletions : v.completions verbose =
      (v.names.filter fun n => isListed verbose (.text n)).map commandWord := by
    rw [completions_of_members hv.callable hv.series, Value.listedMembers, hv.members, Value.names,
      List.filter_map, List.filter_map, List.map_map, List.map_map]
    rfl
  have hmap : ∀ xs : List String, xs.map ("" ++ ·) = xs := by
    intro xs
    simp
  have hseries := hv.series
  rw [← hcompletions]
  unfold Value.usage
  rw [hv.callable, if_neg Bool.false_ne_true]
  dsimp only
  split
  · cases hseries
  · cases hseries
  · rw [if_pos rfl, hmap]

theorem usage_of_name (hv : v.ByNames) {n : String} (hn : n ∈ v.names)
    (hlisted : isListed verbose (.text n) = true) (hword : commandWord n ≠ "") :
    v.usage none verbose ≠ "" := by
  rw [usage_of_names hv]
  exact joinWith_ne_empty (List.mem_map_of_mem (List.mem_filter.2 ⟨hn, hlisted⟩)) hword

theorem usage_eq_empty_iff (hv : v.ByNames) :
    v.usage none false = "" ↔ ∀ n ∈ v.names, isListed false (.text n) = false := by
  constructor
  · intro h n hn
    refine Bool.eq_false_iff.2 fun hlisted => ?_
    exact usage_of_name hv hn hlisted (commandWord_ne_empty hlisted) h
  · intro h
    have hnone : (v.names.filter fun n => isListed false (.text n)) = [] :=
      List.filter_eq_nil_iff.2 fun n hn => Bool.eq_false_iff.1 (h n hn)
    rw [usage_of_names hv, hnone]
    rfl

/-! ## the names of a component -/

theorem mem_map_byName {xs : List (String × Value)} {n : String} :
    n ∈ (byName xs).map Prod.fst ↔ n ∈ xs.map Prod.fst :=
  ((List.mergeSort_perm xs _).map Prod.fst).mem_iff

theorem mem_names_kind (h : v.namedMembers = byName ((memberNames v.kindName).map fun n =>
      (n, builtinMember v n))) {n : String} : n ∈ v.names ↔ n ∈ memberNames v.kindName := by
  have hid : (Prod.fst ∘ fun n => (n, builtinMember v n)) = id := rfl
  rw [Value.names, h, mem_map_byName, List.map_map, hid, List.map_id]

/-- a private name is there, also where a member of the component's own hides it -/
theorem mem_names_own {own : List (String × Value)} {hidden : List String} {f : String → Value}
    (h : v.namedMembers = byName (own ++ (hidden.filter fun k => (own.lookup k).isNone).map fun k =>
      (k, f k))) {n : String} : n ∈ v.names ↔ n ∈ own.map Prod.fst ∨ n ∈ hidden := by
  rw [Value.names, h, mem_map_byName, List.map_append, List.mem_append, List.map_map]
  constructor
  · rintro (hn | hn)
    · exact .inl hn
    · obtain ⟨k, hk, rfl⟩ := List.mem_map.1 hn
      exact .inr (List.mem_filter.1 hk).1
  · rintro (hn | hn)
    · exact .inl hn
    · cases hown : own.lookup n with
      | some w => exact .inl (List.mem_map_of_mem (f := Prod.fst) (mem_of_lookup hown))
      | none => exact .inr (List.mem_map.2 ⟨n, List.mem_filter.2 ⟨hn, by rw [hown]; rfl⟩, rfl⟩)

theorem mem_names_object {c : Class} {attrs : List (String × Value)} {n : String} :
    n ∈ (Value.object c attrs).names ↔
      n ∈ attrs.map Prod.fst ++ c.declared.map Prod.fst ∨ n ∈ c.privateNames := by
  rw [mem_names_own rfl, List.map_append, List.map_map, List.mem_append, List.mem_append]
  refine or_congr_left ⟨fun h => h.imp_right fun h => ?_, fun h => ?_⟩
  · obtain ⟨m, hm, rfl⟩ := List.mem_map.1 h
    exact List.mem_map_of_mem (List.mem_filter.1 hm).1
  · cases hattr : attrs.lookup n with
    | some w => exact .inl (List.mem_map_of_mem (f := Prod.fst) (mem_of_lookup hattr))
    | none =>
      refine h.imp_right fun h => ?_
      obtain ⟨m, hm, rfl⟩ := List.mem_map.1 h
      exact List.mem_map.2 ⟨m, List.mem_filter.2 ⟨hm, by rw [hattr]; rfl⟩, rfl⟩

/-! ## names in the tables -/

theorem not_isListed {n : String} (h : isPublic n = false) : isListed false (.text n) = false := by
  show (decide (n ≠ "") && isPublic n) = false
  rw [h, Bool.and_false]

theorem not_isListed_of_underscores {s n : String}
    (h : (Text.wordsFrom [] s.toList).all (['_'].isPrefixOf ·) = true) (hn : n ∈ Text.words s) :
    isListed false (.text n) = false := by
  have hstart : ['_'].isPrefixOf n.toList = true := all_words h hn
  refine not_isListed ?_
  show (!List.isPrefixOf ['_'] n.toList) = false
  rw [hstart]
  rfl

theorem not_isListed_common {n : String} (hn : n ∈ commonNames) : isListed false (.text n) = false := by
  refine not_isListed_of_underscores ?_ hn
  rw [String.toList_append, String.toList_append, String.toList_ofList, String.toList_ofList,
    String.toList_ofList]
  decide +kernel

theorem not_isListed_module {n : String} (hn : n ∈ moduleNames) : isListed false (.text n) = false := by
  refine not_isListed_of_underscores ?_ hn
  rw [String.toList_ofList]
  decide +kernel

/-! ## components without help -/

/-- a component that help has nothing to say about; if private names count, only generators are left -/
inductive Value.Bare : Bool → Value → Prop where
  | generator (verbose : Bool) (xs : List Value) : Bare verbose (.generator xs)
  | null : Bare false .null
  | ellipsis : Bare false .ellipsis
  | object {c : Class} {attrs : List (String × Value)}
      (document : (c.doc.map Text.clean).getD "" = "") (length : c.length? = none)
      (names : ∀ n ∈ attrs.map Prod.fst ++ c.declared.map Prod.fst, isListed false (.text n) = false) :
      Bare false (.object c attrs)
  | module {name : String} {doc : Option String} {members : List (String × Value)}
      (document : (doc.map Text.clean).getD "" = "")
      (names : ∀ n ∈ members.map Prod.fst, isListed false (.text n) = false) :
      Bare false (.module name doc members)

theorem usage_of_private (hv : v.ByNames) (h : v.namedMembers = byName ((memberNames v.kindName).map
      fun n => (n, builtinMember v n))) (hpublic : publicNames v.kindName = [])
    (hextra : ∀ n ∈ extraNames v.kindName, isListed false (.text n) = false) :
    v.usage none false = "" := by
  refine (usage_eq_empty_iff hv).2 fun n hn => ?_
  rw [mem_names_kind h, memberNames, hpublic, List.nil_append, List.mem_append] at hn
  exact hn.elim not_isListed_common (hextra n)

theorem Value.Bare.error (h : v.Bare verbose) : v.help none verbose = .error .emptyMaximum := by
  refine (help_eq_error_iff v none verbose _).2 ⟨?_, rfl⟩
  cases h with
  | generator xs => exact ⟨rfl, rfl, rfl⟩
  | null =>
    have hextra : extraNames Value.null.kindName = ["__bool__"] := rfl
    refine ⟨usage_of_private ⟨rfl, rfl, rfl⟩ rfl rfl ?_, rfl, rfl⟩
    rw [hextra]
    exact List.forall_mem_singleton.2 (by decide +kernel)
  | ellipsis =>
    have hextra : extraNames Value.ellipsis.kindName = [] := rfl
    refine ⟨usage_of_private ⟨rfl, rfl, rfl⟩ rfl rfl ?_, rfl, rfl⟩
    rw [hextra]
    exact fun n hn => absurd hn List.not_mem_nil
  | object document length names =>
    refine ⟨(usage_eq_empty_iff ⟨rfl, rfl, rfl⟩).2 fun n hn => ?_, document, length⟩
    exact (mem_names_object.1 hn).elim (names n) fun hn =>
      not_isListed (not_isPublic_of_mem_privateNames hn)
  | module document names =>
    refine ⟨(usage_eq_empty_iff ⟨rfl, rfl, rfl⟩).2 fun n hn => ?_, document, rfl⟩
    exact ((mem_names_own rfl).1 hn).elim (names n) not_isListed_module

end

end CommandLine
