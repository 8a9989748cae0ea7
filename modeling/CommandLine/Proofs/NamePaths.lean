import CommandLine.Component.Members
import CommandLine.Proofs.Dispatching
import CommandLine.Proofs.Listings
import CommandLine.Proofs.NextWord

/-!
# Paths of names

A dictionary leads to its entries and an object to its attributes, so a list of names may lead through
both of them to a value (`follow?`).  The names are written as the words of a command with dashes for
underscores, and a command reads a dash as an underscore where no name has the dash; for names without
dashes the two undo each other (`underscored_commandWord`).  So the words for the names are among the
commands (`mem_commands_of_follow`), and running them leads along the same path (`outcome_run_follow`).
-/

namespace CommandLine

/-! ## the words for names -/

/-- a name that is not empty and has no dash -/
def isPathName (n : String) : Bool := n ≠ "" && !Text.hasChar '-' n

section
variable {n : String}

theorem dash_not_mem (h : isPathName n = true) : '-' ∉ n.toList := by
  have hdash := (Bool.and_eq_true_iff.1 h).2
  rw [Text.hasChar, Bool.not_eq_true', ← Bool.not_eq_true, List.contains_iff_mem] at hdash
  exact hdash

theorem not_startsWith {pre s : String} {c d : Char} {cs : List Char} (hpre : pre.toList = [d])
    (hs : s.toList = c :: cs) (hne : c ≠ d) : Text.startsWith pre s = false := by
  unfold Text.startsWith
  rw [hpre, hs]
  show (d == c && _) = false
  rw [beq_false_of_ne (Ne.symm hne)]
  rfl

theorem toList_commandWord (hn : isPublic n = true) :
    (commandWord n).toList = n.toList.map fun c => if c = '_' then '-' else c := by
  unfold isPublic at hn
  rw [Bool.not_eq_true'] at hn
  unfold commandWord
  rw [hn, if_neg Bool.false_ne_true, Text.replaceChar, String.toList_ofList]

/-- the word for a name starts as the name does, with no underscore and no dash -/
theorem exists_head_word (hn : isPublic n = true) (hpath : isPathName n = true) :
    ∃ c cs, (commandWord n).toList = c :: cs ∧ c ≠ '_' ∧ c ≠ '-' := by
  rw [toList_commandWord hn]
  cases hcs : n.toList with
  | nil =>
    rw [String.toList_eq_nil_iff.1 hcs] at hpath
    cases hpath
  | cons c cs =>
    have hunder : c ≠ '_' := by
      rintro rfl
      unfold isPublic Text.startsWith at hn
      rw [hcs] at hn
      cases hn
    refine ⟨c, cs.map fun c => if c = '_' then '-' else c, ?_, hunder, ?_⟩
    · rw [List.map_cons, if_neg hunder]
    · rintro rfl
      exact dash_not_mem hpath (hcs ▸ List.mem_cons_self)

theorem isPublic_commandWord (hn : isPublic n = true) (hpath : isPathName n = true) :
    isPublic (commandWord n) = true := by
  obtain ⟨c, cs, hcs, hunder, -⟩ := exists_head_word hn hpath
  unfold isPublic
  rw [not_startsWith rfl hcs hunder]
  rfl

theorem isWord_commandWord (hn : isPublic n = true) (hpath : isPathName n = true) :
    IsWord (commandWord n) ∧ commandWord n ≠ "-" := by
  obtain ⟨c, cs, hcs, -, hdash⟩ := exists_head_word hn hpath
  exact isWord_of_not_dashed (not_startsWith rfl hcs hdash)

theorem underscored_commandWord (hn : isPublic n = true) (hpath : isPathName n = true) :
    underscored (commandWord n) = n := by
  have hback : ∀ c ∈ n.toList,
      (if (if c = '_' then '-' else c) = '-' then '_' else if c = '_' then '-' else c) = c := by
    intro c hc
    by_cases hunder : c = '_'
    · rw [if_pos hunder, if_pos rfl, hunder]
    · have hdash : c ≠ '-' := fun e => dash_not_mem hpath (e ▸ hc)
      rw [if_neg hunder, if_neg hdash]
  unfold underscored Text.replaceChar
  rw [toList_commandWord hn, List.map_map]
  refine (congrArg String.ofList ?_).trans String.ofList_toList
  exact (List.map_congr_left hback).trans (List.map_id _)

theorem commandWord_eq (hn : isPublic n = true) (h : isPathName (commandWord n) = true) :
    commandWord n = n := by
  have hunder : ∀ c ∈ n.toList, c ≠ '_' := by
    rintro c hc rfl
    refine dash_not_mem h ?_
    rw [toList_commandWord hn]
    exact List.mem_map.2 ⟨'_', hc, rfl⟩
  refine String.toList_inj.1 ?_
  rw [toList_commandWord hn]
  exact (List.map_congr_left fun c hc => if_neg (hunder c hc)).trans (List.map_id _)

end

/-! ## entries and attributes -/

/-- the part of a dictionary or an object under a name -/
def Value.part? (v : Value) (n : String) : Option Value :=
  match v with
  | .dict es => Value.lookup (.text n) es
  | v => v.attribute? n

/-- a dictionary with such names for its keys, or an object with such names for its attributes -/
def Value.isBranch : Value → Bool
  | .dict es => es.all fun e => e.1.text?.any isPathName
  | .object c attrs => attrs.all (isPathName ·.1) && c.declared.all (isPathName ·.1)
  | _ => false

theorem not_callable_of_isBranch {v : Value} (h : v.isBranch = true) : v.isCallable = false := by
  cases v with
  | dict es => rfl
  | object c attrs => rfl
  | _ => cases h

theorem not_isSeries_of_isBranch {v : Value} (h : v.isBranch = true) : v.isSeries = false := by
  cases v with
  | dict es => rfl
  | object c attrs => rfl
  | _ => cases h

/-! ### of a dictionary -/

section
variable {es : List (Value × Value)} {n : String} {u : Value}

theorem exists_key (h : (Value.dict es).isBranch = true) {e : Value × Value} (he : e ∈ es) :
    ∃ k, e.1 = .text k ∧ isPathName k = true := by
  have hkey : e.1.text?.any isPathName = true := List.all_eq_true.1 h e he
  cases hk : e.1 with
  | text k =>
    rw [hk] at hkey
    exact ⟨k, rfl, hkey⟩
  | _ =>
    rw [hk] at hkey
    cases hkey

theorem mem_of_lookup_key (h : (Value.dict es).isBranch = true)
    (hu : Value.lookup (.text n) es = some u) : (.text n, u) ∈ es ∧ isPathName n = true := by
  obtain ⟨e, he, rfl⟩ := Option.map_eq_some_iff.1 hu
  have hmem := List.mem_of_find?_eq_some he
  have heqv := List.find?_some he
  obtain ⟨k, hk, hpath⟩ := exists_key h hmem
  rw [hk, eqv_text, decide_eq_true_iff] at heqv
  rw [← heqv, ← hk]
  exact ⟨hmem, hpath⟩

theorem entryFor_word (h : (Value.dict es).isBranch = true) (hn : isPublic n = true)
    (hu : Value.lookup (.text n) es = some u) : entryFor es (.text (commandWord n)) = .ok (some u) := by
  obtain ⟨-, hpath⟩ := mem_of_lookup_key h hu
  have hhash : (Value.text (commandWord n)).unhashable? = none := rfl
  unfold entryFor
  cases hword : Value.lookup (.text (commandWord n)) es with
  | some w =>
    -- a key that is the word has no dash, so it is the name
    rw [commandWord_eq hn (mem_of_lookup_key h hword).2, hu] at hword
    rw [hhash, Option.some.inj hword]
  | none =>
    rw [hhash]
    dsimp only
    rw [underscored_commandWord hn hpath, hu]
    rfl

theorem lookup_text_cons (n : String) (u : Value) (es : List (Value × Value)) :
    Value.lookup (.text n) ((.text n, u) :: es) = some u := by
  have hkey : (Value.text n).eqv (.text n) = true := by
    rw [eqv_text]
    exact decide_eq_true rfl
  unfold Value.lookup
  rw [List.find?_cons_of_pos (p := fun e : Value × Value => e.1.eqv (.text n)) hkey]
  rfl

end

/-! ### of an object -/

theorem le_trans_text (a b c : String × Value) (hab : Text.le a.1 b.1 = true)
    (hbc : Text.le b.1 c.1 = true) : Text.le a.1 c.1 = true :=
  decide_eq_true (String.le_trans (of_decide_eq_true hab) (of_decide_eq_true hbc))

theorem le_total_text (a b : String × Value) : (Text.le a.1 b.1 || Text.le b.1 a.1) = true := by
  rcases String.le_total a.1 b.1 with h | h
  · exact Bool.or_eq_true_iff.2 (.inl (decide_eq_true h))
  · exact Bool.or_eq_true_iff.2 (.inr (decide_eq_true h))

theorem lookup_eq_head (xs : List (String × Value)) (n : String) :
    xs.lookup n = ((xs.filter fun x => x.1 = n).head?).map (·.2) := by
  induction xs with
  | nil => rfl
  | cons x xs ih =>
    obtain ⟨k, v⟩ := x
    rw [lookup_cons_name, List.filter_cons]
    by_cases h : n = k
    · rw [if_pos h, if_pos (decide_eq_true h.symm)]
      rfl
    · have hk : ¬ decide (k = n) = true := fun e => h (of_decide_eq_true e).symm
      rw [if_neg h, if_neg hk, ih]

/-- sorting by name keeps the order of what has the same name -/
theorem lookup_byName (xs : List (String × Value)) (n : String) :
    (byName xs).lookup n = xs.lookup n := by
  have hnamed : (xs.filter fun x => x.1 = n).Pairwise fun a b => Text.le a.1 b.1 = true := by
    refine List.pairwise_iff_forall_sublist.2 fun {a b} hab => ?_
    have hmem : ∀ y ∈ [a, b], y.1 = n := fun y hy =>
      of_decide_eq_true (List.mem_filter.1 (hab.subset hy)).2
    rw [hmem a (by simp), hmem b (by simp)]
    exact decide_eq_true (String.le_refl n)
  have hsub : (xs.filter fun x => x.1 = n).Sublist (byName xs) :=
    List.sublist_mergeSort le_trans_text le_total_text hnamed List.filter_sublist
  have hkept := hsub.filter fun x => decide (x.1 = n)
  rw [List.filter_filter] at hkept
  simp only [Bool.and_self] at hkept
  have hperm : (xs.filter fun x => x.1 = n).Perm ((byName xs).filter fun x => x.1 = n) :=
    (List.mergeSort_perm xs _).symm.filter _
  rw [lookup_eq_head, lookup_eq_head, hkept.eq_of_length hperm.length_eq]

section
variable {c : Class} {attrs : List (String × Value)} {n : String} {u : Value}

theorem lookup_namedMembers (hn : isPublic n = true) :
    (Value.object c attrs).namedMembers.lookup n = (Value.object c attrs).attribute? n := by
  have hhidden : ∀ own : List (String × Value),
      ((c.privateNames.filter fun k => (own.lookup k).isNone).map fun k =>
        (k, c.privateMember (.object c attrs) k)).lookup n = none := by
    intro own
    refine List.lookup_eq_none_iff.2 fun e he => bne_iff_ne.2 ?_
    obtain ⟨k, hk, rfl⟩ := List.mem_map.1 he
    rintro rfl
    rw [not_isPublic_of_mem_privateNames (List.mem_filter.1 hk).1] at hn
    cases hn
  have hprivate : c.privateNames.contains n = false := by
    refine Bool.eq_false_iff.2 fun h => ?_
    rw [not_isPublic_of_mem_privateNames (List.contains_iff_mem.1 h)] at hn
    cases hn
  unfold Value.namedMembers Value.attribute?
  dsimp only
  rw [lookup_byName, List.lookup_append, hhidden, Option.or_none, List.lookup_append,
    lookup_map_values, hprivate]
  cases hattr : attrs.lookup n with
  | some w => rfl
  | none =>
    have hkeep := lookup_filter_names (fun k => (attrs.lookup k).isNone) c.declared (q := n)
      (by rw [hattr]; rfl)
    rw [hkeep, lookup_declared, Option.none_or]
    cases c.member? n <;> rfl

theorem isPathName_of_attribute (h : (Value.object c attrs).isBranch = true) (hn : isPublic n = true)
    (hu : (Value.object c attrs).attribute? n = some u) : isPathName n = true := by
  obtain ⟨hattrs, hdeclared⟩ := Bool.and_eq_true_iff.1 h
  unfold Value.attribute? at hu
  dsimp only at hu
  cases hattr : attrs.lookup n with
  | some w => exact List.all_eq_true.1 hattrs (n, w) (mem_of_lookup hattr)
  | none =>
    rw [hattr] at hu
    cases hmember : c.member? n with
    | some m =>
      have hmem := mem_of_lookup ((lookup_declared c n).trans hmember)
      exact List.all_eq_true.1 hdeclared (n, m) hmem
    | none =>
      rw [hmember] at hu
      dsimp only at hu
      split at hu
      · rename_i hprivate
        rw [not_isPublic_of_mem_privateNames (List.contains_iff_mem.1 hprivate)] at hn
        cases hn
      · cases hu

theorem memberFor_word (h : (Value.object c attrs).isBranch = true) (hn : isPublic n = true)
    (hu : (Value.object c attrs).attribute? n = some u) :
    memberFor (.object c attrs) (.text (commandWord n)) = .ok (some u) := by
  have hpath := isPathName_of_attribute h hn hu
  have hpublic := isPublic_commandWord hn hpath
  unfold memberFor
  dsimp only
  rw [underscored_commandWord hn hpath, lookup_namedMembers hn, lookup_namedMembers hpublic, hu]
  cases hword : (Value.object c attrs).attribute? (commandWord n) with
  | some w =>
    -- an attribute named by the word has no dash, so it is the one
    rw [commandWord_eq hn (isPathName_of_attribute h hpublic hword), hu] at hword
    exact congrArg _ hword.symm
  | none => rfl

end

/-! ### of either -/

section
variable {v u : Value} {n : String}

theorem isPathName_of_part (h : v.isBranch = true) (hn : isPublic n = true)
    (hu : v.part? n = some u) : isPathName n = true := by
  cases v with
  | dict es => exact (mem_of_lookup_key h hu).2
  | object c attrs => exact isPathName_of_attribute h hn hu
  | _ => cases h

/-- the word for the name of a part leads to the part -/
theorem moveByAccess_part (h : v.isBranch = true) (hn : isPublic n = true)
    (hu : v.part? n = some u) :
    ∃ step : Step, step.component = u ∧
      ∀ rest, v.moveByAccess (.text (commandWord n)) rest = .ok (.made u step rest) := by
  cases v with
  | dict es =>
    refine ⟨accessStep u (.text (commandWord n)) (.text (commandWord n)), rfl, fun rest => ?_⟩
    unfold Value.moveByAccess
    dsimp only
    rw [entryFor_word h hn hu]
    rfl
  | object c attrs =>
    refine ⟨{ accessStep u (.text (commandWord n)) (.text (commandWord n)) with
      file := u.place.1, line := u.place.2.map Int.ofNat }, rfl, fun rest => ?_⟩
    unfold Value.moveByAccess
    dsimp only
    rw [memberFor_word h hn hu]
    rfl
  | _ => cases h

theorem mem_members_part (h : v.isBranch = true) (hn : isPublic n = true)
    (hu : v.part? n = some u) : (.text n, u) ∈ v.members := by
  cases v with
  | dict es => exact (mem_of_lookup_key h hu).1
  | object c attrs =>
    have hmem := mem_of_lookup ((lookup_namedMembers hn).trans hu)
    exact List.mem_map.2 ⟨(n, u), hmem, rfl⟩
  | _ => cases h

theorem mem_listedMembers_part (h : v.isBranch = true) (hn : isPublic n = true)
    (hu : v.part? n = some u) : (.text n, u) ∈ v.listedMembers false := by
  refine List.mem_filter.2 ⟨mem_members_part h hn hu, ?_⟩
  obtain ⟨hempty, -⟩ := Bool.and_eq_true_iff.1 (isPathName_of_part h hn hu)
  show (false || (decide (n ≠ "") && isPublic n)) = true
  rw [hempty, hn]
  rfl

end

/-! ## paths -/

/-- the value at the end of a path of public names, through dictionaries and objects -/
def Value.follow? : Value → List String → Option Value
  | v, [] => some v
  | v, n :: ns =>
    if v.isBranch && isPublic n then (v.part? n).bind fun u => u.follow? ns else none

section
variable {v u : Value} {n : String} {ns : List String}

theorem follow_cons_eq_some : v.follow? (n :: ns) = some u ↔
    v.isBranch = true ∧ isPublic n = true ∧ ∃ w, v.part? n = some w ∧ w.follow? ns = some u := by
  rw [Value.follow?]
  split
  · rename_i h
    rw [Option.bind_eq_some_iff]
    obtain ⟨hbranch, hn⟩ := Bool.and_eq_true_iff.1 h
    exact ⟨fun h => ⟨hbranch, hn, h⟩, fun h => h.2.2⟩
  · rename_i h
    constructor
    · intro hu
      cases hu
    · rintro ⟨hbranch, hn, -⟩
      exact absurd (Bool.and_eq_true_iff.2 ⟨hbranch, hn⟩) h

/-- the last name of a path leads from the component before it -/
theorem follow_concat (h : v.follow? (ns ++ [n]) = some u) :
    ∃ p, v.follow? ns = some p ∧ p.isBranch = true ∧ isPublic n = true ∧ p.part? n = some u := by
  induction ns generalizing v with
  | nil =>
    obtain ⟨hbranch, hn, w, hw, hu⟩ := follow_cons_eq_some.1 h
    obtain rfl := Option.some.inj hu
    exact ⟨v, rfl, hbranch, hn, hw⟩
  | cons m ns ih =>
    obtain ⟨hbranch, hm, w, hw, hu⟩ := follow_cons_eq_some.1 h
    obtain ⟨p, hp, hrest⟩ := ih hu
    exact ⟨p, follow_cons_eq_some.2 ⟨hbranch, hm, w, hw, hp⟩, hrest⟩

theorem mem_commands_of_follow {depth : Nat} (h : v.follow? (n :: ns) = some u)
    (hdepth : ns.length < depth) : (n :: ns).map commandWord ∈ v.commands depth := by
  induction ns generalizing v n depth with
  | nil =>
    obtain ⟨hbranch, hn, w, hw, -⟩ := follow_cons_eq_some.1 h
    obtain ⟨d, rfl⟩ := Nat.exists_eq_succ_of_ne_zero (Nat.ne_of_gt hdepth)
    exact (cons_mem_commands (not_callable_of_isBranch hbranch)).2
      ⟨(.text n, w), mem_listedMembers_part hbranch hn hw, rfl, .inl rfl⟩
  | cons m ns ih =>
    obtain ⟨hbranch, hn, w, hw, hu⟩ := follow_cons_eq_some.1 h
    obtain ⟨d, rfl⟩ := Nat.exists_eq_succ_of_ne_zero (Nat.ne_of_gt (Nat.zero_lt_of_lt hdepth))
    rw [List.length_cons, Nat.succ_lt_succ_iff] at hdepth
    exact (cons_mem_commands (not_callable_of_isBranch hbranch)).2
      ⟨(.text n, w), mem_listedMembers_part hbranch hn hw, rfl, .inr (ih hu hdepth)⟩

theorem isWord_of_follow (h : v.follow? ns = some u) : ∀ s ∈ ns.map commandWord, IsWord s := by
  induction ns generalizing v with
  | nil => exact fun s hs => absurd hs List.not_mem_nil
  | cons n ns ih =>
    obtain ⟨hbranch, hn, w, hw, hu⟩ := follow_cons_eq_some.1 h
    rw [List.map_cons, List.forall_mem_cons]
    exact ⟨(isWord_commandWord hn (isPathName_of_part hbranch hn hw)).1, ih hu⟩

theorem outcome_run_follow {σ : Type} (host : Host σ) (fs : Flags) (hfs : fs.shows = false)
    (hsep : fs.separator = "-") (hu : u.isCallable = false) (h : v.follow? ns = some u)
    {p : Progress} {t : Trace} (hp : p.Stands v ((ns.map commandWord).map .text) t)
    (ht : t.failed = false) (hresult : t.result = v) (w : World σ) :
    ∃ q t', outcome (p.run host fs) w = (.ok (.finished q), w) ∧ q.Stands u [] t' ∧
      t'.failed = false ∧ t'.result = u := by
  induction ns generalizing v p t with
  | nil =>
    obtain rfl := Option.some.inj h
    obtain ⟨q, hround, hq⟩ := outcome_round_idle host w hfs hu hp
    refine ⟨q, t, ?_, hq, ht, hresult⟩
    rw [outcome_run]
    exact outcome_rounds_of_finished hround
  | cons n ns ih =>
    obtain ⟨hbranch, hn, x, hx, hu⟩ := follow_cons_eq_some.1 h
    obtain ⟨step, hstep, hmove⟩ := moveByAccess_part hbranch hn hx
    have harg : (Value.text (commandWord n)).isText fs.separator = false := by
      rw [hsep]
      exact not_isText (isWord_commandWord hn (isPathName_of_part hbranch hn hx)).2
    obtain ⟨q, hround, hq⟩ :=
      outcome_round_access host w hfs (not_callable_of_isBranch hbranch) hp harg hmove
    obtain ⟨r, t', hrun, hr⟩ := ih hu hq (failed_add t step) ((result_add t step).trans hstep)
    refine ⟨r, t', ?_, hr⟩
    have hless : q.args.length < p.args.length := by
      rw [hq.args, hp.args]
      exact Nat.lt_succ_self _
    rw [outcome_run, ← hrun]
    exact (outcome_rounds_of_again hround).trans (if_pos hless)

end

/-- **Paths of names lead where they say.**  The words for a path of names that is no longer than the
commands are deep are one of the commands of the component it starts at, and the last of them is a
completion of the component before it.  A command of these words comes to the value at the end of the
path, if this is nothing that can be called, without a failure and without touching anything. -/
theorem path_words_lead (root v : Value) (path : List String) (name : String) (depth : Nat)
    (hpath : root.follow? (path ++ [name]) = some v) (hdepth : path.length < depth)
    (hv : v.isCallable = false) :
    (path ++ [name]).map commandWord ∈ root.commands depth ∧
    (∃ parent, root.follow? path = some parent ∧ parent.part? name = some v ∧
      commandWord name ∈ parent.completions false) ∧
    ∀ {σ : Type} (host : Host σ) (context : List (String × Value)) (called : Option String)
      (program : String) (w : World σ),
      ∃ t, outcome (Command.trace host ⟨root, ((path ++ [name]).map commandWord).map .text, false,
          context, called, program⟩) w = (.ok (t, {}), w) ∧
        t.failed = false ∧ t.result = v := by
  obtain ⟨n, ns, hns⟩ : ∃ n ns, path ++ [name] = n :: ns :=
    List.exists_cons_of_ne_nil (List.append_ne_nil_of_right_ne_nil path (List.cons_ne_nil name []))
  have hlength : path.length = ns.length := by
    have h := congrArg List.length hns
    rw [List.length_append, List.length_singleton, List.length_cons] at h
    omega
  refine ⟨?_, ?_, ?_⟩
  · rw [hns] at hpath ⊢
    exact mem_commands_of_follow hpath (by omega)
  · obtain ⟨parent, hparent, hbranch, hname, hpart⟩ := follow_concat hpath
    refine ⟨parent, hparent, hpart, ?_⟩
    rw [completions_of_members (not_callable_of_isBranch hbranch) (not_isSeries_of_isBranch hbranch)]
    exact List.mem_map.2 ⟨(.text name, v), mem_listedMembers_part hbranch hname hpart, rfl⟩
  · intro σ host context called program w
    have hroot : root.isBranch = true := by
      rw [hns] at hpath
      exact (follow_cons_eq_some.1 hpath).1
    have hinitial : (Command.mk root [] false context called program).initial = root := by
      cases root with
      | null => cases hroot
      | _ => rfl
    have hwalk := trace_on host (Command.mk root [] false context called program)
      (isWord_of_follow hpath)
    obtain ⟨q, t, hrun, hq, hfailed, hresult⟩ := outcome_run_follow host {} rfl rfl hv hpath
      (start_stands {} called root _) rfl rfl w
    refine ⟨t, ?_, hfailed, hresult⟩
    refine (congrArg (outcome · w) hwalk).trans ?_
    rw [hinitial, walk_eq host rfl, bind_assoc, outcome_bind_of_ok hrun]
    show (Except.ok (q.final, _), w) = _
    rw [Progress.final, hq.args, hq.trace]
    rfl

def sampleNode (attrs : List (String × Value)) : Value :=
  .object ⟨"A", "__main__", none, [], .inherited, none, none, none, none, []⟩ attrs

theorem commandWord_ne_empty {n : String} (h : isListed false (.text n) = true) :
    commandWord n ≠ "" := by
  have hlisted : (decide (n ≠ "") && isPublic n) = true := h
  obtain ⟨hn, hpublic⟩ := Bool.and_eq_true_iff.1 hlisted
  intro hword
  have hnil := toList_commandWord hpublic
  rw [hword, eq_comm] at hnil
  exact of_decide_eq_true hn (String.toList_eq_nil_iff.1 (List.map_eq_nil_iff.1 hnil))

/-- an attribute without a name is public and has no dash, but no command leads to it -/
theorem empty_name_not_listed :
    (sampleNode [("", .int 5)]).part? "" = some (.int 5) ∧ isPublic "" = true ∧
    '-' ∉ "".toList ∧ [commandWord ""] ∉ (sampleNode [("", .int 5)]).commands 1 := by
  refine ⟨rfl, rfl, List.not_mem_nil, fun h => ?_⟩
  obtain ⟨m, hm, hword⟩ := (singleton_mem_commands rfl).1 h
  obtain ⟨hm, hlisted⟩ := List.mem_filter.1 hm
  obtain ⟨e, -, rfl⟩ := List.mem_map.1 hm
  exact commandWord_ne_empty hlisted hword

def sampleTree : Value := .dict [(.text "x_y", sampleNode [("a", .null), ("a_b", .int 5)])]

theorem path_words_lead_sample :
    ["x-y", "a-b"] ∈ sampleTree.commands 2 ∧
    ∃ t, outcome (Command.trace (Host.plain Unit)
        ⟨sampleTree, [.text "x-y", .text "a-b"], false, [], none, "prog"⟩) ⟨"", "", ()⟩ =
          (.ok (t, {}), ⟨"", "", ()⟩) ∧ t.failed = false ∧ t.result = .int 5 := by
  have hpath : sampleTree.follow? (["x_y"] ++ ["a_b"]) = some (.int 5) := by
    refine follow_cons_eq_some.2 ⟨rfl, rfl, _, lookup_text_cons _ _ _, ?_⟩
    exact follow_cons_eq_some.2 ⟨rfl, rfl, _, rfl, rfl⟩
  have hwords : (["x_y"] ++ ["a_b"]).map commandWord = ["x-y", "a-b"] := by decide
  obtain ⟨hcommand, -, hrun⟩ :=
    path_words_lead sampleTree (.int 5) ["x_y"] "a_b" 2 hpath (by decide) rfl
  rw [hwords] at hcommand hrun
  exact ⟨hcommand, hrun (Host.plain Unit) [] none "prog" ⟨"", "", ()⟩⟩

end CommandLine
