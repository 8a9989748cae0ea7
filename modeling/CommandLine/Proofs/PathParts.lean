import CommandLine.Proofs.Casts
import CommandLine.Proofs.NearestIds

/-!
# Paths read from their own parts

A path is read anew from its parts, the anchor and the names.  A slash path is read as itself (`lasting_slash`).
A drive path need not be: a name such as `c:b` is read as a drive and a name, and what stands in front of it is
lost; and the anchor of a share without a mount is no anchor when it is read again.  `Path.Lasting` excludes both,
and decides whether a path is read as itself (`reread_eq_iff`).
-/

namespace CommandLine.Path

variable {k : PathKind} {n : String}

/-! ## names -/

/-- a name as reading gives it: neither empty nor a dot, and without the signs between names -/
structure IsName (k : PathKind) (n : String) : Prop where
  ne_empty : n ≠ ""
  ne_dot : n ≠ "."
  slash : '/' ∉ n.toList
  separator : separator k ∉ n.toList

theorem isName_of_mem_namesOf {rel : String} (hrel : isDrivePath k = true → '/' ∉ rel.toList)
    (h : n ∈ namesOf k rel) : IsName k n := by
  unfold namesOf at h
  obtain ⟨hsplit, hkeep⟩ := List.mem_filter.1 h
  obtain ⟨cs, hcs, rfl⟩ := List.mem_map.1 hsplit
  obtain ⟨hsep, hin⟩ := of_mem_splitOn hcs
  simp only [ne_eq, decide_not, Bool.and_eq_true, Bool.not_eq_true', decide_eq_false_iff_not] at hkeep
  refine ⟨hkeep.1, hkeep.2, ?_, ?_⟩ <;> rw [String.toList_ofList]
  · cases hk : isDrivePath k with
    | true => exact fun h => hrel hk (hin h)
    | false => simpa [separator, hk] using hsep
  · exact hsep

theorem mem_splitExtended {cs : List Char} {c : Char} (h : c ∈ (splitExtended cs).2) : c ∈ cs ∨ c = '\\' := by
  unfold splitExtended at h
  split at h
  · dsimp only at h
    split at h
    · rcases List.mem_cons.1 h with rfl | h
      · exact .inr rfl
      · exact .inl (List.mem_of_mem_drop (List.mem_of_mem_drop h))
    · exact .inl (List.mem_of_mem_drop h)
  · exact .inl h

theorem shareRoot_subset {cs share rest : List Char} (h : shareRoot? cs = some (share, rest)) : rest ⊆ cs := by
  unfold shareRoot? at h
  split at h
  · split at h
    · cases h
    · obtain ⟨i, -, h⟩ := Option.bind_eq_some_iff.1 h
      dsimp only at h
      split at h
      · cases h
      · obtain ⟨-, rfl⟩ := Prod.mk.inj (Option.some.inj h)
        exact List.drop_subset _ _
  · cases h

theorem splitLetter_subset (cs : List Char) : (splitLetter cs).2 ⊆ cs := by
  unfold splitLetter
  split
  · split
    · exact List.subset_cons_of_subset _ (List.subset_cons_self _ _)
    · exact List.Subset.refl _
  · exact List.Subset.refl _

/-- what is read behind the root has only characters of the text, and the sign between names -/
theorem mem_splitDriveRoot {s : String} {c : Char} (h : c ∈ (splitDriveRoot s).2.2.toList) :
    c ∈ s.toList ∨ c = '\\' := by
  refine mem_splitExtended ?_
  unfold splitDriveRoot at h
  dsimp only at h
  split at h <;> rw [String.toList_ofList] at h
  case h_1 hshare => exact shareRoot_subset hshare h
  case h_2 => exact splitLetter_subset _ ((List.dropWhile_sublist _).subset h)

theorem slash_not_mem_rel (hk : isDrivePath k = true) (s : String) : '/' ∉ (splitRoot k s).2.2.toList := by
  intro h
  unfold splitRoot at h
  rw [if_pos hk] at h
  rcases mem_splitDriveRoot h with h | h
  · rw [Text.replaceChar, String.toList_ofList] at h
    obtain ⟨c, -, hc⟩ := List.mem_map.1 h
    split at hc
    case isTrue => exact absurd hc (by decide)
    case isFalse hne => exact hne hc
  · exact absurd h (by decide)

theorem isName_of_mem_names {names parts : List String} (hnames : ∀ n ∈ names, IsName k n) :
    ∀ n ∈ (ofPartsRev k names parts).names, IsName k n := by
  induction parts generalizing names with
  | nil => exact hnames
  | cons part parts ih =>
    have hall : ∀ n ∈ namesOf k (splitRoot k part).2.2 ++ names, IsName k n := by
      intro n hn
      rcases List.mem_append.1 hn with hn | hn
      · exact isName_of_mem_namesOf (fun hk => slash_not_mem_rel hk part) hn
      · exact hnames n hn
    unfold ofPartsRev
    split
    · exact ih hnames
    · dsimp only
      split
      · exact ih hall
      · exact hall

theorem isName_ofParts (k : PathKind) (parts : List String) : ∀ n ∈ (ofParts k parts).names, IsName k n :=
  isName_of_mem_names fun _ hn => absurd hn List.not_mem_nil

theorem namesOf_of_not_mem (h : separator k ∉ n.toList) :
    namesOf k n = [n].filter fun x => x ≠ "" && x ≠ "." := by
  have hsplit : n.toList.splitOn (separator k) = [n.toList] := by
    rw [List.splitOn_eq_splitOnP]
    exact List.splitOnP_eq_singleton fun c hc => beq_eq_false_iff_ne.2 fun e => h (e ▸ hc)
  unfold namesOf Text.splitAtChar
  rw [hsplit, List.map_singleton, String.ofList_toList]

theorem IsName.namesOf_eq (h : IsName k n) : namesOf k n = [n] := by
  rw [namesOf_of_not_mem h.separator]
  simp [h.ne_empty, h.ne_dot]

theorem splitDriveRoot_of_not_mem (h : '\\' ∉ n.toList) : splitDriveRoot n =
    (String.ofList (splitLetter n.toList).1, "", String.ofList (splitLetter n.toList).2) := by
  have hextended : splitExtended n.toList = ([], n.toList) := by
    unfold splitExtended
    refine if_neg fun hpre => h ?_
    exact (List.isPrefixOf_iff_prefix.1 hpre).subset List.mem_cons_self
  have hshare : shareRoot? n.toList = none := by
    unfold shareRoot?
    split
    case h_1 heq => exact absurd (heq ▸ List.mem_cons_self) h
    case h_2 => rfl
  have hrest : '\\' ∉ (splitLetter n.toList).2 := fun hmem => h (splitLetter_subset _ hmem)
  have hhead : (splitLetter n.toList).2.head? ≠ some '\\' := fun e => hrest (List.mem_of_mem_head? e)
  have hdrop : (splitLetter n.toList).2.dropWhile (· = '\\') = (splitLetter n.toList).2 := by
    cases hcs : (splitLetter n.toList).2 with
    | nil => rfl
    | cons c cs =>
      rw [hcs] at hhead
      exact List.dropWhile_cons_of_neg (by simpa using hhead)
  unfold splitDriveRoot
  simp only [hextended, hshare, if_neg hhead, hdrop, List.nil_append]

theorem IsName.splitRoot_cases (h : IsName k n) : splitRoot k n = ("", "", n) ∨
    ∃ d rest, splitRoot k n = (String.ofList [d, ':'], "", rest) ∧ n.toList = d :: ':' :: rest.toList := by
  unfold splitRoot
  cases hk : isDrivePath k with
  | false =>
    have hread := splitSlashRoot_append (.inl rfl) (List.forall_mem_singleton.2 ⟨h.ne_empty, h.ne_dot, h.slash⟩)
    rw [String.empty_append] at hread
    exact .inl hread
  | true =>
    have hback : '\\' ∉ n.toList := by
      have hsep := h.separator
      rwa [Path.separator, if_pos hk] at hsep
    have hreplace : Text.replaceChar '/' '\\' n = n := by
      have hsame : ∀ c ∈ n.toList, (if c = '/' then '\\' else c) = c :=
        fun c hc => if_neg fun (e : c = '/') => h.slash (e ▸ hc)
      rw [Text.replaceChar, List.map_congr_left hsame, List.map_id', String.ofList_toList]
    rw [if_pos rfl, hreplace, splitDriveRoot_of_not_mem hback]
    unfold splitLetter
    split
    case h_1 d rest hcs =>
      split
      · exact .inr ⟨d, String.ofList rest, rfl, by rw [hcs, String.toList_ofList]⟩
      · rw [← hcs, String.ofList_toList]
        exact .inl rfl
    case h_2 =>
      rw [String.ofList_toList]
      exact .inl rfl

/-! ## reading the parts -/

variable {acc rs more : List String}

theorem ofPartsRev_drive {d root rest : String} (hne : n ≠ "") (hsplit : splitRoot k n = (d, root, rest))
    (hd : d ≠ "") : ofPartsRev k acc (n :: more) = ⟨k, d, root, namesOf k rest ++ acc⟩ := by
  rw [ofPartsRev, if_neg hne, hsplit]
  simp only [hd, false_and, if_false, ne_eq, not_false_eq_true, if_true]

theorem ofPartsRev_name (h : IsName k n) (hsplit : splitRoot k n = ("", "", n)) :
    ofPartsRev k acc (n :: more) = ofPartsRev k (n :: acc) more := by
  rw [ofPartsRev, if_neg h.ne_empty, hsplit]
  simp only [and_self, if_true, h.namesOf_eq, List.singleton_append]

theorem letter_ne_empty (d : Char) : String.ofList [d, ':'] ≠ "" :=
  fun e => by simpa using congrArg String.toList e

/-- a name alone is read without a drive exactly if it is read as that name -/
theorem IsName.drive_eq_iff (h : IsName k n) : (ofText k n).drive = "" ↔ splitRoot k n = ("", "", n) := by
  show (ofPartsRev k [] [n]).drive = "" ↔ _
  rcases h.splitRoot_cases with hsplit | ⟨d, rest, hsplit, -⟩
  · rw [ofPartsRev_name h hsplit]
    exact iff_of_true rfl hsplit
  · have hd := letter_ne_empty d
    rw [ofPartsRev_drive h.ne_empty hsplit hd, hsplit]
    exact iff_of_false hd fun e => hd (Prod.mk.inj e).1

theorem ofPartsRev_names (h : ∀ n ∈ rs, IsName k n) (hdrive : ∀ n ∈ rs, (ofText k n).drive = "") :
    ofPartsRev k acc (rs ++ more) = ofPartsRev k (rs.reverse ++ acc) more := by
  induction rs generalizing acc with
  | nil => rfl
  | cons n rs ih =>
    rw [List.forall_mem_cons] at h hdrive
    rw [List.cons_append, ofPartsRev_name h.1 (h.1.drive_eq_iff.1 hdrive.1), ih h.2 hdrive.2,
      List.reverse_cons, List.append_assoc, List.singleton_append]

/-- if all names come back, none of them has been read with a drive -/
theorem drive_eq_of_names (h : ∀ n ∈ rs, IsName k n)
    (hback : (ofPartsRev k acc (rs ++ more)).names = rs.reverse ++ acc) :
    ∀ n ∈ rs, (ofText k n).drive = "" := by
  induction rs generalizing acc with
  | nil => exact fun n hn => absurd hn List.not_mem_nil
  | cons n rs ih =>
    rw [List.forall_mem_cons] at h ⊢
    rw [List.reverse_cons, List.cons_append] at hback
    rcases h.1.splitRoot_cases with hsplit | ⟨d, rest, hsplit, hn⟩
    · rw [ofPartsRev_name h.1 hsplit, List.append_assoc, List.singleton_append] at hback
      exact ⟨h.1.drive_eq_iff.2 hsplit, ih h.2 hback⟩
    · -- the name would be among the names of what stands behind its drive, and that is shorter
      have hsep : separator k ∉ rest.toList := fun hmem =>
        h.1.separator (hn ▸ List.mem_cons_of_mem _ (List.mem_cons_of_mem _ hmem))
      rw [ofPartsRev_drive h.1.ne_empty hsplit (letter_ne_empty d)] at hback
      have hrest : namesOf k rest = rs.reverse ++ [n] := List.append_cancel_right hback
      rw [namesOf_of_not_mem hsep] at hrest
      have hmem : n ∈ [rest].filter fun x => x ≠ "" && x ≠ "." :=
        hrest ▸ List.mem_append_right _ List.mem_cons_self
      have hlength := congrArg List.length hn
      rw [← List.mem_singleton.1 (List.mem_filter.1 hmem).1, List.length_cons, List.length_cons] at hlength
      omega

theorem ofPartsRev_part (part : String) : ofPartsRev k acc [part] =
    { ofText k part with names := (ofText k part).names ++ acc } := by
  have hread : ∃ drive root rel, ∀ acc, ofPartsRev k acc [part] = ⟨k, drive, root, rel ++ acc⟩ := by
    by_cases hpart : part = ""
    · exact ⟨"", "", [], fun acc => if_pos hpart⟩
    · by_cases hroot : (splitRoot k part).1 = "" ∧ (splitRoot k part).2.1 = ""
      · exact ⟨"", "", _, fun acc => (if_neg hpart).trans (if_pos hroot)⟩
      · exact ⟨_, _, _, fun acc => (if_neg hpart).trans (if_neg hroot)⟩
  obtain ⟨drive, root, rel, hread⟩ := hread
  have halone : ofText k part = ⟨k, drive, root, rel ++ []⟩ := hread []
  rw [hread, halone, List.append_nil]

/-- a path whose anchor alone is read as that anchor, and none of whose names is read with a drive -/
structure Lasting (p : Path) : Prop where
  anchor : ofText p.kind p.anchor = { p with names := [] }
  names : ∀ n ∈ p.names, (ofText p.kind n).drive = ""

/-- a path is read as itself exactly if it is lasting -/
theorem reread_eq_iff {p : Path} (h : ∀ n ∈ p.names, IsName p.kind n) :
    ofParts p.kind p.parts = p ↔ p.Lasting := by
  have hmore : ∃ more, p.parts.reverse = p.names.reverse ++ more ∧ ∀ acc, ofPartsRev p.kind acc more =
      { ofText p.kind p.anchor with names := (ofText p.kind p.anchor).names ++ acc } := by
    unfold parts
    split
    case isTrue hnone => exact ⟨[], (List.append_nil _).symm, fun acc => by rw [hnone]; rfl⟩
    case isFalse => exact ⟨[p.anchor], List.reverse_cons, fun acc => ofPartsRev_part _⟩
  obtain ⟨more, hparts, hmore⟩ := hmore
  have hrev : ∀ n ∈ p.names.reverse, IsName p.kind n := fun n hn => h n (List.mem_reverse.1 hn)
  -- without drives in the names, the anchor is read with all the names behind it
  have hread : (∀ n ∈ p.names, (ofText p.kind n).drive = "") → ofParts p.kind p.parts =
      { ofText p.kind p.anchor with names := (ofText p.kind p.anchor).names ++ p.names } := by
    intro hdrive
    unfold ofParts
    rw [hparts, ofPartsRev_names hrev fun n hn => hdrive n (List.mem_reverse.1 hn), List.reverse_reverse,
      List.append_nil, hmore]
  constructor
  · intro hback
    have hnames : (ofPartsRev p.kind [] (p.names.reverse ++ more)).names = p.names.reverse.reverse ++ [] := by
      rw [← hparts, List.reverse_reverse, List.append_nil]
      exact congrArg Path.names hback
    have hdrive : ∀ n ∈ p.names, (ofText p.kind n).drive = "" :=
      fun n hn => drive_eq_of_names hrev hnames n (List.mem_reverse.2 hn)
    refine ⟨?_, hdrive⟩
    have hself := (hread hdrive).symm.trans hback
    generalize ofText p.kind p.anchor = t at hself
    obtain ⟨k, drive, root, names⟩ := t
    obtain rfl : names = [] := List.append_left_eq_self.1 (congrArg Path.names hself)
    exact congrArg (fun q : Path => { q with names := [] }) hself
  · intro hlast
    rw [hread hlast.names, hlast.anchor, List.nil_append]

/-! ## slash paths -/

theorem ofPartsRev_slash {parts : List String} (hk : isDrivePath k = false) :
    (ofPartsRev k acc parts).drive = "" ∧ ((ofPartsRev k acc parts).root = "" ∨
      (ofPartsRev k acc parts).root = "/" ∨ (ofPartsRev k acc parts).root = "//") := by
  have hsplit : ∀ s, splitRoot k s = splitSlashRoot s := fun s => if_neg (by rw [hk]; exact Bool.false_ne_true)
  have hdrives : ∀ parts : List String, (parts.map fun p => (splitRoot k p).1).find? (· ≠ "") = none := by
    intro parts
    refine List.find?_eq_none.2 fun d hd => ?_
    obtain ⟨p, -, rfl⟩ := List.mem_map.1 hd
    simp [hsplit, splitSlashRoot_drive]
  induction parts generalizing acc with
  | nil => exact ⟨rfl, .inl rfl⟩
  | cons part parts ih =>
    unfold ofPartsRev
    split
    · exact ih
    · dsimp only
      split
      · exact ih
      · rw [hdrives, hsplit, splitSlashRoot_drive]
        exact ⟨rfl, splitSlashRoot_root part⟩

/-- a slash path that has been read is lasting, so that it is read as itself -/
theorem lasting_slash (hk : isDrivePath k = false) (parts : List String) : (ofParts k parts).Lasting := by
  have hkind := ofParts_kind k parts
  obtain ⟨hdrive, hroot⟩ : (ofParts k parts).drive = "" ∧ _ := ofPartsRev_slash hk
  change (ofParts k parts).root = "" ∨ (ofParts k parts).root = "/" ∨ (ofParts k parts).root = "//" at hroot
  generalize ofParts k parts = p at hkind hdrive hroot
  obtain ⟨k, drive, root, names⟩ := p
  obtain rfl : k = _ := hkind
  obtain rfl : drive = "" := hdrive
  refine ⟨?_, fun n _ => (ofPartsRev_slash hk).1⟩
  show ofText k ("" ++ root) = ⟨k, "", root, []⟩
  cases k with
  | pureWindows => cases hk
  | _ => rcases hroot with hroot | hroot | hroot <;> (obtain rfl : root = _ := hroot) <;> decide +kernel

end CommandLine.Path
