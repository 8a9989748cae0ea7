import CommandLine.Proofs.Runs
import CommandLine.Source.Secrets
import Mathlib.Data.Nat.Find

/-!
# The nearest id of a secret

A secret is decrypted with the id of the directory that it lies in, or else of the nearest directory
above that has one.  `above path k` is the `k`-th directory above a path, read off the text of the one
before; the texts of paths are read back to the paths themselves (`ofText_text`), so this goes up by one
name at a time (`above_succ`) until no name is left.

The search looks at these directories in turn and gives up at the first one without an id whose path
is at most two characters long, be it the topmost one or a directory with a short name.  `gpgId_nearest`
says what it finds, and that this is the nearest id exactly if no directory with a short name is in the way.
-/

namespace CommandLine

/-! ## the texts of paths -/

/-- a path as a text is read: without a drive, with one of three roots, and with names that are neither
empty nor a dot and have no slash in them -/
structure Path.Slashed (p : Path) : Prop where
  kind : p.kind = .posix
  drive : p.drive = ""
  root : p.root = "" ∨ p.root = "/" ∨ p.root = "//"
  names : ∀ n ∈ p.names, n ≠ "" ∧ n ≠ "." ∧ '/' ∉ n.toList

theorem splitSlashRoot_drive (s : String) : (Path.splitSlashRoot s).1 = "" := by
  unfold Path.splitSlashRoot
  dsimp only
  split <;> rfl

theorem ofText_eq (s : String) : Path.ofText .posix s =
    ⟨.posix, "", (Path.splitSlashRoot s).2.1, Path.namesOf .posix (Path.splitSlashRoot s).2.2⟩ := by
  have hdrive := splitSlashRoot_drive s
  have hsplit : Path.splitRoot .posix s = Path.splitSlashRoot s := rfl
  unfold Path.ofText Path.ofParts
  rw [List.reverse_singleton, Path.ofPartsRev]
  by_cases hs : s = ""
  · subst hs
    rfl
  · rw [if_neg hs, hsplit]
    generalize Path.splitSlashRoot s = parts at hdrive
    obtain ⟨drive, root, rel⟩ := parts
    obtain rfl : drive = "" := hdrive
    dsimp only
    rw [List.append_nil]
    by_cases hroot : root = ""
    · rw [if_pos ⟨rfl, hroot⟩, hroot]
      rfl
    · rw [if_neg fun h => hroot h.2]
      rfl

theorem splitSlashRoot_root (s : String) : (Path.splitSlashRoot s).2.1 = "" ∨
    (Path.splitSlashRoot s).2.1 = "/" ∨ (Path.splitSlashRoot s).2.1 = "//" := by
  unfold Path.splitSlashRoot
  dsimp only
  split
  · exact .inl rfl
  · exact .inr (.inr rfl)
  · exact .inr (.inl rfl)

theorem of_mem_splitOn {c : Char} {cs piece : List Char} (h : piece ∈ cs.splitOn c) :
    c ∉ piece ∧ piece ⊆ cs := by
  rw [List.splitOn_eq_splitOnP] at h
  induction cs generalizing piece with
  | nil =>
    rw [List.splitOnP_nil, List.mem_singleton] at h
    rw [h]
    exact ⟨List.not_mem_nil, List.nil_subset _⟩
  | cons x cs ih =>
    rw [List.splitOnP_cons_eq_if_modifyHead] at h
    split at h
    · rcases List.mem_cons.1 h with rfl | h
      · exact ⟨List.not_mem_nil, List.nil_subset _⟩
      · exact ⟨(ih h).1, List.subset_cons_of_subset x (ih h).2⟩
    · rename_i hx
      cases hpieces : cs.splitOnP (· == c) with
      | nil => exact absurd hpieces (List.splitOnP_ne_nil _ _)
      | cons first rest =>
        rw [hpieces] at h ih
        rcases List.mem_cons.1 h with rfl | h
        · obtain ⟨hfirst, hin⟩ := ih List.mem_cons_self
          rw [List.mem_cons, not_or]
          exact ⟨⟨fun e => hx (beq_iff_eq.2 e.symm), hfirst⟩, List.cons_subset_cons x hin⟩
        · obtain ⟨hrest, hin⟩ := ih (List.mem_cons_of_mem _ h)
          exact ⟨hrest, List.subset_cons_of_subset x hin⟩

theorem slashed_ofText (s : String) : (Path.ofText .posix s).Slashed := by
  rw [ofText_eq]
  refine ⟨rfl, rfl, splitSlashRoot_root s, ?_⟩
  intro n hn
  unfold Path.namesOf at hn
  dsimp only at hn
  rw [List.mem_filter] at hn
  obtain ⟨hsplit, hkeep⟩ := hn
  obtain ⟨cs, hcs, rfl⟩ := List.mem_map.1 hsplit
  simp only [ne_eq, decide_not, Bool.and_eq_true, Bool.not_eq_true', decide_eq_false_iff_not] at hkeep
  refine ⟨hkeep.1, hkeep.2, ?_⟩
  rw [String.toList_ofList]
  exact (of_mem_splitOn hcs).1

theorem toList_joinWith_slash (ns : List String) :
    (Text.joinWith "/" ns).toList = ['/'].intercalate (ns.map String.toList) := by
  induction ns with
  | nil => rfl
  | cons n ns ih =>
    cases ns with
    | nil => exact List.intercalate_singleton.symm
    | cons m ns =>
      rw [List.map_cons, List.map_cons, List.intercalate_cons_cons, ← List.map_cons, ← ih, Text.joinWith,
        String.toList_append, String.toList_append]
      rfl

section
variable {ns : List String}

theorem namesOf_joinWith (h : ∀ n ∈ ns, n ≠ "" ∧ n ≠ "." ∧ '/' ∉ n.toList) :
    Path.namesOf .posix (Text.joinWith "/" ns) = ns := by
  by_cases hnil : ns = []
  · subst hnil
    rfl
  · have hslash : ∀ cs ∈ ns.map String.toList, '/' ∉ cs := by
      intro cs hcs
      obtain ⟨n, hn, rfl⟩ := List.mem_map.1 hcs
      exact (h n hn).2.2
    have hsplit : Text.splitAtChar '/' (Text.joinWith "/" ns) = ns := by
      unfold Text.splitAtChar
      rw [toList_joinWith_slash, List.splitOn_intercalate '/' hslash (by simpa using hnil), List.map_map]
      exact (List.map_congr_left fun n _ => String.ofList_toList).trans (List.map_id ns)
    unfold Path.namesOf
    show (Text.splitAtChar '/' (Text.joinWith "/" ns)).filter _ = ns
    rw [hsplit]
    refine List.filter_eq_self.2 fun n hn => ?_
    obtain ⟨hne, hdot, -⟩ := h n hn
    simp [hne, hdot]

theorem toList_joinWith_cons {n : String} (h : n ≠ "" ∧ n ≠ "." ∧ '/' ∉ n.toList) (ns : List String) :
    ∃ c rest, (Text.joinWith "/" (n :: ns)).toList = c :: rest ∧ c ≠ '/' := by
  obtain ⟨hne, -, hslash⟩ := h
  obtain ⟨c, cs, hcs⟩ := List.exists_cons_of_ne_nil fun e => hne (String.toList_eq_nil_iff.1 e)
  have hc : c ≠ '/' := fun e => hslash (by rw [hcs, e]; exact List.mem_cons_self)
  rw [toList_joinWith_slash, List.map_cons, hcs]
  cases ns with
  | nil => exact ⟨c, cs, List.intercalate_singleton, hc⟩
  | cons m ns => exact ⟨c, _, List.intercalate_cons_cons, hc⟩

theorem splitSlashRoot_append {root : String} (hroot : root = "" ∨ root = "/" ∨ root = "//")
    (h : ∀ n ∈ ns, n ≠ "" ∧ n ≠ "." ∧ '/' ∉ n.toList) :
    Path.splitSlashRoot (root ++ Text.joinWith "/" ns) = ("", root, Text.joinWith "/" ns) := by
  have hjoined : (Text.joinWith "/" ns).toList.dropWhile (· = '/') = (Text.joinWith "/" ns).toList := by
    cases ns with
    | nil => rfl
    | cons n ns =>
      obtain ⟨c, rest, hrest, hc⟩ := toList_joinWith_cons (h n List.mem_cons_self) ns
      rw [hrest, List.dropWhile_cons_of_neg (by simpa using hc)]
  have hslashes : ∀ c ∈ root.toList, decide (c = '/') = true := by
    rcases hroot with rfl | rfl | rfl <;> simp
  unfold Path.splitSlashRoot
  simp only [String.toList_append, List.dropWhile_append_of_pos hslashes, hjoined, List.length_append,
    Nat.add_sub_cancel, String.ofList_toList]
  rcases hroot with rfl | rfl | rfl
  · show ("", "", "" ++ Text.joinWith "/" ns) = _
    rw [String.empty_append]
  · rfl
  · rfl

end

theorem ofText_text {p : Path} (h : p.Slashed) : Path.ofText .posix p.text = p := by
  obtain ⟨kind, drive, root, names⟩ := p
  obtain ⟨hkind, hdrive, hroot, hnames⟩ := h
  obtain rfl : kind = .posix := hkind
  obtain rfl : drive = "" := hdrive
  have htext : (⟨.posix, "", root, names⟩ : Path).text =
      if root ++ Text.joinWith "/" names = "" then "." else root ++ Text.joinWith "/" names := by
    unfold Path.text Path.anchor
    rw [String.empty_append]
    rfl
  rw [htext]
  by_cases hempty : root ++ Text.joinWith "/" names = ""
  · have hlist := congrArg String.toList hempty
    rw [String.toList_append] at hlist
    obtain ⟨hr, hj⟩ := List.append_eq_nil_iff.1 hlist
    obtain rfl : root = "" := String.toList_eq_nil_iff.1 hr
    cases names with
    | nil => rfl
    | cons n ns =>
      obtain ⟨c, rest, hrest, -⟩ := toList_joinWith_cons (hnames n List.mem_cons_self) ns
      rw [hrest] at hj
      cases hj
  · rw [if_neg hempty, ofText_eq, splitSlashRoot_append hroot hnames, namesOf_joinWith hnames]

/-! ## the directories above a path -/

def directoryOf (path : String) : String := (Path.ofText .posix path).parent.text

/-- a path, its directory, the directory of that, and so on -/
def above (path : String) : Nat → String
  | 0 => path
  | k + 1 => directoryOf (above path k)

def Path.cutTo (p : Path) (m : Nat) : Path := { p with names := p.names.take m }

theorem Path.Slashed.cutTo {p : Path} (h : p.Slashed) (m : Nat) : (p.cutTo m).Slashed :=
  ⟨h.kind, h.drive, h.root, fun n hn => h.names n (List.mem_of_mem_take hn)⟩

theorem parent_cutTo (p : Path) {m : Nat} (hm : m ≤ p.names.length) :
    (p.cutTo m).parent = p.cutTo (m - 1) := by
  unfold Path.parent Path.cutTo
  rw [List.dropLast_eq_take, List.length_take, List.take_take, Nat.min_eq_left hm,
    Nat.min_eq_left (Nat.sub_le m 1)]

/-- each step up takes the last name away -/
theorem above_succ (path : String) (k : Nat) : above path (k + 1) =
    ((Path.ofText .posix path).cutTo ((Path.ofText .posix path).names.length - 1 - k)).text := by
  induction k with
  | zero =>
    show (Path.ofText .posix path).parent.text = _
    unfold Path.parent Path.cutTo
    rw [List.dropLast_eq_take]
    rfl
  | succ k ih =>
    show directoryOf (above path (k + 1)) = _
    unfold directoryOf
    rw [ih, ofText_text ((slashed_ofText path).cutTo _), parent_cutTo _ (by omega)]
    congr 2

/-- a step up from the last name ends at the topmost directory -/
theorem above_eq_top {path : String} {k : Nat} (hk : (Path.ofText .posix path).names.length ≤ k)
    (hpos : 0 < k) : above path k = ((Path.ofText .posix path).cutTo 0).text := by
  obtain ⟨k, rfl⟩ := Nat.exists_eq_succ_of_ne_zero (Nat.pos_iff_ne_zero.1 hpos)
  rw [above_succ]
  congr 2
  omega

theorem text_cutTo_zero {p : Path} (h : p.Slashed) :
    (p.cutTo 0).text = if p.root = "" then "." else p.root := by
  unfold Path.cutTo Path.text Path.anchor
  rw [h.drive, String.empty_append]
  show (if p.root ++ "" = "" then "." else p.root ++ "") = _
  rw [String.append_empty]

theorem length_top_le {p : Path} (h : p.Slashed) : (p.cutTo 0).text.length ≤ 2 := by
  rw [text_cutTo_zero h]
  rcases h.root with hr | hr | hr <;> rw [hr] <;> decide

/-- the search looks at a path and the directories above it up to the topmost one -/
theorem ancestors_eq (path : String) : ancestors path =
    (List.range (max 1 (Path.ofText .posix path).names.length + 1)).map (above path) := by
  rw [List.range_succ_eq_map, List.map_cons, List.map_map]
  unfold ancestors
  refine congrArg (path :: ·) (List.map_congr_left fun i _ => ?_)
  exact (above_succ path i).symm

/-! ## the search -/

section
variable {σ : Type} {ids : List (String × String)} {path : String} {k : Nat}

/-- the search goes past the first `k` directories: none of them has an id, and none is short -/
def Passes (ids : List (String × String)) (path : String) (k : Nat) : Prop :=
  ∀ j < k, ids.lookup (above path j) = none ∧ 2 < (above path j).length

/-- the search gives up at the `k`-th directory or before: up to it none has an id, and it is short -/
def GivesUp (ids : List (String × String)) (path : String) (k : Nat) : Prop :=
  (above path k).length ≤ 2 ∧ ∀ j ≤ k, ids.lookup (above path j) = none

theorem nearestId_append {front : List String}
    (h : ∀ p ∈ front, ids.lookup p = none ∧ 2 < p.length) (rest : List String) :
    (nearestId ids (front ++ rest) : Run σ (Option String)) = nearestId ids rest := by
  induction front with
  | nil => rfl
  | cons p front ih =>
    obtain ⟨hnone, hlong⟩ := h p List.mem_cons_self
    rw [List.cons_append, nearestId, hnone]
    show (if 2 < p.length then nearestId ids (front ++ rest) else _) = _
    rw [if_pos hlong]
    exact ih fun q hq => h q (List.mem_cons_of_mem p hq)

theorem gpgId_of_passes (h : Passes ids path k) :
    ∃ rest, (gpgId ids path : Run σ (Option String)) = nearestId ids (above path k :: rest) := by
  -- the topmost directory is short, so the search does not go past it
  have hk : k ≤ max 1 (Path.ofText .posix path).names.length := by
    refine Nat.le_of_not_lt fun hlt => ?_
    have hlong := (h _ hlt).2
    rw [above_eq_top (Nat.le_max_right _ _) (Nat.lt_of_lt_of_le Nat.one_pos (Nat.le_max_left _ _))] at hlong
    exact absurd (length_top_le (slashed_ofText path)) (Nat.not_le.2 hlong)
  obtain ⟨m, hm⟩ := Nat.exists_eq_add_of_le hk
  have hrange : List.range (k + m + 1) = List.range k ++ k :: (List.range m).map fun i => k + (i + 1) := by
    rw [Nat.add_assoc, List.range_add, List.range_succ_eq_map, List.map_cons, List.map_map]
    rfl
  unfold gpgId
  rw [ancestors_eq, hm, hrange, List.map_append, List.map_cons, nearestId_append]
  · exact ⟨_, rfl⟩
  · intro p hp
    obtain ⟨j, hj, rfl⟩ := List.mem_map.1 hp
    exact h j (List.mem_range.1 hj)

theorem outcome_gpgId_found {id : String} (h : Passes ids path k)
    (hid : ids.lookup (above path k) = some id) (w : World σ) :
    outcome (gpgId ids path) w = (.ok (some id), w) := by
  obtain ⟨rest, hrest⟩ := gpgId_of_passes (σ := σ) h
  rw [hrest, nearestId, hid]
  rfl

theorem outcome_gpgId_missing (h : Passes ids path k) (hid : ids.lookup (above path k) = none)
    (hshort : (above path k).length ≤ 2) (w : World σ) :
    outcome (gpgId ids path) w =
      (.ok none, { w with out := w.out ++ ("Could not find gpg-id for " ++ above path k ++ "\n") }) := by
  obtain ⟨rest, hrest⟩ := gpgId_of_passes (σ := σ) h
  rw [hrest, nearestId, hid]
  show outcome (if 2 < (above path k).length then _ else _) w = _
  rw [if_neg (Nat.not_lt.2 hshort)]
  rfl

/-- the search ends: it comes to a directory with an id, or to a short one -/
theorem exists_passes (ids : List (String × String)) (path : String) :
    ∃ k, Passes ids path k ∧
      (ids.lookup (above path k) ≠ none ∨ (above path k).length ≤ 2) := by
  have hex : ∃ k, ids.lookup (above path k) ≠ none ∨ (above path k).length ≤ 2 := by
    refine ⟨(Path.ofText .posix path).names.length + 1, .inr ?_⟩
    rw [above_eq_top (Nat.le_succ _) (Nat.succ_pos _)]
    exact length_top_le (slashed_ofText path)
  refine ⟨Nat.find hex, ?_, Nat.find_spec hex⟩
  intro j hj
  have hbefore := Nat.find_min hex hj
  rw [not_or, Classical.not_not, Nat.not_le] at hbefore
  exact hbefore

end

/-- the id of the first of a path and the directories above it that has one; nothing if none has -/
inductive NearestId (ids : List (String × String)) (path : String) : Option String → Prop
  | found {k : Nat} {id : String} (has : ids.lookup (above path k) = some id)
      (before : ∀ j < k, ids.lookup (above path j) = none) : NearestId ids path (some id)
  | missing (nowhere : ∀ k, ids.lookup (above path k) = none) : NearestId ids path none

/-- **The id that a secret is decrypted with.**  For every path in the store and all ids of directories the
search ends.  It gives an id exactly if one of the path and the directories above it, up to the topmost
one, has it and all those before have none and a path of more than two characters; so an id that is given
is the nearest one.  It gives none exactly if it comes to a path of at most two characters before any id.  This
is the right answer exactly if there is no id further up: a directory with a short name and no id
hides the ids of all directories above it. -/
theorem gpgId_nearest {σ : Type} (ids : List (String × String)) (path : String) (w : World σ) :
    ∃ r w', outcome (gpgId ids path) w = (.ok r, w') ∧
      (∀ id, r = some id ↔ ∃ k, ids.lookup (above path k) = some id ∧
        ∀ j < k, ids.lookup (above path j) = none ∧ 2 < (above path j).length) ∧
      (r = none ↔ ∃ k, (above path k).length ≤ 2 ∧ ∀ j ≤ k, ids.lookup (above path j) = none) ∧
      (NearestId ids path r ↔ ∀ k, (above path k).length ≤ 2 →
        (∀ j ≤ k, ids.lookup (above path j) = none) → ∀ j, ids.lookup (above path j) = none) ∧
      ∃ m, ∀ k, m ≤ k → above path k =
        if (Path.ofText .posix path).isAbsolute then (Path.ofText .posix path).root else "." := by
  have htop : ∃ m, ∀ k, m ≤ k → above path k =
      if (Path.ofText .posix path).isAbsolute then (Path.ofText .posix path).root else "." := by
    refine ⟨(Path.ofText .posix path).names.length + 1, fun k hk => ?_⟩
    have hslashed := slashed_ofText path
    rw [above_eq_top (by omega) (by omega), text_cutTo_zero hslashed]
    unfold Path.isAbsolute
    rw [hslashed.kind]
    by_cases hroot : (Path.ofText .posix path).root = "" <;> simp [hroot, Path.isDrivePath]
  -- an id and a short path are not both the first thing that the search comes to
  have hunique : ∀ {id : String} {k j : Nat}, Passes ids path k → ids.lookup (above path k) = some id →
      ¬ GivesUp ids path j := by
    intro id k j hk hid hj
    rcases Nat.lt_or_ge j k with hlt | hge
    · exact absurd hj.1 (Nat.not_le.2 (hk j hlt).2)
    · rw [hj.2 k hge] at hid
      cases hid
  obtain ⟨k, hk, hstop⟩ := exists_passes ids path
  cases hid : ids.lookup (above path k) with
  | some id =>
    have hnearest : NearestId ids path (some id) := .found hid fun j hj => (hk j hj).1
    have hout := outcome_gpgId_found hk hid w
    refine ⟨some id, w, hout, ?_, ?_, ?_, htop⟩
    · intro id'
      constructor
      · rintro ⟨⟩
        exact ⟨k, hid, hk⟩
      · rintro ⟨j, hj, hpasses⟩
        have hout' := outcome_gpgId_found hpasses hj w
        rw [hout] at hout'
        exact Except.ok.inj (Prod.mk.inj hout').1
    · refine iff_of_false (by rintro ⟨⟩) ?_
      rintro ⟨j, hshort, hnone⟩
      exact hunique hk hid ⟨hshort, hnone⟩
    · refine iff_of_true hnearest ?_
      intro j hshort hnone
      exact absurd ⟨hshort, hnone⟩ (hunique hk hid)
  | none =>
    have hshort : (above path k).length ≤ 2 := hstop.resolve_left fun hne => hne hid
    have hgives : GivesUp ids path k := by
      refine ⟨hshort, fun j hj => ?_⟩
      rcases Nat.lt_or_eq_of_le hj with hlt | rfl
      · exact (hk j hlt).1
      · exact hid
    refine ⟨none, _, outcome_gpgId_missing hk hid hshort w, ?_, ?_, ?_, htop⟩
    · intro id
      refine iff_of_false (by rintro ⟨⟩) ?_
      rintro ⟨j, hj, hpasses⟩
      exact hunique hpasses hj hgives
    · exact iff_of_true rfl ⟨k, hgives⟩
    · constructor
      · intro hright j _ _
        cases hright with
        | missing hnone => exact hnone
      · intro h
        exact .missing (h k hgives.1 hgives.2)

/-- the id of the topmost directory is hidden by a directory with a name of two letters -/
theorem gpgId_nearest_sample :
    (∃ w', outcome (gpgId [(".", "K")] "ab/x.gpg") ({ state := () } : World Unit) = (.ok none, w')) ∧
    NearestId [(".", "K")] "ab/x.gpg" (some "K") := by
  obtain ⟨r, w', hr, -, hnone, -⟩ :=
    gpgId_nearest [(".", "K")] "ab/x.gpg" ({ state := () } : World Unit)
  have hgiven : r = none := hnone.2 ⟨1, by decide +kernel, by decide +kernel⟩
  refine ⟨⟨w', hgiven ▸ hr⟩, .found (k := 2) (by decide +kernel) (by decide +kernel)⟩

end CommandLine
