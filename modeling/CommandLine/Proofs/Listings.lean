import CommandLine.Command.Move
import CommandLine.Proofs.PlainWords
import CommandLine.Proofs.WrittenNumbers
import CommandLine.Show.Completion

/-!
# Commands and completions

`completions` lists the words that may follow a component, and `commands` the commands that start there,
which a completion script is made of.  A command is a word for a member with nothing behind it, or with a
command of the member (`cons_mem_commands`), so the commands of one word are the words for the members.
The completions are these too, except at a list or a tuple, where they are the positions, and at a
generator, where there are none (`isSeries`).  There the two differ: a list still has its methods among
the commands, and a command is refused that starts with the name of one (`moveByAccess_series`).
-/

namespace CommandLine

/-! ## commands -/

section
variable {v : Value}

theorem isRoutine_of_not_callable (hv : v.isCallable = false) : v.isRoutine = false :=
  (Bool.or_eq_false_iff.1 hv).1

theorem commands_succ (hv : v.isCallable = false) (depth : Nat) :
    v.commands (depth + 1) = (v.listedMembers false).flatMap fun m =>
      [m.1.commandWord] :: (m.2.commands depth).map (m.1.commandWord :: ·) := by
  rw [Value.commands, hv, isRoutine_of_not_callable hv]
  rfl

theorem cons_mem_commands (hv : v.isCallable = false) {depth : Nat} {t : String} {ts : List String} :
    t :: ts ∈ v.commands (depth + 1) ↔ ∃ m ∈ v.listedMembers false, m.1.commandWord = t ∧
      (ts = [] ∨ ts ∈ m.2.commands depth) := by
  rw [commands_succ hv, List.mem_flatMap]
  constructor
  · rintro ⟨m, hm, h⟩
    refine ⟨m, hm, ?_⟩
    rcases List.mem_cons.1 h with h | h
    · obtain ⟨rfl, rfl⟩ := List.cons.inj h
      exact ⟨rfl, .inl rfl⟩
    · obtain ⟨c, hc, h⟩ := List.mem_map.1 h
      obtain ⟨rfl, rfl⟩ := List.cons.inj h
      exact ⟨rfl, .inr hc⟩
  · rintro ⟨m, hm, rfl, rfl | h⟩
    · exact ⟨m, hm, List.mem_cons_self⟩
    · exact ⟨m, hm, List.mem_cons_of_mem _ (List.mem_map.2 ⟨ts, h, rfl⟩)⟩

theorem singleton_mem_commands (hv : v.isCallable = false) {depth : Nat} {t : String} :
    [t] ∈ v.commands (depth + 1) ↔ ∃ m ∈ v.listedMembers false, m.1.commandWord = t := by
  rw [cons_mem_commands hv]
  constructor
  · rintro ⟨m, hm, ht, -⟩
    exact ⟨m, hm, ht⟩
  · rintro ⟨m, hm, ht⟩
    exact ⟨m, hm, ht, .inl rfl⟩

end

/-! ## completions -/

/-- a component whose completions are not the names of its members -/
def Value.isSeries : Value → Bool
  | .list _ | .tuple _ | .generator _ => true
  | _ => false

theorem completions_of_members {v : Value} (hv : v.isCallable = false) (hseries : v.isSeries = false)
    (verbose : Bool) :
    v.completions verbose = (v.listedMembers verbose).map (·.1.commandWord) := by
  unfold Value.completions
  rw [hv, if_neg Bool.false_ne_true]
  cases v with
  | list xs => cases hseries
  | tuple xs => cases hseries
  | generator xs => cases hseries
  | _ => rfl

theorem not_mem_positions {t : String} {c : Char} (hc : c ∈ t.toList) (hdigit : c.isDigit = false)
    (n : Nat) : t ∉ (List.range n).map Number.natText := by
  intro h
  obtain ⟨i, -, rfl⟩ := List.mem_map.1 h
  rw [Number.natText, String.toList_ofList] at hc
  rw [isDigit_of_mem_toDigits hc] at hdigit
  cases hdigit

/-! ## the members of a series -/

def memberNames (kindName : String) : List String :=
  publicNames kindName ++ commonNames ++ extraNames kindName

def memberWords (kindName : String) : List String :=
  ((memberNames kindName).filter fun n => isListed false (.text n)).map commandWord

theorem publicNames_list : publicNames "list" =
    Text.words "append clear copy count extend index insert pop remove reverse sort" := rfl

theorem publicNames_tuple : publicNames "tuple" = Text.words "count index" := rfl

theorem publicNames_generator : publicNames "generator" =
    Text.words "close gi_code gi_frame gi_running gi_suspended gi_yieldfrom send throw" := rfl

theorem extraNames_list : extraNames "list" =
    Text.words ("__add__ __class_getitem__ __contains__ __delitem__ __getitem__ __iadd__ __imul__" ++
      " __iter__ __len__ __mul__ __reversed__ __rmul__ __setitem__") := rfl

theorem extraNames_tuple : extraNames "tuple" =
    Text.words ("__add__ __class_getitem__ __contains__ __getitem__ __getnewargs__ __iter__ __len__" ++
      " __mul__ __rmul__") := rfl

theorem all_words {p : List Char → Bool} {s n : String}
    (h : (Text.wordsFrom [] s.toList).all p = true) (hn : n ∈ Text.words s) :
    p n.toList = true := by
  obtain ⟨cs, hcs, rfl⟩ := List.mem_map.1 hn
  rw [String.toList_ofList]
  exact List.all_eq_true.1 h cs hcs

theorem namedMembers_series {v : Value} (h : v.isSeries = true) :
    v.namedMembers = byName ((memberNames v.kindName).map fun n => (n, builtinMember v n)) := by
  unfold Value.namedMembers memberNames
  split
  · cases h
  · cases h
  · cases h
  · cases h
  · rfl

theorem members_series {v : Value} (h : v.isSeries = true) :
    v.members = v.namedMembers.map fun m => (.text m.1, m.2) := by
  cases v with
  | dict es => cases h
  | _ => rfl

theorem exists_member_series {v : Value} (h : v.isSeries = true) (t : String) :
    (∃ m ∈ v.listedMembers false, m.1.commandWord = t) ↔ t ∈ memberWords v.kindName := by
  unfold Value.listedMembers memberWords
  rw [members_series h, namedMembers_series h, List.mem_map]
  constructor
  · rintro ⟨m, hm, rfl⟩
    obtain ⟨hm, hlisted⟩ := List.mem_filter.1 hm
    obtain ⟨e, he, rfl⟩ := List.mem_map.1 hm
    obtain ⟨n, hn, rfl⟩ := List.mem_map.1 (List.mem_mergeSort.1 he)
    exact ⟨n, List.mem_filter.2 ⟨hn, hlisted⟩, rfl⟩
  · rintro ⟨n, hn, rfl⟩
    obtain ⟨hn, hlisted⟩ := List.mem_filter.1 hn
    refine ⟨(.text n, builtinMember v n), List.mem_filter.2 ⟨?_, hlisted⟩, rfl⟩
    exact List.mem_map.2 ⟨(n, builtinMember v n),
      List.mem_mergeSort.2 (List.mem_map.2 ⟨n, hn, rfl⟩), rfl⟩

/-! ## words that are no index -/

section
variable {c : Char}

theorem toNat_le_of_isAlpha (h : c.isAlpha = true) : c.toNat ≤ 122 := by
  rcases Bool.or_eq_true_iff.1 h with hupper | hlower
  · have hle : c.toNat ≤ 90 := UInt32.le_iff_toNat_le.1 (of_decide_eq_true hupper).2
    omega
  · exact UInt32.le_iff_toNat_le.1 (of_decide_eq_true (Bool.and_eq_true_iff.1 hlower).2)

theorem not_isDigit_of_isAlpha (h : c.isAlpha = true) : c.isDigit = false := by
  have hge := Literal.toNat_of_isAlpha h
  refine Bool.eq_false_iff.2 fun hdigit => ?_
  have hle := (toNat_of_isDigit hdigit).2
  omega

theorem ne_of_isAlpha (h : c.isAlpha = true) {d : Char} (hd : d.isAlpha = false) : c ≠ d := by
  rintro rfl
  rw [hd] at h
  cases h

theorem not_isBlank_of_isAlpha (h : c.isAlpha = true) : Text.isBlank c = false := by
  have hge := Literal.toNat_of_isAlpha h
  have hle := toNat_le_of_isAlpha h
  unfold Text.isBlank
  simp only [Bool.or_eq_false_iff, Bool.and_eq_false_iff, decide_eq_false_iff_not]
  omega

theorem plainDigits_letter (h : c.isAlpha = true) (cs : List Char) :
    Number.plainDigits (c :: cs) = c :: Number.plainDigits cs := by
  have hle := toNat_le_of_isAlpha h
  have hvalue : Text.digitValue? c = none := by
    unfold Text.digitValue?
    rw [if_pos (by omega), not_isDigit_of_isAlpha h]
    rfl
  have hblank : Number.isBlank c = false := by
    rw [Number.isBlank, not_isBlank_of_isAlpha h, Bool.false_and]
  unfold Number.plainDigits
  simp only [List.map_cons, hvalue, hblank]
  rfl

theorem trimRightOf_cons {p : Char → Bool} (h : p c = false) (cs : List Char) :
    ∃ ds, Text.trimRightOf p (c :: cs) = c :: ds := by
  refine ⟨(cs.reverse.dropWhile p).reverse, ?_⟩
  unfold Text.trimRightOf
  rw [List.reverse_cons, List.dropWhile_append]
  split
  · rename_i hnil
    rw [List.dropWhile_cons_of_neg (by rw [h]; decide), List.isEmpty_iff.1 hnil]
    rfl
  · rw [List.reverse_append]
    rfl

theorem digitsOnly_letter (h : c.isDigit = false) (cs : List Char) :
    Number.digitsOnly? (c :: cs) = none := by
  have hc : ¬ c.isDigit = true := Bool.eq_false_iff.1 h
  rw [Number.digitsOnly?.eq_def]
  split
  · rfl
  · rename_i d hd
    obtain ⟨rfl, -⟩ := List.cons.inj hd
    exact if_neg hc
  · rename_i d e ds hd
    obtain ⟨rfl, -⟩ := List.cons.inj hd
    exact if_neg hc
  · rename_i d ds _ _ hd
    obtain ⟨rfl, -⟩ := List.cons.inj hd
    exact if_neg hc

theorem castInt_letter {t : String} {cs : List Char} (ht : t.toList = c :: cs)
    (hc : c.isAlpha = true) : castInt (.text t) = .error (.badInt (shortened (Text.quoted t))) := by
  have hblank : (decide (c = ' ')) = false := decide_eq_false (ne_of_isAlpha hc (by decide))
  obtain ⟨ds, hds⟩ := trimRightOf_cons (p := (· = ' ')) hblank (Number.plainDigits cs)
  have htrim : Number.trimmed t = c :: ds := by
    unfold Number.trimmed Text.trimLeftOf
    rw [ht, plainDigits_letter hc, List.dropWhile_cons_of_neg (by rw [hblank]; decide), hds]
  have hsign : Number.splitSign (c :: ds) = (false, c :: ds) := by
    unfold Number.splitSign
    split
    · rename_i h
      exact absurd (List.cons.inj h).1 (ne_of_isAlpha hc (by decide))
    · rename_i h
      exact absurd (List.cons.inj h).1 (ne_of_isAlpha hc (by decide))
    · rfl
  have hparse : Number.parseInt t = .error .malformed := by
    unfold Number.parseInt
    rw [htrim, hsign]
    dsimp only
    rw [digitsOnly_letter (not_isDigit_of_isAlpha hc)]
  show (intOfText (Text.quoted t) t).map Value.int = _
  unfold intOfText
  rw [hparse]
  rfl

theorem indexed_letter {t : String} {cs : List Char} (ht : t.toList = c :: cs)
    (hc : c.isAlpha = true) (xs : List Value) : indexed xs (.text t) = .ok none := by
  unfold indexed
  rw [castInt_letter ht hc]
  rfl

end

/-! ## the methods of a list are no index -/

def startsName (cs : List Char) : Bool := cs.head?.any fun c => c = '_' || c.isAlpha

theorem startsName_common {n : String} (hn : n ∈ commonNames) : startsName n.toList = true := by
  refine all_words ?_ hn
  rw [String.toList_append, String.toList_append, String.toList_ofList, String.toList_ofList,
    String.toList_ofList]
  decide +kernel

theorem startsName_list {n : String} (hn : n ∈ memberNames "list") : startsName n.toList = true := by
  rcases List.mem_append.1 hn with hn | hn
  · rcases List.mem_append.1 hn with hn | hn
    · rw [publicNames_list] at hn
      refine all_words ?_ hn
      rw [String.toList_ofList]
      decide +kernel
    · exact startsName_common hn
  · rw [extraNames_list] at hn
    refine all_words ?_ hn
    rw [String.toList_append, String.toList_ofList, String.toList_ofList]
    decide +kernel

theorem startsName_tuple {n : String} (hn : n ∈ memberNames "tuple") : startsName n.toList = true := by
  rcases List.mem_append.1 hn with hn | hn
  · rcases List.mem_append.1 hn with hn | hn
    · rw [publicNames_tuple] at hn
      refine all_words ?_ hn
      rw [String.toList_ofList]
      decide +kernel
    · exact startsName_common hn
  · rw [extraNames_tuple] at hn
    refine all_words ?_ hn
    rw [String.toList_append, String.toList_ofList, String.toList_ofList]
    decide +kernel

/-- the word for a listed name starts with the letter that the name starts with -/
theorem letter_of_listed {n : String} (hn : startsName n.toList = true)
    (hlisted : isListed false (.text n) = true) :
    ∃ c cs, (commandWord n).toList = c :: cs ∧ c.isAlpha = true := by
  simp only [isListed] at hlisted
  rw [Bool.false_or, Bool.and_eq_true, Bool.not_eq_true'] at hlisted
  unfold commandWord
  rw [hlisted.2, if_neg Bool.false_ne_true, Text.replaceChar, String.toList_ofList]
  cases hcs : n.toList with
  | nil =>
    rw [hcs] at hn
    cases hn
  | cons c cs =>
    have hunder : c ≠ '_' := by
      rintro rfl
      have hstart : Text.startsWith "_" n = true := by
        unfold Text.startsWith
        rw [hcs]
        rfl
      rw [hstart] at hlisted
      cases hlisted.2
    rw [hcs] at hn
    rcases Bool.or_eq_true_iff.1 hn with h | h
    · exact absurd (of_decide_eq_true h) hunder
    · exact ⟨c, _, by rw [List.map_cons, if_neg hunder], h⟩

/-- at a list or a tuple, a word for one of its methods is no index -/
theorem moveByAccess_series {v : Value} {xs : List Value} (h : v = .list xs ∨ v = .tuple xs)
    {t : String} (ht : t ∈ memberWords v.kindName) (rest : List Value) :
    v.moveByAccess (.text t) rest = .ok (.refused (.noIndex (.text t))) := by
  obtain ⟨n, hn, rfl⟩ := List.mem_map.1 ht
  obtain ⟨hn, hlisted⟩ := List.mem_filter.1 hn
  have hstarts : startsName n.toList = true := by
    rcases h with rfl | rfl
    · exact startsName_list hn
    · exact startsName_tuple hn
  obtain ⟨c, cs, hword, hc⟩ := letter_of_listed hstarts hlisted
  unfold Value.moveByAccess
  rcases h with rfl | rfl
  · dsimp only
    rw [indexed_letter hword hc]
    rfl
  · dsimp only
    rw [indexed_letter hword hc]
    rfl

theorem mem_memberWords {kindName s n : String} (hs : publicNames kindName = Text.words s)
    (hn : n.toList ∈ Text.wordsFrom [] s.toList) (hword : commandWord n = n)
    (hlisted : isListed false (.text n) = true) : n ∈ memberWords kindName := by
  have hmem : n ∈ publicNames kindName := by
    rw [hs]
    exact List.mem_map.2 ⟨n.toList, hn, String.ofList_toList⟩
  exact List.mem_map.2 ⟨n, List.mem_filter.2
    ⟨List.mem_append_left _ (List.mem_append_left _ hmem), hlisted⟩, hword⟩

/-- a series has a command that is no completion -/
theorem exists_command_series {v : Value} (h : v.isSeries = true) :
    ∃ t ∈ memberWords v.kindName, t ∉ v.completions false := by
  have hlist : "count" ∈ memberWords "list" := by
    refine mem_memberWords publicNames_list ?_ (by decide +kernel) (by decide +kernel)
    rw [String.toList_ofList, String.toList_ofList]
    decide +kernel
  have htuple : "count" ∈ memberWords "tuple" := by
    refine mem_memberWords publicNames_tuple ?_ (by decide +kernel) (by decide +kernel)
    rw [String.toList_ofList, String.toList_ofList]
    decide +kernel
  have hgenerator : "close" ∈ memberWords "generator" := by
    refine mem_memberWords publicNames_generator ?_ (by decide +kernel) (by decide +kernel)
    rw [String.toList_ofList, String.toList_ofList]
    decide +kernel
  have hcount : ∀ n, "count" ∉ (List.range n).map Number.natText :=
    not_mem_positions (c := 'c') (by decide) (by decide)
  cases v with
  | list xs => exact ⟨"count", hlist, hcount xs.length⟩
  | tuple xs => exact ⟨"count", htuple, hcount xs.length⟩
  | generator xs => exact ⟨"close", hgenerator, List.not_mem_nil⟩
  | _ => cases h

/-- **Where commands and completions agree.**  At a component that cannot be called, the commands of one
word are the words for its listed members.  They are its completions exactly if it is neither a list nor a
tuple nor a generator; at a list or a tuple every one of them is refused when it is run. -/
theorem commands_complete_iff (v : Value) (hv : v.isCallable = false) (depth : Nat) :
    (∀ t, [t] ∈ v.commands (depth + 1) ↔ ∃ m ∈ v.listedMembers false, m.1.commandWord = t) ∧
    ((∀ t, [t] ∈ v.commands (depth + 1) ↔ t ∈ v.completions false) ↔ v.isSeries = false) ∧
    ∀ xs, v = .list xs ∨ v = .tuple xs → ∀ t rest, [t] ∈ v.commands (depth + 1) →
      v.moveByAccess (.text t) rest = .ok (.refused (.noIndex (.text t))) := by
  refine ⟨fun t => singleton_mem_commands hv, ⟨fun hall => ?_, fun hseries t => ?_⟩, ?_⟩
  · refine Bool.eq_false_iff.2 fun hseries => ?_
    obtain ⟨t, ht, hnot⟩ := exists_command_series hseries
    have hcommand : [t] ∈ v.commands (depth + 1) :=
      (singleton_mem_commands hv).2 ((exists_member_series hseries t).2 ht)
    exact hnot ((hall t).1 hcommand)
  · rw [singleton_mem_commands hv, completions_of_members hv hseries, List.mem_map]
  · intro xs h t rest ht
    have hseries : v.isSeries = true := by
      rcases h with rfl | rfl <;> rfl
    exact moveByAccess_series h ((exists_member_series hseries t).1 ((singleton_mem_commands hv).1 ht))
      rest

/-- a dictionary has its keys in both; a list with one element has its position in one and its methods in
the other -/
theorem commands_complete_iff_sample :
    (∀ t, [t] ∈ (Value.dict [(.text "a_b", .int 1), (.int 2, .null)]).commands 3 ↔
      t ∈ ["a-b", "2"]) ∧
    ¬ ∀ t, [t] ∈ (Value.list [.int 5]).commands 1 ↔ t ∈ ["0"] := by
  obtain ⟨-, hdict, -⟩ := commands_complete_iff (.dict [(.text "a_b", .int 1), (.int 2, .null)]) rfl 2
  obtain ⟨-, hlist, -⟩ := commands_complete_iff (.list [.int 5]) rfl 0
  have hkeys : (Value.dict [(.text "a_b", .int 1), (.int 2, .null)]).completions false =
      ["a-b", "2"] := by decide +kernel
  have hposition : (Value.list [.int 5]).completions false = ["0"] := by decide +kernel
  constructor
  · rw [← hkeys]
    exact hdict.2 rfl
  · rw [← hposition]
    intro hall
    cases hlist.1 hall

end CommandLine
