import CommandLine.Show.Completion

/-!
# Commands grow word by word

The commands of a component are listed down to a depth: its flags, and every member with the commands of the
member behind it.  `Grown` says that such a list is a tree: no command is empty or too long, and each comes after
all its beginnings.  Lists of flags are grown, lists that are put one behind the other stay so, and a word put in
front of a grown list leaves room for one word more; so a whole listing is grown, by induction on its depth.

What a component holds plays no part in this.  `Network` is any set of components that lead to each other by words,
in circles too, and `commands_grown` holds for all of them, the values among them (`commands_eq_network`).
-/

namespace CommandLine

/-! ## trees of commands -/

/-- commands of at most `n` words, each listed behind the shorter ones that it starts with -/
structure Grown (n : Nat) (cs : List (List String)) : Prop where
  ne_nil : ∀ c ∈ cs, c ≠ []
  length_le : ∀ c ∈ cs, c.length ≤ n
  before : ∀ a c b, cs = a ++ c :: b → ∀ q, q ≠ [] → q <+: c → q ≠ c → q ∈ a

theorem grown_nil (n : Nat) : Grown n [] where
  ne_nil := fun _ hc => absurd hc List.not_mem_nil
  length_le := fun _ hc => absurd hc List.not_mem_nil
  before := fun _ _ _ h => absurd h.symm (List.append_ne_nil_of_right_ne_nil _ (List.cons_ne_nil _ _))

theorem eq_of_isPrefix_singleton {q : List String} {t : String} (hne : q ≠ []) (h : q <+: [t]) : q = [t] := by
  obtain ⟨u, q, rfl⟩ := List.exists_cons_of_ne_nil hne
  obtain ⟨rfl, hq⟩ := List.cons_prefix_cons.1 h
  rw [List.prefix_nil.1 hq]

theorem grown_singletons (n : Nat) (ts : List String) : Grown (n + 1) (ts.map ([·])) where
  ne_nil := by
    intro c hc
    obtain ⟨t, -, rfl⟩ := List.mem_map.1 hc
    exact List.cons_ne_nil t []
  length_le := by
    intro c hc
    obtain ⟨t, -, rfl⟩ := List.mem_map.1 hc
    exact Nat.succ_le_succ (Nat.zero_le n)
  before := by
    intro a c b h q hne hq hproper
    have hc : c ∈ ts.map ([·]) := h ▸ List.mem_append_right a List.mem_cons_self
    obtain ⟨t, -, rfl⟩ := List.mem_map.1 hc
    exact absurd (eq_of_isPrefix_singleton hne hq) hproper

namespace Grown
variable {n : Nat} {cs ds : List (List String)}

theorem append (hc : Grown n cs) (hd : Grown n ds) : Grown n (cs ++ ds) where
  ne_nil := fun c h => (List.mem_append.1 h).elim (hc.ne_nil c) (hd.ne_nil c)
  length_le := fun c h => (List.mem_append.1 h).elim (hc.length_le c) (hd.length_le c)
  before := by
    intro a c b h q hne hq hproper
    -- the command stands in the first list, or in the second one with all of the first before it
    rcases List.append_eq_append_iff.1 h with ⟨a', rfl, hds⟩ | ⟨c', rfl, hrest⟩
    · exact List.mem_append_right cs (hd.before a' c b hds q hne hq hproper)
    · cases c' with
      | nil => exact absurd (hd.before [] c b hrest.symm q hne hq hproper) List.not_mem_nil
      | cons x c' =>
        obtain ⟨rfl, -⟩ := List.cons.inj hrest
        exact hc.before a c c' rfl q hne hq hproper

theorem under (hc : Grown n cs) (t : String) : Grown (n + 1) ([t] :: cs.map (t :: ·)) where
  ne_nil := by
    intro c h
    rcases List.mem_cons.1 h with rfl | h
    · exact List.cons_ne_nil t []
    · obtain ⟨c, -, rfl⟩ := List.mem_map.1 h
      exact List.cons_ne_nil t c
  length_le := by
    intro c h
    rcases List.mem_cons.1 h with rfl | h
    · exact Nat.succ_le_succ (Nat.zero_le n)
    · obtain ⟨c, hmem, rfl⟩ := List.mem_map.1 h
      exact Nat.succ_le_succ (hc.length_le c hmem)
  before := by
    intro a c b h q hne hq hproper
    cases a with
    | nil =>
      obtain ⟨rfl, -⟩ := List.cons.inj h
      exact absurd (eq_of_isPrefix_singleton hne hq) hproper
    | cons x a =>
      obtain ⟨rfl, htail⟩ := List.cons.inj h
      obtain ⟨before, rest, rfl, rfl, hrest⟩ := List.map_eq_append_iff.1 htail
      obtain ⟨c, after, rfl, rfl, rfl⟩ := List.map_eq_cons_iff.1 hrest
      obtain ⟨u, q, rfl⟩ := List.exists_cons_of_ne_nil hne
      obtain ⟨rfl, hq'⟩ := List.cons_prefix_cons.1 hq
      by_cases hempty : q = []
      · rw [hempty]
        exact List.mem_cons_self
      · have hshort := hc.before before c after rfl q hempty hq' fun e => hproper (e ▸ rfl)
        exact List.mem_cons_of_mem _ (List.mem_map.2 ⟨q, hshort, rfl⟩)

end Grown

theorem grown_flatMap {α : Type} {n : Nat} {f : α → List (List String)} (hf : ∀ x, Grown n (f x))
    (xs : List α) : Grown n (xs.flatMap f) := by
  induction xs with
  | nil => exact grown_nil n
  | cons x xs ih =>
    rw [List.flatMap_cons]
    exact (hf x).append ih

/-! ## components that lead to each other -/

/-- components of any kind: the flags of each, whether it is a routine, and the components that it leads to, by
their words; a component may lead back to itself -/
structure Network (γ : Type) where
  flags : γ → List String
  isRoutine : γ → Bool
  members : γ → List (String × γ)

/-- the commands that start at a component, down to a depth -/
def Network.commands {γ : Type} (g : Network γ) : Nat → γ → List (List String)
  | depth, c =>
    let flags := (g.flags c).map ([·])
    if g.isRoutine c then flags
    else match depth with
      | 0 => flags
      | depth + 1 => flags ++ (g.members c).flatMap fun m => [m.1] :: (g.commands depth m.2).map (m.1 :: ·)

/-- the values, with the members that are listed -/
def Value.network : Network Value where
  flags v := if v.isCallable then v.completions false else []
  isRoutine := Value.isRoutine
  members v := (v.listedMembers false).map fun m => (m.1.commandWord, m.2)

theorem map_flags (v : Value) : (if v.isCallable then (v.completions false).map ([·]) else []) =
    (Value.network.flags v).map ([·]) := by
  show _ = List.map _ (if v.isCallable then v.completions false else [])
  cases v.isCallable <;> rfl

theorem commands_eq_network (depth : Nat) (v : Value) : v.commands depth = Value.network.commands depth v := by
  induction depth generalizing v with
  | zero =>
    unfold Value.commands Network.commands
    simp only [map_flags]
    rfl
  | succ depth ih =>
    unfold Value.commands Network.commands
    simp only [map_flags, ih]
    rw [Value.network, List.flatMap_map]

/-- **A listing of commands is a tree.**  Whatever components lead to each other, the commands that start at one
of them, listed down to a depth, are not empty, have at most one word more than the depth, and come after
all their beginnings; the commands of a value are such a listing. -/
theorem commands_grown (depth : Nat) :
    (∀ v : Value, Grown (depth + 1) (v.commands depth)) ∧
    ∀ {γ : Type} (g : Network γ) (c : γ), Grown (depth + 1) (g.commands depth c) := by
  have hany : ∀ {γ : Type} (g : Network γ) (c : γ), Grown (depth + 1) (g.commands depth c) := by
    intro γ g
    induction depth with
    | zero =>
      intro c
      unfold Network.commands
      exact (ite_self _).symm ▸ grown_singletons 0 (g.flags c)
    | succ depth ih =>
      intro c
      unfold Network.commands
      split
      · exact grown_singletons (depth + 1) (g.flags c)
      · exact (grown_singletons (depth + 1) (g.flags c)).append
          (grown_flatMap (fun m => (ih m.2).under m.1) (g.members c))
  exact ⟨fun v => commands_eq_network depth v ▸ hany Value.network v, hany⟩

/-- a component that leads to itself has commands of every length up to the depth -/
example : (⟨fun _ => ["--flag"], fun _ => false, fun c => [("again", c)]⟩ : Network Unit).commands 1 () =
    [["--flag"], ["again"], ["again", "--flag"]] := by decide

end CommandLine
