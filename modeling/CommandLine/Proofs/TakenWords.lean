import CommandLine.Proofs.Parameters

/-!
# The words that a call takes, and the words it says it took

A call takes the flags that it knows, with their values, and as many single arguments as it has use
for (`taken`).  With what it hands back these are all its arguments (`taken_perm`).

As consumed, though, it reports a front part of the arguments, of the same length.  So what it
reports and what it hands back are all the arguments exactly if the words it took stood in front
(`consumed_partition_iff`).  Otherwise some word is reported twice and another one not at all.
-/

namespace CommandLine

open Binding

namespace Binding

/-! ## kinds of groups -/

theorem filter_isSingle (params : List String) (anyName : Bool) (gs : List Group) :
    (gs.filter fun g => !g.known params anyName).filter Group.isSingle =
      gs.filter Group.isSingle := by
  rw [List.filter_filter]
  refine List.filter_congr fun g _ => ?_
  cases hg : g.isSingle with
  | false => rfl
  | true =>
    rw [not_known_of_isSingle hg]
    rfl

/-- known, single and unknown groups together are all -/
theorem kinds_perm (params : List String) (anyName : Bool) (gs : List Group) :
    (gs.filter (Group.known params anyName) ++
      (gs.filter Group.isSingle ++ gs.filter (Group.unknown params anyName))).Perm gs := by
  have hflags : (gs.filter fun g => !g.known params anyName).filter (fun g => !g.isSingle) =
      gs.filter (Group.unknown params anyName) := by
    rw [List.filter_filter]
    rfl
  have hothers := List.filter_append_perm Group.isSingle
    (gs.filter fun g => !g.known params anyName)
  rw [filter_isSingle, hflags] at hothers
  exact (hothers.append_left _).trans (List.filter_append_perm _ _)

def knownWords (params : List String) (anyName : Bool) (args : List String) : List String :=
  ((groups args).filter (Group.known params anyName)).flatMap Group.args

theorem knownWords_left_perm (params : List String) (anyName : Bool) (args : List String) :
    (knownWords params anyName args ++ (Keywords.of params anyName args).left).Perm args := by
  have hperm := (kinds_perm params anyName (groups args)).flatMap_right Group.args
  rw [flatMap_args_groups, List.flatMap_append, ← left_of] at hperm
  exact hperm

end Binding

/-! ## the words that are taken -/

/-- how many single arguments a call has use for -/
def Value.singlesFor (v : Value) (args : List String) : Nat :=
  if v.spec.more.isSome then (sortedFor v.spec args).rest.length
  else if v.metadata.positional then (unnamed (sortedFor v.spec args).named v.spec.args).length
  else 0

/-- the words that a call takes: the flags it knows, and single arguments from the front -/
def Value.taken (v : Value) (args : List String) : List String :=
  knownWords (v.spec.args ++ v.spec.flagParams) (v.spec.moreNamed.any (· ≠ "")) args ++
    (sortedFor v.spec args).rest.take (v.singlesFor args)

section
variable {v : Value} {args : List String} {b : Bound} (h : v.bind args = .ok b)

include h

theorem remaining_eq : b.remaining =
    (sortedFor v.spec args).rest.drop (v.singlesFor args) ++ (sortedFor v.spec args).unknown := by
  obtain ⟨f, extra, hf, -, -, -, hremaining, -⟩ := bindWith_eq_ok h
  have hleft : (if v.spec.more.isSome then [] else f.single) =
      (sortedFor v.spec args).rest.drop (v.singlesFor args) := by
    unfold Value.singlesFor
    split
    · exact List.drop_length.symm
    · exact fill_single hf
  rw [hremaining, hleft]

theorem taken_perm : (v.taken args ++ b.remaining).Perm args := by
  have hleft : (sortedFor v.spec args).rest.take (v.singlesFor args) ++ b.remaining =
      (sortedFor v.spec args).left := by
    rw [remaining_eq h, ← List.append_assoc, List.take_append_drop]
    rfl
  unfold Value.taken
  rw [List.append_assoc, hleft]
  exact knownWords_left_perm _ _ args

theorem consumed_eq : b.consumed = args.take (v.taken args).length := by
  have hlength := (taken_perm h).length_eq
  rw [List.length_append] at hlength
  rw [consumed_eq_take h]
  congr 1
  omega

/-- **Consumed and remaining arguments.**  The words that a call took and those that it hands back
are its arguments.  The words that it reports as consumed are the first so many, so reported and
remaining words are the arguments exactly if the words that it took are the first ones. -/
theorem consumed_partition_iff :
    (v.taken args ++ b.remaining).Perm args ∧
    b.consumed = args.take (v.taken args).length ∧
    ((b.consumed ++ b.remaining).Perm args ↔
      (args.take (v.taken args).length).Perm (v.taken args)) := by
  have hperm := taken_perm h
  refine ⟨hperm, consumed_eq h, ?_⟩
  rw [← consumed_eq h]
  constructor
  · intro hconsumed
    exact (List.perm_append_right_iff b.remaining).1 (hconsumed.trans hperm.symm)
  · intro htaken
    exact ((List.perm_append_right_iff b.remaining).2 htaken).trans hperm

end

def oneParam : Routine where
  name := "f"
  receiver := none
  signature := { args := ["a"] }
  doc := none
  body := .echo
  place := none
  decorations := []
  announced := none

/-- of an unknown flag and a single argument behind it, the flag is reported as consumed and handed
back as well, and the argument that was taken is in neither list -/
theorem consumed_partition_oneParam :
    ∃ b, (Value.routine oneParam).bind ["--z=1", "x"] = .ok b ∧
      (Value.routine oneParam).taken ["--z=1", "x"] = ["x"] ∧
      b.consumed = ["--z=1"] ∧ b.remaining = ["--z=1"] ∧
      ¬ (b.consumed ++ b.remaining).Perm ["--z=1", "x"] := by
  have hbind : (Value.routine oneParam).bind ["--z=1", "x"] =
      .ok { positional := [.text "x"], named := [], consumed := ["--z=1"],
            remaining := ["--z=1"], capacity := false } := rfl
  have htaken : (Value.routine oneParam).taken ["--z=1", "x"] = ["x"] := rfl
  obtain ⟨-, hconsumed, hiff⟩ := consumed_partition_iff hbind
  refine ⟨_, hbind, htaken, hconsumed, rfl, fun hperm => ?_⟩
  rw [hiff, htaken] at hperm
  exact absurd hperm (by decide)

end CommandLine
