import CommandLine.Proofs.Rounds

/-!
# Flags behind the last mark

The flags of the command line itself stand behind the last `--`.  A line is marked (`separateBy_marked`), or it
has no mark and ends with a call for help, which is rewritten so that it is marked (`separateBy_help`), or it
is left alone and holds no flags (`separateBy_plain`).  Every line is of one of these three forms
(`line_cases`), and what a line is rewritten to is of the first form, so that splitting it again changes
nothing: that is `separate_again`.
-/

namespace CommandLine

/-! ## the three forms of a line -/

def IsHelpCall (s : String) : Prop := s = "-h" ∨ s = "--help"

theorem line_cases (args : List String) :
    (∃ a b, args = a ++ "--" :: b ∧ "--" ∉ b) ∨
    ("--" ∉ args ∧ ∃ a call, args = a ++ [call] ∧ IsHelpCall call) ∨
    ("--" ∉ args ∧ ∀ a call, args = a ++ [call] → ¬ IsHelpCall call) := by
  rcases splitLast_cases (· == "--") args with ⟨-, hnone⟩ | ⟨a, m, b, -, hargs, hm, hb⟩
  · have hmark : "--" ∉ args := fun h => by simpa using hnone "--" h
    by_cases h : ∃ a call, args = a ++ [call] ∧ IsHelpCall call
    · exact .inr (.inl ⟨hmark, h⟩)
    · exact .inr (.inr ⟨hmark, fun a call e hcall => h ⟨a, call, e, hcall⟩⟩)
  · obtain rfl : m = "--" := beq_iff_eq.1 hm
    exact .inl ⟨a, b, hargs, fun h => by simpa using hb "--" h⟩

theorem not_mark {xs : List String} (h : "--" ∉ xs) : ∀ x ∈ xs, (x == "--") = false :=
  fun _ hx => beq_eq_false_iff_ne.2 fun e => h (e ▸ hx)

theorem separate_marked {a b : List String} (h : "--" ∉ b) :
    separate (a ++ "--" :: b) = ⟨a, b, a ++ "--" :: b⟩ :=
  separateBy_marked beq_self_eq_true (not_mark h)

theorem separate_help {a : List String} {call : String} (hcall : IsHelpCall call) (h : "--" ∉ a ++ [call]) :
    separate (a ++ [call]) = ⟨a, ["-h"], a ++ ["--", "-h"]⟩ :=
  separateBy_help beq_self_eq_true (by decide) (hcall.imp beq_iff_eq.2 beq_iff_eq.2) (not_mark h)

theorem separate_plain {args : List String} (h : "--" ∉ args)
    (hlast : ∀ a call, args = a ++ [call] → ¬ IsHelpCall call) : separate args = ⟨args, [], args⟩ := by
  refine separateBy_plain (not_mark h) fun x hx => ?_
  obtain ⟨a, ha⟩ := List.getLast?_eq_some_iff.1 hx
  obtain ⟨hshort, hlong⟩ := not_or.1 (hlast a x ha)
  exact ⟨beq_eq_false_iff_ne.2 hshort, beq_eq_false_iff_ne.2 hlong⟩

/-- **The flags of a line.**  No flag is a mark.  The line that is split is put together again from the
arguments, the mark and the flags if it has a mark, and is the arguments alone otherwise.  It is the given line,
but for a given line without a mark that ends with a call for help: that one has `--` and `-h` in the place of
the call.  Splitting it once more gives the same arguments and flags, and leaves it as it is. -/
theorem separate_again (args : List String) :
    "--" ∉ (separate args).flags ∧
    ("--" ∈ (separate args).given →
      (separate args).given = (separate args).args ++ "--" :: (separate args).flags) ∧
    ("--" ∉ (separate args).given →
      (separate args).given = (separate args).args ∧ (separate args).flags = []) ∧
    ((separate args).given ≠ args → "--" ∉ args ∧ ∃ a call, args = a ++ [call] ∧ IsHelpCall call) ∧
    (∀ a call, args = a ++ [call] → IsHelpCall call → "--" ∉ args →
      (separate args).given = a ++ ["--", "-h"]) ∧
    separate (separate args).given = separate args := by
  rcases line_cases args with ⟨a, b, rfl, hb⟩ | ⟨hmark, a, call, rfl, hcall⟩ | ⟨hmark, hlast⟩
  · have hmark : "--" ∈ a ++ "--" :: b := List.mem_append_right a List.mem_cons_self
    rw [separate_marked hb]
    exact ⟨hb, fun _ => rfl, fun h => absurd hmark h, fun h => absurd rfl h, fun _ _ _ _ h => absurd hmark h,
      separate_marked hb⟩
  · have hflags : "--" ∉ ["-h"] := by decide
    rw [separate_help hcall hmark]
    refine ⟨hflags, fun _ => rfl, fun h => absurd (List.mem_append_right a List.mem_cons_self) h,
      fun _ => ⟨hmark, a, call, rfl, hcall⟩, fun a' call' e _ _ => ?_, separate_marked hflags⟩
    rw [(List.append_inj_left' e rfl)]
  · rw [separate_plain hmark hlast]
    exact ⟨List.not_mem_nil, fun h => absurd h hmark, fun _ => ⟨rfl, rfl⟩, fun h => absurd rfl h,
      fun a call e hcall => absurd hcall (hlast a call e), separate_plain hmark hlast⟩

end CommandLine
