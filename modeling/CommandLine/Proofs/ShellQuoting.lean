import CommandLine.Proofs.Grouping
import CommandLine.Text.ShellWords

/-!
# Quoted words are found again

Cutting a command that is put together from quoted words gives the words back
(`shellWords_quoted`), whatever characters are in them.  A quoted word is read to its end in one go,
behind whatever part of a word has been begun (`cutWords_quoteWord`), so the name and the value of a
flag can be quoted apart.
-/

namespace CommandLine.Text

section
variable {word : Option (List Char)} {cs rest : List Char}

theorem begun_begun (word : Option (List Char)) (cs ds : List Char) :
    begun (begun word cs) ds = begun word (cs ++ ds) := by
  unfold begun
  rw [Option.getD_some, List.append_assoc]

/-! ## words without quotes -/

theorem plain_of_safe {c : Char} (h : isShellSafe c = true) :
    isShellBlank c = false ∧ isShellQuote c = false ∧ c ≠ '\\' := by
  refine ⟨Bool.eq_false_iff.2 fun hblank => ?_, Bool.eq_false_iff.2 fun hquote => ?_, ?_⟩
  · simp only [isShellBlank, Bool.or_eq_true, beq_iff_eq] at hblank
    obtain ((rfl | rfl) | rfl) | rfl := hblank <;> exact absurd h (by decide)
  · simp only [isShellQuote, Bool.or_eq_true, beq_iff_eq] at hquote
    obtain rfl | rfl := hquote <;> exact absurd h (by decide)
  · rintro rfl
    exact absurd h (by decide)

theorem cutWords_safe {c : Char} (h : isShellSafe c = true) :
    cutWords .plain word (c :: rest) = cutWords .plain (begun word [c]) rest := by
  obtain ⟨hblank, hquote, hslash⟩ := plain_of_safe h
  rw [cutWords, hblank, hquote, if_neg hslash]
  rfl

theorem cutWords_safes (hcs : ∀ c ∈ cs, isShellSafe c = true) (hne : cs ≠ []) :
    cutWords .plain word (cs ++ rest) = cutWords .plain (begun word cs) rest := by
  induction cs generalizing word with
  | nil => exact absurd rfl hne
  | cons c cs ih =>
    rw [List.forall_mem_cons] at hcs
    rw [List.cons_append, cutWords_safe hcs.1]
    cases cs with
    | nil => rfl
    | cons d cs => rw [ih hcs.2 (List.cons_ne_nil d cs), begun_begun, List.singleton_append]

/-! ## words in quotes -/

theorem cutWords_kept {c : Char} (h : c ≠ '\'') :
    cutWords (.quoted '\'') word (c :: rest) = cutWords (.quoted '\'') (begun word [c]) rest := by
  rw [cutWords, if_neg h, if_neg (by simp)]

theorem cutWords_quote (w : List Char) :
    cutWords (.quoted '\'') (some w) ('\'' :: '"' :: '\'' :: '"' :: '\'' :: rest) =
      cutWords (.quoted '\'') (some (w ++ ['\''])) rest := by
  show cutWords (.quoted '\'') (some (w ++ [] ++ ['\''] ++ [])) rest = _
  rw [List.append_nil, List.append_nil]

theorem cutWords_inSingleQuotes (w : List Char) :
    cutWords (.quoted '\'') (some w) (inSingleQuotes cs ++ rest) =
      cutWords (.quoted '\'') (some (w ++ cs)) rest := by
  induction cs generalizing w with
  | nil => rw [inSingleQuotes, List.append_nil, List.nil_append]
  | cons c cs ih =>
    rw [inSingleQuotes, List.append_assoc, List.append_cons w]
    split
    · rename_i hc
      subst hc
      exact (cutWords_quote w).trans (ih _)
    · rename_i hc
      exact (cutWords_kept hc).trans (ih _)

/-! ## commands -/

theorem cutWords_quoteWord (s : String) :
    cutWords .plain word ((quoteWord s).toList ++ rest) =
      cutWords .plain (begun word s.toList) rest := by
  unfold quoteWord
  split
  · rename_i hs
    subst hs
    rfl
  · rename_i hs
    split
    · rename_i hsafe
      exact cutWords_safes (List.all_eq_true.1 hsafe) (mt String.toList_eq_nil_iff.1 hs)
    · rw [String.toList_ofList, List.cons_append, List.cons_append, List.append_assoc]
      show cutWords (.quoted '\'') (some (word.getD [] ++ [])) _ = _
      rw [cutWords_inSingleQuotes, List.append_nil]
      rfl

theorem cutWords_quoteArg (s : String) :
    cutWords .plain word ((quoteArg s).toList ++ rest) =
      cutWords .plain (begun word s.toList) rest := by
  unfold quoteArg
  split
  · split
    · rename_i name value hcut
      obtain ⟨rfl, -⟩ := Binding.cutAt_equals_eq_some hcut
      have hlist : ∀ a b : String, (a ++ "=" ++ b).toList = a.toList ++ '=' :: b.toList := by
        intro a b
        rw [String.toList_append, String.toList_append, List.append_assoc]
        rfl
      rw [hlist, hlist, List.append_assoc, cutWords_quoteWord, List.cons_append,
        cutWords_safe (by decide), cutWords_quoteWord, begun_begun, begun_begun]
      rfl
    · exact cutWords_quoteWord s
  · exact cutWords_quoteWord s

/-- **Cutting gives back the words that a command is put together from.** -/
theorem shellWords_quoted (ws : List String) :
    shellWords (joinWith " " (ws.map quoteArg)) = .ok ws := by
  unfold shellWords
  have hfinished : ∀ s : String, finished (begun none s.toList) = [s] := by
    intro s
    show [String.ofList s.toList] = [s]
    rw [String.ofList_toList]
  induction ws with
  | nil => rfl
  | cons s ws ih =>
    cases ws with
    | nil =>
      have hread : cutWords .plain none ((quoteArg s).toList ++ []) = _ := cutWords_quoteArg s
      rw [List.append_nil] at hread
      exact hread.trans (congrArg _ (hfinished s))
    | cons s' ws =>
      have hlist : (joinWith " " ((s :: s' :: ws).map quoteArg)).toList =
          (quoteArg s).toList ++ ' ' :: (joinWith " " ((s' :: ws).map quoteArg)).toList := by
        rw [List.map_cons, List.map_cons, joinWith, String.toList_append, String.toList_append,
          List.append_assoc]
        rfl
      rw [hlist, cutWords_quoteArg]
      show (cutWords .plain none _ >>= fun rest =>
        .ok (finished (begun none s.toList) ++ rest)) = _
      rw [ih, hfinished]
      rfl

end

end CommandLine.Text
