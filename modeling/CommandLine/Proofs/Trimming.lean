import CommandLine.Text.Basic
import Mathlib.Data.List.TakeWhile

/-!
# Texts without the blanks at their ends

A text is its trimmed form between blanks (`exists_trim`), and blanks put at its ends change nothing
(`trim_append_blanks`, `trim_blanks_append`).  A text that neither starts nor ends with a blank is trimmed
(`trim_of_ends`).
-/

namespace CommandLine

section
variable {p : Char → Bool} {cs : List Char}

theorem dropWhile_of_head (h : ∃ c ∈ cs.head?, p c = false) : cs.dropWhile p = cs := by
  obtain ⟨c, hc, hp⟩ := h
  cases cs with
  | nil => cases hc
  | cons d cs =>
    obtain rfl := Option.some.inj hc
    rw [List.dropWhile_cons_of_neg (by rw [hp]; exact Bool.false_ne_true)]

theorem trimRightOf_append (h : ∃ c ∈ cs.getLast?, p c = false) (tail : List Char)
    (ht : ∀ c ∈ tail, p c = true) : Text.trimRightOf p (cs ++ tail) = cs := by
  have hrev : ∀ c ∈ tail.reverse, p c = true := fun c hc => ht c (List.mem_reverse.1 hc)
  have hhead : ∃ c ∈ cs.reverse.head?, p c = false := by
    rw [List.head?_reverse]
    exact h
  unfold Text.trimRightOf
  rw [List.reverse_append, List.dropWhile_append_of_pos hrev, dropWhile_of_head hhead,
    List.reverse_reverse]

end

def IsBlankText (s : String) : Prop := ∀ c ∈ s.toList, Text.isBlank c = true

section
variable {s b : String}

theorem isBlankText_of_toList {c : Char} (hs : s.toList = [c]) (hc : Text.isBlank c = true) :
    IsBlankText s := by
  intro d hd
  rw [hs] at hd
  rw [List.mem_singleton.1 hd]
  exact hc

theorem isBlankText_space : IsBlankText " " := isBlankText_of_toList rfl rfl

theorem trim_append_blanks (hb : IsBlankText b) (s : String) : Text.trim (s ++ b) = Text.trim s := by
  unfold Text.trim Text.trimOf Text.trimLeftOf Text.trimRightOf
  rw [String.toList_append, List.dropWhile_append]
  split
  · rename_i hnil
    have hdrop : b.toList.dropWhile Text.isBlank = [] := List.dropWhile_eq_nil_iff.2 hb
    rw [List.isEmpty_iff.1 hnil, hdrop]
  · rw [List.reverse_append,
      List.dropWhile_append_of_pos fun c hc => hb c (List.mem_reverse.1 hc)]

theorem trim_blanks_append (hb : IsBlankText b) (s : String) : Text.trim (b ++ s) = Text.trim s := by
  unfold Text.trim Text.trimOf Text.trimLeftOf
  rw [String.toList_append, List.dropWhile_append_of_pos hb]

theorem exists_trim (s : String) :
    ∃ a b, IsBlankText a ∧ IsBlankText b ∧ s = a ++ Text.trim s ++ b := by
  let rest := s.toList.dropWhile Text.isBlank
  refine ⟨String.ofList (s.toList.takeWhile Text.isBlank),
    String.ofList (rest.reverse.takeWhile Text.isBlank).reverse, ?_, ?_, ?_⟩
  · intro c hc
    rw [String.toList_ofList] at hc
    exact List.all_eq_true.1 List.all_takeWhile c hc
  · intro c hc
    rw [String.toList_ofList, List.mem_reverse] at hc
    exact List.all_eq_true.1 List.all_takeWhile c hc
  · have hrest : (rest.reverse.dropWhile Text.isBlank).reverse ++
        (rest.reverse.takeWhile Text.isBlank).reverse = rest := by
      rw [← List.reverse_append, List.takeWhile_append_dropWhile, List.reverse_reverse]
    rw [← String.toList_inj]
    unfold Text.trim Text.trimOf Text.trimLeftOf Text.trimRightOf
    simp only [String.toList_append, String.toList_ofList, List.append_assoc]
    rw [hrest, List.takeWhile_append_dropWhile]

theorem trim_trim (s : String) : Text.trim (Text.trim s) = Text.trim s := by
  obtain ⟨a, b, ha, hb, hs⟩ := exists_trim s
  have hsame := congrArg Text.trim hs
  rw [trim_append_blanks hb, trim_blanks_append ha] at hsame
  exact hsame.symm

theorem trim_of_ends (hfirst : ∃ c ∈ s.toList.head?, Text.isBlank c = false)
    (hlast : ∃ c ∈ s.toList.getLast?, Text.isBlank c = false) : Text.trim s = s := by
  have hright := trimRightOf_append hlast [] (by simp)
  rw [List.append_nil] at hright
  unfold Text.trim Text.trimOf Text.trimLeftOf
  rw [dropWhile_of_head hfirst, hright, String.ofList_toList]

theorem trim_between {f v : String} (hf : ∃ c ∈ f.toList.head?, Text.isBlank c = false)
    (hv : ∃ c ∈ v.toList.getLast?, Text.isBlank c = false) (mid : String) :
    Text.trim (f ++ mid ++ v) = f ++ mid ++ v := by
  obtain ⟨c, hc, hfirst⟩ := hf
  obtain ⟨d, hd, hlast⟩ := hv
  refine trim_of_ends ⟨c, ?_, hfirst⟩ ⟨d, ?_, hlast⟩
  · simp only [String.toList_append, List.head?_append, Option.mem_def.1 hc]
    rfl
  · rw [String.toList_append, List.getLast?_append, Option.mem_def.1 hd]
    rfl

theorem last_of_trim (h : Text.trim s = s) (hne : s ≠ "") :
    ∃ c ∈ s.toList.getLast?, Text.isBlank c = false := by
  have hlast : (Text.trim s).toList.getLast? =
      ((s.toList.dropWhile Text.isBlank).reverse.dropWhile Text.isBlank).head? := by
    unfold Text.trim Text.trimOf Text.trimLeftOf Text.trimRightOf
    rw [String.toList_ofList, List.getLast?_reverse]
  have hblank := List.head?_dropWhile_not Text.isBlank (s.toList.dropWhile Text.isBlank).reverse
  rw [← hlast, h] at hblank
  cases hc : s.toList.getLast? with
  | none => exact absurd (String.toList_eq_nil_iff.1 (List.getLast?_eq_none_iff.1 hc)) hne
  | some c =>
    rw [hc] at hblank
    exact ⟨c, rfl, hblank⟩

theorem not_mem_of_isBlankText (hb : IsBlankText b) {c : Char} (hc : Text.isBlank c = false) :
    c ∉ b.toList := by
  intro h
  rw [hb c h] at hc
  cases hc

end

end CommandLine
