import Mathlib.Data.Nat.ModEq
import Mathlib.Tactic.Ring
import CommandLine.Value.Slots

/-!
# A set lists all its elements

The order of slots is an order of the elements: none is lost, and none comes twice (`slotOrder_perm`); and so
is the order of a copy (`copyOrder_perm`).
That rests on the walk that looks for a free slot.  Once the code of an element is used up, the walk goes
from `i` to `5 * i + 1`, and among a power of two of slots these steps come to every slot
(`stride_reaches`).  So a set with a free slot has a place for one more element (`place_perm`), and a set
moves to more slots before the last one is taken (`add_perm`).
-/

namespace CommandLine

/-! ## the walk -/

/-- a step of the walk once the code is used up -/
def stride (i : Nat) : Nat := i * 5 + 1

/-- `2 ^ k` steps come back to the start, but for a turn by `2 ^ k` -/
theorem stride_iterate (k : Nat) :
    ∃ a b, ∀ i, stride^[2 ^ k] i = (1 + 2 ^ (k + 2) * a) * i + 2 ^ k * (1 + 2 * b) := by
  induction k with
  | zero => exact ⟨1, 0, fun i => by simp [stride]; ring⟩
  | succ k ih =>
    obtain ⟨a, b, h⟩ := ih
    refine ⟨a + 2 ^ (k + 1) * a * a, b + 2 ^ k * a * (1 + 2 * b), fun i => ?_⟩
    have htwice : 2 ^ (k + 1) = 2 ^ k + 2 ^ k := by rw [pow_succ]; ring
    rw [htwice, Function.iterate_add_apply, h, h]
    ring

/-- among `2 ^ k` slots the walk comes to each -/
theorem stride_reaches (k i m : Nat) : ∃ j, j < 2 ^ k ∧ stride^[j] i ≡ m [MOD 2 ^ k] := by
  induction k generalizing i with
  | zero => exact ⟨0, Nat.one_pos, Nat.modEq_one⟩
  | succ k ih =>
    obtain ⟨j, hj, hmod⟩ := ih i
    have htwice : 2 ^ (k + 1) = 2 ^ k + 2 ^ k := by rw [pow_succ]; ring
    have hpos : 0 < 2 ^ k := Nat.two_pow_pos k
    by_cases hthere : stride^[j] i ≡ m [MOD 2 ^ (k + 1)]
    · exact ⟨j, by omega, hthere⟩
    · -- the slot is half a turn away, and `2 ^ k` more steps are half a turn
      refine ⟨2 ^ k + j, by omega, ?_⟩
      obtain ⟨a, b, hturn⟩ := stride_iterate k
      have hstep : stride^[2 ^ k] (stride^[j] i) ≡ stride^[j] i + 2 ^ k [MOD 2 ^ (k + 1)] := by
        rw [hturn]
        have hsplit : (1 + 2 ^ (k + 2) * a) * stride^[j] i + 2 ^ k * (1 + 2 * b) =
            stride^[j] i + 2 ^ k + 2 ^ (k + 1) * (2 * a * stride^[j] i + b) := by ring
        rw [hsplit]
        exact Nat.modEq_iff_dvd.2 ⟨-(2 * a * stride^[j] i + b : Int), by push_cast; ring⟩
      have haway : stride^[j] i + 2 ^ k ≡ m [MOD 2 ^ (k + 1)] := by
        unfold Nat.ModEq at hmod hthere ⊢
        rw [htwice] at hthere ⊢
        generalize stride^[j] i = x at hmod hthere ⊢
        generalize 2 ^ k = n at hpos hmod hthere ⊢
        have hx := Nat.div_add_mod x n
        have hm := Nat.div_add_mod m n
        have hx' := Nat.mod_lt x hpos
        have key : ∀ y, y % (n + n) = n * (y / n % 2) + y % n := by
          intro y
          rw [← Nat.mul_two, Nat.mod_mul, Nat.add_comm]
        have hdiv : (x + n) / n = x / n + 1 := Nat.add_div_right x hpos
        have hrest : (x + n) % n = x % n := Nat.add_mod_right x n
        rw [key, key, hmod] at hthere
        rw [key, key, hdiv, hrest, hmod]
        have hne : x / n % 2 ≠ m / n % 2 := fun e => hthere (by rw [e])
        have hturned : (x / n + 1) % 2 = m / n % 2 := by omega
        rw [hturned]
      rw [Function.iterate_add_apply]
      exact hstep.trans haway

theorem stride_iterate_mod (n j i : Nat) : stride^[j] (i % n) ≡ stride^[j] i [MOD n] := by
  induction j generalizing i with
  | zero => exact Nat.mod_modEq i n
  | succ j ih =>
    have hstep : stride (i % n) % n = stride i % n :=
      ((Nat.mod_modEq i n).mul_right 5).add_right 1
    have hleft := ih (stride (i % n))
    rw [hstep] at hleft
    rw [Function.iterate_succ_apply, Function.iterate_succ_apply]
    exact hleft.symm.trans (ih (stride i))

/-- where the walk stands among `n` slots after `j` jumps -/
def probe (n : Nat) : Nat → Nat → Nat → Nat
  | 0, i, _ => i
  | j + 1, i, rest => probe n j ((i * 5 + 1 + rest / 32) % n) (rest / 32)

theorem probe_lt {n : Nat} (hn : 0 < n) (j : Nat) {i : Nat} (hi : i < n) (rest : Nat) :
    probe n j i rest < n := by
  induction j generalizing i rest with
  | zero => exact hi
  | succ j ih => exact ih (Nat.mod_lt _ hn) _

theorem probe_add (n t j i rest : Nat) :
    probe n (t + j) i rest = probe n j (probe n t i rest) (rest / 32 ^ t) := by
  induction t generalizing i rest with
  | zero => rw [Nat.zero_add, pow_zero, Nat.div_one]; rfl
  | succ t ih =>
    rw [Nat.add_right_comm]
    show probe n (t + j) _ _ = probe n j (probe n t _ _) _
    rw [ih, Nat.div_div_eq_div_mul, pow_succ, Nat.mul_comm 32]

theorem probe_settled (n j i : Nat) : probe n j i 0 ≡ stride^[j] i [MOD n] := by
  induction j generalizing i with
  | zero => rfl
  | succ j ih =>
    show probe n j ((i * 5 + 1 + 0 / 32) % n) (0 / 32) ≡ _ [MOD n]
    rw [Nat.zero_div, Nat.add_zero, Function.iterate_succ_apply]
    exact (ih _).trans (stride_iterate_mod n j (stride i))

/-- the walk comes to every slot, `t` jumps being enough to use up the code -/
theorem probe_reaches {k i rest t m : Nat} (hi : i < 2 ^ k) (hrest : rest < 32 ^ t)
    (hm : m < 2 ^ k) : ∃ j, j < t + 2 ^ k ∧ probe (2 ^ k) j i rest = m := by
  have hpos : 0 < 2 ^ k := Nat.two_pow_pos k
  obtain ⟨j, hj, hmod⟩ := stride_reaches k (probe (2 ^ k) t i rest) m
  refine ⟨t + j, by omega, ?_⟩
  have hlt := probe_lt hpos t hi rest
  rw [probe_add, Nat.div_eq_of_lt hrest]
  exact Nat.ModEq.eq_of_lt_of_lt ((probe_settled _ j _).trans hmod) (probe_lt hpos j hlt 0) hm

/-! ## a free slot -/

theorem freeAmong_free {s : Slots} {i count j : Nat} (h : s.freeAmong i count = some j) :
    s[j]? = some none := by
  induction count generalizing i with
  | zero => cases h
  | succ count ih =>
    unfold Slots.freeAmong at h
    split at h
    · rename_i hfree
      rwa [Option.some.inj h] at hfree
    · exact ih h
    · cases h

/-- the slot that is found is free, if the walk comes to a free one in time -/
theorem free_of_probe {s : Slots} {fuel i rest j : Nat} (hj : j < fuel)
    (h : s[probe s.length j i rest]? = some none) : s[s.free fuel i rest]? = some none := by
  induction fuel generalizing i rest j with
  | zero => exact absurd hj (Nat.not_lt_zero j)
  | succ fuel ih =>
    rw [Slots.free]
    cases hfound : s.freeAmong i (if i + 9 < s.length then 10 else 1) with
    | some m =>
      show s[m]? = some none
      exact freeAmong_free hfound
    | none =>
      show s[s.free fuel ((i * 5 + 1 + rest / 32) % s.length) (rest / 32)]? = some none
      cases j with
      | zero =>
        -- the first slot that is looked at would be free
        have hfree : s[i]? = some none := h
        split at hfound <;> simp [Slots.freeAmong, hfree] at hfound
      | succ j => exact ih (Nat.lt_of_succ_lt_succ hj) h

theorem exists_free {s : Slots} (h : s.elements.length < s.length) :
    ∃ m, m < s.length ∧ s[m]? = some none := by
  unfold Slots.elements at h
  induction s with
  | nil => exact absurd h (Nat.lt_irrefl 0)
  | cons o s ih =>
    cases o with
    | none => exact ⟨0, Nat.succ_pos _, rfl⟩
    | some e =>
      rw [List.filterMap_cons_some (f := id) (a := some e) (b := e) rfl, List.length_cons,
        List.length_cons] at h
      obtain ⟨m, hm, hfree⟩ := ih (by omega)
      exact ⟨m + 1, Nat.succ_lt_succ hm, hfree⟩

theorem elements_set {s : Slots} {j : Nat} (h : s[j]? = some none) (e : Nat × Value) :
    Slots.elements (s.set j (some e)) |>.Perm (e :: s.elements) := by
  unfold Slots.elements
  induction s generalizing j with
  | nil => cases h
  | cons o s ih =>
    cases j with
    | zero =>
      have ho : o = none := Option.some.inj h
      subst ho
      exact List.Perm.refl _
    | succ j =>
      have hs := ih (j := j) h
      cases o with
      | none => exact hs
      | some f => exact (hs.cons f).trans (List.Perm.swap e f _)

/-! ## placing and moving -/

section
variable {s : Slots} {k : Nat}

theorem length_place (s : Slots) (e : Nat × Value) : (s.place e).length = s.length := by
  unfold Slots.place
  exact List.length_set

/-- an element finds a place as long as there is one -/
theorem place_perm (hs : s.length = 2 ^ k) (hroom : s.elements.length < s.length) {e : Nat × Value}
    (he : e.1 < codeCount) : (s.place e).elements.Perm (e :: s.elements) := by
  obtain ⟨m, hm, hfree⟩ := exists_free hroom
  have hpos : 0 < 2 ^ k := Nat.two_pow_pos k
  have hstart : e.1 % 2 ^ k < 2 ^ k := Nat.mod_lt _ hpos
  -- thirteen jumps use up the 64 bits of a code
  have hcode : e.1 < 32 ^ 13 := Nat.lt_of_lt_of_le he (by decide)
  obtain ⟨j, hj, hprobe⟩ := probe_reaches hstart hcode (hs ▸ hm)
  refine elements_set (free_of_probe (j := j) (by omega) ?_) e
  rw [hs, hprobe]
  exact hfree

theorem foldl_place_perm {es : List (Nat × Value)} (hs : s.length = 2 ^ k)
    (hroom : s.elements.length + es.length ≤ s.length) (hes : ∀ e ∈ es, e.1 < codeCount) :
    (es.foldl Slots.place s).elements.Perm (es ++ s.elements) ∧
      (es.foldl Slots.place s).length = s.length := by
  induction es generalizing s with
  | nil => exact ⟨List.Perm.refl _, rfl⟩
  | cons e es ih =>
    rw [List.length_cons] at hroom
    have hplace := place_perm hs (by omega) (hes e List.mem_cons_self)
    have hlength := length_place s e
    have hcount := hplace.length_eq
    rw [List.length_cons] at hcount
    obtain ⟨hperm, hsame⟩ := ih (hlength.trans hs) (by omega)
      fun f hf => hes f (List.mem_cons_of_mem e hf)
    exact ⟨hperm.trans ((hplace.append_left es).trans List.perm_middle), hsame.trans hlength⟩

theorem length_emptySlots (n : Nat) : (emptySlots n).length = n := List.length_replicate

theorem elements_emptySlots (n : Nat) : (emptySlots n).elements = [] := by
  unfold Slots.elements emptySlots
  refine List.filterMap_eq_nil_iff.2 fun o ho => ?_
  rw [List.eq_of_mem_replicate ho]
  rfl

theorem slotCount_spec (n : Nat) : (∃ k, slotCount n = 2 ^ k) ∧ n < slotCount n := by
  have hlt : n < 2 ^ (n.log2 + 1) := Nat.lt_log2_self
  have hpow : Nat.pow 2 (n.log2 + 1) = 2 ^ (n.log2 + 1) := rfl
  unfold slotCount
  rw [hpow]
  constructor
  · rcases Nat.le_total 8 (2 ^ (n.log2 + 1)) with h | h
    · exact ⟨n.log2 + 1, Nat.max_eq_right h⟩
    · exact ⟨3, Nat.max_eq_left h⟩
  · omega

/-- the slots are a power of two, and not too many of them are taken -/
structure Slots.Roomy (s : Slots) : Prop where
  pow : ∃ k, s.length = 2 ^ k
  room : isFull s.elements.length s.length = false
  codes : ∀ e ∈ s.elements, e.1 < codeCount

theorem not_isFull {taken slots : Nat} : isFull taken slots = false ↔ taken * 5 < (slots - 1) * 3 := by
  unfold isFull
  rw [decide_eq_false_iff_not, Nat.not_le]

theorem roomy_emptySlots : (emptySlots 8).Roomy where
  pow := ⟨3, length_emptySlots 8⟩
  room := by
    rw [elements_emptySlots, length_emptySlots]
    rfl
  codes := by
    intro e he
    rw [elements_emptySlots] at he
    cases he

/-- one more element is one element more, and leaves room -/
theorem add_perm (hs : s.Roomy) {e : Nat × Value} (he : e.1 < codeCount) :
    (s.add e).elements.Perm (e :: s.elements) ∧ (s.add e).Roomy := by
  obtain ⟨k, hk⟩ := hs.pow
  have hroom := not_isFull.1 hs.room
  have hplace := place_perm hk (by omega) he
  have hcodes : ∀ f ∈ (s.place e).elements, f.1 < codeCount := by
    intro f hf
    rcases List.mem_cons.1 (hplace.mem_iff.1 hf) with rfl | hf
    · exact he
    · exact hs.codes f hf
  have hcount := hplace.length_eq
  rw [List.length_cons] at hcount
  unfold Slots.add
  simp only
  split
  case isFalse hfull =>
    refine ⟨hplace, ⟨k, (length_place s e).trans hk⟩, Bool.eq_false_iff.2 hfull, hcodes⟩
  case isTrue =>
    -- at least twice as many slots as elements
    obtain ⟨wanted, hwanted, htwice⟩ : ∃ wanted,
        (if 50000 < (s.place e).elements.length then (s.place e).elements.length * 2
          else (s.place e).elements.length * 4) = wanted ∧
        (s.place e).elements.length * 2 ≤ wanted := ⟨_, rfl, by split <;> omega⟩
    rw [hwanted]
    obtain ⟨⟨m, hm⟩, hlt⟩ := slotCount_spec wanted
    have hlength := length_emptySlots (slotCount wanted)
    obtain ⟨hperm, hsame⟩ := foldl_place_perm (hlength.trans hm)
      (by rw [elements_emptySlots, hlength, List.length_nil]; omega) hcodes
    rw [elements_emptySlots, List.append_nil] at hperm
    have hmoved : ((s.place e).move (slotCount wanted)).elements.Perm (s.place e).elements := hperm
    have hslots : ((s.place e).move (slotCount wanted)).length = slotCount wanted :=
      hsame.trans hlength
    refine ⟨hmoved.trans hplace, ⟨m, hslots.trans hm⟩, not_isFull.2 ?_, fun f hf => ?_⟩
    · rw [hmoved.length_eq, hslots]
      omega
    · exact hcodes f (hmoved.mem_iff.1 hf)

theorem foldl_add_perm {es : List (Nat × Value)} (hs : s.Roomy) (hes : ∀ e ∈ es, e.1 < codeCount) :
    (es.foldl Slots.add s).elements.Perm (es ++ s.elements) := by
  induction es generalizing s with
  | nil => exact List.Perm.refl _
  | cons e es ih =>
    obtain ⟨hperm, hroomy⟩ := add_perm hs (hes e List.mem_cons_self)
    have hrest := ih hroomy fun f hf => hes f (List.mem_cons_of_mem e hf)
    exact hrest.trans ((hperm.append_left es).trans List.perm_middle)

end

/-! ## codes -/

theorem signedCode_lt (negative : Bool) {n : Nat} (h : n < codeModulus) :
    signedCode negative n < codeCount := by
  have hmodulus : codeModulus < codeCount := by decide
  unfold signedCode
  split
  · omega
  · split
    · exact Nat.sub_lt (by decide) (by decide)
    · exact Nat.mod_lt _ (by decide)

theorem floatCode_lt {x : Float} {c : Nat} (h : floatCode? x = some c) : c < codeCount := by
  unfold floatCode? at h
  split at h
  · rw [← Option.some.inj h]
    exact signedCode_lt _ (Nat.mod_lt _ (by decide))
  · split at h
    · rw [← Option.some.inj h]
      decide
    · split at h
      · rw [← Option.some.inj h]
        exact signedCode_lt _ (by decide)
      · cases h

theorem settledCode_lt (n : Nat) : settledCode n < codeCount := by
  have hmod : n % codeCount < codeCount := Nat.mod_lt _ (by decide)
  unfold settledCode
  simp only
  split
  · exact Nat.sub_lt (by decide) (by decide)
  · exact hmod

theorem tupleCode_lt (codes : List Nat) : tupleCode codes < codeCount := by
  unfold tupleCode
  simp only
  split
  · decide
  · exact Nat.mod_lt _ (by decide)

theorem unorderedCode_lt (codes : List Nat) : unorderedCode codes < codeCount := by
  unfold unorderedCode
  simp only
  split
  · decide
  · exact Nat.mod_lt _ (by decide)

theorem code_lt {v : Value} {c : Nat} (h : v.code? = some c) : c < codeCount := by
  unfold Value.code? at h
  split at h
  · rw [← Option.some.inj h]
    split <;> decide
  · rw [← Option.some.inj h]
    exact signedCode_lt _ (Nat.mod_lt _ (by decide))
  · exact floatCode_lt h
  · split at h
    · rw [← Option.some.inj h]
      exact settledCode_lt _
    · cases h
  · obtain ⟨codes, -, rfl⟩ := Option.map_eq_some_iff.1 h
    exact tupleCode_lt codes
  · obtain ⟨codes, -, rfl⟩ := Option.map_eq_some_iff.1 h
    exact unorderedCode_lt codes
  · cases h

theorem codes_spec {xs : List Value} {codes : List Nat} (h : Value.codes? xs = some codes) :
    codes.length = xs.length ∧ ∀ c ∈ codes, c < codeCount := by
  induction xs generalizing codes with
  | nil =>
    rw [← Option.some.inj h]
    exact ⟨rfl, fun c hc => absurd hc List.not_mem_nil⟩
  | cons x xs ih =>
    unfold Value.codes? at h
    split at h
    · rename_i c cs hc hcs
      obtain ⟨hlength, hlt⟩ := ih hcs
      rw [← Option.some.inj h]
      exact ⟨congrArg (· + 1) hlength, List.forall_mem_cons.2 ⟨code_lt hc, hlt⟩⟩
    · cases h

/-- elements with their codes that come in another order are the elements in another order -/
theorem codes_perm {xs : List Value} {codes : List Nat} {es : List (Nat × Value)}
    (hlength : codes.length = xs.length) (h : es.Perm (codes.zip xs ++ [])) : (es.map (·.2)).Perm xs := by
  have hsnd : (codes.zip xs).map (·.2) = xs := List.map_snd_zip (Nat.le_of_eq hlength.symm)
  have hmap := h.map (·.2)
  rwa [List.append_nil, hsnd] at hmap

theorem zip_codes_lt {codes : List Nat} (h : ∀ c ∈ codes, c < codeCount) (xs : List Value) :
    ∀ e ∈ codes.zip xs, e.1 < codeCount :=
  fun e he => h e.1 (List.of_mem_zip (a := e.1) (b := e.2) he).1

/-- the order of slots is an order of the elements -/
theorem slotOrder_perm (xs : List Value) : (slotOrder xs).Perm xs := by
  unfold slotOrder slotOrderFrom
  split
  · rename_i codes hcodes
    obtain ⟨hlength, hlt⟩ := codes_spec hcodes
    have hperm := foldl_add_perm roomy_emptySlots (zip_codes_lt hlt xs)
    rw [elements_emptySlots] at hperm
    exact codes_perm hlength hperm
  · exact List.Perm.refl _

theorem preparedSlots_spec (n : Nat) : (∃ k, preparedSlots n = 2 ^ k) ∧ n ≤ preparedSlots n := by
  unfold preparedSlots
  split
  case isTrue =>
    obtain ⟨hpow, hlt⟩ := slotCount_spec (n * 2)
    exact ⟨hpow, by omega⟩
  case isFalse hfull =>
    have hroom := not_isFull.1 (Bool.eq_false_iff.2 hfull)
    exact ⟨⟨3, rfl⟩, by omega⟩

theorem copyOrder_perm (xs : List Value) : (copyOrder xs).Perm xs := by
  unfold copyOrder
  split
  · exact List.Perm.refl _
  · split
    · rename_i codes hcodes
      obtain ⟨hlength, hlt⟩ := codes_spec hcodes
      obtain ⟨⟨k, hpow⟩, hle⟩ := preparedSlots_spec xs.length
      have hslots := length_emptySlots (preparedSlots xs.length)
      obtain ⟨hperm, -⟩ := foldl_place_perm (hslots.trans hpow)
        (by rw [elements_emptySlots, hslots, List.length_zip, List.length_nil]; omega) (zip_codes_lt hlt xs)
      rw [elements_emptySlots] at hperm
      exact codes_perm hlength hperm
    · exact List.Perm.refl _

end CommandLine
