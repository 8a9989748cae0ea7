import CommandLine.Proofs.Defaults

/-!
# How a wrong default ends

A cast fails for one of two reasons: the value is of a type that cannot be cast, or it is of one that
can but holds what cannot (`Kind.Misreads`): letters that spell no number, a number out of range, a
list whose elements are no pairs.  Only a failure of the first kind is reported.

* `judges_cast`         which of the two it is, for every type and every value;
* `castDefault_error`   a field that cannot be settled fails, and with an error that is reported exactly
                        if the field has a default and none of its values is misread;
* `wrong_default_ends`  the first field that cannot be settled decides how the making of a schema ends.
-/

namespace CommandLine

/-! ## results of casts -/

/-- the result of a cast tells whether the value is misread: it is not if the cast succeeds or fails
with a type error -/
inductive Judges {α : Type} (misread : Prop) : Except Error α → Prop where
  | ok {a : α} (h : ¬ misread) : Judges misread (.ok a)
  | type {e : Error} (h : ¬ misread) (he : e.kind = .type) : Judges misread (.error e)
  | value {e : Error} (h : misread) (he : e.kind = .value) : Judges misread (.error e)
  | overflow {e : Error} (h : misread) (he : e.kind = .overflow) : Judges misread (.error e)

namespace Judges
variable {α β : Type} {P Q : Prop} {x : Except Error α}

theorem map (h : Judges P x) (f : α → β) : Judges P (x.map f) := by
  cases h with
  | ok h => exact .ok h
  | type h he => exact .type h he
  | value h he => exact .value h he
  | overflow h he => exact .overflow h he

theorem not_of_ok {a : α} (h : Judges P (.ok a)) : ¬ P := by
  cases h
  assumption

theorem of_error {e : Error} (h : Judges P (.error e : Except Error α)) :
    (P ∧ (e.kind = .value ∨ e.kind = .overflow)) ∨ (¬ P ∧ e.kind = .type) := by
  cases h with
  | type h he => exact .inr ⟨h, he⟩
  | value h he => exact .inl ⟨h, .inl he⟩
  | overflow h he => exact .inl ⟨h, .inr he⟩

theorem error_bind {e : Error} (h : Judges P (.error e : Except Error α))
    (f : α → Except Error β) : Judges P ((.error e : Except Error α) >>= f) := by
  cases h with
  | type h he => exact .type h he
  | value h he => exact .value h he
  | overflow h he => exact .overflow h he

theorem congr (h : Judges P x) (hpq : P ↔ Q) : Judges Q x := (propext hpq) ▸ h

theorem bind {f : α → Except Error β} (h : Judges False x) (hf : ∀ a, Judges False (f a)) :
    Judges False (x >>= f) := by
  cases x with
  | ok a => exact hf a
  | error e => exact h.error_bind f

end Judges

/-! ## misread values -/

def Value.letters? : Value → Option String
  | .text s => some s
  | .bytes b | .byteArray b => some (charsOfBytes b)
  | _ => none

/-- can the element be an entry of a dictionary? -/
def Value.IsEntry (v : Value) : Prop := ∃ k w, v.elements? = some [k, w] ∧ k.unhashable? = none

/-- does the element hold less or more than a key and a value? -/
def Value.IsNoPair (v : Value) : Prop := ∃ xs, v.elements? = some xs ∧ xs.length ≠ 2

/-- is the element the number of a byte? -/
def Value.IsByte (v : Value) : Prop := ∃ i, v.asNumber = .int i ∧ 0 ≤ i ∧ i < 256

/-- is the element a number beyond those of bytes? -/
def Value.IsNoByte (v : Value) : Prop := ∃ i, v.asNumber = .int i ∧ ¬ (0 ≤ i ∧ i < 256)

/-- the first of the values that does not fit is one that is refused -/
def FirstRefused (Fits Refused : Value → Prop) (xs : List Value) : Prop :=
  ∃ front x rest, xs = front ++ x :: rest ∧ (∀ y ∈ front, Fits y) ∧ Refused x

/-- the value is of a type that can be cast, but holds what cannot -/
def Kind.Misreads : Kind → Value → Prop
  | .int, .float x => ∀ negative m q, Number.Binary.of x ≠ .finite negative m q
  | .int, v => ∃ s, v.letters? = some s ∧ ∀ i, Number.parseInt s ≠ .ok i
  | .text, v => v.isWritable = false
  | .float, .int i => Number.ofInt? i = none
  | .float, v => ∃ s, v.letters? = some s ∧ Number.parseFloat? s = none
  | .complex, .int i => Number.ofInt? i = none
  | .complex, .text s => Number.parseComplex? s = none
  | .dict, .dict _ => False
  | .dict, v => ∃ xs, v.elements? = some xs ∧ FirstRefused Value.IsEntry Value.IsNoPair xs
  | .bytes, v | .byteArray, v =>
      (∃ i, v.asNumber = .int i ∧ (i < 0 ∨ Int.ofNat (Nat.pow 2 63) ≤ i)) ∨
      ∃ xs, v.elements? = some xs ∧ FirstRefused Value.IsByte Value.IsNoByte xs
  | _, _ => False

section
variable {Fits Refused : Value → Prop} {x : Value} {xs : List Value}

theorem firstRefused_nil : ¬ FirstRefused Fits Refused [] := by
  rintro ⟨front, x, rest, h, -⟩
  cases front <;> cases h

theorem firstRefused_cons :
    FirstRefused Fits Refused (x :: xs) ↔ Refused x ∨ Fits x ∧ FirstRefused Fits Refused xs := by
  constructor
  · rintro ⟨front, y, rest, h, hfront, hy⟩
    cases front with
    | nil =>
      obtain ⟨rfl, rfl⟩ := List.cons.inj h
      exact .inl hy
    | cons z front =>
      obtain ⟨rfl, rfl⟩ := List.cons.inj h
      have htail : ∀ y ∈ front, Fits y := fun y hy => hfront y (List.mem_cons_of_mem _ hy)
      exact .inr ⟨hfront x List.mem_cons_self, front, y, rest, rfl, htail, hy⟩
  · rintro (hx | ⟨hx, front, y, rest, rfl, hfront, hy⟩)
    · exact ⟨[], x, xs, rfl, by simp, hx⟩
    · exact ⟨x :: front, y, rest, rfl, List.forall_mem_cons.2 ⟨hx, hfront⟩, hy⟩

theorem not_firstRefused (h : ∀ x ∈ xs, ¬ Refused x) : ¬ FirstRefused Fits Refused xs := by
  rintro ⟨front, x, rest, rfl, -, hx⟩
  exact h x (List.mem_append_right _ List.mem_cons_self) hx

theorem firstRefused_of_fits (hx : Fits x) (hr : ¬ Refused x) :
    FirstRefused Fits Refused xs ↔ FirstRefused Fits Refused (x :: xs) := by
  simp [firstRefused_cons, hx, hr]

theorem firstRefused_of_not_fits (hx : ¬ Fits x) :
    Refused x ↔ FirstRefused Fits Refused (x :: xs) := by
  simp [firstRefused_cons, hx]

end

/-! ## numbers -/

theorem judges_intOfText (shown s : String) :
    Judges (∀ i, Number.parseInt s ≠ .ok i) (intOfText shown s) := by
  unfold intOfText
  cases h : Number.parseInt s with
  | ok i => exact .ok fun hno => hno i rfl
  | error e =>
    have hno : ∀ i, (Except.error e : Except Number.IntRefusal Int) ≠ .ok i := fun i h => by cases h
    cases e with
    | malformed => exact .value hno rfl
    | tooLong n => exact .value hno rfl

theorem judges_floatOfInt (i : Int) : Judges (Number.ofInt? i = none) (floatOfInt i) := by
  unfold floatOfInt
  cases Number.ofInt? i with
  | some x => exact .ok fun h => by cases h
  | none => exact .overflow rfl rfl

theorem judges_floatOfText (shown s : String) :
    Judges (Number.parseFloat? s = none) (floatOfText shown s) := by
  unfold floatOfText
  cases Number.parseFloat? s with
  | some x => exact .ok fun h => by cases h
  | none => exact .value rfl rfl

theorem not_exists_none {α : Type} {P : α → Prop} : ¬ ∃ a, none = some a ∧ P a := by
  simp

theorem judges_intOfFloat (x : Float) :
    Judges (∀ negative m q, Number.Binary.of x ≠ .finite negative m q) (castInt (.float x)) := by
  rw [castInt]
  cases Number.Binary.of x with
  | notANumber => exact .value (fun _ _ _ h => by cases h) rfl
  | infinite neg => exact .overflow (fun _ _ _ h => by cases h) rfl
  | finite neg m q => exact .ok fun h => h neg m q rfl

theorem judges_castInt (v : Value) : Judges (Kind.Misreads .int v) (castInt v) := by
  cases v with
  | bool b => exact .ok not_exists_none
  | int i => exact .ok not_exists_none
  | float x => exact judges_intOfFloat x
  | text s | bytes b | byteArray b =>
    rw [castInt]
    exact ((judges_intOfText _ _).map _).congr (by simp [Kind.Misreads, Value.letters?])
  | _ => exact .type not_exists_none rfl

theorem judges_castFloat (v : Value) : Judges (Kind.Misreads .float v) (castFloat v) := by
  cases v with
  | bool b => exact .ok not_exists_none
  | int i => exact (judges_floatOfInt i).map _
  | float x => exact .ok not_exists_none
  | text s | bytes b | byteArray b =>
    rw [castFloat]
    exact (judges_floatOfText _ _).congr (by simp [Kind.Misreads, Value.letters?])
  | _ => exact .type not_exists_none rfl

theorem judges_writePlain (v : Value) : Judges (v.isWritable = false) v.writePlain := by
  unfold Value.writePlain Value.checkWritable
  cases v.isWritable with
  | true => exact .ok (by simp)
  | false => exact .value rfl rfl

theorem judges_complexOfText (s : String) :
    Judges (Number.parseComplex? s = none) (castComplex (.text s)) := by
  rw [castComplex]
  cases Number.parseComplex? s with
  | some z =>
    obtain ⟨a, b⟩ := z
    exact .ok fun h => by cases h
  | none =>
    show Judges _ (if _ then _ else _)
    split
    · exact .value rfl rfl
    · exact .value rfl rfl

theorem judges_castComplex (v : Value) : Judges (Kind.Misreads .complex v) (castComplex v) := by
  cases v with
  | bool b => exact .ok id
  | int i => exact (judges_floatOfInt i).map _
  | float x => exact .ok id
  | complex a b => exact .ok id
  | text s => exact judges_complexOfText s
  | _ => exact .type id rfl

/-! ## containers -/

theorem judges_elements (v : Value) : Judges False v.elements := by
  unfold Value.elements
  cases v.elements? with
  | none => exact .type id rfl
  | some xs => exact .ok id

theorem judges_checkKeys (xs : List Value) : Judges False (checkKeys xs) := by
  induction xs with
  | nil => exact .ok id
  | cons x xs ih =>
    unfold checkKeys
    cases x.unhashable? with
    | none => exact ih
    | some k => exact .type id rfl

/-- an element that is no pair is told from all others, and of those the entries are taken -/
theorem judges_entryOf (i : Nat) (v : Value) :
    Judges v.IsNoPair (entryOf i v) ∧ (v.IsEntry ↔ ∃ e, entryOf i v = .ok e) := by
  unfold entryOf
  cases hv : v.elements? with
  | none =>
    have hpair : ¬ v.IsNoPair := by simp [Value.IsNoPair, hv]
    exact ⟨.type hpair rfl, by simp [Value.IsEntry, hv]⟩
  | some ys =>
    rcases ys with _ | ⟨k, _ | ⟨w, _ | ⟨y, ys⟩⟩⟩
    · exact ⟨.value ⟨[], hv, by simp⟩ rfl, by simp [Value.IsEntry, hv]⟩
    · exact ⟨.value ⟨[k], hv, by simp⟩ rfl, by simp [Value.IsEntry, hv]⟩
    · have hpair : ¬ v.IsNoPair := by simp [Value.IsNoPair, hv]
      dsimp only
      cases hk : k.unhashable? with
      | none => exact ⟨.ok hpair, by simp [Value.IsEntry, hv, hk]⟩
      | some kind => exact ⟨.type hpair rfl, by simp [Value.IsEntry, hv, hk]⟩
    · exact ⟨.value ⟨k :: w :: y :: ys, hv, by simp⟩ rfl, by simp [Value.IsEntry, hv]⟩

theorem judges_entriesOf (xs : List Value) (i : Nat) (acc : List (Value × Value)) :
    Judges (FirstRefused Value.IsEntry Value.IsNoPair xs) (entriesOf i acc xs) := by
  induction xs generalizing i acc with
  | nil => exact .ok firstRefused_nil
  | cons x xs ih =>
    obtain ⟨hx, hentry⟩ := judges_entryOf i x
    show Judges _ (entryOf i x >>= _)
    cases h : entryOf i x with
    | error e =>
      have hfits : ¬ x.IsEntry := by simp [hentry, h]
      rw [h] at hx
      exact (hx.error_bind _).congr (firstRefused_of_not_fits hfits)
    | ok entry =>
      have hfits : x.IsEntry := hentry.2 ⟨entry, h⟩
      rw [h] at hx
      exact (ih (i + 1) _).congr (firstRefused_of_fits hfits hx.not_of_ok)

theorem judges_bytesOf {outOfRange : Error} (he : outOfRange.kind = .value) (xs : List Value) :
    Judges (FirstRefused Value.IsByte Value.IsNoByte xs) (bytesOf outOfRange xs) := by
  induction xs with
  | nil => exact .ok firstRefused_nil
  | cons x xs ih =>
    unfold bytesOf
    split
    · rename_i i hi
      by_cases hrange : 0 ≤ i ∧ i < 256
      · have hfits : x.IsByte := ⟨i, hi, hrange⟩
        have hbeyond : ¬ x.IsNoByte := by
          rintro ⟨j, hj, hout⟩
          obtain rfl := Value.int.inj (hi.symm.trans hj)
          exact hout hrange
        rw [if_pos hrange]
        exact (ih.map _).congr (firstRefused_of_fits hfits hbeyond)
      · have hbeyond : x.IsNoByte := ⟨i, hi, hrange⟩
        rw [if_neg hrange]
        exact .value (firstRefused_cons.2 (.inl hbeyond)) he
    · rename_i hno
      have hfits : ¬ x.IsByte := by
        rintro ⟨i, hi, -⟩
        exact hno i hi
      have hbeyond : ¬ x.IsNoByte := by
        rintro ⟨i, hi, -⟩
        exact hno i hi
      exact .type (mt (firstRefused_of_not_fits hfits).2 hbeyond) rfl

theorem elements?_asNumber (v : Value) : v.asNumber.elements? = v.elements? := by
  cases v <;> rfl

/-- a value that is no number is misread as bytes only for its elements -/
theorem misreads_bytes_iff {v : Value} (h : ∀ i, v.asNumber ≠ .int i) :
    Kind.Misreads .bytes v ↔
      ∃ xs, v.asNumber.elements? = some xs ∧ FirstRefused Value.IsByte Value.IsNoByte xs := by
  rw [elements?_asNumber]
  show (∃ i, v.asNumber = .int i ∧ _) ∨ _ ↔ _
  refine or_iff_right ?_
  rintro ⟨i, hi, -⟩
  exact h i hi

theorem judges_castToBytes (outOfRange notBytes : Error) (hrange : outOfRange.kind = .value)
    (hnot : notBytes.kind = .type) (v : Value) :
    Judges (Kind.Misreads .bytes v) (castToBytes outOfRange notBytes v) := by
  have hbytes : ∀ b : List UInt8, ¬ FirstRefused Value.IsByte Value.IsNoByte
      (b.map fun x => .int x.toNat) := by
    intro b
    apply not_firstRefused
    rintro x hx ⟨i, hi, hout⟩
    obtain ⟨y, -, rfl⟩ := List.mem_map.1 hx
    obtain rfl := Value.int.inj hi
    have hlt := y.toNat_lt
    omega
  unfold castToBytes
  split
  · rename_i s hs
    refine .type ?_ rfl
    rw [misreads_bytes_iff (by simp [hs]), hs]
    rintro ⟨xs, hxs, hfirst⟩
    obtain rfl := Option.some.inj hxs
    refine not_firstRefused ?_ hfirst
    rintro x hx ⟨i, hi, -⟩
    obtain ⟨c, -, rfl⟩ := List.mem_map.1 hx
    cases hi
  · rename_i b hb
    refine .ok ?_
    rw [misreads_bytes_iff (by simp [hb]), hb]
    simpa [Value.elements?] using hbytes b
  · rename_i b hb
    refine .ok ?_
    rw [misreads_bytes_iff (by simp [hb]), hb]
    simpa [Value.elements?] using hbytes b
  · rename_i i hi
    have hiff : Kind.Misreads .bytes v ↔ i < 0 ∨ Int.ofNat (Nat.pow 2 63) ≤ i := by
      have hnone : v.elements? = none := by rw [← elements?_asNumber, hi]; rfl
      simp [Kind.Misreads, hi, hnone]
    refine Judges.congr ?_ hiff.symm
    by_cases hfar : i < -Int.ofNat (Nat.pow 2 63) ∨ Int.ofNat (Nat.pow 2 63) ≤ i
    · rw [if_pos hfar]
      have hneg : -Int.ofNat (Nat.pow 2 63) ≤ 0 := by decide
      exact .overflow (hfar.imp_left fun h => Int.lt_of_lt_of_le h hneg) rfl
    · rw [if_neg hfar]
      by_cases hneg : i < 0
      · rw [if_pos hneg]
        exact .value (.inl hneg) rfl
      · rw [if_neg hneg]
        exact .ok (not_or.2 ⟨hneg, (not_or.1 hfar).2⟩)
  · rename_i hint
    refine Judges.congr ?_ (misreads_bytes_iff hint).symm
    cases v.asNumber.elements? with
    | none => exact .type not_exists_none hnot
    | some xs => exact (judges_bytesOf hrange xs).congr (by simp)

theorem judges_castBytes (v : Value) : Judges (Kind.Misreads .bytes v) (castBytes v) := by
  unfold castBytes
  split
  · exact .ok (not_or.2 ⟨by simp [Value.asNumber], not_exists_none⟩)
  · exact (judges_castToBytes .byteRange (.notBytes _) rfl rfl v).map _

/-- what is said of the elements of a value is not said of one that has none -/
theorem judges_elements_bind {α : Type} (v : Value) {P : List Value → Prop}
    {f : List Value → Except Error α} (h : ∀ xs, Judges (P xs) (f xs)) :
    Judges (∃ xs, v.elements? = some xs ∧ P xs) (v.elements >>= f) := by
  unfold Value.elements
  cases v.elements? with
  | none => exact .type not_exists_none rfl
  | some xs => exact (h xs).congr (by simp)

theorem judges_castDict (v : Value) : Judges (Kind.Misreads .dict v) (castDict v) := by
  cases v with
  | dict es => exact .ok id
  | _ => exact judges_elements_bind _ fun xs => (judges_entriesOf xs 0 []).map _

theorem judges_castPath (k : PathKind) (v : Value) : Judges False (castPath k v) := by
  cases v with
  | path p => exact .ok id
  | text s => exact .ok id
  | _ => exact .type id rfl

theorem judges_keys {α : Type} (v : Value) (f : List Value → α) :
    Judges False (do let xs ← v.elements; checkKeys xs; return f xs) :=
  (judges_elements v).bind fun xs => (judges_checkKeys xs).bind fun _ => .ok id

theorem judges_cast (k : Kind) (v : Value) : Judges (k.Misreads v) (k.cast v) := by
  cases k with
  | int => exact judges_castInt v
  | text => exact (judges_writePlain v).map _
  | float => exact judges_castFloat v
  | bool => exact .ok id
  | list => exact (judges_elements v).map _
  | tuple => exact (judges_elements v).map _
  | set => exact judges_keys v _
  | dict => exact judges_castDict v
  | bytes => exact judges_castBytes v
  | byteArray => exact (judges_castToBytes .byteArrayRange (.type _) rfl rfl v).map _
  | complex => exact judges_castComplex v
  | frozenSet =>
    cases v with
    | frozenSet xs => exact .ok id
    | _ => exact judges_keys _ _
  | path k => exact judges_castPath k v

/-! ## fields -/

/-- the error of a field is not reported: the field has no default, or the first of its two values that
cannot be cast is misread -/
def Class.Escapes (c : Class) (given : List (String × Value)) (n : String) (k : Kind) : Prop :=
  given.lookup n = none ∨ ∃ u v, given.lookup n = some u ∧ c.member? n = some (.plain v) ∧
    (k.Misreads (u.wrapped k) ∨
      (∃ a, k.cast (u.wrapped k) = .ok a) ∧ k.Misreads (v.wrapped k))

section
variable {given : List (String × Value)} {c c₁ : Class} {n : String} {k : Kind}

theorem settles_congr (h : c₁.member? n = c.member? n) :
    c₁.Settles given (n, k) ↔ c.Settles given (n, k) := by
  unfold Class.Settles
  rw [h]

theorem escapes_congr (h : c₁.member? n = c.member? n) :
    c₁.Escapes given n k ↔ c.Escapes given n k := by
  unfold Class.Escapes
  rw [h]

/-- a field that cannot be settled fails, and with a type error unless it escapes -/
theorem castDefault_error (hmem : ∀ u, given.lookup n = some u → ∃ v, c.member? n = some (.plain v))
    (h : ¬ c.Settles given (n, k)) :
    ∃ e, castDefault (given.lookup n) n k c = .error e ∧
      ((c.Escapes given n k ∧ (e.kind = .key ∨ e.kind = .value ∨ e.kind = .overflow)) ∨
        (¬ c.Escapes given n k ∧ e.kind = .type)) := by
  cases hl : given.lookup n with
  | none => exact ⟨_, rfl, .inl ⟨.inl hl, .inl rfl⟩⟩
  | some u =>
    obtain ⟨v, hv⟩ := hmem u hl
    have hescapes : c.Escapes given n k ↔ k.Misreads (u.wrapped k) ∨
        (∃ a, k.cast (u.wrapped k) = .ok a) ∧ k.Misreads (v.wrapped k) := by
      simp [Class.Escapes, hl, hv]
    rw [castDefault_of_member hv, hescapes]
    have hju := judges_cast k (u.wrapped k)
    have hjv := judges_cast k (v.wrapped k)
    cases hu : k.cast (u.wrapped k) with
    | error e =>
      refine ⟨e, by rw [settle_eq_error_iff.2 (.inl hu)]; rfl, ?_⟩
      rw [hu] at hju
      exact hju.of_error.imp (fun h => ⟨.inl h.1, .inr h.2⟩) fun h => ⟨by simp [h.1], h.2⟩
    | ok a =>
      rw [hu] at hju
      cases hw : k.cast (v.wrapped k) with
      | ok b => exact absurd ⟨u, v, a, b, hl, hv, hu, hw⟩ h
      | error e =>
        refine ⟨e, by rw [settle_eq_error_iff.2 (.inr ⟨a, hu, hw⟩)]; rfl, ?_⟩
        rw [hw] at hjv
        exact hjv.of_error.imp (fun h => ⟨.inr ⟨⟨a, rfl⟩, h.1⟩, .inr h.2⟩)
          fun h => ⟨not_or.2 ⟨hju.not_of_ok, fun hr => h.1 hr.2⟩, h.2⟩

theorem castDefaults_append {front rest : List (String × Kind)}
    (h : castDefaults given front c = .ok c₁) :
    castDefaults given (front ++ rest) c = castDefaults given rest c₁ := by
  induction front generalizing c with
  | nil => rw [Except.ok.inj h]; rfl
  | cons f front ih =>
    obtain ⟨m, l⟩ := f
    rw [castDefaults] at h
    rw [List.cons_append, castDefaults]
    cases hf : castDefault (given.lookup m) m l c with
    | error e => rw [hf] at h; cases h
    | ok c₂ =>
      rw [hf] at h
      exact ih h

end

/-! ## making the schema -/

theorem make_of_castDefaults_error {σ : Type} {d : Declaration} (around : Surroundings)
    (packages : Packages) {w w' : World σ} {c : Class} {n : String} {e : Error}
    (hook : outcome (d.hooked : Run σ Class) w = (.ok c, w'))
    (h : castDefaults d.given d.kinds c = .error (n, e)) :
    outcome (d.make around packages : Run σ Schema) w =
      if e.kind = .type then
        (.error (.exit (.int 1)), { w' with out := w'.out ++ wrongDefault d.name n e })
      else (.error e, w') := by
  unfold Declaration.make
  rw [outcome_bind_of_ok hook, h]
  show outcome (if e.kind = .type then _ else _) w' = _
  split
  · rfl
  · rfl

/-- The first field that cannot be settled decides how the making of a schema ends, whatever stands
behind it.  If it has no default, or if the first of its values that cannot be cast is misread, then
the error of this field is the end; else the field is reported and the program is left with status 1.
If there is no such field then only the version can keep the schema from being made. -/
theorem wrong_default_ends {σ : Type} (d : Declaration) (around : Surroundings) (packages : Packages)
    (w w' : World σ) (c : Class) (hook : outcome (d.hooked : Run σ Class) w = (.ok c, w')) :
    ((∀ f ∈ d.kinds, c.Settles d.given f) → ∃ c' : Class,
      outcome (d.make around packages : Run σ Schema) w =
        ((programVersion around packages d.importer).map fun version =>
          ⟨c'.setMember versionName (.text version), d.kinds, d.lines⟩, w')) ∧
    ∀ front n k rest, d.kinds = front ++ (n, k) :: rest →
      (∀ f ∈ front, c.Settles d.given f) → ¬ c.Settles d.given (n, k) →
      ∃ e : Error,
        (c.Escapes d.given n k → (e.kind = .key ∨ e.kind = .value ∨ e.kind = .overflow) ∧
          outcome (d.make around packages : Run σ Schema) w = (.error e, w')) ∧
        (¬ c.Escapes d.given n k → e.kind = .type ∧
          outcome (d.make around packages : Run σ Schema) w =
            (.error (.exit (.int 1)), { w' with out := w'.out ++ wrongDefault d.name n e })) := by
  have hnodup := nodup_kinds d
  refine ⟨fun hs => ?_, fun front n k rest hkinds hfront hbad => ?_⟩
  · obtain ⟨c', hc', -⟩ := castDefaults_settle hnodup hs
    exact ⟨c', make_of_castDefaults around packages hook hc'⟩
  · rw [hkinds, List.map_append] at hnodup
    obtain ⟨hnodup, -, hdisjoint⟩ := List.nodup_append.1 hnodup
    have hn : n ∉ front.map (·.1) := fun h => hdisjoint n h n (by simp) rfl
    obtain ⟨c₁, hc₁, hframe, -⟩ := castDefaults_settle hnodup hfront
    have hmem : ∀ u, d.given.lookup n = some u → ∃ v, c₁.member? n = some (.plain v) := by
      intro u hu
      rw [hframe n hn]
      exact hooked_member hu hook
    obtain ⟨e, he, hcases⟩ := castDefault_error hmem (mt (settles_congr (hframe n hn)).1 hbad)
    rw [escapes_congr (hframe n hn)] at hcases
    have hloop : castDefaults d.given d.kinds c = .error (n, e) := by
      rw [hkinds, castDefaults_append hc₁, castDefaults, he]
    have hmake := make_of_castDefaults_error around packages hook hloop
    refine ⟨e, fun hescapes => ?_, fun hreported => ?_⟩
    · obtain ⟨-, hkind⟩ := hcases.resolve_right fun h => h.1 hescapes
      have hne : e.kind ≠ .type := by
        rcases hkind with h | h | h <;> rw [h] <;> decide
      exact ⟨hkind, hmake.trans (if_neg hne)⟩
    · obtain ⟨-, hkind⟩ := hcases.resolve_left fun h => hreported h.1
      exact ⟨hkind, hmake.trans (if_pos hkind)⟩

def declarationWith (v : Value) : Declaration :=
  { name := "Sample"
    home := "sample"
    fields := [⟨"n", some .int, some (.int 0)⟩, ⟨"x", some .int, some v⟩]
    hook := none
    source := none
    importer := none }

/-- letters that spell no number escape, and a list is reported -/
theorem wrong_default_ends_sample :
    (∃ e : Error, e.kind ≠ .type ∧
      outcome ((declarationWith (.text "abc")).make {} ⟨[], []⟩ : Run Unit Schema) { state := () } =
        (.error e, { state := () })) ∧
    ∃ e : Error, e.kind = .type ∧
      outcome ((declarationWith (.list [])).make {} ⟨[], []⟩ : Run Unit Schema) { state := () } =
        (.error (.exit (.int 1)), { out := wrongDefault "Sample" "x" e, state := () }) := by
  have hfront : ∀ v, ∀ f ∈ [("n", Kind.int)],
      (declarationWith v).form.Settles (declarationWith v).given f := by
    intro v f hf
    obtain rfl := List.mem_singleton.1 hf
    exact ⟨.int 0, .int 0, .int 0, .int 0, rfl, rfl, rfl, rfl⟩
  have hbad : ∀ v e, castInt v = .error e → v.wrapped .int = v →
      ¬ (declarationWith v).form.Settles (declarationWith v).given ("x", .int) := by
    rintro v e he hw ⟨u, -, a, -, hu, -, ha, -⟩
    obtain rfl := Option.some.inj hu
    rw [hw] at ha
    cases he.symm.trans ha
  have hescapes : (declarationWith (.text "abc")).form.Escapes (declarationWith (.text "abc")).given "x"
      .int :=
    .inr ⟨.text "abc", .text "abc", rfl, rfl, .inl ⟨"abc", rfl, fun i h => by cases h⟩⟩
  have hreported : ¬ (declarationWith (.list [])).form.Escapes (declarationWith (.list [])).given "x"
      .int := by
    rintro (h | ⟨u, v, hu, hv, h⟩)
    · cases h
    · obtain rfl := Option.some.inj hu
      obtain rfl := Member.plain.inj (Option.some.inj hv)
      rcases h with ⟨s, hs, -⟩ | ⟨-, s, hs, -⟩
      · cases hs
      · cases hs
  constructor
  · have hends := wrong_default_ends (declarationWith (.text "abc")) {} ⟨[], []⟩ { state := () }
      { state := () } _ rfl
    obtain ⟨e, h, -⟩ := hends.2 [("n", .int)] "x" .int [] rfl (hfront _) (hbad _ _ rfl rfl)
    obtain ⟨hkind, hmake⟩ := h hescapes
    refine ⟨e, ?_, hmake⟩
    rcases hkind with h | h | h <;> rw [h] <;> decide
  · have hends := wrong_default_ends (declarationWith (.list [])) {} ⟨[], []⟩ { state := () }
      { state := () } _ rfl
    obtain ⟨e, -, h⟩ := hends.2 [("n", .int)] "x" .int [] rfl (hfront _) (hbad _ _ rfl rfl)
    exact ⟨e, h hreported⟩

end CommandLine
