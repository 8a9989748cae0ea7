import CommandLine.Proofs.Runs
import CommandLine.Schema.Fields
import CommandLine.Value.Cast

/-!
# Casts

A cast gives a value of the type that it casts to (`cast_isOf`).

A text is cast in two ways.  The file casts it to the type of the value that a field has
(`castLike_of_typeOf`), which takes a text apart for a container; the schema wraps it first, and so
makes it the only element.  `cast_text_eq_wrapped_iff` says when the two agree, and `cast_cast_text`
that the value of the first cast is left alone by the second, for the types in `textKinds`.
-/

namespace CommandLine

/-- the types that a text can always be meant for -/
def textKinds : List Kind := [.text, .int, .bool, .list, .tuple, .set, .path .posix]

/-! ## like another value -/

theorem castLike_of_typeOf {current : Value} {k : Kind} (h : current.typeOf = .kind k) (v : Value) :
    castLike current v = k.cast v := by
  cases current with
  | null | ellipsis | routine | method | module | kind | «class» | object => cases h
  | _ =>
    unfold castLike
    simp only [h]

theorem castLike_null (v : Value) : castLike .null v = .error (.takesNothing "NoneType") := rfl

/-! ## sets of texts -/

def texts (xs : List String) : List Value := xs.map .text

def characters (v : String) : List String := v.toList.map String.singleton

theorem codes_texts (x : String) (xs : List String) : Value.codes? (texts (x :: xs)) = none := rfl

theorem slotOrder_texts (xs : List String) : slotOrder (texts xs) = texts xs := by
  cases xs with
  | nil => rfl
  | cons x xs =>
    unfold slotOrder slotOrderFrom
    rw [codes_texts]

theorem copyOrder_texts (xs : List String) : copyOrder (texts xs) = texts xs := by
  cases xs with
  | nil => rfl
  | cons x xs =>
    unfold copyOrder
    rw [codes_texts]
    exact ite_self _

theorem checkKeys_iff {xs : List Value} : checkKeys xs = .ok () ↔ ∀ x ∈ xs, x.unhashable? = none := by
  induction xs with
  | nil => exact ⟨fun _ x hx => absurd hx List.not_mem_nil, fun _ => rfl⟩
  | cons x xs ih =>
    rw [List.forall_mem_cons, ← ih, checkKeys]
    cases x.unhashable? with
    | none => exact (and_iff_right rfl).symm
    | some kind => exact ⟨fun h => (nomatch h), fun h => (nomatch h.1)⟩

theorem checkKeys_texts (xs : List String) : checkKeys (texts xs) = .ok () := by
  refine checkKeys_iff.2 fun x hx => ?_
  obtain ⟨s, -, rfl⟩ := List.mem_map.1 hx
  rfl

theorem distinct_sublist (xs : List Value) : (Value.distinct xs).Sublist xs := by
  have step : ∀ acc, (xs.foldl (fun acc x => Value.insert x acc) acc).Sublist (acc ++ xs) := by
    induction xs with
    | nil => exact fun acc => List.sublist_append_left acc []
    | cons x xs ih =>
      intro acc
      rw [List.foldl_cons, Value.insert]
      split
      · exact (ih acc).trans ((List.sublist_cons_self x xs).append_left acc)
      · rw [show acc ++ x :: xs = acc ++ [x] ++ xs from List.append_cons acc x xs]
        exact ih (acc ++ [x])
  exact step []

theorem distinct_texts (xs : List String) :
    ∃ ys, Value.distinct (texts xs) = texts ys ∧ ∀ y ∈ ys, y ∈ xs := by
  obtain ⟨ys, hys, h⟩ := List.sublist_map_iff.1 (distinct_sublist (texts xs))
  exact ⟨ys, h, fun y hy => hys.subset hy⟩

/-! ## texts and containers -/

theorem texts_inj {xs ys : List String} (h : texts xs = texts ys) : xs = ys :=
  List.map_inj_right (fun _ _ e => Value.text.inj e) |>.1 h

theorem elements_text (v : String) : (Value.text v).elements = .ok (texts (characters v)) := by
  show Except.ok (v.toList.map fun c => Value.text (String.singleton c)) = _
  rw [texts, characters, List.map_map]
  rfl

theorem map_elements_text (mk : List Value → Value) (v : String) :
    (Value.text v).elements.map mk = .ok (mk (texts (characters v))) := by
  rw [elements_text]
  rfl

theorem length_characters (v : String) : (characters v).length = v.length := by
  rw [characters, List.length_map, String.length_toList]

theorem length_of_mem_characters {x v : String} (h : x ∈ characters v) : x.length = 1 := by
  obtain ⟨c, -, rfl⟩ := List.mem_map.1 h
  rw [← String.length_toList, String.toList_singleton]
  rfl

theorem characters_of_length_one {v : String} (h : v.length = 1) : characters v = [v] := by
  rw [← String.length_toList] at h
  obtain ⟨c, hc⟩ := List.length_eq_one_iff.1 h
  rw [characters, hc]
  show [String.singleton c] = [v]
  rw [← String.toList_inj.1 (hc.trans (String.toList_singleton c).symm)]

theorem characters_eq_iff (v : String) : characters v = [v] ↔ v.length = 1 := by
  constructor
  · intro h
    rw [← length_characters, h]
    rfl
  · exact characters_of_length_one

theorem cast_set_texts (xs : List String) :
    ∃ ys, Kind.set.cast (.list (texts xs)) = .ok (.set (texts ys)) ∧ ∀ y ∈ ys, y ∈ xs := by
  obtain ⟨ys, hys, hin⟩ := distinct_texts xs
  refine ⟨ys, ?_, hin⟩
  show (checkKeys (texts xs) >>= fun _ => Except.ok (Value.set (slotOrder (Value.distinct (texts xs)))))
    = _
  rw [checkKeys_texts, hys, slotOrder_texts]
  rfl

theorem cast_set_text (v : String) :
    Kind.set.cast (.text v) = Kind.set.cast (.list (texts (characters v))) := by
  show ((Value.text v).elements >>= fun xs => checkKeys xs >>= fun _ =>
    Except.ok (Value.set (slotOrder (Value.distinct xs)))) = _
  rw [elements_text]
  rfl

theorem ofPartsRev_kind (k : PathKind) (names parts : List String) :
    (Path.ofPartsRev k names parts).kind = k := by
  induction parts generalizing names with
  | nil => rfl
  | cons part parts ih =>
    unfold Path.ofPartsRev
    split
    · exact ih names
    · dsimp only
      split
      · exact ih _
      · rfl

theorem ofText_kind (k : PathKind) (v : String) : (Path.ofText k v).kind = k :=
  ofPartsRev_kind k [] [v]

theorem castPath_path {k : PathKind} {p : Path} (hk : k ≠ .pureWindows) (hp : p.kind = k) :
    castPath k (.path p) = .ok (.path p) :=
  congrArg (fun q => Except.ok (Value.path q)) (if_pos ⟨hp, hk⟩)

/-- taken apart or as a whole, a text gives a list or a tuple the same elements only if it is one
character -/
theorem map_elements_eq_iff {mk : List Value → Value} (hmk : ∀ xs ys, mk xs = mk ys → xs = ys)
    (v : String) : (Value.text v).elements.map mk = .ok (mk (texts [v])) ↔ v.length = 1 := by
  rw [map_elements_text, ← characters_eq_iff]
  constructor
  · intro h
    exact texts_inj (hmk _ _ (Except.ok.inj h))
  · intro h
    rw [h]

theorem cast_set_eq_iff (v : String) :
    Kind.set.cast (.text v) = Kind.set.cast (.list (texts [v])) ↔ v.length = 1 := by
  rw [cast_set_text]
  constructor
  · intro h
    obtain ⟨ys, hys, hin⟩ := cast_set_texts (characters v)
    have hone : Kind.set.cast (.list (texts [v])) = .ok (.set (texts [v])) := rfl
    rw [hys, hone] at h
    obtain rfl := texts_inj (Value.set.inj (Except.ok.inj h))
    exact length_of_mem_characters (hin v List.mem_cons_self)
  · intro h
    rw [characters_of_length_one h]

/-- the file and the schema agree about a text, unless the type is a container and the text has not
exactly one character -/
theorem cast_text_eq_wrapped_iff {k : Kind} (hk : k ∈ textKinds) (v : String) :
    k.cast (.text v) = k.cast ((Value.text v).wrapped k) ↔ k.isContainer = false ∨ v.length = 1 := by
  simp only [textKinds, List.mem_cons, List.not_mem_nil, or_false] at hk
  rcases hk with rfl | rfl | rfl | rfl | rfl | rfl | rfl
  · exact ⟨fun _ => .inl rfl, fun _ => rfl⟩
  · exact ⟨fun _ => .inl rfl, fun _ => rfl⟩
  · exact ⟨fun _ => .inl rfl, fun _ => rfl⟩
  · exact (map_elements_eq_iff (fun _ _ => Value.list.inj) v).trans (or_iff_right (by decide)).symm
  · exact (map_elements_eq_iff (fun _ _ => Value.tuple.inj) v).trans (or_iff_right (by decide)).symm
  · exact (cast_set_eq_iff v).trans (or_iff_right (by decide)).symm
  · exact ⟨fun _ => .inl rfl, fun _ => rfl⟩

/-! ## the type of a cast value -/

theorem ofParts_kind (k : PathKind) (parts : List String) : (Path.ofParts k parts).kind = k :=
  ofPartsRev_kind k [] parts.reverse

/-- the values that the constructor of a type makes -/
inductive Kind.Makes : Kind → Value → Prop where
  | int (i : Int) : Makes .int (.int i)
  | text (s : String) : Makes .text (.text s)
  | float (x : Float) : Makes .float (.float x)
  | bool (b : Bool) : Makes .bool (.bool b)
  | list (xs : List Value) : Makes .list (.list xs)
  | tuple (xs : List Value) : Makes .tuple (.tuple xs)
  | set (xs : List Value) : Makes .set (.set xs)
  | frozenSet (xs : List Value) : Makes .frozenSet (.frozenSet xs)
  | dict (es : List (Value × Value)) : Makes .dict (.dict es)
  | bytes (b : List UInt8) : Makes .bytes (.bytes b)
  | byteArray (b : List UInt8) : Makes .byteArray (.byteArray b)
  | complex (a b : Float) : Makes .complex (.complex a b)
  | path (p : Path) : Makes (.path p.kind) (.path p)

theorem makes_of_map {α : Type} {e : Except Error α} {mk : α → Value} {k : Kind} {x : Value}
    (hmk : ∀ a, k.Makes (mk a)) (h : e.map mk = .ok x) : k.Makes x := by
  cases e with
  | error e => cases h
  | ok a =>
    obtain rfl := Except.ok.inj h
    exact hmk a

theorem castInt_makes {v x : Value} (h : castInt v = .ok x) : Kind.int.Makes x := by
  cases v with
  | bool b | int i => exact Except.ok.inj h ▸ .int _
  | float y =>
    simp only [castInt] at h
    split at h
    · cases h
    · cases h
    · exact Except.ok.inj h ▸ .int _
  | text s | bytes b | byteArray b => exact makes_of_map .int h
  | _ => cases h

theorem floatOfText_makes {shown s : String} {x : Value} (h : floatOfText shown s = .ok x) :
    Kind.float.Makes x := by
  unfold floatOfText at h
  split at h
  · exact Except.ok.inj h ▸ .float _
  · cases h

theorem castFloat_makes {v x : Value} (h : castFloat v = .ok x) : Kind.float.Makes x := by
  cases v with
  | bool b | float y => exact Except.ok.inj h ▸ .float _
  | int i => exact makes_of_map .float h
  | text s | bytes b | byteArray b => exact floatOfText_makes h
  | _ => cases h

theorem castComplex_makes {v x : Value} (h : castComplex v = .ok x) : Kind.complex.Makes x := by
  cases v with
  | bool b | float y | complex a b => exact Except.ok.inj h ▸ .complex _ _
  | int i => exact makes_of_map (.complex · _) h
  | text s =>
    simp only [castComplex] at h
    split at h
    · exact Except.ok.inj h ▸ .complex _ _
    · split at h <;> cases h
  | _ => cases h

theorem castDict_makes {v x : Value} (h : castDict v = .ok x) : Kind.dict.Makes x := by
  unfold castDict at h
  split at h
  · exact Except.ok.inj h ▸ .dict _
  · obtain ⟨xs, -, h⟩ := bind_eq_ok.1 h
    obtain ⟨es, -, h⟩ := bind_eq_ok.1 h
    exact Except.ok.inj h ▸ .dict _

theorem castBytes_makes {v x : Value} (h : castBytes v = .ok x) : Kind.bytes.Makes x := by
  unfold castBytes at h
  split at h
  · exact Except.ok.inj h ▸ .bytes _
  · exact makes_of_map .bytes h

theorem castPath_eq_ok {k : PathKind} {v x : Value} (h : castPath k v = .ok x) :
    ∃ p, x = .path p ∧ p.kind = k := by
  cases v with
  | path p =>
    refine ⟨_, (Except.ok.inj h).symm, ?_⟩
    split
    case isTrue hp => exact hp.1
    case isFalse => exact ofParts_kind k p.parts
  | text t => exact ⟨_, (Except.ok.inj h).symm, ofText_kind k t⟩
  | _ => cases h

theorem castKeys_makes {v x : Value} {g : List Value → Value} {k : Kind} (hg : ∀ xs, k.Makes (g xs))
    (h : (v.elements >>= fun xs => checkKeys xs >>= fun _ => pure (g (v.orderFrom xs))) = .ok x) :
    k.Makes x := by
  obtain ⟨xs, -, h⟩ := bind_eq_ok.1 h
  obtain ⟨_, -, h⟩ := bind_eq_ok.1 h
  obtain rfl := Except.ok.inj h
  exact hg _

theorem cast_makes {k : Kind} {v x : Value} (h : k.cast v = .ok x) : k.Makes x := by
  cases k with
  | int => exact castInt_makes h
  | text => exact makes_of_map .text h
  | bool => exact Except.ok.inj h ▸ .bool _
  | float => exact castFloat_makes h
  | list => exact makes_of_map .list h
  | tuple => exact makes_of_map .tuple h
  | byteArray => exact makes_of_map .byteArray h
  | set => exact castKeys_makes .set h
  | frozenSet =>
    cases v with
    | frozenSet xs => exact Except.ok.inj h ▸ .frozenSet _
    | _ => exact castKeys_makes .frozenSet h
  | dict => exact castDict_makes h
  | bytes => exact castBytes_makes h
  | complex => exact castComplex_makes h
  | path k =>
    obtain ⟨p, rfl, rfl⟩ := castPath_eq_ok h
    exact .path p

theorem cast_isOf {k : Kind} {v x : Value} (h : k.cast v = .ok x) : x.isOf k = true := by
  cases cast_makes h with
  | path p => simp [Value.isOf]
  | _ => rfl

theorem isCallable_of_isOf {k : Kind} {v : Value} (h : v.isOf k = true) : v.isCallable = false := by
  cases v with
  | routine | method | builtin | builtinMethod | «class» | kind => cases k <;> cases h
  | _ => rfl

/-! ## casting again -/

theorem Kind.Makes.ne_null {k : Kind} {x : Value} (h : k.Makes x) : x ≠ .null := by
  cases h <;> rintro ⟨⟩

/-- what the constructor of a type makes stays as it is, but for sets, which may come in another order, and
drive paths -/
theorem Kind.Makes.cast_wrapped {k : Kind} {x : Value} (h : k.Makes x) (hset : k ≠ .set)
    (hpath : k ≠ .path .pureWindows) : k.cast (x.wrapped k) = .ok x := by
  cases h with
  | set xs => exact absurd rfl hset
  | path p => exact castPath_path (fun e => hpath (congrArg Kind.path e)) rfl
  | _ => rfl

/-- the value that a text is cast to is something, and stays as it is when the schema casts it -/
theorem cast_cast_text {k : Kind} (hk : k ∈ textKinds) {v : String} {x : Value}
    (h : k.cast (.text v) = .ok x) : x ≠ .null ∧ k.cast (x.wrapped k) = .ok x := by
  refine ⟨(cast_makes h).ne_null, ?_⟩
  by_cases hset : k = .set
  · subst hset
    obtain ⟨ys, hys, -⟩ := cast_set_texts (characters v)
    rw [cast_set_text, hys] at h
    obtain rfl := Except.ok.inj h
    show (checkKeys (texts ys) >>= fun _ => Except.ok (Value.set (copyOrder (texts ys)))) = _
    rw [checkKeys_texts, copyOrder_texts]
    rfl
  · refine (cast_makes h).cast_wrapped hset ?_
    rintro rfl
    exact absurd hk (by decide)

end CommandLine
