import CommandLine.Proofs.Schemas

/-!
# The defaults of a schema are cast

Every field with a type has two values when its schema is made: the one that it is declared with and
the one that the hook has left.  Both are cast, the casts are compared, and one of them is set.

* `hooked_member`         what is declared is a plain member of the class when the hook has run;
* `settle_eq_error_iff`   a field fails with the first of its two casts that does, and only so;
* `settle_of_receive`     of two casts the one is set that equals what the hook has left;
* `castDefaults_settle`   the fields do not touch each other, so all of them are settled if each can be;
* `make_casts_defaults`   the schema has under each of its names what the hook has left, cast.
-/

namespace CommandLine

/-! ## members -/

theorem member?_setMember (c : Class) (m : String) (v : Value) (n : String) :
    (c.setMember m v).member? n = if n = m then some (.plain v) else c.member? n := by
  have hput : (c.setMember m v).members.lookup n =
      if n = m then some (.plain v) else c.members.lookup n :=
    lookup_putName m (Member.plain v) c.members n
  unfold Class.member?
  rw [lineage_eq, lineage_eq c, List.findSome?_cons, List.findSome?_cons, hput]
  by_cases e : n = m
  · rw [if_pos e, if_pos e]
  · rw [if_neg e, if_neg e]
    rfl

theorem attribute_of_member {c : Class} {n : String} {v : Value}
    (h : c.member? n = some (.plain v)) : (Value.class c).attribute n = .ok v := by
  simp only [Value.attribute, Value.attribute?, h]
  rfl

theorem hooked_member {σ : Type} {d : Declaration} {w w' : World σ} {c : Class} {n : String}
    {u : Value} (hu : d.given.lookup n = some u)
    (h : outcome (d.hooked : Run σ Class) w = (.ok c, w')) : ∃ v, c.member? n = some (.plain v) := by
  have hmem : (n, Member.plain u) ∈ d.form.members :=
    List.mem_map.2 ⟨(n, u), mem_of_lookup hu, rfl⟩
  refine (hooked_invariant (P := fun c => ∃ v, c.member? n = some (.plain v)) ?_
    ⟨u, d.form_declaresOnce.member hmem⟩ h).1
  intro c m v hc
  rw [member?_setMember]
  by_cases e : n = m
  · exact ⟨v, if_pos e⟩
  · rw [if_neg e]
    exact hc

/-! ## one field -/

/-- is the value a list, a tuple or a set? -/
def Value.holdsElements : Value → Bool
  | .list _ | .tuple _ | .set _ => true
  | _ => false

/-- the value as one of the type: a list, a tuple or a set takes what is none of them as its only
element -/
def Kind.receive (k : Kind) (v : Value) : Except Error Value :=
  if k.isContainer && !v.holdsElements then k.cast (.list [v]) else k.cast v

/-- is the value neither a type nor a source that can be read once? -/
def Value.isLasting : Value → Bool
  | .kind _ | .class _ | .generator _ => false
  | _ => true

section
variable {k : Kind} {u v a b : Value} {e : Error}

theorem isContainer_of_isLasting (h : v.isLasting = true) : v.isContainer = v.holdsElements := by
  cases v with
  | kind k => cases h
  | _ => rfl

theorem cast_wrapped_of_isLasting (h : v.isLasting = true) :
    k.cast (v.wrapped k) = k.receive v ∧ k.cast (v.wrapped k).spent = k.receive v := by
  have hspent : (v.wrapped k).spent = v.wrapped k := by
    unfold Value.wrapped
    cases v.isWrapped k with
    | true => rfl
    | false =>
      cases v with
      | generator xs => cases h
      | _ => rfl
  have hcast : k.cast (v.wrapped k) = k.receive v := by
    unfold Value.wrapped Value.isWrapped Kind.receive
    rw [isContainer_of_isLasting h, Bool.and_comm, apply_ite k.cast]
  exact ⟨hcast, hspent.symm ▸ hcast⟩

/-- a source that could be cast can be cast again, though it has nothing left -/
theorem cast_spent (h : k.cast v = .ok a) : ∃ b, k.cast v.spent = .ok b := by
  cases v with
  | generator xs =>
    cases k with
    | list | tuple | set | frozenSet | dict | bytes | byteArray | text | bool => exact ⟨_, rfl⟩
    | int | float | complex | path p => cases h
  | _ => exact ⟨a, h⟩

theorem settle_eq_error_iff :
    k.settle u v = .error e ↔ k.cast (u.wrapped k) = .error e ∨
      ∃ a, k.cast (u.wrapped k) = .ok a ∧ k.cast (v.wrapped k) = .error e := by
  have hlate : ∀ {w x : Value}, k.cast w = .ok x → (k.cast w.spent).map some ≠ .error e := by
    intro w x hw hmap
    obtain ⟨y, hy⟩ := cast_spent hw
    rw [hy] at hmap
    cases hmap
  constructor
  · intro h
    obtain h | ⟨a, ha, h⟩ := bind_eq_error.1 h
    · exact .inl h
    · obtain h | ⟨b, hb, h⟩ := bind_eq_error.1 h
      · exact .inr ⟨a, ha, h⟩
      · -- both casts are known to succeed, so does the one that is set
        exfalso
        split at h
        · split at h
          · cases h
          · exact hlate ha h
        · exact hlate hb h
  · rintro (h | ⟨a, ha, hb⟩)
    · exact bind_eq_error.2 (.inl h)
    · exact bind_eq_error.2 (.inr ⟨a, ha, bind_eq_error.2 (.inl hb)⟩)

theorem settle_of_casts (ha : k.cast (u.wrapped k) = .ok a) (hb : k.cast (v.wrapped k) = .ok b) :
    ∃ x, k.settle u v = .ok x := by
  cases hx : k.settle u v with
  | ok x => exact ⟨x, rfl⟩
  | error e =>
    obtain h | ⟨-, -, h⟩ := settle_eq_error_iff.1 hx
    · cases ha.symm.trans h
    · cases hb.symm.trans h

theorem settle_of_receive (hu : u.isLasting = true) (hv : v.isLasting = true)
    (ha : k.receive u = .ok a) (hb : k.receive v = .ok b) (hnull : v ≠ .null) :
    k.settle u v = .ok (some (if a.eqv b then a else b)) := by
  obtain ⟨hcu, hsu⟩ := cast_wrapped_of_isLasting (k := k) hu
  obtain ⟨hcv, hsv⟩ := cast_wrapped_of_isLasting (k := k) hv
  have ha' := hcu.trans ha
  have hb' := hcv.trans hb
  unfold Kind.settle
  refine bind_eq_ok.2 ⟨a, ha', bind_eq_ok.2 ⟨b, hb', ?_⟩⟩
  rw [hsu, ha, hsv, hb]
  cases a.eqv b with
  | false => rfl
  | true =>
    cases v with
    | null => exact absurd rfl hnull
    | _ => rfl

end

/-! ## all the fields -/

theorem nodup_kinds (d : Declaration) : (d.kinds.map (·.1)).Nodup := by
  have hnil : (([] : List (String × Kind)).map (·.1)).Nodup := List.nodup_nil
  refine List.foldlRecOn (motive := fun acc : List (String × Kind) => (acc.map (·.1)).Nodup)
    d.fields _ hnil ?_
  intro acc h f _
  cases hf : f.kind with
  | none => simpa [hf] using h
  | some k => simpa [hf] using nodup_putName f.name k h

/-- a field can be settled if it is declared with a default and neither of its casts fails -/
def Class.Settles (c : Class) (given : List (String × Value)) (f : String × Kind) : Prop :=
  ∃ u v a b, given.lookup f.1 = some u ∧ c.member? f.1 = some (.plain v) ∧
    f.2.cast (u.wrapped f.2) = .ok a ∧ f.2.cast (v.wrapped f.2) = .ok b

section
variable {given : List (String × Value)} {kinds : List (String × Kind)} {c : Class}

theorem castDefault_of_member {n : String} {v : Value} (h : c.member? n = some (.plain v)) (u : Value)
    (k : Kind) :
    castDefault (some u) n k c = (k.settle u v).map fun x => x.elim c (c.setMember n) := by
  show ((Value.class c).attribute n >>= fun current => k.settle u current >>= _) = _
  rw [attribute_of_member h]
  show (k.settle u v >>= _) = _
  cases k.settle u v with
  | error e => rfl
  | ok x => rfl

theorem member?_settled (c : Class) (m : String) (x : Option Value) {n : String} (h : n ≠ m) :
    (x.elim c (c.setMember m)).member? n = c.member? n := by
  cases x with
  | none => rfl
  | some v => exact (member?_setMember c m v n).trans (if_neg h)

theorem castDefaults_settle (hk : (kinds.map (·.1)).Nodup) (hs : ∀ f ∈ kinds, c.Settles given f) :
    ∃ c', castDefaults given kinds c = .ok c' ∧
      (∀ n, n ∉ kinds.map (·.1) → c'.member? n = c.member? n) ∧
      ∀ n k u v x, (n, k) ∈ kinds → given.lookup n = some u → c.member? n = some (.plain v) →
        k.settle u v = .ok (some x) → c'.member? n = some (.plain x) := by
  induction kinds generalizing c with
  | nil => exact ⟨c, rfl, fun _ _ => rfl, by simp⟩
  | cons f kinds ih =>
    obtain ⟨m, k⟩ := f
    obtain ⟨hm, hk⟩ := List.nodup_cons.1 hk
    obtain ⟨u, v, a, b, hu, hv, ha, hb⟩ := hs (m, k) List.mem_cons_self
    obtain ⟨x, hx⟩ := settle_of_casts ha hb
    have hcast : castDefault (given.lookup m) m k c = .ok (x.elim c (c.setMember m)) := by
      rw [hu, castDefault_of_member hv, hx]
      rfl
    have hne : ∀ {n : String}, n ∈ kinds.map (·.1) → n ≠ m := fun hn e => hm (e ▸ hn)
    -- the fields behind find what they would have found at first
    have hrest : ∀ g ∈ kinds, (x.elim c (c.setMember m)).Settles given g := by
      intro g hg
      obtain ⟨u', v', a', b', hu', hv', hcasts⟩ := hs g (List.mem_cons_of_mem _ hg)
      refine ⟨u', v', a', b', hu', ?_, hcasts⟩
      rw [member?_settled c m x (hne (List.mem_map_of_mem hg))]
      exact hv'
    obtain ⟨c', hc', hframe, hset⟩ := ih hk hrest
    refine ⟨c', ?_, ?_, ?_⟩
    · rw [castDefaults, hcast]
      exact hc'
    · intro n hn
      obtain ⟨hnm, hn⟩ := not_or.1 (mt List.mem_cons.2 hn)
      exact (hframe n hn).trans (member?_settled c m x hnm)
    · intro n k' u' v' y hmem hu' hv' hy
      rcases List.mem_cons.1 hmem with he | hmem
      · obtain ⟨rfl, rfl⟩ := Prod.mk.inj he
        obtain rfl := Option.some.inj (hu.symm.trans hu')
        obtain rfl := Member.plain.inj (Option.some.inj (hv.symm.trans hv'))
        obtain rfl := Except.ok.inj (hx.symm.trans hy)
        rw [hframe n hm]
        exact (member?_setMember c n y n).trans (if_pos rfl)
      · refine hset n k' u' v' y hmem hu' ?_ hy
        rw [member?_settled c m x (hne (List.mem_map_of_mem hmem))]
        exact hv'

end

/-! ## making the schema -/

/-- once the defaults are cast only the version can keep a schema from being made -/
theorem make_of_castDefaults {σ : Type} {d : Declaration} (around : Surroundings)
    (packages : Packages) {w w' : World σ} {c c' : Class}
    (hook : outcome (d.hooked : Run σ Class) w = (.ok c, w'))
    (h : castDefaults d.given d.kinds c = .ok c') :
    outcome (d.make around packages : Run σ Schema) w =
      ((programVersion around packages d.importer).map fun version =>
        ⟨c'.setMember versionName (.text version), d.kinds, d.lines⟩, w') := by
  unfold Declaration.make
  rw [outcome_bind_of_ok hook, h]
  show outcome (liftM (programVersion around packages d.importer) >>= _) w' = _
  rw [outcome_bind, outcome_liftM]
  cases programVersion around packages d.importer with
  | error e => rfl
  | ok version => rfl

/-- If what every field with a type is declared with and what the hook has left of it can both be
cast, then the casts finish, and the schema has under the name of each field that was not left without a
value one that equals what the hook has left, cast; if that does not even equal itself, the schema has
that very value.  Under a name without a type stands what the hook has left.  The version is not among
these names. -/
theorem make_casts_defaults {σ : Type} (d : Declaration) (around : Surroundings)
    (packages : Packages) (w w' : World σ) (c : Class)
    (hook : outcome (d.hooked : Run σ Class) w = (.ok c, w'))
    (fields : ∀ n k, d.kinds.lookup n = some k → ∃ u v a b,
      d.given.lookup n = some u ∧ (Value.class c).attribute n = .ok v ∧
      u.isLasting = true ∧ v.isLasting = true ∧ k.receive u = .ok a ∧ k.receive v = .ok b) :
    ∃ c', castDefaults d.given d.kinds c = .ok c' ∧
      outcome (d.make around packages : Run σ Schema) w =
        ((programVersion around packages d.importer).map fun version =>
          ⟨c'.setMember versionName (.text version), d.kinds, d.lines⟩, w') ∧
      ∀ version : String,
        (∀ n k v, d.kinds.lookup n = some k → n ≠ versionName → (Value.class c).attribute n = .ok v →
          v ≠ .null → ∃ x b,
            (Value.class (c'.setMember versionName (.text version))).attribute n = .ok x ∧
            k.receive v = .ok b ∧ (x.eqv b = true ∨ x = b ∧ b.eqv b = false)) ∧
        ∀ n, d.kinds.lookup n = none → n ≠ versionName →
          (c'.setMember versionName (.text version)).member? n = c.member? n := by
  -- what the hook has left of a field is a plain member of the class
  have hleft : ∀ n k v, d.kinds.lookup n = some k → (Value.class c).attribute n = .ok v →
      c.member? n = some (.plain v) := by
    intro n k v hk hv
    obtain ⟨u, -, -, -, hu, -⟩ := fields n k hk
    obtain ⟨v', hv'⟩ := hooked_member hu hook
    obtain rfl := Except.ok.inj ((attribute_of_member hv').symm.trans hv)
    exact hv'
  have hsettles : ∀ f ∈ d.kinds, c.Settles d.given f := by
    intro f hf
    have hk := lookup_of_mem (nodup_kinds d) hf
    obtain ⟨u, v, a, b, hu, hv, hlu, hlv, ha, hb⟩ := fields f.1 f.2 hk
    have hcu := (cast_wrapped_of_isLasting (k := f.2) hlu).1.trans ha
    have hcv := (cast_wrapped_of_isLasting (k := f.2) hlv).1.trans hb
    exact ⟨u, v, a, b, hu, hleft f.1 f.2 v hk hv, hcu, hcv⟩
  obtain ⟨c', hc', hframe, hset⟩ := castDefaults_settle (nodup_kinds d) hsettles
  have hversion : ∀ (version : String) {n : String}, n ≠ versionName →
      (c'.setMember versionName (.text version)).member? n = c'.member? n :=
    fun version n hn => (member?_setMember c' versionName _ n).trans (if_neg hn)
  refine ⟨c', hc', make_of_castDefaults around packages hook hc', fun version => ⟨?_, ?_⟩⟩
  · intro n k v hk hn hv hnull
    obtain ⟨u, v', a, b, hu, hv', hlu, hlv, ha, hb⟩ := fields n k hk
    obtain rfl := Except.ok.inj (hv'.symm.trans hv)
    have hset := hset n k u v' _ (mem_of_lookup hk) hu (hleft n k v' hk hv)
      (settle_of_receive hlu hlv ha hb hnull)
    refine ⟨if a.eqv b then a else b, b, attribute_of_member ((hversion version hn).trans hset), hb, ?_⟩
    cases heq : a.eqv b with
    | true => exact .inl heq
    | false =>
      cases hself : b.eqv b with
      | true => exact .inl hself
      | false => exact .inr ⟨rfl, rfl⟩
  · intro n hk hn
    refine (hversion version hn).trans (hframe n fun hmem => ?_)
    have hsome := (mem_names_iff_lookup d.kinds n).1 hmem
    rw [hk] at hsome
    cases hsome

/-- a schema whose hook puts other values in the place of its defaults, one of them without a type -/
def hookedDeclaration : Declaration :=
  { name := "Sample"
    home := "sample"
    fields :=
      [ ⟨"xs", some .list, some (.text "a")⟩
      , ⟨"n", some .int, some (.int 0)⟩
      , ⟨"note", none, some (.text "b")⟩ ]
    hook := some [.set "xs" (.text "cd"), .set "n" (.bool true), .set "note" .null]
    source := none
    importer := none }

def hookedClass : Class :=
  ((hookedDeclaration.form.setMember "xs" (.text "cd")).setMember "n" (.bool true)).setMember "note"
    .null

theorem make_casts_defaults_sample : ∃ c',
    castDefaults hookedDeclaration.given hookedDeclaration.kinds hookedClass = .ok c' ∧
    (∃ x, (Value.class (c'.setMember versionName (.text "1"))).attribute "xs" = .ok x ∧
      x.eqv (.list [.text "cd"]) = true) ∧
    (∃ x, (Value.class (c'.setMember versionName (.text "1"))).attribute "n" = .ok x ∧
      x.eqv (.int 1) = true) ∧
    (c'.setMember versionName (.text "1")).member? "note" = some (.plain .null) := by
  have hook : outcome (hookedDeclaration.hooked : Run Unit Class) { state := () } =
      (.ok hookedClass, { state := () }) := rfl
  have hkinds : hookedDeclaration.kinds = [("xs", .list), ("n", .int)] := rfl
  have hfields : ∀ n k, hookedDeclaration.kinds.lookup n = some k → ∃ u v a b,
      hookedDeclaration.given.lookup n = some u ∧ (Value.class hookedClass).attribute n = .ok v ∧
      u.isLasting = true ∧ v.isLasting = true ∧ k.receive u = .ok a ∧ k.receive v = .ok b := by
    intro n k hk
    have hmem := mem_of_lookup hk
    rw [hkinds] at hmem
    rcases List.mem_cons.1 hmem with h | h
    · obtain ⟨rfl, rfl⟩ := Prod.mk.inj h
      exact ⟨.text "a", .text "cd", .list [.text "a"], .list [.text "cd"], rfl, rfl, rfl, rfl, rfl, rfl⟩
    · obtain ⟨rfl, rfl⟩ := Prod.mk.inj (List.mem_singleton.1 h)
      exact ⟨.int 0, .bool true, .int 0, .int 1, rfl, rfl, rfl, rfl, rfl, rfl⟩
  obtain ⟨c', hc', -, hmade⟩ :=
    make_casts_defaults hookedDeclaration {} ⟨[], []⟩ _ _ hookedClass hook hfields
  obtain ⟨htyped, huntyped⟩ := hmade "1"
  have hxs := htyped "xs" .list (.text "cd") rfl (by decide) rfl (by simp)
  have hn := htyped "n" .int (.bool true) rfl (by decide) rfl (by simp)
  obtain ⟨x, b, hx, hb, hxb⟩ := hxs
  obtain ⟨y, b', hy, hb', hyb⟩ := hn
  obtain rfl := Except.ok.inj hb
  obtain rfl := Except.ok.inj hb'
  have hlist : ¬(Value.list [.text "cd"]).eqv (.list [.text "cd"]) = false := by simp [Value.eqv, Value.eqvAll]
  have hint : ¬(Value.int 1).eqv (.int 1) = false := by simp [Value.eqv, Value.asNumber, eqNumber]
  exact ⟨c', hc', ⟨x, hx, hxb.resolve_right fun h => hlist h.2⟩, ⟨y, hy, hyb.resolve_right fun h => hint h.2⟩,
    huntyped "note" rfl (by decide)⟩

/-- the number that equals none, not even itself -/
def notANumber : Value := .float (0.0 / 0.0)

def notANumberDeclaration : Declaration :=
  { hookedDeclaration with fields := [⟨"x", some .float, some notANumber⟩], hook := none }

/-- a default that does not equal itself is set, and then nothing equals what it is cast to -/
theorem not_make_equals_defaults :
    notANumberDeclaration.given.lookup "x" = some notANumber ∧ notANumber.isLasting = true ∧
    Kind.float.receive notANumber = .ok notANumber ∧
    outcome (notANumberDeclaration.hooked : Run Unit Class) { state := () } =
      (.ok notANumberDeclaration.form, { state := () }) ∧
    ∃ c', castDefaults notANumberDeclaration.given notANumberDeclaration.kinds notANumberDeclaration.form =
        .ok c' ∧
      (Value.class (c'.setMember versionName (.text "1"))).attribute "x" = .ok notANumber ∧
      notANumber.eqv notANumber = false := by
  have hself : notANumber.eqv notANumber = false := by
    rw [notANumber, Value.eqv]
    show ((0.0 / 0.0 : Float) == 0.0 / 0.0) = false
    decide +kernel
  have hmember : notANumberDeclaration.form.member? "x" = some (.plain notANumber) := rfl
  have hreceive : Kind.float.receive notANumber = .ok notANumber := rfl
  have hsettle : Kind.float.settle notANumber notANumber = .ok (some notANumber) := by
    rw [settle_of_receive rfl rfl hreceive hreceive (by rintro ⟨⟩), ite_self]
  have hcast : castDefaults notANumberDeclaration.given notANumberDeclaration.kinds
      notANumberDeclaration.form = .ok (notANumberDeclaration.form.setMember "x" notANumber) := by
    have hgiven : notANumberDeclaration.given.lookup "x" = some notANumber := rfl
    rw [show notANumberDeclaration.kinds = [("x", .float)] from rfl, castDefaults, hgiven,
      castDefault_of_member hmember, hsettle]
    rfl
  exact ⟨rfl, rfl, hreceive, rfl, _, hcast, rfl, hself⟩

end CommandLine
