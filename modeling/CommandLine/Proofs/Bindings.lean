import CommandLine.Binding.Bind
import CommandLine.Binding.Keywords
import CommandLine.Proofs.Grouping
import CommandLine.Proofs.Runs

/-!
# What a call takes of its arguments

Three things are known of what `bind` hands back:

* `mem_of_mem_remaining`, `length_remaining_le`   it is part of what was given;
* `Unused`        if it is as much as was given, the parameters have no values but their defaults,
                  and handing it in again changes nothing;
* `hasRoom`       without flags a call takes arguments from the front, and how many depends on its
                  parameters alone: behind what it has taken anything may stand
                  (`bind_of_not_hasRoom`), and while there is room it leaves nothing
                  (`remaining_of_hasRoom`).
-/

namespace CommandLine

/-! ## the texts of arguments -/

theorem flagTexts_texts (words : List String) : flagTexts (words.map .text) = .ok words := by
  induction words with
  | nil => rfl
  | cons x words ih =>
    show (flagTexts (words.map .text) >>= fun ss => .ok (x :: ss)) = _
    rw [ih]
    rfl

theorem eq_map_of_flagTexts {vs : List Value} {words : List String}
    (h : flagTexts vs = .ok words) : vs = words.map .text := by
  induction vs generalizing words with
  | nil =>
    obtain rfl := Except.ok.inj h
    rfl
  | cons v vs ih =>
    obtain ⟨s, hs, h⟩ := bind_eq_ok.1 h
    obtain ⟨ss, hss, h⟩ := bind_eq_ok.1 h
    obtain rfl := Except.ok.inj h
    have hv : v = .text s := by
      cases v with
      | text s' => exact congrArg _ (Except.ok.inj hs)
      | _ => cases hs
    rw [hv, ih hss]
    rfl

theorem length_flagTexts {vs : List Value} {words : List String}
    (h : flagTexts vs = .ok words) : words.length = vs.length := by
  rw [eq_map_of_flagTexts h, List.length_map]

namespace Binding

/-! ## parameters and single arguments -/

section
variable {m : Metadata} {defaults : List Value} {required : Nat} {named : List (String × String)}
  {index : Nat} {p : String} {ps single : List String} {f : Filled}

/-- the parameter's value is put in front of those of the parameters behind it -/
def Filled.put (v : Value) (f : Filled) : Filled := { f with values := v :: f.values }

theorem fill_of_lookup {s : String} (h : named.lookup p = some s) :
    fill m defaults required named index (p :: ps) single =
      readFor m (some index) (some p) s >>= fun v =>
        (fill m defaults required named (index + 1) ps single).map (Filled.put v) := by
  rw [fill.eq_def]
  simp only [h]
  rfl

theorem fill_of_positional {s : String} (h : named.lookup p = none) (hm : m.positional = true) :
    fill m defaults required named index (p :: ps) (s :: single) =
      readFor m (some index) (some p) s >>= fun v =>
        (fill m defaults required named (index + 1) ps single).map (Filled.put v) := by
  rw [fill.eq_def]
  simp only [h, hm]
  rfl

theorem fill_of_default (h : named.lookup p = none) (hm : m.positional = true → single = []) :
    fill m defaults required named index (p :: ps) single =
      if index < required then .error (.command (.noValue p))
      else (fill m defaults required named (index + 1) ps single).map fun f =>
        { f.put (defaults.getD (index - required) .null) with capacity := true } := by
  rw [fill.eq_def]
  simp only [h]
  cases hpositional : m.positional with
  | false => rfl
  | true =>
    rw [hm hpositional]
    rfl

/-- a parameter is given by name, takes the next single argument, or has its default -/
theorem fill_cons_eq_ok (h : fill m defaults required named index (p :: ps) single = .ok f) :
    ∃ v rest g, fill m defaults required named (index + 1) ps rest = .ok g ∧
      f.values = v :: g.values ∧ f.single = g.single ∧
      ((∃ s, named.lookup p = some s ∧ rest = single) ∨
        (∃ s, single = s :: rest) ∨
        (rest = single ∧ v = defaults.getD (index - required) .null)) := by
  cases hp : named.lookup p with
  | some s =>
    rw [fill_of_lookup hp] at h
    obtain ⟨v, -, h⟩ := bind_eq_ok.1 h
    obtain ⟨g, hg, rfl⟩ := map_eq_ok.1 h
    exact ⟨v, single, g, hg, rfl, rfl, .inl ⟨s, rfl, rfl⟩⟩
  | none =>
    by_cases hm : m.positional = true → single = []
    · rw [fill_of_default hp hm] at h
      split at h
      · cases h
      · obtain ⟨g, hg, rfl⟩ := map_eq_ok.1 h
        exact ⟨_, single, g, hg, rfl, rfl, .inr (.inr ⟨rfl, rfl⟩)⟩
    · obtain ⟨hpositional, hsingle⟩ := Classical.not_imp.1 hm
      cases single with
      | nil => exact absurd rfl hsingle
      | cons s rest =>
        rw [fill_of_positional hp hpositional] at h
        obtain ⟨v, -, h⟩ := bind_eq_ok.1 h
        obtain ⟨g, hg, rfl⟩ := map_eq_ok.1 h
        exact ⟨v, rest, g, hg, rfl, rfl, .inr (.inl ⟨s, rfl⟩)⟩

theorem fill_suffix (h : fill m defaults required named index ps single = .ok f) :
    f.single <:+ single := by
  induction ps generalizing index single f with
  | nil =>
    obtain rfl := Except.ok.inj h
    exact List.suffix_refl _
  | cons p ps ih =>
    obtain ⟨v, rest, g, hg, -, hsingle, hcase⟩ := fill_cons_eq_ok h
    have hrest := ih hg
    rw [hsingle]
    obtain ⟨s, -, rfl⟩ | ⟨s, rfl⟩ | ⟨rfl, -⟩ := hcase
    · exact hrest
    · exact hrest.trans (List.suffix_cons s rest)
    · exact hrest

theorem length_values (h : fill m defaults required named index ps single = .ok f) :
    f.values.length = ps.length := by
  induction ps generalizing index single f with
  | nil =>
    obtain rfl := Except.ok.inj h
    rfl
  | cons p ps ih =>
    obtain ⟨v, rest, g, hg, hvalues, -, -⟩ := fill_cons_eq_ok h
    rw [hvalues, List.length_cons, List.length_cons, ih hg]

theorem fill_unused (h : fill m defaults required [] index ps single = .ok f)
    (hsingle : f.single.length = single.length) :
    ∀ v ∈ f.values, v ∈ defaults ∨ v = .null := by
  induction ps generalizing index single f with
  | nil =>
    obtain rfl := Except.ok.inj h
    exact fun v hv => absurd hv List.not_mem_nil
  | cons p ps ih =>
    obtain ⟨v, rest, g, hg, hvalues, hg', hcase⟩ := fill_cons_eq_ok h
    rw [hg'] at hsingle
    obtain ⟨s, hs, -⟩ | ⟨s, rfl⟩ | ⟨rfl, rfl⟩ := hcase
    · cases hs
    · have hle := (fill_suffix hg).length_le
      rw [List.length_cons] at hsingle
      omega
    · rw [hvalues]
      refine List.forall_mem_cons.2 ⟨?_, ih hg hsingle⟩
      rw [List.getD_eq_getElem?_getD]
      cases hd : defaults[index - required]? with
      | none => exact .inr rfl
      | some d => exact .inl (List.mem_of_getElem? hd)

/-- a parameter that is left for its default could have been given something -/
theorem fill_capacity (h : fill m defaults required [] index ps single = .ok f)
    (hm : m.positional = true) (hlength : single.length < ps.length) : f.capacity = true := by
  have hlookup : ∀ p, ([] : List (String × String)).lookup p = none := fun _ => rfl
  induction ps generalizing index single f with
  | nil => exact absurd hlength (Nat.not_lt_zero _)
  | cons p ps ih =>
    cases single with
    | nil =>
      rw [fill_of_default (hlookup p) fun _ => rfl] at h
      split at h
      · cases h
      · obtain ⟨g, -, rfl⟩ := map_eq_ok.1 h
        rfl
    | cons s single =>
      rw [fill_of_positional (hlookup p) hm] at h
      obtain ⟨v, -, h⟩ := bind_eq_ok.1 h
      obtain ⟨g, hg, rfl⟩ := map_eq_ok.1 h
      show g.capacity = true
      exact ih hg (Nat.lt_of_succ_lt_succ hlength)

theorem fill_take (index : Nat) (ps single : List String) :
    fill m defaults required [] index ps single =
      (fill m defaults required [] index ps
        (single.take (if m.positional then ps.length else 0))).map fun f =>
          { f with single := single.drop (if m.positional then ps.length else 0) } := by
  induction ps generalizing index single with
  | nil =>
    rw [fill, fill]
    cases m.positional <;> rfl
  | cons p ps ih =>
    have hlookup : ([] : List (String × String)).lookup p = none := rfl
    cases hpositional : m.positional with
    | false =>
      have hno : ∀ single : List String, m.positional = true → single = [] := by
        intro single h
        rw [hpositional] at h
        cases h
      have hih := ih (index + 1) single
      simp only [hpositional, Bool.false_eq_true, if_false, List.take_zero, List.drop_zero] at hih ⊢
      rw [fill_of_default hlookup (hno single), fill_of_default hlookup (hno []), hih]
      split
      · rfl
      · cases fill m defaults required [] (index + 1) ps [] <;> rfl
    | true =>
      cases single with
      | nil =>
        rw [List.take_nil, List.drop_nil]
        cases hf : fill m defaults required [] index (p :: ps) [] with
        | error e => rfl
        | ok f =>
          have hnil : f.single = [] := List.suffix_nil.1 (fill_suffix hf)
          show Except.ok f = .ok { f with single := [] }
          rw [← hnil]
      | cons s single =>
        have hih := ih (index + 1) single
        simp only [hpositional, if_true, List.length_cons, List.take_succ_cons,
          List.drop_succ_cons] at hih ⊢
        rw [fill_of_positional hlookup hpositional, fill_of_positional hlookup hpositional, hih]
        cases readFor m (some index) (some p) s with
        | error e => rfl
        | ok v => cases fill m defaults required [] (index + 1) ps (single.take ps.length) <;> rfl

end

/-! ## all arguments -/

def sortedFor (spec : Signature Value) (args : List String) : Keywords :=
  Keywords.of (spec.args ++ spec.flagParams) (spec.moreNamed.any (· ≠ "")) args

section
variable {spec : Signature Value} {m : Metadata} {args : List String} {b : Bound}

theorem bindWith_eq_ok (h : bindWith spec m args = .ok b) :
    ∃ f extra,
      fill m spec.defaults (spec.args.length - spec.defaults.length) (sortedFor spec args).named 0
        spec.args (sortedFor spec args).rest = .ok f ∧
      readNamed m ((sortedFor spec args).named.filter fun p => !spec.args.contains p.1) =
        .ok b.named ∧
      readExtra m (if spec.more.isSome then f.single else []) = .ok extra ∧
      b.positional = f.values ++ extra ∧
      b.remaining = (if spec.more.isSome then [] else f.single) ++ (sortedFor spec args).unknown ∧
      b.consumed = args.take (args.length - b.remaining.length) ∧
      b.capacity = (f.capacity || spec.more.any (· ≠ "") || spec.moreNamed.any (· ≠ "")) := by
  unfold bindWith at h
  simp only at h
  obtain ⟨f, hf, h⟩ := bind_eq_ok.1 h
  obtain ⟨named, hnamed, h⟩ := bind_eq_ok.1 h
  split at h
  · cases h
  · cases hmore : spec.more with
    | none =>
      simp only [hmore] at h
      obtain ⟨extra, hextra, h⟩ := bind_eq_ok.1 h
      obtain rfl := Except.ok.inj h
      exact ⟨f, extra, hf, hnamed, hextra, rfl, rfl, rfl, rfl⟩
    | some name =>
      simp only [hmore] at h
      obtain ⟨extra, hextra, h⟩ := bind_eq_ok.1 h
      obtain rfl := Except.ok.inj h
      exact ⟨f, extra, hf, hnamed, hextra, rfl, rfl, rfl, rfl⟩

/-- what is handed back is left by the sorting, without single arguments from the front -/
theorem remaining_suffix (h : bindWith spec m args = .ok b) :
    ∃ rest, rest <:+ (sortedFor spec args).rest ∧
      b.remaining = rest ++ (sortedFor spec args).unknown := by
  obtain ⟨f, extra, hf, -, -, -, hremaining, -⟩ := bindWith_eq_ok h
  refine ⟨_, ?_, hremaining⟩
  split
  · exact List.nil_suffix
  · exact fill_suffix hf

theorem mem_of_mem_remaining (h : bindWith spec m args = .ok b) {a : String}
    (ha : a ∈ b.remaining) : a ∈ args := by
  obtain ⟨rest, hrest, hremaining⟩ := remaining_suffix h
  rw [hremaining] at ha
  have hleft : a ∈ (sortedFor spec args).left :=
    List.mem_append.2 ((List.mem_append.1 ha).imp_left fun ha => hrest.subset ha)
  exact mem_of_mem_left hleft

theorem length_remaining_le (h : bindWith spec m args = .ok b) :
    b.remaining.length ≤ args.length := by
  obtain ⟨rest, hrest, hremaining⟩ := remaining_suffix h
  have hleft : (sortedFor spec args).left.length ≤ args.length := length_left_le args
  have hle := hrest.length_le
  rw [Keywords.left, List.length_append] at hleft
  rw [hremaining, List.length_append]
  omega

/-- a call that uses none of the arguments: they are only sorted, and no parameter has a value but
its default -/
structure Unused (spec : Signature Value) (args : List String) (b : Bound) : Prop where
  remaining : b.remaining = (sortedFor spec args).left
  length : (sortedFor spec args).left.length = args.length
  named : b.named = []
  count : b.positional.length = spec.args.length
  positional : ∀ v ∈ b.positional, v ∈ spec.defaults ∨ v = .null

theorem unused_of_length (h : bindWith spec m args = .ok b)
    (hlength : b.remaining.length = args.length) : Unused spec args b := by
  obtain ⟨f, extra, hf, hnamed, hextra, hpositional, hremaining, -⟩ := bindWith_eq_ok h
  have hleft : (sortedFor spec args).left.length ≤ args.length := length_left_le args
  have hsuffix := fill_suffix hf
  rw [hremaining, List.length_append] at hlength
  rw [Keywords.left, List.length_append] at hleft
  -- the single arguments that are handed back are all there are
  have hsingle : (if spec.more.isSome then [] else f.single) = (sortedFor spec args).rest ∧
      f.single = (sortedFor spec args).rest ∧ extra = [] := by
    cases hmore : spec.more.isSome with
    | true =>
      simp only [hmore, if_true, List.length_nil] at hlength hextra ⊢
      have hrest : (sortedFor spec args).rest = [] :=
        List.eq_nil_of_length_eq_zero (by omega)
      have hf : f.single = [] := List.suffix_nil.1 (hrest ▸ hsuffix)
      rw [hf] at hextra
      exact ⟨hrest.symm, hf.trans hrest.symm, (Except.ok.inj hextra).symm⟩
    | false =>
      simp only [hmore, Bool.false_eq_true, if_false] at hlength hextra ⊢
      have hf : f.single = (sortedFor spec args).rest :=
        hsuffix.eq_of_length_le (by omega)
      exact ⟨hf, hf, (Except.ok.inj hextra).symm⟩
  obtain ⟨hrest, hf', rfl⟩ := hsingle
  rw [hrest] at hlength hremaining
  have hall : (sortedFor spec args).left.length = args.length := by
    rw [Keywords.left, List.length_append]
    exact hlength
  have hnone : (sortedFor spec args).named = [] :=
    named_eq_of_not_known (not_known_of_length hall)
  rw [hnone] at hf hnamed
  rw [List.append_nil] at hpositional
  refine ⟨hremaining, hall, (Except.ok.inj hnamed).symm, ?_, ?_⟩
  · rw [hpositional, length_values hf]
  · rw [hpositional]
    exact fill_unused hf (congrArg List.length hf')

theorem Unused.settled (h : Unused spec args b) : Settled b.remaining :=
  h.remaining ▸ settled_left h.length

theorem Unused.remaining_of_settled (h : Unused spec args b) (hargs : Settled args) :
    b.remaining = args :=
  h.remaining.trans (left_of_settled hargs h.length)

/-! ## arguments without flags -/

theorem bindWith_singles (hmore : spec.more = none) (hargs : ∀ a ∈ args, isFlag a = false) :
    bindWith spec m args =
      fill m spec.defaults (spec.args.length - spec.defaults.length) [] 0 spec.args args >>= fun f =>
        if (requiredFlags spec).isEmpty then
          .ok {
            positional := f.values
            named := []
            consumed := args.take (args.length - f.single.length)
            remaining := f.single
            capacity := f.capacity || spec.moreNamed.any (· ≠ "") }
        else .error (.command (.missingFlags (requiredFlags spec))) := by
  have hmissing : (requiredFlags spec).filter (fun p =>
      (([] : List (String × String)).lookup p).isNone) = requiredFlags spec :=
    List.filter_eq_self.2 fun _ _ => rfl
  unfold bindWith
  simp only [keywords_of_singles hargs, hmore, List.filter_nil, hmissing]
  cases fill m spec.defaults (spec.args.length - spec.defaults.length) [] 0 spec.args args with
  | error e => rfl
  | ok f =>
    cases hempty : (requiredFlags spec).isEmpty with
    | false => simp only [readNamed]; rfl
    | true =>
      show Except.ok _ = Except.ok _
      simp only [List.append_nil, Option.any_none, Bool.or_false]
      rfl

theorem bindWith_take (hmore : spec.more = none) (hargs : ∀ a ∈ args, isFlag a = false) {n : Nat}
    (hn : n = if m.positional then spec.args.length else 0) :
    bindWith spec m args = (bindWith spec m (args.take n)).map fun b =>
      { b with remaining := args.drop n } := by
  have htake : ∀ a ∈ args.take n, isFlag a = false :=
    fun a ha => hargs a (List.mem_of_mem_take ha)
  rw [bindWith_singles hmore hargs, bindWith_singles hmore htake, fill_take, ← hn]
  cases hf : fill m spec.defaults (spec.args.length - spec.defaults.length) [] 0 spec.args
    (args.take n) with
  | error e => rfl
  | ok f =>
    have hnil : f.single = [] := by
      rw [fill_take, ← hn] at hf
      obtain ⟨g, -, rfl⟩ := map_eq_ok.1 hf
      exact List.drop_eq_nil_of_le (List.length_take_le n args)
    have hconsumed : args.take (args.length - (args.drop n).length) =
        (args.take n).take ((args.take n).length - f.single.length) := by
      rw [hnil, List.length_nil, Nat.sub_zero, List.take_length, List.length_drop]
      by_cases hle : n ≤ args.length
      · rw [Nat.sub_sub_self hle]
      · rw [List.take_of_length_le (by omega), List.take_of_length_le (by omega)]
    cases (requiredFlags spec).isEmpty with
    | false => rfl
    | true =>
      show Except.ok _ = Except.ok _
      simp only [hconsumed]

end

end Binding

open Binding

/-! ## what a call takes -/

/-- is there a place for one more argument behind `n` that are not flags? -/
def Value.hasRoom (v : Value) (n : Nat) : Bool :=
  v.spec.more.isSome || (v.metadata.positional && n < v.spec.args.length)

section
variable {v : Value} {ws : List String} {b : Bound}

theorem consumed_eq_take (h : v.bind ws = .ok b) :
    b.consumed = ws.take (ws.length - b.remaining.length) := by
  obtain ⟨-, -, -, -, -, -, -, hconsumed, -⟩ := bindWith_eq_ok h
  exact hconsumed

/-- a call takes arguments from the front and leaves the others -/
theorem consumed_append_remaining (hws : ∀ a ∈ ws, isFlag a = false) (h : v.bind ws = .ok b) :
    b.consumed ++ b.remaining = ws := by
  obtain ⟨rest, hrest, hremaining⟩ := remaining_suffix h
  have hsorted : sortedFor v.spec ws = { rest := ws } := keywords_of_singles hws
  rw [hsorted] at hrest hremaining
  rw [List.append_nil] at hremaining
  obtain ⟨front, hfront⟩ : rest <:+ ws := hrest
  have hlength : ws.length - rest.length = front.length := by
    rw [← hfront, List.length_append]
    omega
  rw [consumed_eq_take h, hremaining, hlength, ← hfront, List.take_left]

theorem remaining_of_more (hmore : v.spec.more.isSome = true) (hws : ∀ a ∈ ws, isFlag a = false)
    (h : v.bind ws = .ok b) : b.remaining = [] := by
  obtain ⟨f, extra, -, -, -, -, hremaining, -⟩ := bindWith_eq_ok h
  have hsorted : sortedFor v.spec ws = { rest := ws } := keywords_of_singles hws
  rw [hremaining, if_pos hmore, hsorted]
  rfl

/-- how many arguments a call takes that takes not any number of them -/
def Value.places (v : Value) : Nat := if v.metadata.positional then v.spec.args.length else 0

theorem bind_take (hmore : v.spec.more = none) (hws : ∀ a ∈ ws, isFlag a = false) :
    v.bind ws = (v.bind (ws.take v.places)).map fun b => { b with remaining := ws.drop v.places } :=
  bindWith_take hmore hws rfl

theorem remaining_eq_drop (hmore : v.spec.more = none) (hws : ∀ a ∈ ws, isFlag a = false)
    (h : v.bind ws = .ok b) : b.remaining = ws.drop v.places := by
  rw [bind_take hmore hws] at h
  obtain ⟨b₀, -, rfl⟩ := map_eq_ok.1 h
  rfl

theorem hasRoom_eq_false {n : Nat} :
    v.hasRoom n = false ↔ v.spec.more = none ∧ v.places ≤ n := by
  unfold Value.hasRoom Value.places
  rw [Bool.or_eq_false_iff]
  cases v.metadata.positional <;> simp

theorem not_hasRoom_of_remaining (hws : ∀ a ∈ ws, isFlag a = false) (h : v.bind ws = .ok b)
    (hremaining : b.remaining ≠ []) : v.hasRoom b.consumed.length = false := by
  have hmore : v.spec.more = none := by
    cases hmore : v.spec.more with
    | none => rfl
    | some name => exact absurd (remaining_of_more (by rw [hmore]; rfl) hws h) hremaining
  have hdrop := remaining_eq_drop hmore hws h
  have hlength : v.places < ws.length := by
    rw [hdrop] at hremaining
    exact Nat.lt_of_not_le fun hle => hremaining (List.drop_eq_nil_of_le hle)
  refine hasRoom_eq_false.2 ⟨hmore, ?_⟩
  rw [consumed_eq_take h, hdrop, List.length_take, List.length_drop]
  omega

theorem bind_of_not_hasRoom (hws : ∀ a ∈ ws, isFlag a = false) (h : v.bind ws = .ok b)
    (hroom : v.hasRoom b.consumed.length = false) {ys : List String}
    (hys : ∀ a ∈ ys, isFlag a = false) :
    v.bind (b.consumed ++ ys) = .ok { b with remaining := ys } := by
  obtain ⟨hmore, hplaces⟩ := hasRoom_eq_false.1 hroom
  have happend := consumed_append_remaining hws h
  have hdrop := remaining_eq_drop hmore hws h
  have hconsumed : b.consumed = ws.take v.places := by
    have hsplit := (List.take_append_drop v.places ws).trans happend.symm
    rw [hdrop] at hsplit
    exact (List.append_cancel_right hsplit).symm
  have hlength : b.consumed.length = v.places := by
    have hle := List.length_take_le v.places ws
    rw [← hconsumed] at hle
    omega
  have hall : ∀ a ∈ b.consumed ++ ys, isFlag a = false := by
    refine List.forall_mem_append.2 ⟨fun a ha => hws a ?_, hys⟩
    exact happend ▸ List.mem_append_left _ ha
  rw [bind_take hmore hws, ← hconsumed] at h
  obtain ⟨b₀, hb₀, hb⟩ := map_eq_ok.1 h
  rw [bind_take hmore hall, ← hlength, List.take_left, List.drop_left, hb₀, ← hb]
  rfl

theorem remaining_of_hasRoom {n : Nat} (hroom : v.hasRoom n = true)
    (hws : ∀ a ∈ ws, isFlag a = false) (hlength : ws.length ≤ n + 1) (h : v.bind ws = .ok b) :
    b.remaining = [] := by
  cases hmore : v.spec.more with
  | some name => exact remaining_of_more (by rw [hmore]; rfl) hws h
  | none =>
    have hplaces : n < v.places := by
      refine Nat.lt_of_not_le fun hle => ?_
      rw [hasRoom_eq_false.2 ⟨hmore, hle⟩] at hroom
      cases hroom
    rw [remaining_eq_drop hmore hws h]
    exact List.drop_eq_nil_of_le (by omega)

theorem capacity_of_hasRoom (hws : ∀ a ∈ ws, isFlag a = false) (h : v.bind ws = .ok b)
    (hroom : v.hasRoom ws.length = true) (hname : v.spec.more ≠ some "") : b.capacity = true := by
  obtain ⟨f, -, hf, -, -, -, -, -, hcapacity⟩ := bindWith_eq_ok h
  have hsorted : sortedFor v.spec ws = { rest := ws } := keywords_of_singles hws
  rw [hsorted] at hf
  cases hmore : v.spec.more with
  | some name =>
    rw [hmore] at hname hcapacity
    have hany : (some name).any (· ≠ "") = true := decide_eq_true fun heq => hname (congrArg _ heq)
    rw [hcapacity, hany, Bool.or_true, Bool.true_or]
  | none =>
    unfold Value.hasRoom at hroom
    rw [hmore, Option.isSome_none, Bool.false_or, Bool.and_eq_true, decide_eq_true_eq] at hroom
    rw [hcapacity, fill_capacity hf hroom.1 hroom.2, Bool.true_or, Bool.true_or]

end

end CommandLine
