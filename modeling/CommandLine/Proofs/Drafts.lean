import CommandLine.Config.Draft
import CommandLine.Proofs.Layers
import CommandLine.Proofs.Runs

/-!
# Drafts, step by step

A draft takes its values in one after the other: `castIn` casts the fields, `publish` hands the
names over.  Each step writes one name, and reading any other public name gives what it gave before
(`get_set_of_ne`), so both loops can be described name by name:

* `castIn_get`        after a round of casts a field holds the cast of what it held before;
* `castIn_of_casts`   a round of casts succeeds if every field has a value that can be cast;
* `publish_lookup`    what is published, and that nothing else changes;
* `publish_of_gets`   a draft is published if it has a value under each of the names.

The names of fields are public, and no field is declared twice.
-/

namespace CommandLine

/-! ## names that are set -/

theorem lookup_putName {α : Type} (k : String) (v : α) (es : List (String × α)) (n : String) :
    (putName k v es).lookup n = if n = k then some v else es.lookup n := by
  induction es with
  | nil => exact lookup_cons_name k v [] n
  | cons p es ih =>
    obtain ⟨l, u⟩ := p
    unfold putName
    by_cases hl : l = k
    · rw [if_pos hl, lookup_cons_name, lookup_cons_name, hl]
      split <;> rfl
    · rw [if_neg hl, lookup_cons_name, lookup_cons_name, ih]
      by_cases e : n = l
      · rw [if_pos e, if_pos e, if_neg (fun h => hl (e.symm.trans h))]
      · rw [if_neg e, if_neg e]

theorem ne_behindName_of_isPublic {n : String} (h : isPublic n = true) : n ≠ behindName := by
  rintro rfl
  exact absurd h (by decide)

namespace Configuration

theorem set_of_ne {n : String} (h : n ≠ behindName) (c : Configuration) (v : Value) :
    c.set n v = { c with values := putName n v c.values } := if_neg h

theorem get_of_lookup {c : Configuration} {n : String} {v : Value}
    (h : c.values.lookup n = some v) : c.get n = .ok v := by
  unfold get
  rw [h]

theorem get_of_lookup_none {c : Configuration} {n : String} (hp : isPublic n = true)
    (h : c.values.lookup n = none) : c.get n = c.answer n := by
  have ho : c.own? n = none := if_pos hp
  unfold get
  rw [h, ho]

theorem get_congr {c d : Configuration} {n : String} (hp : isPublic n = true)
    (hv : c.values.lookup n = d.values.lookup n) (hb : c.behind = d.behind) :
    c.get n = d.get n := by
  cases h : c.values.lookup n with
  | some v => rw [get_of_lookup h, get_of_lookup (hv ▸ h)]
  | none =>
    rw [get_of_lookup_none hp h, get_of_lookup_none hp (hv ▸ h)]
    unfold answer
    rw [hb]

theorem get_set_of_ne {m n : String} (hm : isPublic m = true) (hn : isPublic n = true)
    (h : m ≠ n) (c : Configuration) (v : Value) : (c.set n v).get m = c.get m := by
  rw [set_of_ne (ne_behindName_of_isPublic hn)]
  apply get_congr hm
  · show (putName n v c.values).lookup m = c.values.lookup m
    rw [lookup_putName, if_neg h]
  · rfl

/-- a dictionary behind the values answers with its entry, unless that is nothing -/
theorem answer_record {es vs : List (String × Value)} {n : String} {v : Value}
    (h : es.lookup n = some v) (hv : v ≠ .null) :
    (⟨vs, Value.record es⟩ : Configuration).answer n = .ok v := by
  have ha : (Value.record es).answer n = .ok v := by
    unfold Value.answer
    rw [record_entry, h]
  show ((Value.record es).answer n >>= _) = .ok v
  rw [ha]
  cases v <;> first | rfl | exact absurd rfl hv

theorem answer_record_null {es vs : List (String × Value)} {n : String}
    (h : es.lookup n = some .null) :
    (⟨vs, Value.record es⟩ : Configuration).answer n = .error (.requiredParameter n) := by
  have ha : (Value.record es).answer n = .ok .null := by
    unfold Value.answer
    rw [record_entry, h]
  show ((Value.record es).answer n >>= _) = .error (.requiredParameter n)
  rw [ha]
  rfl

end Configuration

/-! ## a round of casts -/

section
variable {s : Schema} {names : List String} {c d : Configuration}

theorem castIn_cons_eq_ok {n : String} :
    s.castIn (n :: names) c = .ok d ↔
      ∃ v x, c.get n = .ok v ∧ s.cast n v = .ok x ∧ s.castIn names (c.set n x) = .ok d := by
  show (c.get n >>= fun v => s.cast n v >>= fun x => s.castIn names (c.set n x)) = .ok d ↔ _
  rw [bind_eq_ok]
  constructor
  · rintro ⟨v, hv, h⟩
    obtain ⟨x, hx, h⟩ := bind_eq_ok.1 h
    exact ⟨v, x, hv, hx, h⟩
  · rintro ⟨v, x, hv, hx, h⟩
    exact ⟨v, hv, bind_eq_ok.2 ⟨x, hx, h⟩⟩

/-- after a round of casts every field holds the cast of the value it had before the round, and
nothing else has changed -/
theorem castIn_get (hp : ∀ n ∈ names, isPublic n = true) (hn : names.Nodup)
    (h : s.castIn names c = .ok d) :
    d.behind = c.behind ∧
    (∀ n ∈ names, ∃ v x, c.get n = .ok v ∧ s.cast n v = .ok x ∧ d.values.lookup n = some x) ∧
    (∀ n, n ∉ names → d.values.lookup n = c.values.lookup n) := by
  induction names generalizing c with
  | nil =>
    obtain rfl := Except.ok.inj h
    exact ⟨rfl, by simp, fun _ _ => rfl⟩
  | cons m names ih =>
    obtain ⟨v, x, hv, hx, h⟩ := castIn_cons_eq_ok.1 h
    obtain ⟨hm, hn⟩ := List.nodup_cons.1 hn
    have hpm : isPublic m = true := hp m (by simp)
    have hps : ∀ n ∈ names, isPublic n = true := fun n hn => hp n (by simp [hn])
    obtain ⟨hb, hc, ho⟩ := ih hps hn h
    have hset := Configuration.set_of_ne (ne_behindName_of_isPublic hpm) c x
    refine ⟨?_, ?_, ?_⟩
    · rw [hb, hset]
    · intro n hmem
      rcases List.mem_cons.1 hmem with rfl | hmem
      · refine ⟨v, x, hv, hx, ?_⟩
        rw [ho n hm, hset]
        show (putName n x c.values).lookup n = some x
        rw [lookup_putName, if_pos rfl]
      · have hne : n ≠ m := fun e => hm (e ▸ hmem)
        obtain ⟨u, y, hu, hy, hl⟩ := hc n hmem
        rw [Configuration.get_set_of_ne (hps n hmem) hpm hne] at hu
        exact ⟨u, y, hu, hy, hl⟩
    · intro n hmem
      obtain ⟨hne, hmem⟩ := not_or.1 (fun hor => hmem (List.mem_cons.2 hor))
      rw [ho n hmem, hset]
      show (putName m x c.values).lookup n = c.values.lookup n
      rw [lookup_putName, if_neg hne]

theorem castIn_of_casts (hp : ∀ n ∈ names, isPublic n = true) (hn : names.Nodup)
    (h : ∀ n ∈ names, ∃ v x, c.get n = .ok v ∧ s.cast n v = .ok x) :
    ∃ d, s.castIn names c = .ok d := by
  induction names generalizing c with
  | nil => exact ⟨c, rfl⟩
  | cons m names ih =>
    obtain ⟨hm, hn⟩ := List.nodup_cons.1 hn
    have hpm : isPublic m = true := hp m (by simp)
    have hps : ∀ n ∈ names, isPublic n = true := fun n hn => hp n (by simp [hn])
    obtain ⟨v, x, hv, hx⟩ := h m (by simp)
    have hrest : ∀ n ∈ names, ∃ u y, (c.set m x).get n = .ok u ∧ s.cast n u = .ok y := by
      intro n hmem
      have hne : n ≠ m := fun e => hm (e ▸ hmem)
      rw [Configuration.get_set_of_ne (hps n hmem) hpm hne]
      exact h n (by simp [hmem])
    obtain ⟨d, hd⟩ := ih hps hn hrest
    exact ⟨d, castIn_cons_eq_ok.2 ⟨v, x, hv, hx, hd⟩⟩

end

/-! ## publishing -/

section
variable {draft : Configuration} {names : List String} {w w' : World Configuration}

theorem publish_cons_eq_ok {n : String} :
    outcome (publish draft ((n :: names).map .text)) w = (.ok (), w') ↔
      ∃ v, draft.get n = .ok v ∧
        outcome (publish draft (names.map .text)) { w with state := w.state.set n v }
          = (.ok (), w') := by
  show outcome (liftM (draft.get n) >>= fun v => modifyState (fun c => c.set n v) >>=
    fun _ => publish draft (names.map .text)) w = _ ↔ _
  rw [outcome_liftM_bind_eq_ok]
  rfl

/-- a draft that is published has handed over the value under each of the names, and no other value
has changed -/
theorem publish_lookup (h : outcome (publish draft (names.map .text)) w = (.ok (), w')) :
    (∀ n ∈ names, n ≠ behindName →
      ∃ v, draft.get n = .ok v ∧ w'.state.values.lookup n = some v) ∧
    (∀ n, n ∉ names → w'.state.values.lookup n = w.state.values.lookup n) := by
  induction names generalizing w with
  | nil =>
    obtain ⟨-, rfl⟩ := Prod.mk.inj h
    exact ⟨by simp, fun _ _ => rfl⟩
  | cons m names ih =>
    obtain ⟨v, hv, h⟩ := publish_cons_eq_ok.1 h
    obtain ⟨hin, hout⟩ := ih h
    refine ⟨?_, ?_⟩
    · intro n hmem hne
      by_cases hr : n ∈ names
      · exact hin n hr hne
      · obtain rfl : n = m := (List.mem_cons.1 hmem).resolve_right hr
        refine ⟨v, hv, ?_⟩
        rw [hout n hr, Configuration.set_of_ne hne]
        show (putName n v w.state.values).lookup n = some v
        rw [lookup_putName, if_pos rfl]
    · intro n hmem
      obtain ⟨hne, hr⟩ := not_or.1 (fun hor => hmem (List.mem_cons.2 hor))
      rw [hout n hr]
      show (w.state.set m v).values.lookup n = w.state.values.lookup n
      unfold Configuration.set
      split
      · rfl
      · show (putName m v w.state.values).lookup n = _
        rw [lookup_putName, if_neg hne]

theorem publish_of_gets (h : ∀ n ∈ names, ∃ v, draft.get n = .ok v) (w : World Configuration) :
    ∃ w', outcome (publish draft (names.map .text)) w = (.ok (), w') := by
  induction names generalizing w with
  | nil => exact ⟨w, rfl⟩
  | cons m names ih =>
    obtain ⟨v, hv⟩ := h m (by simp)
    obtain ⟨w', hw⟩ := ih (fun n hn => h n (by simp [hn])) { w with state := w.state.set m v }
    exact ⟨w', publish_cons_eq_ok.2 ⟨v, hv, hw⟩⟩

end

end CommandLine
