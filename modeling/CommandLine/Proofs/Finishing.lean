import CommandLine.Proofs.Filling

/-!
# When a filling finishes

A filling fails if some field is still to be given, or if its value cannot be cast.
`Settings.InOrder` says of layers that nothing of this happens; the filling then finishes
(`fillFrom_of_inOrder`), and `lookup_of_fillFrom` says what the configuration holds under each name.

`InOrderBut` says it of all but one field; the filling then finishes as soon as that field has a value
that can be cast, and the field ends with the cast of it (`fillFrom_of_inOrderBut`); it ends with
nothing else (`fillFrom_get_iff`).
-/

namespace CommandLine

/-- apart from the field `f` the layers can be published: every other field has a value that can be
cast, and every name that is no field is public and has some value -/
structure InOrderBut (s : Settings) (layers : List Layer) (f : String) : Prop where
  field : ∀ n ∈ s.names, n ≠ f →
    ∃ v x, firstIn layers n = some v ∧ v ≠ .null ∧ s.schema.cast n v = .ok x
  other : ∀ n ∈ namesIn layers, n ∉ s.names → isPublic n = true ∧ firstIn layers n ≠ some .null

/-- what is published for a value under a name: for a field its cast, else the value itself -/
def Settings.Publishes (s : Settings) (n : String) (v x : Value) : Prop :=
  (n ∈ s.names ∧ s.schema.cast n v = .ok x) ∨ (n ∉ s.names ∧ v = x)

/-- can all that stands in the layers be published? -/
def Settings.InOrder (s : Settings) (layers : List Layer) : Prop :=
  ∀ n v, firstIn layers n = some v → isPublic n = true ∧ v ≠ .null ∧ ∃ x, s.Publishes n v x

namespace Settings.Publishes

variable {s t : Settings} {n : String} {v x y : Value}

theorem cast (h : s.Publishes n v x) (hn : n ∈ s.names) : s.schema.cast n v = .ok x :=
  h.elim (·.2) fun h => absurd hn h.1

theorem unique (h : s.Publishes n v x) (h' : s.Publishes n v y) : x = y := by
  rcases h with ⟨hn, hx⟩ | ⟨hn, rfl⟩
  · rw [h'.cast hn] at hx
    exact (Except.ok.inj hx).symm
  · exact h'.elim (fun h => absurd h.1 hn) (·.2)

theorem congr (h : s.Publishes n v x) (hschema : t.schema = s.schema) : t.Publishes n v x := by
  unfold Settings.Publishes at h ⊢
  rw [hschema, Settings.names_congr hschema]
  exact h

end Settings.Publishes

section
variable {s : Settings} {layers layers' : List Layer} {f : String}

theorem InOrderBut.congr (h : InOrderBut s layers f) (hf : f ∈ s.names)
    (heq : ∀ n, n ≠ f → firstIn layers' n = firstIn layers n) : InOrderBut s layers' f := by
  refine ⟨?_, ?_⟩
  · intro n hn hne
    rw [heq n hne]
    exact h.field n hn hne
  · intro n hn hno
    have hne : n ≠ f := fun e => hno (e ▸ hf)
    rw [mem_namesIn, heq n hne, ← mem_namesIn] at hn
    rw [heq n hne]
    exact h.other n hn hno

/-- a filling that finishes leaves every public name of the layers with what is published for the first
value for it, which is something; names that no layer knows are left as they are -/
theorem lookup_of_fillFrom (hd : s.schema.form.DeclaresOnce) (hl : s.entries ∈ layers)
    {w w' : World Session} (h : outcome (s.fillFrom none layers) w = (.ok (), w')) :
    (∀ n v, isPublic n = true → firstIn layers n = some v → v ≠ .null ∧
      ∃ x, s.Publishes n v x ∧ w'.state.config.values.lookup n = some x) ∧
    (∀ n, firstIn layers n = none →
      w'.state.config.values.lookup n = w.state.config.values.lookup n) := by
  have hknown : ∀ n ∈ s.names, (firstIn layers n).isSome = true :=
    fun n hn => firstIn_isSome_of_mem_names hl hn
  obtain ⟨draft, u, names, c, hdraft, hnames, hpublish, rfl⟩ := fillFrom_eq_ok.1 h
  obtain ⟨hheld, rfl⟩ := draft_none_eq_ok.1 hdraft
  obtain ⟨hb, hfirst, hnot⟩ := held_get hd hknown hheld
  obtain ⟨hin, hout⟩ := published_lookup hb hnames hpublish
  refine ⟨fun n v hp hv => ?_, fun n hn => ?_⟩
  · obtain ⟨y, hy, hlookup⟩ := hin n ((mem_namesIn layers n).2 (hv ▸ rfl)) hp
    by_cases hn : n ∈ s.names
    · obtain ⟨v', x, hv', hne, hx, hlook⟩ := hfirst n hn
      rw [hv] at hv'
      obtain rfl := Option.some.inj hv'
      rw [Configuration.get_of_lookup hlook] at hy
      obtain rfl := Except.ok.inj hy
      exact ⟨hne, x, .inl ⟨hn, hx⟩, hlookup⟩
    · have hne : v ≠ .null := by
        rintro rfl
        rw [get_of_first_null hb hp (hnot n hn) hv] at hy
        cases hy
      rw [get_of_first hb hp (hnot n hn) hv hne] at hy
      obtain rfl := Except.ok.inj hy
      exact ⟨hne, v, .inr ⟨hn, rfl⟩, hlookup⟩
  · refine hout n fun hmem => ?_
    rw [mem_namesIn, hn] at hmem
    cases hmem

/-- a filling that finishes leaves every field with the cast of the first value for it, which is
something -/
theorem get_of_fillFrom (hd : s.schema.form.DeclaresOnce) (hl : s.entries ∈ layers)
    (hf : f ∈ s.names) {w w' : World Session}
    (h : outcome (s.fillFrom none layers) w = (.ok (), w')) :
    ∃ v x, firstIn layers f = some v ∧ v ≠ .null ∧ s.schema.cast f v = .ok x ∧
      w'.state.config.get f = .ok x := by
  obtain ⟨v, hv⟩ := Option.isSome_iff_exists.1 (firstIn_isSome_of_mem_names hl hf)
  obtain ⟨hne, x, hx, hlookup⟩ :=
    (lookup_of_fillFrom hd hl h).1 f v (Settings.isPublic_of_mem_names hf) hv
  exact ⟨v, x, hv, hne, hx.cast hf, Configuration.get_of_lookup hlookup⟩

theorem fillFrom_of_inOrder (hd : s.schema.form.DeclaresOnce) (hl : s.entries ∈ layers)
    (ho : s.InOrder layers) (w : World Session) :
    ∃ w', outcome (s.fillFrom none layers) w = (.ok (), w') := by
  have hpub : ∀ n ∈ s.names, isPublic n = true := fun n hn => Settings.isPublic_of_mem_names hn
  have hknown : ∀ n ∈ s.names, (firstIn layers n).isSome = true :=
    fun n hn => firstIn_isSome_of_mem_names hl hn
  -- the round of casts goes through, since every field has a value that can be cast
  have hcasts : ∀ n ∈ s.names, ∃ u y, (draftOf layers).get n = .ok u ∧ s.schema.cast n u = .ok y := by
    intro n hn
    obtain ⟨u, hu⟩ := Option.isSome_iff_exists.1 (hknown n hn)
    obtain ⟨hp, hnull, y, hy⟩ := ho n u hu
    exact ⟨u, y, get_of_first rfl hp rfl hu hnull, hy.cast hn⟩
  obtain ⟨draft, hdraft⟩ := castIn_of_casts hpub (Settings.nodup_names hd) hcasts
  obtain ⟨hb, hheld, hnot⟩ := held_get hd hknown hdraft
  have hnames : draft.behind.elements = .ok ((namesIn layers).map .text) := by
    rw [hb, elements_record, merged_names]
  -- and every name of the layers can be read from the draft
  have hgets : ∀ n ∈ namesIn layers, ∃ u, draft.get n = .ok u := by
    intro n hn
    obtain ⟨u, hu⟩ := Option.isSome_iff_exists.1 ((mem_namesIn layers n).1 hn)
    obtain ⟨hp, hnull, -⟩ := ho n u hu
    by_cases hm : n ∈ s.names
    · obtain ⟨-, y, -, -, -, hy⟩ := hheld n hm
      exact ⟨y, Configuration.get_of_lookup hy⟩
    · exact ⟨u, get_of_first hb hp (hnot n hm) hu hnull⟩
  obtain ⟨c, hc⟩ := publish_of_gets hgets ⟨w.out, w.err, w.state.config⟩
  exact ⟨_, fillFrom_eq_ok.2 ⟨draft, w, _, c, draft_none_eq_ok.2 ⟨hdraft, rfl⟩, hnames, hc, rfl⟩⟩

/-- a field with a value that can be cast, all else being in order, ends with the cast of it -/
theorem fillFrom_of_inOrderBut (hd : s.schema.form.DeclaresOnce) (hl : s.entries ∈ layers)
    (ho : InOrderBut s layers f) (hf : f ∈ s.names) {v x : Value} (hv : firstIn layers f = some v)
    (hne : v ≠ .null) (hx : s.schema.cast f v = .ok x) (w : World Session) :
    ∃ w', outcome (s.fillFrom none layers) w = (.ok (), w') ∧ w'.state.config.get f = .ok x := by
  have hall : s.InOrder layers := by
    intro n u hu
    by_cases hn : n ∈ s.names
    · have hp := Settings.isPublic_of_mem_names hn
      by_cases e : n = f
      · subst e
        rw [hv] at hu
        obtain rfl := Option.some.inj hu
        exact ⟨hp, hne, x, .inl ⟨hn, hx⟩⟩
      · obtain ⟨u', y, hu', hnull, hy⟩ := ho.field n hn e
        rw [hu] at hu'
        obtain rfl := Option.some.inj hu'
        exact ⟨hp, hnull, y, .inl ⟨hn, hy⟩⟩
    · have hmem : n ∈ namesIn layers := (mem_namesIn layers n).2 (hu ▸ rfl)
      obtain ⟨hp, hnull⟩ := ho.other n hmem hn
      exact ⟨hp, fun e => hnull (e ▸ hu), u, .inr ⟨hn, rfl⟩⟩
  obtain ⟨w', hrun⟩ := fillFrom_of_inOrder hd hl hall w
  refine ⟨w', hrun, ?_⟩
  obtain ⟨v', x', hv', -, hx', hget⟩ := get_of_fillFrom hd hl hf hrun
  rw [hv] at hv'
  obtain rfl := Option.some.inj hv'
  rw [hx] at hx'
  obtain rfl := Except.ok.inj hx'
  exact hget

/-- all else being in order, a filling leaves a field with a value exactly if this is the cast of the
first value for it, which must be something -/
theorem fillFrom_get_iff (hd : s.schema.form.DeclaresOnce) (hl : s.entries ∈ layers)
    (ho : InOrderBut s layers f) (hf : f ∈ s.names) {v x : Value} (hv : firstIn layers f = some v)
    (w : World Session) :
    (∃ w', outcome (s.fillFrom none layers) w = (.ok (), w') ∧ w'.state.config.get f = .ok x) ↔
      v ≠ .null ∧ s.schema.cast f v = .ok x := by
  constructor
  · rintro ⟨w', hrun, hget⟩
    obtain ⟨v', x', hv', hne, hx', hget'⟩ := get_of_fillFrom hd hl hf hrun
    rw [hv] at hv'
    obtain rfl := Option.some.inj hv'
    rw [hget] at hget'
    obtain rfl := Except.ok.inj hget'
    exact ⟨hne, hx'⟩
  · rintro ⟨hne, hx⟩
    exact fillFrom_of_inOrderBut hd hl ho hf hv hne hx w

end

end CommandLine
