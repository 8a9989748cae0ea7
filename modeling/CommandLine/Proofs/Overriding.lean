import CommandLine.Proofs.Sources

/-!
# Values of the file that are overridden

A field that is given on the command line does not use the value that the configuration file has for
it.  Two programs whose files differ in that value alone (`AgreeExcept`) read the same layers as far
as the draft can see (`merged_overridden`).  But the file is cast before the layers are put on top of
each other, so the value that is not used can still be refused: `Refused` says when, and
`fill_overridden` that this is the only way in which it matters.

* If both values are refused with the same error, or none of them, the two fillings end alike: in the
  same result, the same configuration, the same output.
* If one filling finishes, the other one ends alike exactly if its value is not refused; otherwise it
  fails with the error of the cast.
-/

namespace CommandLine

/-! ## layers that a stronger one covers -/

/-- the merged layers depend on the names and on the first values only -/
theorem merged_congr {l₁ l₂ : List Layer} (hn : namesIn l₁ = namesIn l₂)
    (hf : ∀ n, firstIn l₁ n = firstIn l₂ n) : merged l₁ = merged l₂ := by
  unfold merged
  rw [hn, funext hf]

theorem lookup_append_cons_of_ne {α : Type} {n f : String} (h : n ≠ f) (pre : List (String × α))
    (x : α) (post : List (String × α)) :
    (pre ++ (f, x) :: post).lookup n = (pre ++ post).lookup n := by
  rw [List.lookup_append, List.lookup_append, lookup_cons_name, if_neg h]

/-- a value of one layer does not show if a stronger layer knows the name -/
theorem merged_overridden (strong weak : List Layer) {f : String}
    (h : (firstIn strong f).isSome = true) (pre post : Layer) (x y : Value) :
    merged (strong ++ (pre ++ (f, x) :: post) :: weak) =
      merged (strong ++ (pre ++ (f, y) :: post) :: weak) := by
  apply merged_congr
  · unfold namesIn
    simp
  · intro n
    unfold firstIn at h ⊢
    rw [List.findSome?_append, List.findSome?_append, List.findSome?_cons, List.findSome?_cons]
    by_cases e : n = f
    · subst e
      obtain ⟨v, hv⟩ := Option.isSome_iff_exists.1 h
      rw [hv]
      rfl
    · rw [lookup_append_cons_of_ne e, lookup_append_cons_of_ne e]

theorem fillFrom_congr (s : Settings) (hook : Option (DraftHook Session)) {l₁ l₂ : List Layer}
    (h : merged l₁ = merged l₂) : s.fillFrom hook l₁ = s.fillFrom hook l₂ := by
  have hd : draftOf l₁ = draftOf l₂ := by
    unfold draftOf
    rw [h]
  unfold Settings.fillFrom Settings.draft
  rw [hd]

/-! ## two programs -/

/-- the sources of two programs agree, except that the sections of their configuration files have
two values for a field -/
structure AgreeExcept (s : Settings) (f v₁ v₂ : String) (p₁ p₂ : Program) : Prop where
  environment : s.environmentLayer p₁.surroundings = s.environmentLayer p₂.surroundings
  envFile : ∀ w : World Session,
    outcome (s.envFileLayer p₁.surroundings) w = outcome (s.envFileLayer p₂.surroundings) w
  secret : ∀ w, outcome (s.secretLayer p₁.decryptor p₁.surroundings) w =
    outcome (s.secretLayer p₂.decryptor p₂.surroundings) w
  file : ∃ path₁ path₂ pre post,
    s.configPath? p₁.surroundings = .ok (some path₁) ∧
    p₁.surroundings.HasSection path₁ (pre ++ (f, v₁) :: post) ∧
    s.configPath? p₂.surroundings = .ok (some path₂) ∧
    p₂.surroundings.HasSection path₂ (pre ++ (f, v₂) :: post)

/-- a value that the file has for a field cannot be cast to the type of the value that the field has
after the flags -/
def Refused (p : Program) (flags : Layer) (w : World Session) (f v : String) (e : Error) : Prop :=
  ∃ s w₁ current, outcome (takeFlags p flags) w = (.ok s, w₁) ∧ f ∈ s.fields ∧
    s.get f = .ok current ∧ castLike current (.text v) = .error e

section
variable {s : Settings} {f v : String} {pre post : List (String × String)}

theorem fileValues_around (h : f ∈ s.fields) :
    s.fileValues (pre ++ (f, v) :: post) = (s.fileValues pre >>= fun l => s.get f >>=
      fun current => castLike current (.text v) >>=
        fun x => (s.fileValues post).map (fun m => l ++ (f, x) :: m)) := by
  rw [fileValues_append, fileValues_cons_of_mem h]
  cases s.fileValues pre with
  | error e => rfl
  | ok l =>
    show Except.map _ (s.get f >>= _) = (s.get f >>= _)
    cases s.get f with
    | error e => rfl
    | ok current =>
      show Except.map _ (castLike current (.text v) >>= _) = (castLike current (.text v) >>= _)
      cases castLike current (.text v) with
      | error e => rfl
      | ok x => cases s.fileValues post <;> rfl

theorem fileValues_around_of_not_mem (h : f ∉ s.fields) :
    s.fileValues (pre ++ (f, v) :: post) = s.fileValues (pre ++ post) := by
  rw [fileValues_append, fileValues_cons_of_not_mem h, ← fileValues_append]

/-- two values for one entry, both refused with the same error or both taken: the sections give the
same error, or the same layer but for that entry -/
theorem fileValues_two {v₁ v₂ : String} (pre post : List (String × String))
    (hv : ∀ current e, f ∈ s.fields → s.get f = .ok current →
      (castLike current (.text v₁) = .error e ↔ castLike current (.text v₂) = .error e)) :
    s.fileValues (pre ++ (f, v₁) :: post) = s.fileValues (pre ++ (f, v₂) :: post) ∨
    ∃ l m x₁ x₂, s.fileValues (pre ++ (f, v₁) :: post) = .ok (l ++ (f, x₁) :: m) ∧
      s.fileValues (pre ++ (f, v₂) :: post) = .ok (l ++ (f, x₂) :: m) := by
  by_cases hf : f ∈ s.fields
  · rw [fileValues_around hf, fileValues_around hf]
    cases s.fileValues pre with
    | error e => exact .inl rfl
    | ok l =>
      cases hg : s.get f with
      | error e => exact .inl rfl
      | ok current =>
        have hv := hv current
        cases h₁ : castLike current (.text v₁) with
        | error e =>
          have h₂ := (hv e hf hg).1 h₁
          left
          show (castLike current (.text v₁) >>= _) = (castLike current (.text v₂) >>= _)
          rw [h₁, h₂]
        | ok x₁ =>
          cases h₂ : castLike current (.text v₂) with
          | error e =>
            rw [(hv e hf hg).2 h₂] at h₁
            cases h₁
          | ok x₂ =>
            cases hp : s.fileValues post with
            | error e =>
              left
              show (castLike current (.text v₁) >>= _) = (castLike current (.text v₂) >>= _)
              rw [h₁, h₂]
              rfl
            | ok m =>
              refine .inr ⟨l, m, x₁, x₂, ?_, ?_⟩
              · show (castLike current (.text v₁) >>= _) = _
                rw [h₁]
                rfl
              · show (castLike current (.text v₂) >>= _) = _
                rw [h₂]
                rfl
  · exact .inl (by rw [fileValues_around_of_not_mem hf, fileValues_around_of_not_mem hf])

end

section
variable {p₁ p₂ : Program} {hook : Option (DraftHook Session)} {flags : Layer} {f v₁ v₂ : String}
  {w : World Session}

theorem refused_iff {p : Program} {s : Settings} {w₁ : World Session} {current : Value} {v : String}
    {e : Error} (hs : outcome (takeFlags p flags) w = (.ok s, w₁)) (hf : f ∈ s.fields)
    (hg : s.get f = .ok current) :
    Refused p flags w f v e ↔ castLike current (.text v) = .error e := by
  constructor
  · rintro ⟨s', w', current', hs', -, hg', h⟩
    rw [hs] at hs'
    obtain rfl := Except.ok.inj (Prod.mk.inj hs').1
    rw [hg] at hg'
    obtain rfl := Except.ok.inj hg'
    exact h
  · intro h
    exact ⟨s, w₁, current, hs, hf, hg, h⟩

/-- values that are refused alike do not matter -/
theorem fill_congr_of_refused_iff (hf : (flags.lookup f).isSome = true)
    (hcwd : p₁.surroundings.cwd = p₂.surroundings.cwd)
    (ha : ∀ s w₁, outcome (takeFlags p₁ flags) w = (.ok s, w₁) →
      AgreeExcept s f v₁ v₂ p₁ p₂)
    (hr : ∀ e, Refused p₁ flags w f v₁ e ↔ Refused p₁ flags w f v₂ e) :
    outcome (fill p₁ hook flags) w = outcome (fill p₂ hook flags) w := by
  rw [fill_eq, fill_eq, takeFlags_congr hcwd]
  refine outcome_bind_congr rfl ?_
  intro s w₁ hs
  rw [← takeFlags_congr hcwd] at hs
  obtain ⟨henv, henvFile, hsecret, path₁, path₂, pre, post, hp₁, hv₁, hp₂, hv₂⟩ := ha s w₁ hs
  refine outcome_bind_congr (henvFile w₁) ?_
  intro envFile w₂ _
  rw [henv, outcome_bind, outcome_bind, outcome_fileLayer hp₁ hv₁, outcome_fileLayer hp₂ hv₂]
  have hsame : ∀ current e, f ∈ s.fields → s.get f = .ok current →
      (castLike current (.text v₁) = .error e ↔ castLike current (.text v₂) = .error e) := by
    intro current e hm hg
    rw [← refused_iff hs hm hg, ← refused_iff hs hm hg]
    exact hr e
  rcases fileValues_two pre post hsame with heq | ⟨l, m, x₁, x₂, h₁, h₂⟩
  · rw [heq]
    cases s.fileValues (pre ++ (f, v₂) :: post) with
    | error e => rfl
    | ok file => exact outcome_bind_congr (hsecret w₂) (fun _ _ _ => rfl)
  · rw [h₁, h₂]
    refine outcome_bind_congr (hsecret w₂) ?_
    intro secret w₃ _
    have hstrong : (firstIn [flags, s.environmentLayer p₂.surroundings, envFile] f).isSome = true := by
      rw [firstIn_cons, Option.isSome_or, hf]
      rfl
    have hm := merged_overridden _ [secret, s.entries] hstrong l m x₁ x₂
    exact congrArg (outcome · w₃) (fillFrom_congr s hook hm)

theorem fileValues_of_fill {p : Program} {s : Settings} {w₁ w' : World Session} {path : Path}
    {vs : List (String × String)} (h : outcome (fill p hook flags) w = (.ok (), w'))
    (hs : outcome (takeFlags p flags) w = (.ok s, w₁))
    (hp : s.configPath? p.surroundings = .ok (some path)) (hv : p.surroundings.HasSection path vs) :
    ∃ envFile w₂ file, outcome (s.envFileLayer p.surroundings) w₁ = (.ok envFile, w₂) ∧
      s.fileValues vs = .ok file := by
  rw [fill_eq, outcome_bind_of_ok hs] at h
  obtain ⟨envFile, w₂, he, h⟩ := outcome_bind_eq_ok.1 h
  obtain ⟨file, w₃, hfile, -⟩ := outcome_bind_eq_ok.1 h
  rw [outcome_fileLayer hp hv] at hfile
  exact ⟨envFile, w₂, file, he, (Prod.mk.inj hfile).1⟩

/-- a section that is read is read up to each of its entries, and none of them is refused -/
theorem castLike_of_fileValues {s : Settings} {pre post : List (String × String)} {v : String}
    {file : Layer} {current : Value} (h : s.fileValues (pre ++ (f, v) :: post) = .ok file)
    (hf : f ∈ s.fields) (hg : s.get f = .ok current) :
    ∃ l x, s.fileValues pre = .ok l ∧ castLike current (.text v) = .ok x := by
  rw [fileValues_around hf, hg] at h
  obtain ⟨l, hl, h⟩ := bind_eq_ok.1 h
  obtain ⟨current', hc, h⟩ := bind_eq_ok.1 h
  obtain rfl := Except.ok.inj hc
  obtain ⟨x, hx, -⟩ := bind_eq_ok.1 h
  exact ⟨l, x, hl, hx⟩

theorem not_refused_of_fill
    (ha : ∀ s w₁, outcome (takeFlags p₁ flags) w = (.ok s, w₁) →
      AgreeExcept s f v₁ v₂ p₁ p₂) {w' : World Session}
    (h : outcome (fill p₁ hook flags) w = (.ok (), w')) (e : Error) :
    ¬ Refused p₁ flags w f v₁ e := by
  rintro ⟨s, w₁, current, hs, hf, hg, hc⟩
  obtain ⟨path₁, path₂, pre, post, hp₁, hv₁, -, -⟩ := (ha s w₁ hs).file
  obtain ⟨envFile, w₂, file, -, hfile⟩ := fileValues_of_fill h hs hp₁ hv₁
  obtain ⟨l, x, -, hx⟩ := castLike_of_fileValues hfile hf hg
  rw [hc] at hx
  cases hx

/-- where one filling finishes and the value of the other is refused, the other fails with the error
of the cast -/
theorem fill_error_of_refused (hcwd : p₁.surroundings.cwd = p₂.surroundings.cwd)
    (ha : ∀ s w₁, outcome (takeFlags p₁ flags) w = (.ok s, w₁) →
      AgreeExcept s f v₁ v₂ p₁ p₂) {w' : World Session}
    (h : outcome (fill p₁ hook flags) w = (.ok (), w')) {e : Error}
    (hr : Refused p₁ flags w f v₂ e) : (outcome (fill p₂ hook flags) w).1 = .error e := by
  obtain ⟨s, w₁, current, hs, hf, hg, hc⟩ := hr
  obtain ⟨-, henvFile, -, path₁, path₂, pre, post, hp₁, hv₁, hp₂, hv₂⟩ := ha s w₁ hs
  obtain ⟨envFile, w₂, file, he, hfile⟩ := fileValues_of_fill h hs hp₁ hv₁
  obtain ⟨l, x, hl, -⟩ := castLike_of_fileValues hfile hf hg
  have hbad : s.fileValues (pre ++ (f, v₂) :: post) = .error e := by
    rw [fileValues_around hf, hl, hg]
    show (castLike current (.text v₂) >>= _) = _
    rw [hc]
    rfl
  have hfile₂ := outcome_fileLayer hp₂ hv₂ w₂
  rw [hbad] at hfile₂
  rw [takeFlags_congr hcwd] at hs
  rw [henvFile] at he
  rw [fill_eq, outcome_bind_of_ok hs, outcome_bind_of_ok he, outcome_bind_of_error hfile₂]

end

/-- **A value of the file that the command line overrides matters only by being refused.**  Values
that are refused alike make no difference at all; and if one of two fillings finishes, the other one
ends in the same way exactly if its value is not refused, and otherwise in the error of the cast. -/
theorem fill_overridden (p₁ p₂ : Program) (hook : Option (DraftHook Session)) (flags : Layer)
    (f v₁ v₂ : String) (w : World Session) (hf : (flags.lookup f).isSome = true)
    (hcwd : p₁.surroundings.cwd = p₂.surroundings.cwd)
    (ha : ∀ s w₁, outcome (takeFlags p₁ flags) w = (.ok s, w₁) →
      AgreeExcept s f v₁ v₂ p₁ p₂) :
    ((∀ e, Refused p₁ flags w f v₁ e ↔ Refused p₁ flags w f v₂ e) →
      outcome (fill p₁ hook flags) w = outcome (fill p₂ hook flags) w) ∧
    (∀ w', outcome (fill p₁ hook flags) w = (.ok (), w') →
      (outcome (fill p₂ hook flags) w = (.ok (), w') ↔ ∀ e, ¬ Refused p₁ flags w f v₂ e) ∧
      ∀ e, Refused p₁ flags w f v₂ e → (outcome (fill p₂ hook flags) w).1 = .error e) := by
  refine ⟨fill_congr_of_refused_iff hf hcwd ha, ?_⟩
  intro w' h
  have herror : ∀ e, Refused p₁ flags w f v₂ e → (outcome (fill p₂ hook flags) w).1 = .error e :=
    fun e hr => fill_error_of_refused hcwd ha h hr
  refine ⟨⟨?_, ?_⟩, herror⟩
  · intro h₂ e hr
    have hbad := herror e hr
    rw [h₂] at hbad
    cases hbad
  · intro hn
    have hnone : ∀ e, ¬ Refused p₁ flags w f v₁ e := not_refused_of_fill ha h
    have hsame : outcome (fill p₁ hook flags) w = outcome (fill p₂ hook flags) w :=
      fill_congr_of_refused_iff hf hcwd ha
        (fun e => ⟨fun hr => absurd hr (hnone e), fun hr => absurd hr (hn e)⟩)
    rw [← hsame, h]

def sampleNumber : World Session := sampleSession [("x", .int)] [("x", .int 3)]

def sampleGiven : Settings := (sampleSettings [("x", .int)] [("x", .int 3)]).set "x" (.int 5)

theorem sample_agreeExcept :
    AgreeExcept sampleGiven "x" "7" "abc" (sampleFile "7") (sampleFile "abc") := by
  refine ⟨rfl, ?_, ?_, Path.ofText .posix "/a.cfg", Path.ofText .posix "/a.cfg", [], [], rfl,
    ⟨by decide +kernel, ?_⟩, rfl, ⟨by decide +kernel, ?_⟩⟩
  · intro w
    rw [outcome_envFileLayer_of_not_isFile rfl rfl (by decide +kernel),
      outcome_envFileLayer_of_not_isFile rfl rfl (by decide +kernel)]
  · intro w
    rw [outcome_secretLayer_of_no_files _ _ (by decide +kernel),
      outcome_secretLayer_of_no_files _ _ (by decide +kernel)]
  · rfl
  · rfl

/-- of two fillings that differ in a value which is not used, one finishes and the other fails -/
theorem fill_overridden_sample :
    (outcome (fill (sampleFile "7") none [("x", .int 5)]) sampleNumber).1 = .ok () ∧
    (outcome (fill (sampleFile "abc") none [("x", .int 5)]) sampleNumber).1 =
      .error (.badInt "'abc'") := by
  have hrun := outcome_of_isOk (r := fill (sampleFile "7") none [("x", .int 5)])
    (w := sampleNumber) (by decide +kernel)
  have hs : outcome (takeFlags (sampleFile "7") [("x", .int 5)]) sampleNumber =
      (.ok sampleGiven, _) := takeFlags_eq_ok.2 ⟨_, _, rfl, rfl, rfl, rfl⟩
  have hsame : ∀ s w₁, outcome (takeFlags (sampleFile "7") [("x", .int 5)]) sampleNumber =
      (.ok s, w₁) → AgreeExcept s "x" "7" "abc" (sampleFile "7") (sampleFile "abc") := by
    intro s w₁ hs'
    rw [hs] at hs'
    obtain rfl := Except.ok.inj (Prod.mk.inj hs').1
    exact sample_agreeExcept
  have hbad : Refused (sampleFile "7") [("x", .int 5)] sampleNumber "x" "abc"
      (.badInt "'abc'") := ⟨_, _, .int 5, hs, by decide +kernel, rfl, rfl⟩
  have hboth := fill_overridden (sampleFile "7") (sampleFile "abc") none [("x", .int 5)] "x" "7"
    "abc" sampleNumber (by decide +kernel) rfl hsame
  exact ⟨congrArg Prod.fst hrun, (hboth.2 _ hrun).2 _ hbad⟩

end CommandLine
