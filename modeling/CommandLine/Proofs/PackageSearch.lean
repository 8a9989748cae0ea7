import CommandLine.Proofs.Defaults

/-!
# When the search for the importing package ends

The search asks for the directory of the importing file by its name, and asks again as long as nothing
of that name is there.  Nothing changes between two questions, so it ends with the first or never.

* `AnsweredAfter`                  the search as a run: how often it asks, and what it gets;
* `await_eq_some_iff`              the search returns what such a run gets;
* `answeredAfter_iff`              every run that ends has asked once;
* `programVersion_endless_iff`     nothing but this search keeps the version from being told;
* `package_search_ends_iff`        which searches end, and which schemas are never made.
-/

namespace CommandLine

/-! ## the search as a run -/

section
variable {find : ModuleFinder} {parent : String} {n : Nat} {spec : ModuleSpec}

/-- the search asks `n` times and then has its answer -/
inductive AnsweredAfter (find : ModuleFinder) (parent : String) : Nat → ModuleSpec → Prop where
  | now {spec : ModuleSpec} (h : find parent = spec) (hne : spec ≠ .missing) :
    AnsweredAfter find parent 1 spec
  | later {n : Nat} {spec : ModuleSpec} (h : find parent = .missing)
    (rest : AnsweredAfter find parent n spec) : AnsweredAfter find parent (n + 1) spec

theorem isMissing_iff : spec.isMissing = true ↔ spec = .missing := by
  cases spec <;> simp [ModuleSpec.isMissing]

theorem AnsweredAfter.await_eq (h : AnsweredAfter find parent n spec) :
    find.await parent = some spec := by
  induction h with
  | now h hne => rw [ModuleFinder.await, if_neg (mt isMissing_iff.1 (h ▸ hne)), h]
  | later h rest ih => rw [ModuleFinder.await, if_pos (isMissing_iff.2 h), ih]

/-- the search returns exactly what one of its runs ends with -/
theorem await_eq_some_iff :
    find.await parent = some spec ↔ ∃ n, AnsweredAfter find parent n spec := by
  constructor
  · -- what holds of every approximation of the search holds of the search
    refine ModuleFinder.await.partial_correctness find parent
      (fun spec => ∃ n, AnsweredAfter find parent n spec) ?_ spec
    intro approximation ih r hr
    split at hr
    · rename_i h
      obtain ⟨n, hn⟩ := ih r hr
      exact ⟨n + 1, .later (isMissing_iff.1 h) hn⟩
    · rename_i h
      obtain rfl := Option.some.inj hr
      exact ⟨1, .now rfl (mt isMissing_iff.2 h)⟩
  · rintro ⟨n, hn⟩
    exact hn.await_eq

/-- the second question would get the answer of the first -/
theorem answeredAfter_iff :
    AnsweredAfter find parent n spec ↔ n = 1 ∧ find parent = spec ∧ spec ≠ .missing := by
  constructor
  · intro hn
    induction hn with
    | now h hne => exact ⟨rfl, h, hne⟩
    | later h rest ih => exact absurd (ih.2.1.symm.trans h) ih.2.2
  · rintro ⟨rfl, h, hne⟩
    exact .now h hne

theorem await_eq_none_iff : find.await parent = none ↔ find parent = .missing := by
  rw [Option.eq_none_iff_forall_ne_some]
  constructor
  · intro h
    cases hm : (find parent).isMissing with
    | true => exact isMissing_iff.1 hm
    | false =>
      have hne : find parent ≠ .missing := fun e => by simp [e, ModuleSpec.isMissing] at hm
      exact absurd (AnsweredAfter.now rfl hne).await_eq (h _)
  · intro h spec hspec
    obtain ⟨n, hn⟩ := await_eq_some_iff.1 hspec
    obtain ⟨-, hfind, hne⟩ := answeredAfter_iff.1 hn
    exact hne (hfind.symm.trans h)

end

/-! ## the version -/

theorem importerVersion_eq_none_iff (p : Packages) (i : Importer) :
    importerVersion p i = none ↔ i.importsLibrary = true ∧ p.find i.parent = .missing := by
  unfold importerVersion
  cases i.importsLibrary with
  | false => simp
  | true => simp [await_eq_none_iff]

/-- a project file may be unreadable, but it is read to its end -/
theorem projectVersion_ne_endless (s : Surroundings) : projectVersion s ≠ .error .endless := by
  have hversion : ∀ i, versionIn i ≠ .error .endless := by
    intro i h
    unfold versionIn at h
    split at h
    · cases h
    · split at h
      · cases h
      · split at h <;> cases h
  intro h
  unfold projectVersion readSections at h
  split at h
  · obtain h | ⟨i, -, h⟩ := bind_eq_error.1 h
    · split at h
      · cases h
      · split at h <;> cases h
    · exact hversion i h
  · cases h

theorem programVersion_endless_iff (s : Surroundings) (p : Packages) (importer : Option Importer) :
    programVersion s p importer = .error .endless ↔
      ∃ i, importer = some i ∧ i.importsLibrary = true ∧ p.find i.parent = .missing := by
  have hproject : (do return (← projectVersion s).getD firstVersion) ≠ Except.error Error.endless := by
    intro h
    obtain h | ⟨v, -, h⟩ := bind_eq_error.1 h
    · exact projectVersion_ne_endless s h
    · cases h
  unfold programVersion
  cases importer with
  | none => simpa using hproject
  | some i =>
    simp only [Option.elim_some, Option.some.injEq, exists_eq_left', ← importerVersion_eq_none_iff]
    cases importerVersion p i with
    | none => simp
    | some v =>
      cases v with
      | none => simpa using hproject
      | some v => simp

/-- Whatever the modules are and whatever file the call stands in: the search for the package of the
file ends exactly if something is known of the name of its directory, and then with the first question.
So a schema whose hook and whose casts finish is never made exactly if the library is brought in by a
file from a directory whose name is the name of no module. -/
theorem package_search_ends_iff {σ : Type} (find : ModuleFinder) (i : Importer) :
    ((∃ n spec, AnsweredAfter find i.parent n spec) ↔ find i.parent ≠ .missing) ∧
    (∀ n spec, AnsweredAfter find i.parent n spec → n = 1 ∧ spec = find i.parent) ∧
    (find.await i.parent = none ↔ find i.parent = .missing) ∧
    ∀ (d : Declaration) (around : Surroundings) (packages : Packages) (w w' : World σ) (c : Class),
      outcome (d.hooked : Run σ Class) w = (.ok c, w') → (∀ f ∈ d.kinds, c.Settles d.given f) →
      (outcome (d.make around packages : Run σ Schema) w = (.error .endless, w') ↔
        ∃ j, d.importer = some j ∧ j.importsLibrary = true ∧ packages.find j.parent = .missing) := by
  refine ⟨?_, fun n spec h => ?_, await_eq_none_iff, fun d around packages w w' c hook hs => ?_⟩
  · simp only [answeredAfter_iff]
    constructor
    · rintro ⟨n, spec, -, rfl, hne⟩
      exact hne
    · intro hne
      exact ⟨1, _, rfl, rfl, hne⟩
  · obtain ⟨hn, hspec, -⟩ := answeredAfter_iff.1 h
    exact ⟨hn, hspec.symm⟩
  · obtain ⟨c', hc', -⟩ := castDefaults_settle (nodup_kinds d) hs
    rw [make_of_castDefaults around packages hook hc', ← programVersion_endless_iff around]
    cases programVersion around packages d.importer with
    | error e => simp [Except.map]
    | ok version => simp [Except.map]

/-- a schema in a file of the directory `nowhere` -/
def strandedDeclaration : Declaration :=
  { name := "Sample"
    home := "sample"
    fields := [⟨"x", some .int, some (.int 3)⟩]
    hook := none
    source := none
    importer := some ⟨"/p/nowhere/x.py", "import clima"⟩ }

/-- with no module of that name it is never made, and with one it is -/
theorem package_search_ends_sample :
    outcome (strandedDeclaration.make {} ⟨[], []⟩ : Run Unit Schema) { state := () } =
      (.error .endless, { state := () }) ∧
    outcome (strandedDeclaration.make {} ⟨[("nowhere", .package "nowhere")], []⟩ : Run Unit Schema)
      { state := () } ≠ (.error .endless, { state := () }) := by
  have hsettles : ∀ f ∈ strandedDeclaration.kinds,
      strandedDeclaration.form.Settles strandedDeclaration.given f := by
    intro f hf
    obtain rfl := List.mem_singleton.1 hf
    exact ⟨.int 3, .int 3, .int 3, .int 3, rfl, rfl, rfl, rfl⟩
  have hends := fun packages => (package_search_ends_iff (fun _ => .missing)
    ⟨"/p/nowhere/x.py", "import clima"⟩).2.2.2 strandedDeclaration {} packages
    ({ state := () } : World Unit) _ _ rfl hsettles
  refine ⟨(hends _).2 ⟨_, rfl, by decide +kernel, rfl⟩, fun h => ?_⟩
  obtain ⟨j, hj, -, hmissing⟩ := (hends _).1 h
  obtain rfl := Option.some.inj hj
  cases hmissing

end CommandLine
