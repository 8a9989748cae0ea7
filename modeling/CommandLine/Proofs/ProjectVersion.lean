import CommandLine.Proofs.Defaults
import CommandLine.Proofs.Layers
import CommandLine.Proofs.OrderlyTexts
import CommandLine.Proofs.SingleOption

/-!
# The version in the project file

The project file is read as a text with sections, whatever it holds.  A file that is no such text, or one
that lacks the section of the project, does not count as one without a version: it ends the program.

* `lookup_optionsIn`        an option of a section is its own one, or else that of the defaults;
* `GivesVersion`            which version the statements of a text give;
* `projectVersion_ok_iff`   the file is looked up without an error exactly if it gives one;
* `project_version_iff`     and so with the version of the program and the making of schemas.
-/

namespace CommandLine

namespace Ini

def valueText (lines : List String) : String := Text.trimRight (Text.joinWith "\n" lines)

/-- the value of an option in a section: its own one, or else that of the defaults -/
def valueOf (ss : List Statement) (sect name : String) : Option String :=
  (((optionsOf sect ss).lookup name).or ((optionsOf defaultSection ss).lookup name)).map valueText

/-- the options that values of a section may refer to -/
def optionsIn (ss : List Statement) (sect : String) : List (String × String) :=
  let own := joinValues (optionsOf sect ss)
  own ++ (joinValues (optionsOf defaultSection ss)).filter fun p => (own.lookup p.1).isNone

theorem lookup_joinValues (o : Options) (name : String) :
    (joinValues o).lookup name = (o.lookup name).map valueText := lookup_map_values valueText o name

theorem lookup_optionsIn (ss : List Statement) (sect name : String) :
    (optionsIn ss sect).lookup name = valueOf ss sect name := by
  unfold optionsIn valueOf
  rw [List.lookup_append, lookup_joinValues]
  cases hown : (optionsOf sect ss).lookup name with
  | some lines => rfl
  | none =>
    have hkeep : ((joinValues (optionsOf sect ss)).lookup name).isNone = true := by
      rw [lookup_joinValues, hown]
      rfl
    rw [lookup_filter_names (fun n => ((joinValues (optionsOf sect ss)).lookup n).isNone) _ hkeep,
      lookup_joinValues]
    rfl

theorem options_contents (ss : List Statement) {sect : String} (h : sect ≠ defaultSection) :
    (contents ss).options sect = if sect ∈ headers ss then some (optionsIn ss sect) else none := by
  unfold Contents.options contents
  rw [lookup_graph]
  by_cases hmem : sect ∈ headers ss
  · rw [if_pos hmem, if_pos (mem_sectionNames.2 ⟨hmem, h⟩)]
    rfl
  · rw [if_neg hmem, if_neg fun hs => hmem (mem_sectionNames.1 hs).1]
    rfl

end Ini

section
variable {text : String} {v : Option String}

/-- the version that a text gives: it is orderly, has the section of the project, and has no value for
the version or one that can be expanded -/
inductive GivesVersion (text : String) : Option String → Prop where
  | none (ho : Ini.Orderly (Ini.statements text))
    (hs : projectSection ∈ Ini.headers (Ini.statements text))
    (hv : Ini.valueOf (Ini.statements text) projectSection projectOption = none) :
    GivesVersion text none
  | some {raw v : String} (ho : Ini.Orderly (Ini.statements text))
    (hs : projectSection ∈ Ini.headers (Ini.statements text))
    (hraw : Ini.valueOf (Ini.statements text) projectSection projectOption = some raw)
    (hv : Ini.Contents.expanded (Ini.optionsIn (Ini.statements text) projectSection) projectSection
      projectOption raw = .ok v) :
    GivesVersion text (some (Text.removeChar '"' v))

theorem givesVersion_iff :
    GivesVersion text v ↔ Ini.Orderly (Ini.statements text) ∧
      versionIn (Ini.contents (Ini.statements text)) = .ok v := by
  have hne : projectSection ≠ Ini.defaultSection := by decide
  unfold versionIn
  rw [Ini.options_contents _ hne]
  constructor
  · intro h
    cases h with
    | none ho hs hv =>
      rw [if_pos hs]
      dsimp only
      rw [Ini.lookup_optionsIn, hv]
      exact ⟨ho, rfl⟩
    | some ho hs hraw hv =>
      rw [if_pos hs]
      dsimp only
      rw [Ini.lookup_optionsIn, hraw]
      dsimp only
      rw [hv]
      exact ⟨ho, rfl⟩
  · rintro ⟨ho, h⟩
    by_cases hs : projectSection ∈ Ini.headers (Ini.statements text)
    · rw [if_pos hs] at h
      dsimp only at h
      rw [Ini.lookup_optionsIn] at h
      cases hraw : Ini.valueOf (Ini.statements text) projectSection projectOption with
      | none =>
        rw [hraw] at h
        exact Except.ok.inj h ▸ .none ho hs hraw
      | some raw =>
        rw [hraw] at h
        dsimp only at h
        cases hv : Ini.Contents.expanded (Ini.optionsIn (Ini.statements text) projectSection)
            projectSection projectOption raw with
        | error e => rw [hv] at h; cases h
        | ok x =>
          rw [hv] at h
          exact Except.ok.inj h ▸ .some ho hs hraw hv
    · rw [if_neg hs] at h
      cases h

theorem exists_givesVersion_iff :
    (∃ v, GivesVersion text v) ↔ Ini.Orderly (Ini.statements text) ∧
      projectSection ∈ Ini.headers (Ini.statements text) ∧
      ∀ raw, Ini.valueOf (Ini.statements text) projectSection projectOption = some raw →
        ∃ v, Ini.Contents.expanded (Ini.optionsIn (Ini.statements text) projectSection) projectSection
          projectOption raw = .ok v := by
  constructor
  · rintro ⟨v, h⟩
    cases h with
    | none ho hs hv => exact ⟨ho, hs, fun raw hraw => by cases hv.symm.trans hraw⟩
    | some ho hs hraw hv =>
      refine ⟨ho, hs, fun raw' hraw' => ?_⟩
      obtain rfl := Option.some.inj (hraw.symm.trans hraw')
      exact ⟨_, hv⟩
  · rintro ⟨ho, hs, hexpanded⟩
    cases hraw : Ini.valueOf (Ini.statements text) projectSection projectOption with
    | none => exact ⟨none, .none ho hs hraw⟩
    | some raw =>
      obtain ⟨v, hv⟩ := hexpanded raw hraw
      exact ⟨_, .some ho hs hraw hv⟩

end

/-! ## the file -/

theorem exists?_of_text? {s : Surroundings} {p : Path} {text : String} (h : s.text? p = some text) :
    s.exists? p = true := by
  unfold Surroundings.text? at h
  unfold Surroundings.exists?
  cases hp : s.locate p with
  | none => rw [hp] at h; cases h
  | some place => rfl

theorem projectVersion_of_text {s : Surroundings} {text : String} {v : Option String}
    (ht : s.text? projectFile = some text) : projectVersion s = .ok v ↔ GivesVersion text v := by
  unfold projectVersion readSections
  rw [if_pos (exists?_of_text? ht), ht, givesVersion_iff]
  dsimp only
  cases hread : Ini.read text with
  | ok i =>
    obtain ⟨ho, rfl⟩ := Ini.read_eq_ok_iff.1 hread
    exact ⟨fun h => ⟨ho, h⟩, fun h => h.2⟩
  | error e =>
    constructor
    · intro h
      cases h
    · rintro ⟨ho, -⟩
      cases hread.symm.trans (Ini.read_eq_ok_iff.2 ⟨ho, rfl⟩)

theorem projectVersion_ok_iff {s : Surroundings} {v : Option String} :
    projectVersion s = .ok v ↔
      (s.exists? projectFile = false ∧ v = none) ∨
        ∃ text, s.text? projectFile = some text ∧ GivesVersion text v := by
  cases ht : s.text? projectFile with
  | some text => simp [projectVersion_of_text ht, exists?_of_text? ht]
  | none =>
    unfold projectVersion readSections
    rw [ht]
    cases s.exists? projectFile with
    | false => simp [eq_comm]
    | true =>
      -- a directory has no sections
      have hdirectory : versionIn {} = .error (.missingKey (Text.quoted projectSection)) := rfl
      show versionIn {} = _ ↔ _
      rw [hdirectory]
      simp

/-- if the importing package tells none, then the version is that of the project file, or the first one
if the file tells none either -/
theorem programVersion_of_unknown {packages : Packages} {importer : Option Importer}
    (h : importer.elim (some none) (importerVersion packages) = some none) (s : Surroundings) :
    programVersion s packages importer = (projectVersion s).map fun v => v.getD firstVersion := by
  unfold programVersion
  rw [h]
  dsimp only
  cases projectVersion s with
  | error e => rfl
  | ok v => rfl

/-- Whatever the project file holds, looking up the version fails exactly if the file is there and is not
an orderly text that has the section of the project and, if it has a value for the version, one that can
be expanded.  Else the version is that value without its quotation marks, or none; a value without a
percent sign stands for itself.  And if the importing package tells no version, a schema gets this one,
or the first one if there is none; an error of the lookup is the end of its making. -/
theorem project_version_iff {σ : Type} (s : Surroundings) :
    ((∃ e, projectVersion s = .error e) ↔ s.exists? projectFile = true ∧
      ∀ text, s.text? projectFile = some text → ¬ (Ini.Orderly (Ini.statements text) ∧
        projectSection ∈ Ini.headers (Ini.statements text) ∧
        ∀ raw, Ini.valueOf (Ini.statements text) projectSection projectOption = some raw →
          ∃ v, Ini.Contents.expanded (Ini.optionsIn (Ini.statements text) projectSection)
            projectSection projectOption raw = .ok v)) ∧
    (∀ v, projectVersion s = .ok v ↔ (s.exists? projectFile = false ∧ v = none) ∨
      ∃ text, s.text? projectFile = some text ∧ GivesVersion text v) ∧
    (∀ text raw, s.text? projectFile = some text → Ini.Orderly (Ini.statements text) →
      projectSection ∈ Ini.headers (Ini.statements text) →
      Ini.valueOf (Ini.statements text) projectSection projectOption = some raw →
      '%' ∉ raw.toList → projectVersion s = .ok (some (Text.removeChar '"' raw))) ∧
    ∀ (d : Declaration) (packages : Packages) (w w' : World σ) (c : Class),
      outcome (d.hooked : Run σ Class) w = (.ok c, w') → (∀ f ∈ d.kinds, c.Settles d.given f) →
      d.importer.elim (some none) (importerVersion packages) = some none →
      ∃ c' : Class, outcome (d.make s packages : Run σ Schema) w =
        ((projectVersion s).map fun v =>
          ⟨c'.setMember versionName (.text (v.getD firstVersion)), d.kinds, d.lines⟩, w') := by
  refine ⟨?_, fun v => projectVersion_ok_iff, fun text raw ht ho hs hraw hpercent => ?_, ?_⟩
  · simp only [← exists_givesVersion_iff]
    cases hp : projectVersion s with
    | error e =>
      have hno : ∀ v, ¬ ((s.exists? projectFile = false ∧ v = none) ∨
          ∃ text, s.text? projectFile = some text ∧ GivesVersion text v) := by
        intro v hv
        cases hp.symm.trans (projectVersion_ok_iff.2 hv)
      refine ⟨fun _ => ⟨?_, fun text ht hv => ?_⟩, fun _ => ⟨e, rfl⟩⟩
      · cases hexists : s.exists? projectFile with
        | true => rfl
        | false => exact absurd (.inl ⟨hexists, rfl⟩) (hno none)
      · obtain ⟨v, hv⟩ := hv
        exact hno v (.inr ⟨text, ht, hv⟩)
    | ok v =>
      constructor
      · rintro ⟨e, he⟩
        cases he
      · rintro ⟨hexists, hno⟩
        rcases projectVersion_ok_iff.1 hp with ⟨hmissing, -⟩ | ⟨text, ht, hv⟩
        · cases hexists.symm.trans hmissing
        · exact absurd ⟨v, hv⟩ (hno text ht)
  · have hv := expanded_of_no_percent hpercent (Ini.optionsIn (Ini.statements text) projectSection)
      projectSection projectOption
    exact (projectVersion_of_text ht).2 (.some ho hs hraw hv)
  · intro d packages w w' c hook hsettles hunknown
    obtain ⟨c', hc', -⟩ := castDefaults_settle (nodup_kinds d) hsettles
    refine ⟨c', ?_⟩
    rw [make_of_castDefaults s packages hook hc', programVersion_of_unknown hunknown]
    cases projectVersion s with
    | error e => rfl
    | ok v => rfl

def withProjectFile (text : String) : Surroundings :=
  { entries := [(["pyproject.toml"], some text)] }

/-- a schema whose importing package is not known -/
def unknownImporter : Declaration :=
  { name := "Sample"
    home := "sample"
    fields := [⟨"x", some .int, some (.int 3)⟩]
    hook := none
    source := none
    importer := none }

/-- a file of another project is an error, in the making of a schema too, and one with a version is
not -/
theorem project_version_iff_sample :
    (∃ e, projectVersion (withProjectFile "[tool]\n") = .error e ∧
      outcome (unknownImporter.make (withProjectFile "[tool]\n") ⟨[], []⟩ : Run Unit Schema)
        { state := () } = (.error e, { state := () })) ∧
    projectVersion (withProjectFile "[tool.poetry]\nversion = \"1.2\"\n") = .ok (some "1.2") := by
  have htool : Ini.statements "[tool]\n" = [.header "tool"] := rfl
  have hpoetry : Ini.statements "[tool.poetry]\nversion = \"1.2\"\n" =
      [.header "tool.poetry", .option "version" ["\"1.2\""]] := rfl
  have hsettles : ∀ f ∈ unknownImporter.kinds,
      unknownImporter.form.Settles unknownImporter.given f := by
    intro f hf
    obtain rfl := List.mem_singleton.1 hf
    exact ⟨.int 3, .int 3, .int 3, .int 3, rfl, rfl, rfl, rfl⟩
  obtain ⟨hfails, -, -, hmake⟩ := @project_version_iff Unit (withProjectFile "[tool]\n")
  have hother : ∀ text, (withProjectFile "[tool]\n").text? projectFile = some text →
      projectSection ∉ Ini.headers (Ini.statements text) := by
    intro text ht
    obtain rfl : "[tool]\n" = text := Option.some.inj ht
    rw [htool]
    decide
  constructor
  · obtain ⟨e, he⟩ := hfails.2 ⟨rfl, fun text ht h => hother text ht h.2.1⟩
    obtain ⟨c', hc'⟩ := hmake unknownImporter ⟨[], []⟩ { state := () } _ _ rfl hsettles rfl
    rw [he] at hc'
    exact ⟨e, he, hc'⟩
  · refine (@project_version_iff Unit _).2.2.1 "[tool.poetry]\nversion = \"1.2\"\n" "\"1.2\"" rfl
      ?_ ?_ ?_ (by decide)
    · rw [hpoetry]
      exact ⟨.inr (by decide), ⟨"tool.poetry", rfl, rfl⟩, trivial⟩
    · rw [hpoetry]
      decide
    · rw [hpoetry]
      rfl

end CommandLine
