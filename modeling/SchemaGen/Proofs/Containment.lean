import SchemaGen.Proofs.Files.Path
import SchemaGen.Proofs.Package.Segments
import SchemaGen.Proofs.Scheme

/-!
# Where the files of a document come to stand

The path of a class leads from the output directory along the segments of its package. Those of the
namespace, the name of the schema class and the segment of the layout are words, so they never lead
out of the directory. What the name of a table is cut into is taken as it is, and so is the file
extension; neither is checked for what it means in a path.

So the file of a table stays below the directory just if none of the steps of its own leads up, as
long as none of them starts with a slash; and if one of them does, the file does not depend on the
directory at all (`arePlaced_of_run`). Nothing keeps a document from making use of this: the file of
a table whose name starts with `../../` is found above that of the schema class and outside of the
directory (`not_isBelow_climbing`), and a slash at the start of a name leads to the root.
-/

namespace SchemaGen

open Model (Table tableNames)
open ModuleName (separator segments AreWords)

namespace Settings

theorem areWords_of_checkNamespace {v : Value} {name : String} (h : checkNamespace v = .ok name) :
    AreWords name := by
  rw [checkNamespace.eq_def] at h
  split at h
  · cases h
    exact Package.areWords_of_isNamespace rfl
  · split at h
    · next hname =>
      cases h
      exact Package.areWords_of_isNamespace hname
    · cases h
  · cases h

/-- **The namespace of checked settings consists of words.** -/
theorem IsChecked.areWords_nameSpace {s : Settings} (h : s.IsChecked) {name : String}
    (hname : s.namespaceName = .ok name) : AreWords name := by
  obtain ⟨given, h⟩ := h
  obtain ⟨checked, hchecked, -, rfl⟩ := check_eq_ok h
  rw [namespaceName] at hname
  split at hname
  · cases hname
    exact areWords_of_checkNamespace hchecked
  · rw [← Except.ok.inj hname]
    exact Package.areWords_of_isNamespace rfl

end Settings

namespace Path

/-- **A word is a component of a path as it stands**, -/
theorem isComponentText_of_isWordText {s : String} (h : Text.IsWordText s) :
    IsComponentText s where
  slash_not_mem := fun hm => absurd (h.isWord '/' hm) (by decide)
  counts := by
    simp only [isComponent, Bool.and_eq_true, decide_eq_true_eq]
    exact ⟨h.ne_empty, fun he => absurd (h.isWord '.' (he ▸ by decide)) (by decide)⟩

/-- and not the one that leads up. -/
theorem not_leadsUp_of_isWordText {s : String} (h : Text.IsWordText s) : ¬ LeadsUp s := by
  rw [leadsUp_iff, (isComponentText_of_isWordText h).components_eq, List.mem_singleton]
  exact fun hup => absurd (h.isWord '.' (hup ▸ by decide)) (by decide)

end Path

namespace Scheme

/-- The file of a module that stands in a namespace of words, by the segments below it. -/
theorem exists_standsAt {s : Settings} {output : String} (houtput : s.outputPath = .text output)
    (hne : output ≠ "") {nameSpace module : String} {own : List String} (hown : own ≠ [])
    (hwords : AreWords nameSpace)
    (hsegments : segments separator module = segments separator nameSpace ++ own) :
    ∃ path, (destination s).pathOf module = .ok path ∧
      Path.StandsAt (Path.ofString output) ((destination s).steps own) path := by
  have hdirectory : (destination s).directory = some (Path.ofString output) := by
    show Destination.directoryOf s.outputPath.text? = _
    rw [houtput]
    exact if_neg hne
  have hne' : segments separator module ≠ [] := by
    rw [hsegments]
    exact List.append_ne_nil_of_right_ne_nil _ hown
  have hpath := Destination.pathOf_eq_ok (separator_destination_ne_empty s) hne'
  rw [hdirectory, Option.getD_some, show (destination s).separator = separator from rfl, hsegments,
    Destination.steps_append _ _ hown] at hpath
  refine ⟨_, hpath, Path.standsAt_joinAll _ fun step hstep => ?_⟩
  have hword := hwords.isWordText hstep
  exact ⟨(Path.isComponentText_of_isWordText hword).not_isRooted,
    Path.not_leadsUp_of_isWordText hword⟩

end Scheme

/-! ## The files of a run -/

/-- The segments of a table's class below the namespace. -/
def Perl.Layout.ownSegments (layout : Perl.Layout) (schemaName table : String) : List String :=
  schemaName :: layout.tableSegment.toList ++ segments separator table

/-- **Where the files of a generation come to stand**: that of every table, and that of the schema
class, by the steps that lead to it behind the namespace. -/
structure ArePlaced (s : Settings) (directory : Path) (tables : List Table) (p : Product)
    (layout : Perl.Layout) (schemaName : String) (packageOf : String → String) : Prop where
  keys_eq : p.files.keys = (tableNames tables).map packageOf ++ [p.schemaModule]
  table : ∀ t ∈ tables, ∃ path, (Scheme.destination s).pathOf (packageOf t.name) = .ok path ∧
    Path.StandsAt directory
      ((Scheme.destination s).steps (layout.ownSegments schemaName t.name)) path
  schema : ∃ path, (Scheme.destination s).pathOf p.schemaModule = .ok path ∧
    Path.StandsAt directory ((Scheme.destination s).steps [schemaName]) path

/-- **Whether the files of a run stay below the output directory** is decided by the names of the
tables and the file extension alone. -/
theorem arePlaced_of_run [Perl.Memory] {document : Model.Source} {tables : List Table}
    (hread : document.read.outcome = .ok tables) {session session' : Session} {target : String}
    {source : Settings.Source} {generation : Generation}
    (hrun : session.perform (Scheme.generateTables tables target source)
      = (.ok generation, session'))
    (hsuccess : generation.isSuccess = true) {s : Settings}
    (hs : (session.perform (Settings.ofSource source)).1 = .ok s) {output : String}
    (houtput : s.outputPath = .text output) (hne : output ≠ "") :
    ∃ p layout schemaName packageOf, generation.outcome = .ok p ∧
      s.layout = .text layout.name ∧ schemaName ∈ Package.schemaNameCandidates ∧
      ArePlaced s (Path.ofString output) tables p layout schemaName packageOf := by
  obtain ⟨root, -, hreads⟩ := Model.readsAs_of_read hread
  obtain ⟨s', hs', hchecked, rfl⟩ := Scheme.generate_of_generateTables hrun
  cases hs.symm.trans hs'
  obtain ⟨p, hp⟩ := Scheme.exists_product hsuccess
  obtain ⟨layout, hlayout⟩ := hchecked.exists_layout
  obtain ⟨st, schemaName, hst, -, hemits⟩ := Perl.emits_of_generate
    (hlayout ▸ Settings.layoutOf_name layout) hreads.names_nodup hp
  obtain ⟨hstLayout, hnameSpace, -⟩ := Perl.styleOf_eq_ok.1 hst
  have hwords := hchecked.areWords_nameSpace hnameSpace
  refine ⟨p, st.layout, schemaName, st.packageOf schemaName, hp, Perl.layoutOf_eq_ok hstLayout,
    hemits.schemaName_mem, hemits.keys_eq, fun t ht => ?_, ?_⟩
  · refine Scheme.exists_standsAt houtput hne (List.cons_ne_nil _ _) hwords ?_
    rw [Perl.Style.packageOf, Perl.segments_tablePackage hwords _ hemits.schemaName_mem
      (hemits.name_ne_empty t ht), List.append_assoc]
    rfl
  · refine Scheme.exists_standsAt houtput hne (List.cons_ne_nil _ _) hwords ?_
    rw [hemits.schemaModule_eq, Perl.segments_schemaPackage hwords hemits.schemaName_mem]

/-- An output directory, with everything else by default. -/
def belowLib : Settings.Source := .value (.object [("output_path", .text "lib")])

/-- The settings that these are. -/
def libSettings : Settings := { nameSpace := .text "", outputPath := .text "lib" }

/-- The sample document, generated below a directory. -/
theorem arePlaced_sample :
    ∃ generation session' p layout schemaName packageOf,
      Session.perform {} (Scheme.generateTables Scheme.sampleTables "dbic" belowLib)
        = (.ok generation, session') ∧
      generation.outcome = .ok p ∧
      ArePlaced libSettings (Path.ofString "lib") Scheme.sampleTables p layout schemaName
        packageOf := by
  have hrun : Session.perform {} (Scheme.generateTables Scheme.sampleTables "dbic" belowLib)
      = (.ok ((Perl.generator libSettings).generate Scheme.sampleTables).2,
        (Session.perform {} (Scheme.generateTables Scheme.sampleTables "dbic" belowLib)).2) :=
    rfl
  obtain ⟨p, layout, schemaName, packageOf, hp, -, -, hplaced⟩ := arePlaced_of_run
    Scheme.read_sampleDocument hrun (by decide +kernel) rfl rfl (by decide)
  exact ⟨_, _, p, layout, schemaName, packageOf, hrun, hp, hplaced⟩

/-- A document with a table whose name leads up. -/
def climbingDocument : Model.Source :=
  .text "<DBMODEL><METADATA><TABLES><TABLE Tablename='../../up'/></TABLES></METADATA></DBMODEL>"

/-- **A name that is accepted leads out of the output directory**, and the run succeeds. -/
theorem not_isBelow_climbing :
    ∃ tables generation session' p path,
      climbingDocument.read.outcome = .ok tables ∧
      Session.perform {} (Scheme.generateTables tables "dbic" belowLib)
        = (.ok generation, session') ∧
      generation.outcome = .ok p ∧ "DBIC_Scheme::../../up" ∈ p.files.keys ∧
      (Scheme.destination libSettings).pathOf "DBIC_Scheme::../../up" = .ok path ∧
      ¬ Path.IsBelow (Path.ofString "lib") path := by
  have hread : climbingDocument.read.outcome = .ok [{ name := "../../up" }] := by decide +kernel
  have hkeys : ((Perl.generator libSettings).generate [{ name := "../../up" }]).2.files.keys
      = ["DBIC_Scheme::../../up", "DBIC_Scheme"] := by decide +kernel
  have hsuccess : ((Perl.generator libSettings).generate [{ name := "../../up" }]).2.isSuccess
      = true := by decide +kernel
  obtain ⟨p, hp⟩ := Scheme.exists_product hsuccess
  have hmem : "DBIC_Scheme::../../up" ∈ p.files.keys := by
    rw [Generation.files, hp] at hkeys
    exact hkeys ▸ List.mem_cons_self
  exact ⟨_, _, _, p, ⟨.working, ["lib", "DBIC_Scheme", "..", "..", "up.pm"]⟩, hread, rfl, hp, hmem,
    by decide +kernel, by decide +kernel⟩

end SchemaGen
