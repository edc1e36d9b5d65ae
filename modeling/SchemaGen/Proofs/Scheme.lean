import SchemaGen.Proofs.Host.Surroundings
import SchemaGen.Proofs.Model.Reading
import SchemaGen.Proofs.Package.Namespace
import SchemaGen.Proofs.Perl.Emission
import SchemaGen.Proofs.Settings.Checked
import SchemaGen.Scheme

/-!
# From a document to its classes

A run that generates the classes of some tables checks its settings first. Of settings that were
checked (`Settings.IsChecked`) it is known that the layout is one of those there are, and that the
namespace is a text of one line. All settings that a run loads are checked, from whatever form
(`isChecked_of_ofSource`), and the generation of a run is that of the Perl generator with them
(`generate_of_generateTables`).

`Stages` puts the whole way together: the document as it was read, names that are legible since the
reader trims them, a plain style, and the files that are emitted. Every run that succeeds over the
tables of a document goes through them (`stages_of_generateTables`), as long as no name goes over
two lines.
-/

namespace SchemaGen

open Text (IsLine EndsVisibly IsTidyLine)

/-! ## Checked settings -/

namespace Settings

theorem isLine_of_checkNamespace {v : Value} {name : String} (h : checkNamespace v = .ok name) :
    IsLine name := by
  rw [checkNamespace.eq_def] at h
  split at h
  · cases h
    decide
  · split at h
    · next hname =>
      cases h
      exact Package.isLine_of_isNamespace hname
    · cases h
  · cases h

/-- The layout of checked settings is one of those there are. -/
theorem IsChecked.exists_layout {s : Settings} (h : s.IsChecked) :
    ∃ layout : Perl.Layout, s.layout = .text layout.name := by
  obtain ⟨given, h⟩ := h
  obtain ⟨name, -, hlayout, rfl⟩ := check_eq_ok h
  show ∃ layout : Perl.Layout, given.layout = .text layout.name
  rw [checkLayout.eq_def] at hlayout
  split at hlayout
  · next l hl =>
    split at hlayout
    · next hmem =>
      rw [layoutNames, List.mem_cons, List.mem_singleton] at hmem
      rcases hmem with rfl | rfl
      · exact ⟨.classes, hl⟩
      · exact ⟨.namespaces, hl⟩
    · cases hlayout
  · cases hlayout

theorem layoutOf_name (layout : Perl.Layout) :
    Perl.layoutOf (.text layout.name) = .ok layout := by
  cases layout <;> rfl

/-- **Checked settings give a style that adds no lines of its own.** -/
theorem IsChecked.isPlain [Perl.Memory] {s : Settings} (h : s.IsChecked) {st : Perl.Style}
    (hst : Perl.styleOf s = .ok st) : st.IsPlain := by
  obtain ⟨given, h⟩ := h
  obtain ⟨name, hname, -, rfl⟩ := check_eq_ok h
  obtain ⟨-, hnameSpace, hindent, -⟩ := Perl.styleOf_eq_ok.1 hst
  refine ⟨?_, Perl.indentOf_eq_ok hindent⟩
  rw [namespaceName] at hnameSpace
  split at hnameSpace
  · cases hnameSpace
    exact isLine_of_checkNamespace hname
  · rw [← Except.ok.inj hnameSpace]
    decide

section Run

variable {session session' : Session}

/-- Settings that pass the check are used as it leaves them. -/
theorem perform_ofSource (session : Session) {given s : Settings} (h : given.check = .ok s) :
    session.perform (ofSource (.settings given)) = (.ok s, session) := by
  rw [ofSource, Session.perform_ofExcept, h]
  rfl

theorem isChecked_of_resolve {file overrides : Entries String Value} {s : Settings}
    (h : resolve file overrides = .ok s) : s.IsChecked := by
  obtain ⟨given, -, h⟩ := bind_eq_ok_iff.1 h
  exact ⟨given, h⟩

theorem isChecked_of_load {file : Option String} {overrides : Value} {s : Settings}
    (h : session.perform (load file overrides) = (.ok s, session')) : s.IsChecked := by
  rw [load.eq_def] at h
  split at h
  all_goals
    obtain ⟨fields, _, -, h⟩ := Session.perform_bind_eq_ok h
    obtain ⟨given, _, -, h⟩ := Session.perform_bind_eq_ok h
    exact isChecked_of_resolve (Session.perform_ofExcept_eq_ok h).1

/-- **All settings that a run loads are checked.** -/
theorem isChecked_of_ofSource {source : Source} {s : Settings}
    (h : session.perform (ofSource source) = (.ok s, session')) : s.IsChecked := by
  rw [ofSource.eq_def] at h
  split at h
  · next given => exact ⟨given, (Session.perform_ofExcept_eq_ok h).1⟩
  · exact isChecked_of_load h
  · exact isChecked_of_load h

end Run

end Settings

/-! ## Classes in a run -/

namespace Scheme

/-- Every generator of this library is that of the Perl classes. -/
theorem generator_of_create [Perl.Memory] {session session' : Session} {target : String}
    {s : Settings} {g : Generator}
    (h : session.perform (Registry.shipped.create target (.settings s)) = (.ok g, session')) :
    g = Perl.generator s := by
  obtain ⟨family, _, -, h⟩ := Session.perform_bind_eq_ok h
  obtain ⟨s', _, hs, h⟩ := Session.perform_bind_eq_ok h
  cases hs
  cases family
  cases (Session.perform_ofExcept_eq_ok h).1
  rfl

/-- **A run generates with checked settings**, those that it loads. -/
theorem generate_of_generateTables [Perl.Memory] {session session' : Session}
    {tables : List Model.Table}
    {target : String} {source : Settings.Source} {generation : Generation}
    (h : session.perform (generateTables tables target source) = (.ok generation, session')) :
    ∃ s, (session.perform (Settings.ofSource source)).1 = .ok s ∧ s.IsChecked ∧
      generation = ((Perl.generator s).generate tables).2 := by
  obtain ⟨s, _, hs, h⟩ := Session.perform_bind_eq_ok h
  obtain ⟨g, _, hg, h⟩ := Session.perform_bind_eq_ok h
  obtain ⟨_, _, -, h⟩ := Session.perform_bind_eq_ok h
  cases h
  rw [generator_of_create hg]
  exact ⟨s, by rw [hs], Settings.isChecked_of_ofSource hs, rfl⟩

/-- Names of modules can be taken apart where modules are written. -/
theorem separator_destination_ne_empty (s : Settings) : (destination s).separator ≠ "" := by
  show ModuleName.separator ≠ ""
  decide

/-! ## Names of a document -/

/-- A name that was read and stands on one line is legible. -/
theorem isTidyLine_of_isName {s : String} (h : Text.IsName s) (hline : IsLine s) : IsTidyLine s :=
  ⟨hline, Text.endsVisibly_of_last h.ne_empty h.last_not_blank⟩

/-- **The names of a document are legible** if they stand on one line each. -/
theorem areLegible_of_readsAs {root : Xml.Element} {tables : List Model.Table}
    (h : Model.ReadsAs root tables)
    (hline : ∀ t ∈ tables, IsLine t.name ∧ ∀ c ∈ t.columns, IsLine c) :
    Perl.AreLegible tables := by
  have hname : ∀ t ∈ tables, IsTidyLine t.name := fun t ht =>
    isTidyLine_of_isName (h.isName_name t ht) (hline t ht).1
  exact {
    name := hname
    column := fun t ht c hc =>
      isTidyLine_of_isName (h.isName_column t ht c hc) ((hline t ht).2 c hc)
    primaryKey := fun t ht c hc => (hline t ht).2 c (h.primaryKey_subset t ht hc)
    referenced := fun l hl => by
      obtain ⟨t, ht, he⟩ := List.mem_map.1 (h.referenced_mem l (h.links_perm.subset hl))
      exact he ▸ hname t ht
    pair := fun l hl => h.pair_lineFeed l (h.links_perm.subset hl) }

/-! ## The whole way -/

/-- **The stages from a document to its files.** -/
structure Stages (root : Xml.Element) (tables : List Model.Table) (st : Perl.Style)
    (schemaName : String) (p : Product) : Prop where
  readsAs : Model.ReadsAs root tables
  legible : Perl.AreLegible tables
  plain : st.IsPlain
  emits : Perl.Emits st schemaName tables p

theorem exists_product {generation : Generation} (h : generation.isSuccess = true) :
    ∃ p, generation.outcome = .ok p := by
  rw [Generation.isSuccess] at h
  split at h
  · next p hp => exact ⟨p, hp⟩
  · cases h

/-- **A run that succeeds over the tables of a document goes through all stages.** -/
theorem stages_of_generateTables [Perl.Memory] {document : Model.Source} {tables : List Model.Table}
    (hread : document.read.outcome = .ok tables)
    (hline : ∀ t ∈ tables, IsLine t.name ∧ ∀ c ∈ t.columns, IsLine c)
    {session session' : Session} {target : String} {source : Settings.Source}
    {generation : Generation}
    (hrun : session.perform (generateTables tables target source) = (.ok generation, session'))
    (hsuccess : generation.isSuccess = true) :
    ∃ root s st schemaName p, document.element = .ok root ∧
      (session.perform (Settings.ofSource source)).1 = .ok s ∧ s.layout = .text st.layout.name ∧
      generation = ⟨.ok p, none⟩ ∧ Stages root tables st schemaName p := by
  obtain ⟨root, hroot, hreads⟩ := Model.readsAs_of_read hread
  obtain ⟨s, hs, hchecked, rfl⟩ := generate_of_generateTables hrun
  obtain ⟨p, hp⟩ := exists_product hsuccess
  obtain ⟨layout, hlayout⟩ := hchecked.exists_layout
  obtain ⟨st, schemaName, hst, -, hemits⟩ := Perl.emits_of_generate
    (hlayout ▸ Settings.layoutOf_name layout) hreads.names_nodup hp
  exact ⟨root, s, st, schemaName, p, hroot, hs, Perl.layoutOf_eq_ok (Perl.styleOf_eq_ok.1 hst).1,
    Perl.generate_eq_ok hp, hreads, areLegible_of_readsAs hreads hline, hchecked.isPlain hst,
    hemits⟩

/-- A document of two tables, one of which refers to the other. -/
def sampleDocument : Model.Source :=
  .text ("<DBMODEL><METADATA><TABLES><TABLE Tablename='author'><COLUMNS>" ++
    "<COLUMN ColName='id' PrimaryKey='1'/></COLUMNS></TABLE><TABLE Tablename='book'/></TABLES>" ++
    "<RELATIONS><RELATION SrcTable='author' DestTable='book' FKFields='id=writer'/></RELATIONS>" ++
    "</METADATA></DBMODEL>")

/-- The tables of the sample. -/
def sampleTables : List Model.Table :=
  [{ name := "author", columns := ["id"], primaryKey := ["id"] },
   { name := "book", foreignKeys := [("author", [⟨"id", "writer"⟩])] }]

theorem read_sampleDocument : sampleDocument.read.outcome = .ok sampleTables := by
  decide +kernel

end Scheme

end SchemaGen
