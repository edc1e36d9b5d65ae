import SchemaGen.Proofs.Scheme

/-!
# No module is missing

The name of a module is written in five places: as the key of a file, in the first line of a source,
in the statements of either kind, and in the list of classes that the schema class loads. Each is
put together on its own, with empty parts left out and a segment that depends on the layout. They
agree: `IsClosed` says so of the texts, and every run that succeeds over the tables of a document
gives files that are closed in this sense (`isClosed_of_run`).
-/

namespace SchemaGen

open Model (Table links tableNames)
open Perl (Layout declarationsIn classesIn)
open Text (IsLine)
open Xml (Element)

/-- **The modules of a generation are closed**: every module that a source names is that of a file.
The files are those of the table classes, under `tableModules`, and of the schema class. -/
structure IsClosed (layout : Layout) (tables : List Table) (generation : Generation)
    (tableModules : List String) (schemaModule : String) : Prop where
  keys_eq : generation.files.keys = tableModules ++ [schemaModule]
  schemaModule_eq : Entries.get? generation.metadata "schema_module" = some (.text schemaModule)
  /-- A source starts with the line of its own module. -/
  firstLine : ∀ f ∈ generation.files,
    (Text.lines f.2).head? = some ("package " ++ f.1 ++ ";").toList
  /-- A statement leads to the class of a table, which the schema class is not. -/
  target : ∀ f ∈ generation.files, ∃ ds, declarationsIn f.2 = some ds ∧
    ∀ d ∈ ds, d.package ∈ tableModules ∧ d.package ≠ schemaModule
  /-- In the layout of classes, the classes that are loaded by name are those of the tables. -/
  classes : layout = .classes → ∃ source names, (schemaModule, source) ∈ generation.files ∧
    classesIn source = some names ∧ names.map (schemaModule ++ "::" ++ ·) = tableModules
  /-- In the layout of namespaces, the classes of the tables are where they are looked for. -/
  namespaces : layout = .namespaces →
    tableModules = (tableNames tables).map (schemaModule ++ "::Result::" ++ ·)

section Stages

variable {root : Element} {tables : List Table} {st : Perl.Style} {schemaName : String}
  {p : Product}

/-- The modules of the tables stand below that of the schema, as the layout has it. -/
theorem map_packageOf (h : Perl.Emits st schemaName tables p) :
    (tableNames tables).map (st.packageOf schemaName)
      = (tableNames tables).map (p.schemaModule ++ st.layout.infixText ++ ·) := by
  refine List.map_congr_left fun n hn => ?_
  obtain ⟨t, ht, rfl⟩ := List.mem_map.1 hn
  rw [h.schemaModule_eq]
  exact Perl.tablePackage_eq _ _ (Perl.ne_empty_of_mem_candidates h.schemaName_mem)
    (h.name_ne_empty t ht)

/-- A statement leads to the class of a table. -/
theorem package_mem (h : Scheme.Stages root tables st schemaName p) {t : Table}
    {d : Perl.Declaration} (hd : d ∈ (st.classOf schemaName tables t).declarations) :
    d.package ∈ (tableNames tables).map (st.packageOf schemaName) := by
  obtain ⟨kind, l, hl, -, rfl⟩ := Perl.exists_link_of_mem_declarations hd
  have hlink := h.readsAs.links_perm.subset hl
  have hother : kind.otherTable l ∈ tableNames tables := by
    cases kind with
    | hasMany => exact h.readsAs.table_mem l hlink
    | belongsTo => exact h.readsAs.referenced_mem l hlink
  exact List.mem_map_of_mem hother

/-- The names of tables do not start with the blanks that stand in front of them in a list. -/
theorem head?_ne_blank (h : Model.ReadsAs root tables) {n : String} (hn : n ∈ tableNames tables) :
    ∀ c ∈ n.toList.head?, c ≠ ' ' := by
  obtain ⟨t, ht, rfl⟩ := List.mem_map.1 hn
  rintro c hc rfl
  exact absurd ((h.isName_name t ht).head_not_blank ' ' hc) (by decide)

/-- **The list of classes to load comes back.** -/
theorem classesIn_schemaClass (h : Scheme.Stages root tables st schemaName p) :
    classesIn (st.schemaClass schemaName (tableNames tables)).render
      = if st.layout = .namespaces then none else some (tableNames tables) := by
  refine Perl.classesIn_render
    (Perl.isLinewise_schemaClass h.plain h.emits.schemaName_mem h.legible)
    (fun ns hns n hn => (Perl.isTidyLine_classes h.legible ns hns n hn).endsVisibly)
    h.plain.indent ?_
  intro ns hns n hn
  rw [Perl.mem_classes_schemaClass hns] at hn
  exact head?_ne_blank h.readsAs hn

/-- **All stages together give modules that are closed.** -/
theorem isClosed_of_stages (h : Scheme.Stages root tables st schemaName p) :
    IsClosed st.layout tables ⟨.ok p, none⟩ ((tableNames tables).map (st.packageOf schemaName))
      p.schemaModule := by
  have hfiles := h.emits.files_eq_render h.plain h.legible
  have hmem : ∀ f ∈ p.files, (∃ t ∈ tables, f = (st.packageOf schemaName t.name,
        (st.classOf schemaName tables t).render)) ∨
      f = (p.schemaModule, (st.schemaClass schemaName (tableNames tables)).render) := by
    intro f hf
    rw [hfiles, ← h.emits.schemaModule_eq, List.mem_append, List.mem_singleton] at hf
    refine hf.imp_left fun hf => ?_
    obtain ⟨t, ht, he⟩ := List.mem_map.1 hf
    exact ⟨t, ht, he.symm⟩
  have hlinewise := Perl.isLinewise_schemaClass h.plain h.emits.schemaName_mem h.legible
  exact {
    keys_eq := h.emits.keys_eq
    schemaModule_eq := rfl
    firstLine := by
      intro f hf
      rcases hmem f hf with ⟨t, ht, rfl⟩ | rfl
      · exact Perl.ResultClass.head?_lines_render
          (Perl.isLinewise_classOf h.plain h.emits.schemaName_mem h.legible ht)
          (Perl.endsVisibly_columns h.legible ht)
      · rw [h.emits.schemaModule_eq]
        exact Perl.SchemaClass.head?_lines_render hlinewise
          fun ns hns n hn => (Perl.isTidyLine_classes h.legible ns hns n hn).endsVisibly
    target := by
      intro f hf
      rcases hmem f hf with ⟨t, ht, rfl⟩ | rfl
      · refine ⟨_, Perl.declarationsIn_classOf h.plain h.emits.schemaName_mem h.legible ht, ?_⟩
        intro d hd
        have hpackage := package_mem h hd
        refine ⟨hpackage, fun he => ?_⟩
        obtain ⟨n, hn, hpackage⟩ := List.mem_map.1 hpackage
        obtain ⟨u, hu, rfl⟩ := List.mem_map.1 hn
        exact h.emits.packageOf_ne_schemaModule hu (hpackage.trans he)
      · exact ⟨[], Perl.declarationsIn_schemaClass h.plain h.emits.schemaName_mem h.legible,
          fun d hd => by cases hd⟩
    classes := by
      intro hlayout
      refine ⟨(st.schemaClass schemaName (tableNames tables)).render, tableNames tables, ?_, ?_, ?_⟩
      · show _ ∈ p.files
        rw [hfiles, h.emits.schemaModule_eq]
        exact List.mem_append_right _ (List.mem_singleton.2 rfl)
      · rw [classesIn_schemaClass h, hlayout]
        rfl
      · rw [map_packageOf h.emits, hlayout]
        rfl
    namespaces := by
      intro hlayout
      rw [map_packageOf h.emits, hlayout]
      rfl }

end Stages

/-- **No run leaves a module out**: whatever document is accepted whose names stand on one line
each, and whatever settings are taken, the modules of a generation that succeeds are closed. -/
theorem isClosed_of_run [Perl.Memory] {document : Model.Source} {tables : List Table}
    (hread : document.read.outcome = .ok tables)
    (hline : ∀ t ∈ tables, IsLine t.name ∧ ∀ c ∈ t.columns, IsLine c)
    {session session' : Session} {target : String} {source : Settings.Source}
    {generation : Generation}
    (hrun : session.perform (Scheme.generateTables tables target source)
      = (.ok generation, session'))
    (hsuccess : generation.isSuccess = true) :
    ∃ s layout tableModules schemaModule,
      (session.perform (Settings.ofSource source)).1 = .ok s ∧
      s.layout = .text (Layout.name layout) ∧
      IsClosed layout tables generation tableModules schemaModule := by
  obtain ⟨_, s, st, schemaName, p, -, hs, hlayout, rfl, hstages⟩ :=
    Scheme.stages_of_generateTables hread hline hrun hsuccess
  exact ⟨s, st.layout, _, p.schemaModule, hs, hlayout, isClosed_of_stages hstages⟩

/-- The sample document, generated in the layout of namespaces. -/
theorem isClosed_sample :
    ∃ generation session' layout tableModules schemaModule,
      Session.perform {} (Scheme.generateTables Scheme.sampleTables "dbic"
        (.value (.object [("layout", .text "namespaces")]))) = (.ok generation, session') ∧
      IsClosed layout Scheme.sampleTables generation tableModules schemaModule := by
  have hrun : Session.perform {} (Scheme.generateTables Scheme.sampleTables "dbic"
        (.value (.object [("layout", .text "namespaces")])))
      = (.ok ((Perl.generator { layout := .text "namespaces" }).generate Scheme.sampleTables).2,
        (Session.perform {} (Scheme.generateTables Scheme.sampleTables "dbic"
          (.value (.object [("layout", .text "namespaces")])))).2) :=
    rfl
  obtain ⟨s, layout, tableModules, schemaModule, -, -, h⟩ := isClosed_of_run
    Scheme.read_sampleDocument (by decide) hrun (by decide +kernel)
  exact ⟨_, _, layout, tableModules, schemaModule, hrun, h⟩

end SchemaGen
