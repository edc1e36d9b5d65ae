import SchemaGen.Proofs.Scheme

/-!
# No foreign key is lost

The foreign keys of a document go through four stages: the relations are resolved, their pairs are
grouped by table, every group is entered at both of its ends, and each end declares its pairs one by
one. At the end of the way every entry of a relation stands in the source of two classes, once as a
`belongs_to` and once as a `has_many`, and no class declares anything else
(`conservesForeignKeys_of_run`).

What a class declares is read off its source (`declarationsIn`), and what it should declare off the
document (`documentLinks`), so that the statement does not lean on the stages in between.
-/

namespace SchemaGen

open Model (Table Link links documentLinks tableNames)
open Perl (Declaration RelationshipKind declarationsIn declarationsOf)
open Text (IsLine)
open Xml (Element)

/-! ## Declarations all together -/

/-- How many declarations of a kind follow the primary keys of some sources, all together. -/
def countDeclarations (kind : RelationshipKind) (files : Entries String String) : Nat :=
  (files.values.flatMap fun source => (declarationsIn source).getD []).countP (·.kind = kind)

theorem declarationsOf_perm (kind : RelationshipKind) (packageOf : String → String)
    {ls ms : List Link} (h : ls.Perm ms) (table : String) :
    (declarationsOf kind packageOf ls table).Perm (declarationsOf kind packageOf ms table) :=
  (h.filter _).map _

/-- The declarations of a kind in a class are those of the links at that end. -/
theorem filter_declarations_perm (kind : RelationshipKind) (st : Perl.Style) (schemaName : String)
    (tables : List Table) (t : Table) :
    ((st.classOf schemaName tables t).declarations.filter (·.kind = kind)).Perm
      (declarationsOf kind (st.packageOf schemaName) (links tables) t.name) := by
  rw [Perl.filter_declarations]
  cases kind with
  | hasMany => exact Perl.hasMany_perm st schemaName tables t
  | belongsTo => exact Perl.belongsTo_perm st schemaName tables t

/-- **Every link is declared once at either end**, whatever the tables are called. -/
theorem flatMap_declarationsOf_perm (kind : RelationshipKind) (packageOf : String → String)
    {tables : List Table} {ls : List Link} (hn : (tableNames tables).Nodup)
    (h : ∀ l ∈ ls, kind.ownTable l ∈ tableNames tables) :
    (tables.flatMap fun t => declarationsOf kind packageOf ls t.name).Perm
      (ls.map fun l => .ofPair kind (packageOf (kind.otherTable l)) l.pair) := by
  have hparts := (Entries.flatMap_filter_perm kind.ownTable hn h).map fun l =>
    Declaration.ofPair kind (packageOf (kind.otherTable l)) l.pair
  rwa [List.map_flatMap, tableNames, List.flatMap_map] at hparts

/-- **A generation conserves the foreign keys of a document.** Its files are the classes of the
tables in order, under the packages that `packageOf` gives, and the schema class. -/
structure ConservesForeignKeys (root : Element) (tables : List Table) (generation : Generation)
    (packageOf : String → String) (schemaModule : String) : Prop where
  keys_eq : generation.files.keys = (tableNames tables).map packageOf ++ [schemaModule]
  keys_nodup : generation.files.keys.Nodup
  /-- The statements after the primary key are the declarations of the links at either end, the
  `has_many` ones first. -/
  tableClass : ∀ t ∈ tables, ∃ source hasMany belongsTo,
    (packageOf t.name, source) ∈ generation.files ∧
    declarationsIn source = some (hasMany ++ belongsTo) ∧
    hasMany.Perm (declarationsOf .hasMany packageOf (documentLinks root) t.name) ∧
    belongsTo.Perm (declarationsOf .belongsTo packageOf (documentLinks root) t.name)
  schemaClass : ∃ source, (schemaModule, source) ∈ generation.files ∧
    declarationsIn source = some []
  count_eq : ∀ kind, countDeclarations kind generation.files = (documentLinks root).length
  relationshipCount_eq : Entries.get? generation.metadata "relationship_count"
    = some (.int (documentLinks root).length)

/-! ## Through all stages -/

section Stages

variable {root : Element} {tables : List Table} {st : Perl.Style} {schemaName : String}
  {p : Product}

theorem ownTable_mem (h : Model.ReadsAs root tables) (kind : RelationshipKind) {l : Link}
    (hl : l ∈ documentLinks root) : kind.ownTable l ∈ tableNames tables := by
  cases kind with
  | hasMany => exact h.referenced_mem l hl
  | belongsTo => exact h.table_mem l hl

/-- All declarations of a kind together are as many as the links of the document. -/
theorem countDeclarations_eq (h : Scheme.Stages root tables st schemaName p)
    (kind : RelationshipKind) :
    countDeclarations kind p.files = (documentLinks root).length := by
  -- the schema class declares nothing, so only the classes of the tables count
  have hsources : (p.files.values.flatMap fun source => (declarationsIn source).getD [])
      = tables.flatMap fun t => (st.classOf schemaName tables t).declarations := by
    rw [h.emits.files_eq_render h.plain h.legible, Entries.values, List.map_append, List.map_map,
      List.map_singleton, List.flatMap_append, List.flatMap_map, List.flatMap_singleton,
      Perl.declarationsIn_schemaClass h.plain h.emits.schemaName_mem h.legible, Option.getD_some,
      List.append_nil]
    refine List.flatMap_congr fun t ht => ?_
    rw [Function.comp_apply,
      Perl.declarationsIn_classOf h.plain h.emits.schemaName_mem h.legible ht, Option.getD_some]
  have hends : ∀ l ∈ links tables, kind.ownTable l ∈ tableNames tables := fun l hl =>
    ownTable_mem h.readsAs kind (h.readsAs.links_perm.subset hl)
  have hperm := (List.Perm.flatMap_left tables fun t _ =>
      filter_declarations_perm kind st schemaName tables t).trans
    (flatMap_declarationsOf_perm kind (st.packageOf schemaName) h.readsAs.names_nodup hends)
  rw [countDeclarations, hsources, List.countP_eq_length_filter, List.filter_flatMap,
    hperm.length_eq, List.length_map]
  exact h.readsAs.links_perm.length_eq

/-- **All stages together conserve the foreign keys.** -/
theorem conserves_of_stages (h : Scheme.Stages root tables st schemaName p) :
    ConservesForeignKeys root tables ⟨.ok p, none⟩ (st.packageOf schemaName) p.schemaModule where
  keys_eq := h.emits.keys_eq
  keys_nodup := h.emits.keys_nodup h.readsAs.names_nodup
  tableClass := by
    intro t ht
    refine ⟨_, _, _, ?_, Perl.declarationsIn_classOf h.plain h.emits.schemaName_mem h.legible ht,
      ?_, ?_⟩
    · show _ ∈ p.files
      rw [h.emits.files_eq_render h.plain h.legible]
      exact List.mem_append_left _ (List.mem_map_of_mem ht)
    · exact (Perl.hasMany_perm st schemaName tables t).trans
        (declarationsOf_perm _ _ h.readsAs.links_perm _)
    · exact (Perl.belongsTo_perm st schemaName tables t).trans
        (declarationsOf_perm _ _ h.readsAs.links_perm _)
  schemaClass := by
    refine ⟨_, ?_, Perl.declarationsIn_schemaClass h.plain h.emits.schemaName_mem h.legible⟩
    show _ ∈ p.files
    rw [h.emits.files_eq_render h.plain h.legible, h.emits.schemaModule_eq]
    exact List.mem_append_right _ (List.mem_singleton.2 rfl)
  count_eq := countDeclarations_eq h
  relationshipCount_eq := by
    rw [← h.readsAs.links_perm.length_eq, ← h.emits.relationshipCount_eq]
    rfl

end Stages

/-- **No run loses a foreign key**: whatever document is accepted whose names stand on one line
each, and whatever settings are taken, a generation that succeeds conserves all its foreign keys. -/
theorem conservesForeignKeys_of_run [Perl.Memory] {document : Model.Source} {tables : List Table}
    (hread : document.read.outcome = .ok tables)
    (hline : ∀ t ∈ tables, IsLine t.name ∧ ∀ c ∈ t.columns, IsLine c)
    {session session' : Session} {target : String} {source : Settings.Source}
    {generation : Generation}
    (hrun : session.perform (Scheme.generateTables tables target source)
      = (.ok generation, session'))
    (hsuccess : generation.isSuccess = true) :
    ∃ root packageOf schemaModule, document.element = .ok root ∧
      ConservesForeignKeys root tables generation packageOf schemaModule := by
  obtain ⟨root, _, st, schemaName, p, hroot, -, -, rfl, hstages⟩ :=
    Scheme.stages_of_generateTables hread hline hrun hsuccess
  exact ⟨root, st.packageOf schemaName, p.schemaModule, hroot, conserves_of_stages hstages⟩

/-- The sample document, generated with the settings by default. -/
theorem conservesForeignKeys_sample :
    ∃ generation session' root packageOf schemaModule,
      Session.perform {} (Scheme.generateTables Scheme.sampleTables "dbic" (.value .null))
        = (.ok generation, session') ∧
      Scheme.sampleDocument.element = .ok root ∧
      ConservesForeignKeys root Scheme.sampleTables generation packageOf schemaModule := by
  have hrun : Session.perform {} (Scheme.generateTables Scheme.sampleTables "dbic" (.value .null))
      = (.ok ((Perl.generator {}).generate Scheme.sampleTables).2,
        (Session.perform {} (Scheme.generateTables Scheme.sampleTables "dbic" (.value .null))).2) :=
    rfl
  obtain ⟨root, packageOf, schemaModule, h⟩ := conservesForeignKeys_of_run
    Scheme.read_sampleDocument (by decide) hrun (by decide +kernel)
  exact ⟨_, _, root, packageOf, schemaModule, hrun, h⟩

end SchemaGen
