import SchemaGen.Proofs.Perl.Emission
import SchemaGen.Proofs.Scheme

/-!
# The modules of a generation

The sources of a generation stand under the names of their modules: those of the tables, each at the
first occurrence of its name, and then that of the schema class (`HasModules`). Names may repeat. A
table that has the name of an earlier one takes over its place, and its class is the one that
counts.

That the schema class comes last takes an argument, since a source under a module that is there
already would take over the place of this module as well. But no table has the module of the schema
class: between the two stands a part that is not empty, the name of the table
(`tablePackage_ne_schemaPackage`), so a table that is named like a schema class is not in its way.
-/

namespace SchemaGen.Perl

open Model (Table Relations tableNames)

section Product

variable {st : Style} {schemaName : String} {tables : List Table} {p : Product}

theorem IsProductOf.schemaName_ne_empty (h : IsProductOf st schemaName tables p) :
    schemaName ≠ "" :=
  ne_empty_of_mem_candidates (mem_of_chooseSchemaName h.schemaName_eq)

/-- **The modules are those of the tables**, in the order in which their names occur first, and that
of the schema class. -/
theorem IsProductOf.keys_eq (h : IsProductOf st schemaName tables p) :
    p.files.keys = (tableNames tables).eraseDups.map (st.packageOf schemaName)
      ++ [schemaPackage st.nameSpace schemaName] := by
  rw [h.files_eq, Entries.keys_mapValues, keys_sourcesOf,
    keys_classesOf st h.schemaName_ne_empty h.name_ne_empty]

/-- Each module is there once. -/
theorem IsProductOf.nodup_keys (h : IsProductOf st schemaName tables p) : p.files.keys.Nodup := by
  rw [h.files_eq, Entries.keys_mapValues]
  exact nodup_keys_sourcesOf st h.schemaName_ne_empty h.name_ne_empty

/-- **The source under the module of a name is that of its last table.** -/
theorem IsProductOf.get?_files (h : IsProductOf st schemaName tables p) {name : String} {t : Table}
    (ht : (tables.filter (·.name = name)).getLast? = some t) :
    p.files.get? (st.packageOf schemaName name)
      = some (Text.tidy (st.classOf schemaName tables t).render) := by
  have hclass := get?_classesOf st h.schemaName_ne_empty h.name_ne_empty ht
  rw [h.files_eq, Entries.get?_mapValues, get?_sourcesOf st h.schemaName_ne_empty h.name_ne_empty
    (Entries.mem_of_get?_eq_some hclass)]
  rfl

end Product

/-- **The modules of a generation**, below the namespace and the schema class that are given. -/
structure HasModules [Memory] (s : Settings) (layout : Layout) (tables : List Table)
    (nameSpace schemaName : String) (g : Generation) : Prop where
  nameSpace_eq : s.namespaceName = .ok nameSpace
  /-- The schema class has the first of the names that no table has. -/
  schemaName_eq : Package.schemaNameCandidates.find? (· ∉ tableNames tables) = some schemaName
  keys_eq : g.files.keys
    = (tableNames tables).eraseDups.map (tablePackage nameSpace layout schemaName)
      ++ [schemaPackage nameSpace schemaName]
  keys_nodup : g.files.keys.Nodup
  length_eq : g.files.length = (tableNames tables).eraseDups.length + 1
  tablePackage_ne : ∀ name ∈ tableNames tables,
    tablePackage nameSpace layout schemaName name ≠ schemaPackage nameSpace schemaName
  /-- Under the module of a name stands the tidy source of the class of the last table that has
  it. -/
  source_eq : ∀ name ∈ tableNames tables, ∃ t source,
    (tables.filter (·.name = name)).getLast? = some t ∧
    (tableClass s t ((Relations.derive tables).of name) schemaName).outcome
      = .ok (tablePackage nameSpace layout schemaName name, source) ∧
    g.files.get? (tablePackage nameSpace layout schemaName name) = some (Text.tidy source)
  schemaModule_eq :
    g.metadata.get? "schema_module" = some (.text (schemaPackage nameSpace schemaName))
  tableCount_eq : g.metadata.get? "table_count" = some (.int tables.length)

/-- **Every generation that succeeds has its modules**, whatever names of tables repeat. -/
theorem hasModules_of_generate [Memory] {s : Settings} {layout : Layout}
    (hlayout : layoutOf s.layout = .ok layout) {tables : List Table}
    (h : ((generator s).generate tables).2.isSuccess = true) :
    ∃ nameSpace schemaName,
      HasModules s layout tables nameSpace schemaName ((generator s).generate tables).2 := by
  obtain ⟨p, hp⟩ := Scheme.exists_product h
  obtain ⟨st, schemaName, hst, hproduct⟩ := isProductOf_of_generate hlayout hp
  obtain ⟨hlayout', hnameSpace, -⟩ := styleOf_eq_ok.1 hst
  obtain rfl : layout = st.layout := Except.ok.inj (hlayout.symm.trans hlayout')
  have hschema := hproduct.schemaName_ne_empty
  rw [generate_eq_ok hp]
  refine ⟨st.nameSpace, schemaName, {
    nameSpace_eq := hnameSpace
    schemaName_eq := chooseSchemaName_eq_ok_iff.1 hproduct.schemaName_eq
    keys_eq := hproduct.keys_eq
    keys_nodup := hproduct.nodup_keys
    length_eq := ?_
    tablePackage_ne := fun name hname => ?_
    source_eq := fun name hname => ?_
    schemaModule_eq := ?_
    tableCount_eq := ?_ }⟩
  · show p.files.length = _
    have hlength := congrArg List.length hproduct.keys_eq
    simpa [Entries.keys] using hlength
  · obtain ⟨t, ht, rfl⟩ := List.mem_map.1 hname
    exact tablePackage_ne_schemaPackage _ _ hschema (hproduct.name_ne_empty t ht)
  · obtain ⟨t, ht, rfl, hlast⟩ := exists_last_of_mem_tableNames hname
    have hclass := outcome_tableClass_eq s (hproduct.name_ne_empty t ht)
      ((Relations.derive tables).of t.name) schemaName
    rw [hst] at hclass
    exact ⟨t, _, hlast, hclass, hproduct.get?_files hlast⟩
  · simp [Generation.metadata, Product.metadata, Entries.get?, hproduct.schemaModule_eq]
  · simp [Generation.metadata, Product.metadata, Entries.get?, hproduct.tableCount_eq]

/-- A bookshop in which two tables have one name and a third is named like a schema class. -/
def bookshopTables : List Table :=
  [{ name := "book", columns := ["id"], primaryKey := ["id"] },
   { name := "DBIC_Scheme", columns := ["id", "book_id"], primaryKey := ["id"]
     foreignKeys := [("book", [⟨"id", "book_id"⟩])] },
   { name := "book", columns := ["id", "title"], primaryKey := ["id"] }]

theorem hasModules_bookshop :
    ((generator {}).generate bookshopTables).2.isSuccess = true ∧
      HasModules {} .classes bookshopTables "" "Database"
        ((generator {}).generate bookshopTables).2 := by
  have hsuccess : ((generator {}).generate bookshopTables).2.isSuccess = true := by decide +kernel
  obtain ⟨nameSpace, schemaName, h⟩ :=
    hasModules_of_generate (Settings.layoutOf_name .classes) hsuccess
  have hnameSpace : Settings.namespaceName {} = .ok "" := by decide
  have hschema : Package.schemaNameCandidates.find? (· ∉ tableNames bookshopTables)
      = some "Database" := by decide
  obtain rfl : "" = nameSpace := Except.ok.inj (hnameSpace.symm.trans h.nameSpace_eq)
  obtain rfl : "Database" = schemaName := Option.some.inj (hschema.symm.trans h.schemaName_eq)
  exact ⟨hsuccess, h⟩

end SchemaGen.Perl
