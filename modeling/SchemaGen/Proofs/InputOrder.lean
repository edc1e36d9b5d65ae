import SchemaGen.Proofs.Perl.Statements
import SchemaGen.Proofs.Perl.Success
import SchemaGen.Proofs.Scheme

/-!
# The order of the tables

Two generations over the same tables in different orders differ in order alone (`sources_perm`). The
name of the schema class is the same, since it depends on which names are taken and not on their
order. The class of a table is told by the table itself, but for its `has_many`, and these are put
together from what each table declares: so the order of the tables is that of these portions, each
of which stays as it is.

So the order appears in the sources of one generation in two places only, which are those of
`get?_sourcesOf_of_nodup` and `get?_sourcesOf_schemaPackage`.
-/

namespace SchemaGen.Perl

open Model (Table tableNames)

/-- **The source of a table class**: only its `has_many` follow the order of the tables. -/
theorem get?_sourcesOf_of_nodup (st : Style) {schemaName : String} (hschema : schemaName ≠ "")
    {tables : List Table} (hne : ∀ t ∈ tables, t.name ≠ "") (hn : (tableNames tables).Nodup)
    {t : Table} (ht : t ∈ tables) :
    (st.sourcesOf schemaName tables).get? (st.packageOf schemaName t.name)
      = some ((st.ownClass schemaName t).headText
        ++ statements (tables.flatMap fun u => st.declaredBy schemaName u t.name)
        ++ (st.ownClass schemaName t).tailText) := by
  have hclass : (st.packageOf schemaName t.name, st.classOf schemaName tables t)
      ∈ st.classesOf schemaName tables := by
    rw [classesOf_of_nodup st hschema hne hn]
    exact List.mem_map_of_mem ht
  rw [get?_sourcesOf st hschema hne hclass, render_classOf_of_nodup st schemaName hn ht]

/-! ## Two generations -/

/-- **Sources that differ in order alone**, those in `files` made from the tables `ts` and those in
`files'` from the tables `us`. -/
structure DifferInOrder (st : Style) (schemaName : String) (ts us : List Table)
    (files files' : Entries String String) : Prop where
  /-- The schema class comes last under the same module. -/
  keys_eq : files.keys
    = (tableNames ts).map (st.packageOf schemaName) ++ [schemaPackage st.nameSpace schemaName]
  keys_eq' : files'.keys
    = (tableNames us).map (st.packageOf schemaName) ++ [schemaPackage st.nameSpace schemaName]
  /-- The modules are the same, each there once. -/
  keys_nodup : files.keys.Nodup
  keys_perm : files.keys.Perm files'.keys
  /-- The class of a table has the same header, columns, primary key and `belongs_to`, and as its
  `has_many` the same portions, one for each table in the order of the tables. -/
  tableClass : ∀ t ∈ ts,
    files.get? (st.packageOf schemaName t.name)
      = some ((st.ownClass schemaName t).headText
        ++ statements (ts.flatMap fun u => st.declaredBy schemaName u t.name)
        ++ (st.ownClass schemaName t).tailText) ∧
    files'.get? (st.packageOf schemaName t.name)
      = some ((st.ownClass schemaName t).headText
        ++ statements (us.flatMap fun u => st.declaredBy schemaName u t.name)
        ++ (st.ownClass schemaName t).tailText)
  hasMany_perm : ∀ name, (ts.flatMap fun u => st.declaredBy schemaName u name).Perm
    (us.flatMap fun u => st.declaredBy schemaName u name)
  /-- A list of classes follows the order of the tables. -/
  schemaClass_of_classes : st.layout = .classes → ∃ head tail,
    files.get? (schemaPackage st.nameSpace schemaName)
      = some (head ++ listLines st.indent (tableNames ts) ++ tail) ∧
    files'.get? (schemaPackage st.nameSpace schemaName)
      = some (head ++ listLines st.indent (tableNames us) ++ tail)
  /-- Without a list the schema class is the same. -/
  schemaClass_of_namespaces : st.layout = .namespaces → ∃ source,
    files.get? (schemaPackage st.nameSpace schemaName) = some source ∧
    files'.get? (schemaPackage st.nameSpace schemaName) = some source

section Permuted

variable {ts us : List Table}

theorem differInOrder (st : Style) {schemaName : String} (hschema : schemaName ≠ "")
    (hperm : ts.Perm us) (hn : (tableNames ts).Nodup) (hne : ∀ t ∈ ts, t.name ≠ "") :
    DifferInOrder st schemaName ts us (st.sourcesOf schemaName ts)
      (st.sourcesOf schemaName us) := by
  have hnames : (tableNames ts).Perm (tableNames us) := hperm.map _
  have hn' : (tableNames us).Nodup := hnames.nodup hn
  have hne' : ∀ t ∈ us, t.name ≠ "" := fun t ht => hne t (hperm.mem_iff.2 ht)
  have hlast := get?_sourcesOf_schemaPackage st hschema hne
  have hlast' := get?_sourcesOf_schemaPackage st hschema hne'
  refine
    { keys_eq := keys_sourcesOf_of_nodup st hschema hne hn
      keys_eq' := keys_sourcesOf_of_nodup st hschema hne' hn'
      keys_nodup := nodup_keys_sourcesOf st hschema hne
      keys_perm := ?_
      tableClass := fun t ht => ⟨get?_sourcesOf_of_nodup st hschema hne hn ht,
        get?_sourcesOf_of_nodup st hschema hne' hn' (hperm.mem_iff.1 ht)⟩
      hasMany_perm := fun name => hperm.flatMap_right _
      schemaClass_of_classes := fun hclasses => ?_
      schemaClass_of_namespaces := fun hnamespaces => ?_ }
  · rw [keys_sourcesOf_of_nodup st hschema hne hn, keys_sourcesOf_of_nodup st hschema hne' hn']
    exact (hnames.map _).append_right _
  · rw [Style.render_schemaClass_of_classes schemaName hclasses] at hlast hlast'
    exact ⟨_, _, hlast, hlast'⟩
  · rw [Style.schemaClass_of_namespaces schemaName hnamespaces _ (tableNames ts)] at hlast'
    exact ⟨_, hlast, hlast'⟩

/-- **The order of the tables affects only order.** If a generation over tables of different names
succeeds, so does one over the same tables in another order, with the same name of the schema class,
and their sources differ in order alone. -/
theorem sources_perm [Memory] {s : Settings} {layout : Layout}
    (hlayout : layoutOf s.layout = .ok layout)
    (hperm : ts.Perm us) (hn : (tableNames ts).Nodup) {files : Entries String String}
    (h : ((generator s).sources ts).outcome = .ok files) :
    ∃ st schemaName files', styleOf s = .ok st ∧
      Package.chooseSchemaName Package.schemaNameCandidates (tableNames ts) = .ok schemaName ∧
      Package.chooseSchemaName Package.schemaNameCandidates (tableNames us) = .ok schemaName ∧
      ((generator s).sources us).outcome = .ok files' ∧
      DifferInOrder st schemaName ts us files files' := by
  obtain ⟨st, schemaName, hst, hchoice, hne, rfl⟩ :=
    (outcome_sources_eq_ok_iff hlayout).1 h
  have hnames : (tableNames ts).Perm (tableNames us) := hperm.map _
  have hchoice' : Package.chooseSchemaName Package.schemaNameCandidates (tableNames us)
      = .ok schemaName := by
    rw [← chooseSchemaName_perm _ hnames, hchoice]
  have hsources : ((generator s).sources us).outcome = .ok (st.sourcesOf schemaName us) :=
    (outcome_sources_eq_ok_iff hlayout).2
      ⟨st, schemaName, hst, hchoice', fun t ht => hne t (hperm.mem_iff.2 ht), rfl⟩
  have hschema := ne_empty_of_mem_candidates (mem_of_chooseSchemaName hchoice)
  exact ⟨st, schemaName, _, hst, hchoice, hchoice', hsources,
    differInOrder st hschema hperm hn hne⟩

end Permuted

/-- A catalogue, where a review refers to a book and its author and to a reader that is not one of
the tables, and a book refers to the one before it. -/
def catalogueTables : List Table :=
  [{ name := "author", columns := ["id"], primaryKey := ["id"] },
   { name := "book", columns := ["id", "author_id", "previous_id"], primaryKey := ["id"]
     foreignKeys := [("author", [⟨"id", "author_id"⟩]), ("book", [⟨"id", "previous_id"⟩])] },
   { name := "review", columns := ["book_id", "author_id", "reader_id"]
     foreignKeys := [("book", [⟨"id", "book_id"⟩]), ("author", [⟨"id", "author_id"⟩]),
       ("reader", [⟨"id", "reader_id"⟩])] }]

theorem sources_reverse_catalogue : ∃ st schemaName files files',
    ((generator {}).sources catalogueTables).outcome = .ok files ∧
    ((generator {}).sources catalogueTables.reverse).outcome = .ok files' ∧
    DifferInOrder st schemaName catalogueTables catalogueTables.reverse files files' := by
  obtain ⟨files, hfiles⟩ : ∃ files, ((generator {}).sources catalogueTables).outcome = .ok files :=
    ⟨_, rfl⟩
  obtain ⟨st, schemaName, files', -, -, -, hfiles', hdiffer⟩ :=
    sources_perm (Settings.layoutOf_name .classes) (List.reverse_perm catalogueTables).symm
      (by decide) hfiles
  exact ⟨st, schemaName, files, files', hfiles, hfiles', hdiffer⟩

end SchemaGen.Perl
