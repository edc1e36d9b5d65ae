import SchemaGen.Proofs.Perl.Statements
import SchemaGen.Proofs.Perl.Success
import SchemaGen.Proofs.Scheme

/-!
# What a new table changes

A table of a new name that is added to those of a generation changes only the classes that it refers
to (`sources_append`). The table classes are those from before, each after it has received what the
new table declares on it (`Style.receive`), and one more (`classesOf_append`). What a class receives
stands between its `has_many` and its `belongs_to`, and is nothing unless the new table refers to
it: that a class refers to the new table, even before it was there, does not count.

The tables from before need not have different names, since a later class with the name of an
earlier one takes its place in either generation.
-/

namespace SchemaGen.Perl

open Model (Table tableNames)

/-! ## What a class receives -/

/-- **A class after a new table**, with what this table declares on it. -/
def Style.receive (st : Style) (schemaName : String) (u : Table) (c : ResultClass) : ResultClass :=
  { c with hasMany := c.hasMany ++ st.declaredBy schemaName u c.tableName }

section Receive

variable (st : Style) (schemaName : String)

/-- A class that the new table does not refer to stays as it is. -/
theorem receive_of_not_mem {u : Table} {c : ResultClass}
    (h : c.tableName ∉ u.foreignKeys.keys) : st.receive schemaName u c = c := by
  rw [Style.receive, Style.declaredBy, Table.pairsTo_of_not_mem h, List.map_nil, List.append_nil]

/-- **What a class receives stands after its own `has_many`**, and before its `belongs_to`. -/
theorem render_receive (u : Table) (c : ResultClass) :
    (st.receive schemaName u c).render
      = c.headText ++ (statements c.hasMany ++ statements (st.declaredBy schemaName u c.tableName))
        ++ c.tailText := by
  rw [← statements_append]
  exact ResultClass.render_eq_parts _

end Receive

/-! ## All classes -/

section Classes

variable (st : Style) {schemaName : String} {ts : List Table} {u : Table}
variable (hschema : schemaName ≠ "") (hne : ∀ t ∈ ts, t.name ≠ "")
variable (hu : u.name ≠ "") (hnew : u.name ∉ tableNames ts)
include hschema hne hu hnew

/-- **With a new table, all classes receive what it declares on them**, and its own class is added
at the end. -/
theorem classesOf_append :
    st.classesOf schemaName (ts ++ [u])
      = (st.classesOf schemaName ts).mapValues (st.receive schemaName u)
        ++ [(st.packageOf schemaName u.name, st.classOf schemaName (ts ++ [u]) u)] := by
  have hreceive : ts.map (fun t => (st.packageOf schemaName t.name,
        st.classOf schemaName (ts ++ [u]) t))
      = Entries.mapValues (st.receive schemaName u) (ts.map fun t =>
          (st.packageOf schemaName t.name, st.classOf schemaName ts t)) := by
    rw [Entries.mapValues, List.map_map]
    refine List.map_congr_left fun t ht => ?_
    have hother : u.name ≠ t.name := fun he => hnew (he ▸ List.mem_map_of_mem ht)
    rw [classOf_append st schemaName hnew hother]
    rfl
  have hfresh : st.packageOf schemaName u.name
      ∉ ((st.classesOf schemaName ts).mapValues (st.receive schemaName u)).keys := by
    rw [Entries.keys_mapValues]
    exact packageOf_not_mem_classesOf st hschema hne hu hnew
  rw [Style.classesOf, List.map_append, hreceive, Entries.ofList, Entries.merge_append]
  refine Eq.trans ?_ (Entries.set_of_not_mem _ hfresh _)
  rw [Style.classesOf, Entries.mapValues_ofList]
  rfl

/-- A class under some package is there after it has received what the new table declares. -/
theorem mem_classesOf_append {package : String} {c : ResultClass}
    (hc : (package, c) ∈ st.classesOf schemaName ts) :
    (package, st.receive schemaName u c) ∈ st.classesOf schemaName (ts ++ [u]) := by
  rw [classesOf_append st hschema hne hu hnew]
  exact List.mem_append_left _ (List.mem_map.2 ⟨_, hc, rfl⟩)

end Classes

/-! ## All sources -/

/-- **Sources that a new table is added to**: `files` are those of the tables `ts`, and `files'` are
those after the table `u` has been added. -/
structure AddsTable (st : Style) (schemaName : String) (ts : List Table) (u : Table)
    (files files' : Entries String String) : Prop where
  /-- The modules stay, and that of the new table is put before the one of the schema class. -/
  keys_eq : ∃ packages, files.keys = packages ++ [schemaPackage st.nameSpace schemaName] ∧
    files'.keys
      = packages ++ [st.packageOf schemaName u.name, schemaPackage st.nameSpace schemaName] ∧
    ∀ package ∈ packages, ∃ t ∈ ts, package = st.packageOf schemaName t.name
  keys_nodup : files'.keys.Nodup
  /-- A class that the new table does not refer to stays as it is. -/
  unchanged : ∀ t ∈ ts, t.name ∉ u.foreignKeys.keys →
    files'.get? (st.packageOf schemaName t.name) = files.get? (st.packageOf schemaName t.name)
  /-- In the class that a table has among those from before, the declarations of the new table are
  put after all other `has_many`, and before the `belongs_to`. -/
  extended : ∀ t ∈ ts, ∃ c : ResultClass,
    (st.packageOf schemaName t.name, c) ∈ st.classesOf schemaName ts ∧ c.tableName = t.name ∧
    files.get? (st.packageOf schemaName t.name)
      = some (c.headText ++ statements c.hasMany ++ c.tailText) ∧
    files'.get? (st.packageOf schemaName t.name)
      = some (c.headText
        ++ (statements c.hasMany ++ statements (st.declaredBy schemaName u t.name)) ++ c.tailText)
  newClass : files'.get? (st.packageOf schemaName u.name)
    = some (st.classOf schemaName (ts ++ [u]) u).render
  /-- A list of classes has one line more at its end. -/
  schemaClass_of_classes : st.layout = .classes → ∃ head tail,
    files.get? (schemaPackage st.nameSpace schemaName)
      = some (head ++ listLines st.indent (tableNames ts) ++ tail) ∧
    files'.get? (schemaPackage st.nameSpace schemaName)
      = some (head ++ (listLines st.indent (tableNames ts) ++ (st.indent ++ u.name ++ "\n"))
          ++ tail)
  /-- Without a list the schema class stays as it is. -/
  schemaClass_of_namespaces : st.layout = .namespaces →
    files'.get? (schemaPackage st.nameSpace schemaName)
      = files.get? (schemaPackage st.nameSpace schemaName)

section NewTable

variable {schemaName : String} {ts : List Table} {u : Table}

theorem addsTable (st : Style) (hschema : schemaName ≠ "") (hne : ∀ t ∈ ts, t.name ≠ "")
    (hu : u.name ≠ "") (hnew : u.name ∉ tableNames ts) :
    AddsTable st schemaName ts u (st.sourcesOf schemaName ts)
      (st.sourcesOf schemaName (ts ++ [u])) := by
  have hne' : ∀ t ∈ ts ++ [u], t.name ≠ "" :=
    List.forall_mem_append.2 ⟨hne, List.forall_mem_singleton.2 hu⟩
  -- the class under the package of a table, before and after
  have hclass : ∀ t ∈ ts, ∃ c : ResultClass,
      (st.packageOf schemaName t.name, c) ∈ st.classesOf schemaName ts ∧ c.tableName = t.name ∧
      (st.sourcesOf schemaName ts).get? (st.packageOf schemaName t.name) = some c.render ∧
      (st.sourcesOf schemaName (ts ++ [u])).get? (st.packageOf schemaName t.name)
        = some (st.receive schemaName u c).render := by
    intro t ht
    obtain ⟨c, hc, hname⟩ := exists_mem_classesOf st hschema hne ht
    exact ⟨c, hc, hname, get?_sourcesOf st hschema hne hc,
      get?_sourcesOf st hschema hne' (mem_classesOf_append st hschema hne hu hnew hc)⟩
  have hlast := get?_sourcesOf_schemaPackage st hschema hne
  have hlast' := get?_sourcesOf_schemaPackage st hschema hne'
  have hnames : tableNames (ts ++ [u]) = tableNames ts ++ [u.name] := List.map_append
  refine
    { keys_eq := ⟨(st.classesOf schemaName ts).keys, keys_sourcesOf st, ?_, ?_⟩
      keys_nodup := nodup_keys_sourcesOf st hschema hne'
      unchanged := ?_
      extended := ?_
      newClass := ?_
      schemaClass_of_classes := fun hclasses => ?_
      schemaClass_of_namespaces := fun hnamespaces => ?_ }
  · rw [keys_sourcesOf, classesOf_append st hschema hne hu hnew, Entries.keys, List.map_append,
      List.append_assoc]
    exact congrArg (· ++ _) (Entries.keys_mapValues _ _)
  · intro package hpackage
    obtain ⟨e, he, rfl⟩ := List.mem_map.1 hpackage
    obtain ⟨t, ht, rfl⟩ := exists_table_of_mem_classesOf st he
    exact ⟨t, ht, rfl⟩
  · intro t ht hkeys
    obtain ⟨c, -, hname, hc, hc'⟩ := hclass t ht
    rw [hc, hc', receive_of_not_mem st schemaName (hname ▸ hkeys)]
  · intro t ht
    obtain ⟨c, hmem, hname, hc, hc'⟩ := hclass t ht
    rw [ResultClass.render_eq_parts] at hc
    rw [render_receive, hname] at hc'
    exact ⟨c, hmem, hname, hc, hc'⟩
  · refine get?_sourcesOf st hschema hne' ?_
    rw [classesOf_append st hschema hne hu hnew]
    exact List.mem_append_right _ (List.mem_singleton.2 rfl)
  · rw [Style.render_schemaClass_of_classes schemaName hclasses] at hlast hlast'
    rw [hnames, listLines_append] at hlast'
    exact ⟨_, _, hlast, hlast'⟩
  · rw [hlast, hlast', Style.schemaClass_of_namespaces schemaName hnamespaces]

/-- **A new table changes only what it refers to.** If a generation succeeds, it does so after a
table of a new name has been added, which is not that of the schema class either, with the same name
of the schema class and with the sources that the table is added to, which it then makes tidy. -/
theorem sources_append [Memory] {s : Settings} {layout : Layout}
    (hlayout : layoutOf s.layout = .ok layout) {files : Entries String String}
    (h : ((generator s).sources ts).outcome = .ok files)
    (hchoice : Package.chooseSchemaName Package.schemaNameCandidates (tableNames ts)
      = .ok schemaName)
    (hu : u.name ≠ "") (hother : u.name ≠ schemaName) (hnew : u.name ∉ tableNames ts) :
    ∃ st files' p, styleOf s = .ok st ∧
      Package.chooseSchemaName Package.schemaNameCandidates (tableNames (ts ++ [u]))
        = .ok schemaName ∧
      ((generator s).sources (ts ++ [u])).outcome = .ok files' ∧
      ((generator s).generate (ts ++ [u])).2.outcome = .ok p ∧
      p.files = Generator.tidySources files' ∧ AddsTable st schemaName ts u files files' := by
  obtain ⟨st, name, hst, hname, hne, rfl⟩ := (outcome_sources_eq_ok_iff hlayout).1 h
  obtain rfl : name = schemaName := Except.ok.inj (hname.symm.trans hchoice)
  have hchoice' : Package.chooseSchemaName Package.schemaNameCandidates (tableNames (ts ++ [u]))
      = .ok name := by
    rw [tableNames, List.map_append]
    exact chooseSchemaName_append hchoice hother
  have hne' : ∀ t ∈ ts ++ [u], t.name ≠ "" :=
    List.forall_mem_append.2 ⟨hne, List.forall_mem_singleton.2 hu⟩
  have hschema := ne_empty_of_mem_candidates (mem_of_chooseSchemaName hchoice)
  have hsources : ((generator s).sources (ts ++ [u])).outcome
      = .ok (st.sourcesOf name (ts ++ [u])) :=
    (outcome_sources_eq_ok_iff hlayout).2 ⟨st, name, hst, hchoice', hne', rfl⟩
  obtain ⟨p, hp, hfiles⟩ := exists_product_of_sources hsources
  exact ⟨st, _, p, hst, hchoice', hsources, by rw [generate_eq, hp], hfiles,
    addsTable st hschema hne hu hnew⟩

end NewTable

/-- A shop, where an order refers to a customer and to a voucher that is not one of the tables. -/
def shopTables : List Table :=
  [{ name := "customer", columns := ["id"], primaryKey := ["id"] },
   { name := "order", columns := ["id", "customer_id", "voucher_id"], primaryKey := ["id"]
     foreignKeys := [("customer", [⟨"id", "customer_id"⟩]), ("voucher", [⟨"id", "voucher_id"⟩])] }]

/-- A table of vouchers, each of which refers to the customer that it was made out for. -/
def voucherTable : Table :=
  { name := "voucher", columns := ["id", "customer_id"], primaryKey := ["id"]
    foreignKeys := [("customer", [⟨"id", "customer_id"⟩])] }

theorem sources_append_voucher : ∃ st schemaName files files',
    ((generator {}).sources shopTables).outcome = .ok files ∧
    ((generator {}).sources (shopTables ++ [voucherTable])).outcome = .ok files' ∧
    AddsTable st schemaName shopTables voucherTable files files' := by
  obtain ⟨files, hfiles⟩ : ∃ files, ((generator {}).sources shopTables).outcome = .ok files :=
    ⟨_, rfl⟩
  have hchoice : Package.chooseSchemaName Package.schemaNameCandidates (tableNames shopTables)
      = .ok "DBIC_Scheme" := by decide
  have hname : voucherTable.name ≠ "" := by decide
  obtain ⟨st, files', -, -, -, hfiles', -, -, hadds⟩ := sources_append
    (Settings.layoutOf_name .classes) hfiles hchoice hname (by decide) (by decide)
  exact ⟨st, _, files, files', hfiles, hfiles', hadds⟩

end SchemaGen.Perl
