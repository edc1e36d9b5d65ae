import SchemaGen.Proofs.Perl.Emission
import SchemaGen.Proofs.Scheme

/-!
# Which columns a declaration joins

A column pair has a side in either table: its local column is one of the table that declares it, its
foreign column one of the table referred to. A `belongs_to` stands in the class of the table that
declares the pair, so it joins a column of its own table, written behind `self`, with one of the
other table. A `has_many` stands at the other end and keeps the pair as it was declared, without a
swap: what it writes behind `self` is a column of the other table.

So the declarations of a class join columns that exist, on the sides that `Declaration.Joins` says
(`joins_of_generate`), but a `has_many` need not have a column of its own table behind `self`
(`selfColumn_not_mem_library`).
-/

namespace SchemaGen

open Model (Table Link links tableNames)
open Perl (Declaration)

/-! ## Foreign keys that are well formed -/

/-- **Foreign keys that are well formed**: the table referred to is one of the tables and has the
foreign columns, and the table that declares the key has the local ones. -/
def HasWellFormedKeys (tables : List Table) : Prop :=
  ∀ t ∈ tables, ∀ key ∈ t.foreignKeys, ∃ r ∈ tables, r.name = key.1 ∧
    ∀ pair ∈ key.2, pair.foreignColumn ∈ r.columns ∧ pair.localColumn ∈ t.columns

instance (tables : List Table) : Decidable (HasWellFormedKeys tables) :=
  inferInstanceAs (Decidable (∀ t ∈ tables, ∀ key ∈ t.foreignKeys, ∃ r ∈ tables, r.name = key.1 ∧
    ∀ pair ∈ key.2, pair.foreignColumn ∈ r.columns ∧ pair.localColumn ∈ t.columns))

/-- Every link has its columns in the tables at its ends. -/
theorem HasWellFormedKeys.ends_of_mem_links {tables : List Table} (h : HasWellFormedKeys tables)
    {l : Link} (hl : l ∈ links tables) :
    ∃ t ∈ tables, t.name = l.table ∧ l.pair.localColumn ∈ t.columns ∧
      ∃ r ∈ tables, r.name = l.referenced ∧ l.pair.foreignColumn ∈ r.columns := by
  obtain ⟨t, ht, htable, key, hkey, hreferenced, hpair⟩ := Model.exists_key_of_mem_links hl
  obtain ⟨r, hr, hname, hcolumns⟩ := h t ht key hkey
  obtain ⟨hforeign, hlocal⟩ := hcolumns l.pair hpair
  exact ⟨t, ht, htable, hlocal, r, hr, hname.trans hreferenced, hforeign⟩

/-! ## The sides of a declaration -/

/-- **The columns that a declaration joins** in the class of the table `own`, when it leads to the
table `other`: the local column is written behind `self`, the foreign one behind `foreign`. -/
def Perl.Declaration.Joins (d : Declaration) (own other : Table) : Prop :=
  match d.kind with
  | .belongsTo => d.localColumn ∈ own.columns ∧ d.foreignColumn ∈ other.columns
  | .hasMany => d.localColumn ∈ other.columns ∧ d.foreignColumn ∈ own.columns

/-- **A declaration joins the columns of its link**, at the end where it is made. -/
theorem joins_of_mem_declarations {st : Perl.Style} {schemaName : String} {tables : List Table}
    (hn : (tableNames tables).Nodup) (hkeys : HasWellFormedKeys tables) {t : Table}
    (ht : t ∈ tables) {d : Declaration} (hd : d ∈ (st.classOf schemaName tables t).declarations) :
    ∃ o ∈ tables, d.package = st.packageOf schemaName o.name ∧ d.Joins t o := by
  obtain ⟨kind, l, hl, hown, rfl⟩ := Perl.exists_link_of_mem_declarations hd
  obtain ⟨u, hu, huname, hlocal, r, hr, hrname, hforeign⟩ := hkeys.ends_of_mem_links hl
  -- the table whose class it is stands at one end of the link, the one it leads to at the other
  cases kind with
  | hasMany =>
    obtain rfl : r = t := List.inj_on_of_nodup_map hn hr ht (hrname.trans hown)
    exact ⟨u, hu, congrArg (st.packageOf schemaName) huname.symm, hlocal, hforeign⟩
  | belongsTo =>
    obtain rfl : u = t := List.inj_on_of_nodup_map hn hu ht (huname.trans hown)
    exact ⟨r, hr, congrArg (st.packageOf schemaName) hrname.symm, hlocal, hforeign⟩

/-- **Every declaration of a generation joins columns that exist**, whatever the settings are as
long as the layout is one: a `belongs_to` has a column of its own table behind `self`, a `has_many`
the column that the other table declared. -/
theorem joins_of_generate [Perl.Memory] {s : Settings} {layout : Perl.Layout}
    (hlayout : Perl.layoutOf s.layout = .ok layout) {tables : List Table}
    (hn : (tableNames tables).Nodup) (hkeys : HasWellFormedKeys tables) {p : Product}
    (h : ((Perl.generator s).generate tables).2.outcome = .ok p) :
    ∃ st schemaName, Perl.styleOf s = .ok st ∧ Perl.Emits st schemaName tables p ∧
      ∀ t ∈ tables, ∀ d ∈ (st.classOf schemaName tables t).declarations,
        ∃ o ∈ tables, d.package = st.packageOf schemaName o.name ∧ d.Joins t o := by
  obtain ⟨st, schemaName, hst, -, hemits⟩ := Perl.emits_of_generate hlayout hn h
  exact ⟨st, schemaName, hst, hemits, fun t ht d hd => joins_of_mem_declarations hn hkeys ht hd⟩

/-- A table of authors. -/
def authorTable : Table :=
  { name := "Author", columns := ["id", "name"], primaryKey := ["id"] }

/-- A library, where a book refers to its author. -/
def libraryTables : List Table :=
  [authorTable,
   { name := "Book", columns := ["id", "title", "author_id"], primaryKey := ["id"]
     foreignKeys := [("Author", [⟨"id", "author_id"⟩])] }]

theorem exists_product_library : ∃ p,
    ((Perl.generator {}).generate libraryTables).2.outcome = .ok p := by
  have hsuccess : ((Perl.generator {}).generate libraryTables).2.isSuccess = true := by
    decide +kernel
  exact Scheme.exists_product hsuccess

theorem joins_library : ∃ p st schemaName,
    ((Perl.generator {}).generate libraryTables).2.outcome = .ok p ∧
    Perl.Emits st schemaName libraryTables p ∧
    ∀ t ∈ libraryTables, ∀ d ∈ (st.classOf schemaName libraryTables t).declarations,
      ∃ o ∈ libraryTables, d.package = st.packageOf schemaName o.name ∧ d.Joins t o := by
  obtain ⟨p, hp⟩ := exists_product_library
  obtain ⟨st, schemaName, -, h⟩ := joins_of_generate (Settings.layoutOf_name .classes) (by decide)
    (by decide) hp
  exact ⟨p, st, schemaName, hp, h⟩

/-- **A `has_many` need not have a column of its own table behind `self`**: that of an author is
written with the column by which a book refers to it. -/
theorem selfColumn_not_mem_library :
    (tableNames libraryTables).Nodup ∧ (∀ t ∈ libraryTables, t.name ≠ "") ∧
    HasWellFormedKeys libraryTables ∧ ∃ p st schemaName,
      ((Perl.generator {}).generate libraryTables).2.outcome = .ok p ∧
      Perl.Emits st schemaName libraryTables p ∧
      authorTable ∈ libraryTables ∧
      ∃ d ∈ (st.classOf schemaName libraryTables authorTable).declarations,
        d.kind = .hasMany ∧ d.package = st.packageOf schemaName "Book" ∧
        d.localColumn ∉ authorTable.columns := by
  obtain ⟨p, hp⟩ := exists_product_library
  obtain ⟨st, schemaName, -, -, hemits⟩ := Perl.emits_of_generate (Settings.layoutOf_name .classes)
    (by decide) hp
  have hauthor : Declaration.ofPair .hasMany (st.packageOf schemaName "Book") ⟨"id", "author_id"⟩
      ∈ (st.classOf schemaName libraryTables authorTable).hasMany := by
    refine (Perl.hasMany_perm _ _ _ _).symm.subset ?_
    exact List.mem_singleton.2 rfl
  have hcolumn : "author_id" ∉ authorTable.columns := by decide
  exact ⟨by decide, by decide, by decide, p, st, schemaName, hp, hemits, List.mem_cons_self, _,
    List.mem_append_left _ hauthor, rfl, rfl, hcolumn⟩

end SchemaGen
