import SchemaGen.Proofs.Model.Derivation
import SchemaGen.Proofs.Perl.Reader
import SchemaGen.Proofs.Perl.Sources

/-!
# What a generation emits

A generation that succeeds has the sources of its tables in tidy form (`isProductOf_of_generate`).
`Emits` says that it consists of the classes of its tables, in their order and all in one style, and
of the schema class. Over tables of different names it does (`emits_of_generate`).

A class declares a relationship for each link of its table (`hasMany_perm`, `belongsTo_perm`). Where
the names of a table and of its relations stand on one line each (`AreOfLines`), its class is tidy
as it is written, and in tables whose names are legible (`AreLegible`) all classes are, so that
making them tidy changes nothing.
-/

namespace SchemaGen.Perl

open Model (Table RelationSet Relations Link links tableNames)
open Text (IsLine EndsVisibly IsTidyLine)

/-! ## The whole generation -/

/-- **What a generation emits**: the class of every table in order and then the schema class, each
under its package and in tidy form. -/
structure Emits (st : Style) (schemaName : String) (tables : List Table) (p : Product) : Prop where
  schemaName_mem : schemaName ∈ Package.schemaNameCandidates
  name_ne_empty : ∀ t ∈ tables, t.name ≠ ""
  files_eq : p.files
    = tables.map (fun t => (st.packageOf schemaName t.name,
        Text.tidy (st.classOf schemaName tables t).render))
      ++ [(schemaPackage st.nameSpace schemaName,
        Text.tidy (st.schemaClass schemaName (tableNames tables)).render)]
  schemaModule_eq : p.schemaModule = schemaPackage st.nameSpace schemaName
  relationshipCount_eq : p.relationshipCount = (links tables).length

theorem isLine_of_mem_candidates {name : String} (h : name ∈ Package.schemaNameCandidates) :
    IsLine name := by
  have hall : ∀ name ∈ Package.schemaNameCandidates, IsLine name := by decide
  exact hall name h

/-- A generation has the product of its generator, and no document of its own. -/
theorem generate_eq (g : Generator) (tables : List Table) :
    (g.generate tables).2 = ⟨(g.product tables).outcome, none⟩ := by
  rw [Generator.generate]
  split <;> rfl

theorem generate_eq_ok {g : Generator} {tables : List Table} {p : Product}
    (h : (g.generate tables).2.outcome = .ok p) : (g.generate tables).2 = ⟨.ok p, none⟩ := by
  rw [generate_eq] at h ⊢
  rw [show (g.product tables).outcome = .ok p from h]

/-- **What a generation has**, whatever names repeat: the sources of its tables in tidy form, and
the particulars that go with them. -/
structure IsProductOf (st : Style) (schemaName : String) (tables : List Table) (p : Product) :
    Prop where
  schemaName_eq :
    Package.chooseSchemaName Package.schemaNameCandidates (tableNames tables) = .ok schemaName
  name_ne_empty : ∀ t ∈ tables, t.name ≠ ""
  files_eq : p.files = (st.sourcesOf schemaName tables).mapValues Text.tidy
  schemaModule_eq : p.schemaModule = schemaPackage st.nameSpace schemaName
  tableCount_eq : p.tableCount = tables.length
  relationshipCount_eq : p.relationshipCount = (links tables).length

/-- **Every generation that succeeds has the product of its tables**, in the style of its
settings. -/
theorem isProductOf_of_generate [Memory] {s : Settings} {layout : Layout}
    (hlayout : layoutOf s.layout = .ok layout) {tables : List Table} {p : Product}
    (h : ((generator s).generate tables).2.outcome = .ok p) :
    ∃ st schemaName, styleOf s = .ok st ∧ IsProductOf st schemaName tables p := by
  rw [generate_eq, Generator.product] at h
  obtain ⟨_, -, h⟩ := Traced.outcome_bind_eq_ok_iff.1 h
  obtain ⟨files, hfiles, h⟩ := Traced.outcome_bind_eq_ok_iff.1 h
  obtain ⟨_, -, h⟩ := Traced.outcome_bind_eq_ok_iff.1 h
  obtain ⟨st, schemaName, hst, hchoice, hne, rfl⟩ := (outcome_sources_eq_ok_iff hlayout).1 hfiles
  -- the last of the sources is that of the schema class
  have hlast : ((Generator.tidySources (st.sourcesOf schemaName tables)).keys.getLast?).getD ""
      = schemaPackage st.nameSpace schemaName := by
    show ((Entries.mapValues Text.tidy (st.sourcesOf schemaName tables)).keys.getLast?).getD "" = _
    rw [Entries.keys_mapValues, keys_sourcesOf, List.getLast?_concat]
    rfl
  cases h
  exact ⟨st, schemaName, hst, hchoice, hne, rfl, hlast, rfl, Model.foldl_pairCount tables⟩

/-- **If the names of the tables differ, it emits their classes.** -/
theorem emits_of_generate [Memory] {s : Settings} {layout : Layout}
    (hlayout : layoutOf s.layout = .ok layout) {tables : List Table}
    (hn : (tableNames tables).Nodup) {p : Product}
    (h : ((generator s).generate tables).2.outcome = .ok p) :
    ∃ st schemaName, styleOf s = .ok st ∧
      Package.chooseSchemaName Package.schemaNameCandidates (tableNames tables) = .ok schemaName ∧
      Emits st schemaName tables p := by
  obtain ⟨st, schemaName, hst, hproduct⟩ := isProductOf_of_generate hlayout h
  have hmem := mem_of_chooseSchemaName hproduct.schemaName_eq
  have hne := hproduct.name_ne_empty
  refine ⟨st, schemaName, hst, hproduct.schemaName_eq, hmem, hne, ?_, hproduct.schemaModule_eq,
    hproduct.relationshipCount_eq⟩
  rw [hproduct.files_eq, Style.sourcesOf,
    classesOf_of_nodup st (ne_empty_of_mem_candidates hmem) hne hn, Entries.mapValues,
    Entries.mapValues, List.map_append, List.map_map, List.map_map, List.map_singleton]
  rfl

/-! ## The declarations of a class -/

/-- The table in whose class a link is declared: a `has_many` where the link leads, a `belongs_to`
where it comes from. -/
def RelationshipKind.ownTable : RelationshipKind → Link → String
  | hasMany, l => l.referenced
  | belongsTo, l => l.table

/-- The table to which a declaration of a link leads. -/
def RelationshipKind.otherTable : RelationshipKind → Link → String
  | hasMany, l => l.table
  | belongsTo, l => l.referenced

/-- **The declarations that some links make in the class of a table**, one for each link of that
table, where `packageOf` gives the package of a table's class. -/
def declarationsOf (kind : RelationshipKind) (packageOf : String → String) (ls : List Link)
    (table : String) : List Declaration :=
  (ls.filter (kind.ownTable · = table)).map fun l =>
    .ofPair kind (packageOf (kind.otherTable l)) l.pair

section Declarations

variable (st : Style) (schemaName : String) (tables : List Table) (t : Table)

/-- The declarations of a class of one kind. -/
def ResultClass.ofKind (c : ResultClass) : RelationshipKind → List Declaration
  | .hasMany => c.hasMany
  | .belongsTo => c.belongsTo

/-- A class declares its pairs one by one. -/
theorem ofPairs_eq (kind : RelationshipKind) (packageOf : String → String)
    (pairs : Model.PairsByTable) :
    Declaration.ofPairs kind packageOf pairs
      = (Entries.flat pairs).map fun p => Declaration.ofPair kind (packageOf p.1) p.2 := by
  rw [Declaration.ofPairs, Entries.flat, List.map_flatMap]
  refine List.flatMap_congr fun e _ => ?_
  rw [List.map_map]
  rfl

theorem kind_of_mem_ofPairs {kind : RelationshipKind} {packageOf : String → String}
    {pairs : Model.PairsByTable} {d : Declaration}
    (hd : d ∈ Declaration.ofPairs kind packageOf pairs) : d.kind = kind := by
  rw [ofPairs_eq] at hd
  obtain ⟨p, -, rfl⟩ := List.mem_map.1 hd
  rfl

/-- The declarations of a kind are told by it. -/
theorem filter_declarations (kind : RelationshipKind) :
    (st.classOf schemaName tables t).declarations.filter (·.kind = kind)
      = (st.classOf schemaName tables t).ofKind kind := by
  have hmany : ∀ d ∈ (st.classOf schemaName tables t).hasMany, d.kind = .hasMany :=
    fun d hd => kind_of_mem_ofPairs hd
  have hto : ∀ d ∈ (st.classOf schemaName tables t).belongsTo, d.kind = .belongsTo :=
    fun d hd => kind_of_mem_ofPairs hd
  rw [ResultClass.declarations, List.filter_append]
  cases kind with
  | hasMany =>
    rw [List.filter_eq_self.2 fun d hd => decide_eq_true (hmany d hd),
      List.filter_eq_nil_iff.2 fun d hd => by rw [hto d hd]; decide, List.append_nil]
    rfl
  | belongsTo =>
    rw [List.filter_eq_self.2 fun d hd => decide_eq_true (hto d hd),
      List.filter_eq_nil_iff.2 fun d hd => by rw [hmany d hd]; decide, List.nil_append]
    rfl

/-- **A class has a `has_many` for every link to its table.** -/
theorem hasMany_perm : (st.classOf schemaName tables t).hasMany.Perm
    (declarationsOf .hasMany (st.packageOf schemaName) (links tables) t.name) := by
  have h := (Model.Relations.flat_outgoing_derive tables t.name).map fun p =>
    Declaration.ofPair .hasMany (st.packageOf schemaName p.1) p.2
  rw [← ofPairs_eq, List.map_map] at h
  exact h

/-- **A class has a `belongs_to` for every link of its table.** -/
theorem belongsTo_perm : (st.classOf schemaName tables t).belongsTo.Perm
    (declarationsOf .belongsTo (st.packageOf schemaName) (links tables) t.name) := by
  have h := (Model.Relations.flat_incoming_derive tables t.name).map fun p =>
    Declaration.ofPair .belongsTo (st.packageOf schemaName p.1) p.2
  rw [← ofPairs_eq, List.map_map] at h
  exact h

variable {st schemaName tables t}

/-- Every declaration of a class comes from a link of its table. -/
theorem exists_link_of_mem_declarations {d : Declaration}
    (hd : d ∈ (st.classOf schemaName tables t).declarations) :
    ∃ kind, ∃ l ∈ links tables, kind.ownTable l = t.name ∧
      d = .ofPair kind (st.packageOf schemaName (kind.otherTable l)) l.pair := by
  have hlink : ∀ kind, d ∈ declarationsOf kind (st.packageOf schemaName) (links tables) t.name →
      ∃ l ∈ links tables, kind.ownTable l = t.name ∧
        d = .ofPair kind (st.packageOf schemaName (kind.otherTable l)) l.pair := by
    intro kind hd
    obtain ⟨l, hl, rfl⟩ := List.mem_map.1 hd
    obtain ⟨hl, hname⟩ := List.mem_filter.1 hl
    exact ⟨l, hl, of_decide_eq_true hname, rfl⟩
  rcases List.mem_append.1 hd with hd | hd
  · exact ⟨_, hlink .hasMany ((hasMany_perm st schemaName tables t).subset hd)⟩
  · exact ⟨_, hlink .belongsTo ((belongsTo_perm st schemaName tables t).subset hd)⟩

/-- A declaration is named for the local column. -/
theorem localColumn_of_mem_declarations {d : Declaration}
    (hd : d ∈ (st.classOf schemaName tables t).declarations) : d.localColumn = d.name := by
  obtain ⟨kind, l, -, -, rfl⟩ := exists_link_of_mem_declarations hd
  rfl

end Declarations

/-! ## Legible names -/

/-- **Tables whose names are legible**: all names stand on lines of their own, and those that are
listed end visibly. -/
structure AreLegible (tables : List Table) : Prop where
  name : ∀ t ∈ tables, IsTidyLine t.name
  column : ∀ t ∈ tables, ∀ c ∈ t.columns, IsTidyLine c
  primaryKey : ∀ t ∈ tables, ∀ c ∈ t.primaryKey, IsLine c
  referenced : ∀ l ∈ links tables, IsTidyLine l.referenced
  pair : ∀ l ∈ links tables, IsLine l.pair.foreignColumn ∧ IsLine l.pair.localColumn

/-- A style that adds no lines of its own. -/
structure Style.IsPlain (st : Style) : Prop where
  nameSpace : IsLine st.nameSpace
  indent : ∀ c ∈ st.indent.toList, c = ' '

theorem Style.IsPlain.isLine_indent {st : Style} (h : st.IsPlain) : IsLine st.indent :=
  fun hm => absurd (h.indent _ hm) (by decide)

/-- Both ends of a link are legible. -/
theorem AreLegible.isTidyLine_otherTable {tables : List Table} (h : AreLegible tables)
    (kind : RelationshipKind) {l : Link} (hl : l ∈ links tables) :
    IsTidyLine (kind.otherTable l) := by
  cases kind with
  | hasMany =>
    obtain ⟨t, ht, hname, -⟩ := Model.exists_key_of_mem_links hl
    show IsTidyLine l.table
    exact hname ▸ h.name t ht
  | belongsTo => exact h.referenced l hl

/-- Pairs whose names, and those of the tables they belong to, all stand on one line. -/
def ArePairsOfLines (pairs : Model.PairsByTable) : Prop :=
  ∀ p ∈ Entries.flat pairs, IsLine p.1 ∧ IsLine p.2.foreignColumn ∧ IsLine p.2.localColumn

instance (pairs : Model.PairsByTable) : Decidable (ArePairsOfLines pairs) :=
  inferInstanceAs (Decidable (∀ p ∈ Entries.flat pairs,
    IsLine p.1 ∧ IsLine p.2.foreignColumn ∧ IsLine p.2.localColumn))

/-- **A table and its relations whose names stand on one line each**, where the columns, which are
listed one a line, end visibly. -/
structure AreOfLines (t : Table) (r : RelationSet) : Prop where
  name : IsLine t.name
  column : ∀ c ∈ t.columns, IsTidyLine c
  primaryKey : ∀ c ∈ t.primaryKey, IsLine c
  outgoing : ArePairsOfLines r.outgoing
  incoming : ArePairsOfLines r.incoming

/-- A legible table is legible together with its relations. -/
theorem AreLegible.areOfLines {tables : List Table} (h : AreLegible tables) {t : Table}
    (ht : t ∈ tables) : AreOfLines t ((Relations.derive tables).of t.name) where
  name := (h.name t ht).isLine
  column := h.column t ht
  primaryKey := h.primaryKey t ht
  outgoing := by
    intro p hp
    obtain ⟨l, hl, rfl⟩ :=
      List.mem_map.1 ((Model.Relations.flat_outgoing_derive tables t.name).subset hp)
    have hl := List.mem_of_mem_filter hl
    exact ⟨(h.isTidyLine_otherTable .hasMany hl).isLine, h.pair l hl⟩
  incoming := by
    intro p hp
    obtain ⟨l, hl, rfl⟩ :=
      List.mem_map.1 ((Model.Relations.flat_incoming_derive tables t.name).subset hp)
    have hl := List.mem_of_mem_filter hl
    exact ⟨(h.isTidyLine_otherTable .belongsTo hl).isLine, h.pair l hl⟩

section Plain

variable {st : Style} {schemaName : String}

/-- Pairs of names of one line make declarations of such names. -/
theorem isLinewise_ofPairs (hst : st.IsPlain) (hschema : IsLine schemaName)
    (kind : RelationshipKind) {pairs : Model.PairsByTable} (h : ArePairsOfLines pairs) :
    ∀ d ∈ Declaration.ofPairs kind (st.packageOf schemaName) pairs, d.IsLinewise := by
  intro d hd
  rw [ofPairs_eq] at hd
  obtain ⟨p, hp, rfl⟩ := List.mem_map.1 hd
  obtain ⟨htable, hforeign, hlocal⟩ := h p hp
  exact ⟨hlocal, isLine_tablePackage st.layout hst.nameSpace hschema htable, hforeign, hlocal⟩

/-- **In a plain style the class of such a table has names of one line**, whatever its relations
are. -/
theorem AreOfLines.isLinewise_tableClass {t : Table} {r : RelationSet} (h : AreOfLines t r)
    (hst : st.IsPlain) (hschema : IsLine schemaName) :
    (st.tableClass schemaName t r).IsLinewise where
  package := isLine_tablePackage st.layout hst.nameSpace hschema h.name
  tableName := h.name
  columns := fun c hc => (h.column c hc).isLine
  primaryKey := h.primaryKey
  indent := hst.isLine_indent
  declarations := by
    intro d hd
    rcases List.mem_append.1 hd with hd | hd
    · exact isLinewise_ofPairs hst hschema .hasMany h.outgoing d hd
    · exact isLinewise_ofPairs hst hschema .belongsTo h.incoming d hd

/-- So the source of the class is tidy as it is written. -/
theorem AreOfLines.tidy_tableClass {t : Table} {r : RelationSet} (h : AreOfLines t r)
    (hst : st.IsPlain) (hschema : IsLine schemaName) :
    Text.tidy (st.tableClass schemaName t r).render = (st.tableClass schemaName t r).render :=
  ResultClass.tidy_render (h.isLinewise_tableClass hst hschema)
    fun c hc => (h.column c hc).endsVisibly

theorem mem_classes_schemaClass {names ns : List String}
    (h : ns ∈ (st.schemaClass schemaName names).classes) : ns = names := by
  rw [Style.schemaClass] at h
  split at h
  · cases h
  · cases h
    rfl

section Names

variable {names : List String} (h : ∀ name ∈ names, IsTidyLine name)
include h

theorem isTidyLine_of_mem_classes :
    ∀ ns ∈ (st.schemaClass schemaName names).classes, ∀ n ∈ ns, IsTidyLine n := by
  intro ns hns
  rwa [mem_classes_schemaClass hns]

/-- **The schema class over such names has names of one line** too, -/
theorem isLinewise_schemaClass_of_names (hst : st.IsPlain) (hschema : IsLine schemaName) :
    (st.schemaClass schemaName names).IsLinewise where
  package := isLine_schemaPackage hst.nameSpace hschema
  classes := fun ns hns n hn => (isTidyLine_of_mem_classes h ns hns n hn).isLine
  indent := hst.isLine_indent

/-- and its source is tidy as it is written. -/
theorem tidy_schemaClass (hst : st.IsPlain) (hschema : IsLine schemaName) :
    Text.tidy (st.schemaClass schemaName names).render
      = (st.schemaClass schemaName names).render :=
  SchemaClass.tidy_render (isLinewise_schemaClass_of_names h hst hschema)
    fun ns hns n hn => (isTidyLine_of_mem_classes h ns hns n hn).endsVisibly

end Names

end Plain

section Legible

variable {st : Style} {schemaName : String} {tables : List Table} {p : Product}

/-- **Legible tables have classes of legible names.** -/
theorem isLinewise_classOf (hst : st.IsPlain) (hschema : schemaName ∈ Package.schemaNameCandidates)
    (hl : AreLegible tables) {t : Table} (ht : t ∈ tables) :
    (st.classOf schemaName tables t).IsLinewise :=
  (hl.areOfLines ht).isLinewise_tableClass hst (isLine_of_mem_candidates hschema)

theorem endsVisibly_columns (hl : AreLegible tables) {t : Table} (ht : t ∈ tables) :
    ∀ n ∈ (st.classOf schemaName tables t).columns, EndsVisibly n :=
  fun n hn => (hl.column t ht n hn).endsVisibly

theorem AreLegible.isTidyLine_tableNames (hl : AreLegible tables) :
    ∀ n ∈ tableNames tables, IsTidyLine n := by
  intro n hn
  obtain ⟨t, ht, rfl⟩ := List.mem_map.1 hn
  exact hl.name t ht

theorem isTidyLine_classes (hl : AreLegible tables) :
    ∀ ns ∈ (st.schemaClass schemaName (tableNames tables)).classes, ∀ n ∈ ns, IsTidyLine n :=
  isTidyLine_of_mem_classes hl.isTidyLine_tableNames

/-- The schema class of legible tables has legible names as well. -/
theorem isLinewise_schemaClass (hst : st.IsPlain)
    (hschema : schemaName ∈ Package.schemaNameCandidates) (hl : AreLegible tables) :
    (st.schemaClass schemaName (tableNames tables)).IsLinewise :=
  isLinewise_schemaClass_of_names hl.isTidyLine_tableNames hst (isLine_of_mem_candidates hschema)

theorem Emits.keys_eq (h : Emits st schemaName tables p) :
    p.files.keys = (tableNames tables).map (st.packageOf schemaName) ++ [p.schemaModule] := by
  rw [h.files_eq, h.schemaModule_eq, Entries.keys, List.map_append, List.map_map,
    List.map_singleton, tableNames, List.map_map]
  rfl

/-- The module of the schema class is that of no table. -/
theorem Emits.packageOf_ne_schemaModule (h : Emits st schemaName tables p) {t : Table}
    (ht : t ∈ tables) : st.packageOf schemaName t.name ≠ p.schemaModule := by
  rw [h.schemaModule_eq]
  exact tablePackage_ne_schemaPackage _ _ (ne_empty_of_mem_candidates h.schemaName_mem)
    (h.name_ne_empty t ht)

/-- Packages tell the files apart, so no file is lost to another. -/
theorem Emits.keys_nodup (h : Emits st schemaName tables p) (hn : (tableNames tables).Nodup) :
    p.files.keys.Nodup := by
  have hschema := ne_empty_of_mem_candidates h.schemaName_mem
  rw [h.keys_eq, h.schemaModule_eq, ← keys_sourcesOf_of_nodup st hschema h.name_ne_empty hn]
  exact nodup_keys_sourcesOf st hschema h.name_ne_empty

/-- **The files of legible tables are the classes as they are written.** -/
theorem Emits.files_eq_render (h : Emits st schemaName tables p) (hst : st.IsPlain)
    (hl : AreLegible tables) :
    p.files
      = tables.map (fun t => (st.packageOf schemaName t.name,
          (st.classOf schemaName tables t).render))
        ++ [(schemaPackage st.nameSpace schemaName,
          (st.schemaClass schemaName (tableNames tables)).render)] := by
  have hschema := isLine_of_mem_candidates h.schemaName_mem
  rw [h.files_eq, tidy_schemaClass hl.isTidyLine_tableNames hst hschema]
  refine congrArg (· ++ _) (List.map_congr_left fun t ht => ?_)
  exact congrArg (Prod.mk _) ((hl.areOfLines ht).tidy_tableClass hst hschema)

/-- **The statements of a class are its declarations.** -/
theorem declarationsIn_classOf (hst : st.IsPlain)
    (hschema : schemaName ∈ Package.schemaNameCandidates) (hl : AreLegible tables) {t : Table}
    (ht : t ∈ tables) :
    declarationsIn (st.classOf schemaName tables t).render
      = some (st.classOf schemaName tables t).declarations :=
  declarationsIn_render (isLinewise_classOf hst hschema hl ht) (endsVisibly_columns hl ht)
    fun _ => localColumn_of_mem_declarations

/-- The schema class makes no statements. -/
theorem declarationsIn_schemaClass (hst : st.IsPlain)
    (hschema : schemaName ∈ Package.schemaNameCandidates) (hl : AreLegible tables) :
    declarationsIn (st.schemaClass schemaName (tableNames tables)).render = some [] :=
  SchemaClass.declarationsIn_render (isLinewise_schemaClass hst hschema hl)
    fun ns hns n hn => (isTidyLine_classes hl ns hns n hn).endsVisibly

end Legible

end SchemaGen.Perl
