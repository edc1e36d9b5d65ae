import SchemaGen.Model.Reading
import SchemaGen.Proofs.Model.Derivation
import SchemaGen.Proofs.Model.ForeignKeyText
import SchemaGen.Proofs.Outcome

/-!
# What a model holds

The reader walks over a document twice, once for the tables and once for the relations, with a table
of identifiers in between. What it takes from the document can be said without the walk. A reference
stands for the last table element with that identifier (`resolve`), and every relation element gives
one link for each entry of its text (`entryLinks`); `documentLinks` are those of all relations, in
the order of the document.

A document that is accepted gives just these: its tables are the table elements, with names of their
own (`ReadsAs.names_eq`), and the foreign keys of a table are gathered from the links that it has in
the document, one by one (`ReadsAs.foreignKeys_eq`). Read as a whole, the links of the tables are
the links of the document (`ReadsAs.links_perm`). It makes no difference whether the document is
given in octets or as a text (`readsAs_of_read`).
-/

namespace SchemaGen.Model

open Xml (Element)

/-! ## The document -/

/-- The table elements of a model. -/
def tableElements (root : Element) : List Element := root.select ["METADATA", "TABLES", "TABLE"]

/-- The relation elements of a model. -/
def relationElements (root : Element) : List Element :=
  root.select ["METADATA", "RELATIONS", "RELATION"]

/-- The name of a table element. -/
def tableName (e : Element) : String := nameIn e "Tablename"

/-- The identifier of a table element, its name if it has none. -/
def effectiveIdentifier (e : Element) : String := (e.attribute? "ID").getD (tableName e)

/-- **What a reference stands for**: the last table with that identifier. -/
def resolve (root : Element) (reference : String) : Option String :=
  ((tableElements root).filter (effectiveIdentifier · = reference)).getLast?.map tableName

/-- The entries of a relation element, each as a link between the two tables. -/
def entryLinks (root e : Element) : List Link :=
  match resolve root ((e.attribute? "SrcTable").getD ""),
      resolve root ((e.attribute? "DestTable").getD ""),
      ForeignKeyText.read ((e.attribute? "FKFields").getD "") with
  | some referenced, some table, .ok pairs => pairs.map (⟨table, referenced, ·⟩)
  | _, _, _ => []

/-- **The links of a document**: the entries of all its relations. -/
def documentLinks (root : Element) : List Link := (relationElements root).flatMap (entryLinks root)

/-! ## One table -/

/-- The columns of a table element, each with whether it is part of the primary key. -/
def columnEntries (e : Element) : List (String × Bool) :=
  (e.select ["COLUMNS", "COLUMN"]).map fun c =>
    (nameIn c "ColName", decide (c.attribute? "PrimaryKey" = some "1"))

theorem readColumn_eq_ok {table : String} {e : Element} {c : String × Bool}
    (h : readColumn table e = .ok c) :
    Text.IsName c.1 ∧ c = (nameIn e "ColName", decide (e.attribute? "PrimaryKey" = some "1")) := by
  rw [readColumn] at h
  split at h
  · cases h
  · next hne =>
    cases h
    exact ⟨Text.isName_trim hne, rfl⟩

theorem foldl_addColumn (t : Table) (cs : List (String × Bool)) :
    cs.foldl (fun t c => t.addColumn c.1 c.2) t
      = { t with
          columns := t.columns ++ cs.map Prod.fst
          primaryKey := t.primaryKey ++ (cs.filter (·.2)).map Prod.fst } := by
  induction cs generalizing t with
  | nil => simp
  | cons c cs ih =>
    obtain ⟨name, key⟩ := c
    rw [List.foldl_cons, ih]
    cases key <;> simp [Table.addColumn]

/-- **A table as it is read**: its names are names, its columns those of the element, its primary
key the marked ones among them, and it has no foreign keys yet. -/
theorem readTable_eq_ok {e : Element} {t : Table} (h : readTable e = .ok t) :
    t = { name := tableName e
          columns := (columnEntries e).map Prod.fst
          primaryKey := ((columnEntries e).filter (·.2)).map Prod.fst } ∧
      Text.IsName t.name ∧ ∀ c ∈ t.columns, Text.IsName c := by
  rw [readTable] at h
  split at h
  · cases h
  · next hne =>
    obtain ⟨cs, hcs, h⟩ := bind_eq_ok_iff.1 h
    cases h
    have hentries : cs = columnEntries e :=
      (List.map_id cs).symm.trans (eq_map_of_mapM (fun _ _ hc => (readColumn_eq_ok hc).2) hcs)
    rw [foldl_addColumn]
    refine ⟨by rw [hentries]; rfl, Text.isName_trim hne, fun c hc => ?_⟩
    obtain ⟨entry, hentry, rfl⟩ := List.mem_map.1 hc
    obtain ⟨x, -, hx⟩ := exists_of_mem_mapM hcs hentry
    exact (readColumn_eq_ok hx).1

/-! ## All tables -/

/-- What the first walk gives: the tables in order, each with its identifier, under names that
differ from each other and from those taken before. -/
theorem readTables_eq_ok {taken : List String} {es : List Element} {ts : List (String × Table)}
    (h : readTables taken es = .ok ts) :
    es.mapM readTable = .ok (ts.map Prod.snd) ∧
      ts.map (fun p => (p.1, p.2.name)) = es.map (fun e => (effectiveIdentifier e, tableName e)) ∧
      (ts.map (·.2.name)).Nodup ∧ ∀ n ∈ ts.map (·.2.name), n ∉ taken := by
  induction es generalizing taken ts with
  | nil =>
    cases h
    exact ⟨rfl, rfl, List.nodup_nil, fun n hn => by cases hn⟩
  | cons e es ih =>
    rw [readTables] at h
    obtain ⟨t, ht, h⟩ := bind_eq_ok_iff.1 h
    split at h
    · cases h
    · next htaken =>
      obtain ⟨others, hothers, h⟩ := bind_eq_ok_iff.1 h
      cases h
      -- the name was taken when the others were read, so it differs from theirs
      obtain ⟨hread, hids, hn, hfresh⟩ := ih hothers
      have hname : t.name = tableName e := by rw [(readTable_eq_ok ht).1]
      have hid : identifierOf e t = effectiveIdentifier e := by
        rw [identifierOf, effectiveIdentifier, hname]
      refine ⟨?_, ?_, ?_, ?_⟩
      · rw [List.mapM_cons, ht]
        exact bind_eq_ok_iff.2 ⟨t, rfl, bind_eq_ok_iff.2 ⟨_, hread, rfl⟩⟩
      · rw [List.map_cons, List.map_cons, hids, hid, hname]
      · exact List.nodup_cons.2 ⟨fun hm => hfresh t.name hm List.mem_cons_self, hn⟩
      · intro n hm
        rcases List.mem_cons.1 hm with rfl | hm
        · exact htaken
        · exact fun hk => hfresh n hm (List.mem_cons_of_mem t.name hk)

/-- **The table of identifiers resolves references**: the last table with an identifier counts. -/
theorem nameOf?_eq_resolve (root : Element) (reference : String) :
    Identifiers.nameOf? ((tableElements root).map fun e => (effectiveIdentifier e, tableName e))
        reference = resolve root reference := by
  rw [Identifiers.nameOf?, resolve, List.getLast?_filter, ← List.map_reverse, List.find?_map,
    Option.map_map]
  rfl

theorem mem_tableNames_of_resolve {root : Element} {reference name : String}
    (h : resolve root reference = some name) : name ∈ (tableElements root).map tableName := by
  obtain ⟨e, he, rfl⟩ := Option.map_eq_some_iff.1 h
  exact List.mem_map_of_mem (List.mem_of_mem_filter (List.mem_of_getLast? he))

/-! ## All relations -/

/-- The column pairs of a relation as links. -/
def Relation.links (r : Relation) : List Link := r.pairs.map (⟨r.table, r.referenced, ·⟩)

theorem outcome_readRelations {ids : Identifiers} {es : List Element} {rs : List Relation} :
    (readRelations ids es).outcome = .ok rs ↔ es.mapM (readRelation ids) = .ok rs := by
  induction es generalizing rs with
  | nil => exact Iff.rfl
  | cons e es ih =>
    rw [readRelations, List.mapM_cons, Traced.outcome_bind_eq_ok_iff, bind_eq_ok_iff]
    refine exists_congr fun r => and_congr Iff.rfl ?_
    rw [Traced.outcome_bind_eq_ok_iff, bind_eq_ok_iff]
    constructor
    · rintro ⟨_, -, h⟩
      obtain ⟨others, hothers, h⟩ := Traced.outcome_bind_eq_ok_iff.1 h
      exact ⟨others, ih.1 hothers, h⟩
    · rintro ⟨others, hothers, h⟩
      exact ⟨(), rfl, Traced.outcome_bind_eq_ok_iff.2 ⟨others, ih.2 hothers, h⟩⟩

/-- **A relation as it is read**: both of its ends resolve, its text is well formed, and its links
are those of the element. -/
theorem readRelation_eq_ok {root : Element} {ids : Identifiers}
    (hids : ∀ reference, ids.nameOf? reference = resolve root reference) {e : Element}
    {r : Relation} (h : readRelation ids e = .ok r) :
    resolve root ((e.attribute? "SrcTable").getD "") = some r.referenced ∧
      resolve root ((e.attribute? "DestTable").getD "") = some r.table ∧
      ForeignKeyText.read ((e.attribute? "FKFields").getD "") = .ok r.pairs ∧
      r.links = entryLinks root e := by
  rw [readRelation, hids, hids] at h
  split at h
  · next referenced table hsrc hdest =>
    split at h
    · next pairs hpairs =>
      cases h
      refine ⟨hsrc, hdest, hpairs, ?_⟩
      rw [entryLinks, hsrc, hdest, hpairs]
      rfl
    · cases h
  · cases h

/-! ## Entering the relations -/

/-- A table with some links entered that stand under its name. -/
def Table.withLinks (ls : List Link) (t : Table) : Table :=
  { t with
    foreignKeys := ((ls.filter (·.table = t.name)).map fun l => (l.referenced, [l.pair])).foldl
      Entries.extend t.foreignKeys }

theorem Table.withLinks_append (ls ms : List Link) (t : Table) :
    t.withLinks (ls ++ ms) = (t.withLinks ls).withLinks ms := by
  rw [withLinks, List.filter_append, List.map_append, List.foldl_append]
  rfl

theorem foldl_addForeignKey (t : Table) (referenced : String) (pairs : List ColumnPair) :
    pairs.foldl (·.addForeignKey referenced ·) t
      = { t with
          foreignKeys := (pairs.map fun pair => (referenced, [pair])).foldl Entries.extend
            t.foreignKeys } := by
  induction pairs generalizing t with
  | nil => rfl
  | cons pair pairs ih =>
    rw [List.foldl_cons, ih]
    rfl

theorem enterRelation_eq (tables : List Table) (r : Relation) :
    enterRelation tables r = tables.map (Table.withLinks r.links) := by
  refine List.map_congr_left fun t _ => ?_
  split
  · next h =>
    have hall : r.links.filter (·.table = t.name) = r.links :=
      List.filter_eq_self.2 fun l hl => by
        obtain ⟨pair, -, rfl⟩ := List.mem_map.1 hl
        simpa using h.symm
    rw [foldl_addForeignKey, Table.withLinks, hall, Relation.links, List.map_map]
    rfl
  · next h =>
    have hnone : r.links.filter (·.table = t.name) = [] :=
      List.filter_eq_nil_iff.2 fun l hl => by
        obtain ⟨pair, -, rfl⟩ := List.mem_map.1 hl
        simpa using fun he => h he.symm
    rw [Table.withLinks, hnone]
    rfl

/-- Entering relations one after the other enters all their links. -/
theorem foldl_enterRelation (tables : List Table) (rs : List Relation) :
    rs.foldl enterRelation tables = tables.map (Table.withLinks (rs.flatMap Relation.links)) := by
  induction rs generalizing tables with
  | nil =>
    have hid : Table.withLinks [] = id := rfl
    rw [List.flatMap_nil, hid, List.map_id]
    rfl
  | cons r rs ih =>
    rw [List.foldl_cons, ih, enterRelation_eq, List.map_map, List.flatMap_cons]
    exact List.map_congr_left fun t _ => (Table.withLinks_append _ _ t).symm

/-! ## The model as a whole -/

/-- **What an accepted document gives**: tables of their own names, in the order of the document,
and for each the links that it has there. -/
structure ReadsAs (root : Element) (tables : List Table) : Prop where
  names_eq : tableNames tables = (tableElements root).map tableName
  names_nodup : (tableNames tables).Nodup
  isName_name : ∀ t ∈ tables, Text.IsName t.name
  isName_column : ∀ t ∈ tables, ∀ c ∈ t.columns, Text.IsName c
  primaryKey_subset : ∀ t ∈ tables, t.primaryKey ⊆ t.columns
  foreignKeys_eq : ∀ t ∈ tables, t.foreignKeys
    = Entries.gather (((documentLinks root).filter (·.table = t.name)).map
        fun l => (l.referenced, [l.pair]))
  table_mem : ∀ l ∈ documentLinks root, l.table ∈ tableNames tables
  referenced_mem : ∀ l ∈ documentLinks root, l.referenced ∈ tableNames tables
  pair_lineFeed : ∀ l ∈ documentLinks root,
    '\n' ∉ l.pair.foreignColumn.toList ∧ '\n' ∉ l.pair.localColumn.toList

/-- The links of an accepted document lead from tables to tables, and their names hold no line
feed. -/
theorem mem_documentLinks {root : Element} {l : Link} (hl : l ∈ documentLinks root) :
    l.table ∈ (tableElements root).map tableName ∧
      l.referenced ∈ (tableElements root).map tableName ∧
      '\n' ∉ l.pair.foreignColumn.toList ∧ '\n' ∉ l.pair.localColumn.toList := by
  obtain ⟨e, -, hl⟩ := List.mem_flatMap.1 hl
  rw [entryLinks] at hl
  split at hl
  · next hsrc hdest hpairs =>
    obtain ⟨pair, hpair, rfl⟩ := List.mem_map.1 hl
    exact ⟨mem_tableNames_of_resolve hdest, mem_tableNames_of_resolve hsrc,
      ForeignKeyText.lineFeed_not_mem_of_read hpairs hpair⟩
  · cases hl

/-- The two walks over a document that is accepted. -/
theorem walks_of_ofElement {root : Element} {tables : List Table}
    (h : (ofElement root).outcome = .ok tables) :
    ∃ ts, readTables [] (tableElements root) = .ok ts ∧
      ∃ rs, (relationElements root).mapM (readRelation (ts.map fun p => (p.1, p.2.name))) = .ok rs ∧
        tables = rs.foldl enterRelation (ts.map Prod.snd) := by
  rw [ofElement] at h
  -- a root element of another name is refused before the first walk
  split at h
  · obtain ⟨_, h, -⟩ := Traced.outcome_bind_eq_ok_iff.1 h
    cases h
  · obtain ⟨ts, hts, h⟩ := Traced.outcome_bind_eq_ok_iff.1 h
    obtain ⟨rs, hrs, h⟩ := Traced.outcome_bind_eq_ok_iff.1 h
    obtain ⟨_, -, h⟩ := Traced.outcome_bind_eq_ok_iff.1 h
    cases h
    exact ⟨ts, hts, rs, outcome_readRelations.1 hrs, rfl⟩

theorem tableNames_withLinks (ls : List Link) (tables : List Table) :
    tableNames (tables.map (Table.withLinks ls)) = tableNames tables := by
  rw [tableNames, List.map_map]
  rfl

/-- The relations that are read have the links of the document. -/
theorem flatMap_links_eq {root : Element} {ids : Identifiers}
    (hids : ∀ reference, ids.nameOf? reference = resolve root reference) {rs : List Relation}
    (h : (relationElements root).mapM (readRelation ids) = .ok rs) :
    rs.flatMap Relation.links = documentLinks root := by
  rw [documentLinks, List.flatMap_def, List.flatMap_def]
  exact congrArg List.flatten
    (eq_map_of_mapM (fun _ _ hr => (readRelation_eq_ok hids hr).2.2.2) h)

/-- **An accepted document is read as it stands.** -/
theorem readsAs_of_ofElement {root : Element} {tables : List Table}
    (h : (ofElement root).outcome = .ok tables) : ReadsAs root tables := by
  obtain ⟨ts, hts, rs, hrs, rfl⟩ := walks_of_ofElement h
  obtain ⟨hread, hids, hn, -⟩ := readTables_eq_ok hts
  rw [hids] at hrs
  rw [foldl_enterRelation, flatMap_links_eq (nameOf?_eq_resolve root) hrs]
  have hown : tableNames ((ts.map Prod.snd).map (Table.withLinks (documentLinks root)))
      = ts.map (·.2.name) := by
    rw [tableNames_withLinks, tableNames, List.map_map]
    rfl
  have hnames : tableNames ((ts.map Prod.snd).map (Table.withLinks (documentLinks root)))
      = (tableElements root).map tableName := by
    have hsecond := congrArg (List.map Prod.snd) hids
    rw [List.map_map, List.map_map] at hsecond
    exact hown.trans hsecond
  -- a table that was read without foreign keys stands behind each, with its links entered
  have hbare : ∀ t ∈ (ts.map Prod.snd).map (Table.withLinks (documentLinks root)),
      ∃ e b, readTable e = .ok b ∧ t = b.withLinks (documentLinks root) := by
    intro t ht
    obtain ⟨b, hb, rfl⟩ := List.mem_map.1 ht
    obtain ⟨e, -, he⟩ := exists_of_mem_mapM hread hb
    exact ⟨e, b, he, rfl⟩
  exact {
    names_eq := hnames
    names_nodup := hown ▸ hn
    isName_name := fun t ht => by
      obtain ⟨e, b, he, rfl⟩ := hbare t ht
      exact (readTable_eq_ok he).2.1
    isName_column := fun t ht => by
      obtain ⟨e, b, he, rfl⟩ := hbare t ht
      exact (readTable_eq_ok he).2.2
    primaryKey_subset := fun t ht => by
      obtain ⟨e, b, he, rfl⟩ := hbare t ht
      rw [(readTable_eq_ok he).1]
      exact List.map_subset _ (List.filter_subset_self _)
    foreignKeys_eq := fun t ht => by
      obtain ⟨e, b, he, rfl⟩ := hbare t ht
      rw [(readTable_eq_ok he).1]
      rfl
    table_mem := fun l hl => hnames ▸ (mem_documentLinks hl).1
    referenced_mem := fun l hl => hnames ▸ (mem_documentLinks hl).2.1
    pair_lineFeed := fun l hl => (mem_documentLinks hl).2.2 }

/-- A document, in octets or as a text. -/
inductive Source where
  | octets (content : List UInt8)
  | text (content : String)

/-- The root element of a document. -/
def Source.element : Source → Except Xml.ReadError Element
  | octets content => Xml.Document.readOctets content
  | text content => Xml.Document.readText content

/-- The tables of a document. -/
def Source.read : Source → Traced ReadError (List Table)
  | octets content => readOctets content
  | text content => readText content

/-- **An accepted document has an element, and is read as that stands.** -/
theorem readsAs_of_read {source : Source} {tables : List Table}
    (h : source.read.outcome = .ok tables) :
    ∃ root, source.element = .ok root ∧ ReadsAs root tables := by
  cases source with
  | octets content =>
    obtain ⟨root, hroot, h⟩ := Traced.outcome_bind_eq_ok_iff.1 h
    exact ⟨root, mapError_eq_ok_iff.1 hroot, readsAs_of_ofElement h⟩
  | text content =>
    obtain ⟨root, hroot, h⟩ := Traced.outcome_bind_eq_ok_iff.1 h
    exact ⟨root, mapError_eq_ok_iff.1 hroot, readsAs_of_ofElement h⟩

/-! ## The links of the tables -/

/-- The links of one table that was read are those that stand under its name. -/
theorem ReadsAs.links_of_mem {root : Element} {tables : List Table} (h : ReadsAs root tables)
    {t : Table} (ht : t ∈ tables) :
    (t.references.flatMap Reference.links).Perm
      ((documentLinks root).filter (·.table = t.name)) := by
  have hback : ∀ l ∈ (documentLinks root).filter (·.table = t.name),
      (⟨t.name, l.referenced, l.pair⟩ : Link) = l := fun l hl => by
    rw [← of_decide_eq_true (List.mem_filter.1 hl).2]
  rw [flatMap_links, h.foreignKeys_eq t ht]
  refine ((Entries.flat_gather _).map _).trans (List.Perm.of_eq ?_)
  rw [Entries.flat, List.flatMap_map, List.map_flatMap]
  exact (List.flatMap_congr fun l hl => congrArg (fun l => [l]) (hback l hl)).trans
    (List.flatMap_singleton' _)

/-- **The links of the tables are the links of the document.** -/
theorem ReadsAs.links_perm {root : Element} {tables : List Table} (h : ReadsAs root tables) :
    (links tables).Perm (documentLinks root) := by
  refine List.Perm.trans ?_
    (Entries.flatMap_filter_perm Link.table h.names_nodup h.table_mem)
  rw [links, references, List.flatMap_assoc, tableNames, List.flatMap_map]
  exact List.Perm.flatMap_left tables fun t ht => h.links_of_mem ht

end SchemaGen.Model
