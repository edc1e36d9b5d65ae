import SchemaGen.Failure
import SchemaGen.Proofs.Model.Reading

/-!
# Which documents are models

A document is refused for four reasons alone: a table or a column without a name, two tables of one
name, a relation with an end that stands for no table, and a foreign key text that cannot be read
(`IsRefused`). Whatever else it holds, its tables are those that `tablesOf` reads off it, table by
table: the columns as they are listed, and under each table referred to the column pairs of all
relations from it, in the order of the document (`ofElement_eq_ok_iff`). All that it can be refused
with is an error in what it says, not one of the document itself (`isOfModel_of_ofElement`).
-/

namespace SchemaGen

namespace Model

open Xml (Element)

/-! ## What a document says -/

/-- The column pairs in the text of a relation element; none if it cannot be read. -/
def pairsOf (e : Element) : List ColumnPair :=
  match ForeignKeyText.read ((e.attribute? "FKFields").getD "") with
  | .ok pairs => pairs
  | .error _ => []

/-- The name of the table that a relation element leads from, which is the one referred to. -/
def sourceOf (root e : Element) : Option String := resolve root ((e.attribute? "SrcTable").getD "")

/-- The name of the table that a relation element leads to, which is the one that refers. -/
def destinationOf (root e : Element) : Option String :=
  resolve root ((e.attribute? "DestTable").getD "")

/-- The relations into a table: the table referred to by each, with its column pairs. -/
def relationsInto (root : Element) (table : String) : List (String × List ColumnPair) :=
  (relationElements root).filterMap fun e =>
    if destinationOf root e = some table then (sourceOf root e).map (·, pairsOf e) else none

/-- The tables that a table refers to, in the order of the first relations with column pairs. -/
def referencedBy (root : Element) (table : String) : List String :=
  (((relationsInto root table).filter fun r => !r.2.isEmpty).map Prod.fst).eraseDups

/-- **The foreign keys of a table**: under each table referred to the column pairs of all relations
from it, in the order of the document. -/
def foreignKeysOf (root : Element) (table : String) : PairsByTable :=
  (referencedBy root table).map fun s =>
    (s, ((relationsInto root table).filter (·.1 = s)).flatMap Prod.snd)

/-- The table of a table element, without its foreign keys. -/
def bareTable (e : Element) : Table where
  name := tableName e
  columns := (columnEntries e).map Prod.fst
  primaryKey := ((columnEntries e).filter (·.2)).map Prod.fst

/-- **The tables of a document**, in its order. -/
def tablesOf (root : Element) : List Table :=
  (tableElements root).map fun e =>
    { bareTable e with foreignKeys := foreignKeysOf root (tableName e) }

/-! ## What it is refused for -/

/-- A table element that has a name, as have its columns. -/
def IsNamed (e : Element) : Prop := tableName e ≠ "" ∧ ∀ c ∈ columnEntries e, c.1 ≠ ""

/-- A relation element between two tables, with a text that can be read. -/
structure IsResolved (root e : Element) : Prop where
  source : ∃ s, sourceOf root e = some s
  destination : ∃ d, destinationOf root e = some d
  pairs : ∃ pairs, ForeignKeyText.read ((e.attribute? "FKFields").getD "") = .ok pairs

/-- **A model**: what is not refused. -/
structure IsModel (root : Element) : Prop where
  named : ∀ e ∈ tableElements root, IsNamed e
  names_nodup : ((tableElements root).map tableName).Nodup
  resolved : ∀ e ∈ relationElements root, IsResolved root e

/-- **What an element is refused for.** -/
inductive IsRefused (root : Element) : Prop where
  | unnamedTable {e : Element} (he : e ∈ tableElements root) (h : tableName e = "")
  | unnamedColumn {e : Element} {c : String × Bool} (he : e ∈ tableElements root)
      (hc : c ∈ columnEntries e) (h : c.1 = "")
  | sameNames (h : ¬ ((tableElements root).map tableName).Nodup)
  | noSource {e : Element} (he : e ∈ relationElements root) (h : sourceOf root e = none)
  | noDestination {e : Element} (he : e ∈ relationElements root) (h : destinationOf root e = none)
  | malformed {e : Element} {m : ForeignKeyText.Malformed} (he : e ∈ relationElements root)
      (h : ForeignKeyText.read ((e.attribute? "FKFields").getD "") = .error m)

theorem IsResolved.of_not_isRefused {root e : Element} (h : ¬ IsRefused root)
    (he : e ∈ relationElements root) : IsResolved root e where
  source := Option.ne_none_iff_exists'.1 fun hs => h (.noSource he hs)
  destination := Option.ne_none_iff_exists'.1 fun hd => h (.noDestination he hd)
  pairs := by
    cases hread : ForeignKeyText.read ((e.attribute? "FKFields").getD "") with
    | ok pairs => exact ⟨pairs, rfl⟩
    | error m => exact absurd (.malformed he hread) h

/-- **A model is what is not refused.** -/
theorem isModel_iff {root : Element} : IsModel root ↔ ¬ IsRefused root := by
  constructor
  · intro h hrefused
    cases hrefused with
    | unnamedTable he hname => exact (h.named _ he).1 hname
    | unnamedColumn he hc hname => exact (h.named _ he).2 _ hc hname
    | sameNames hnames => exact hnames h.names_nodup
    | noSource he hnone =>
      obtain ⟨s, hs⟩ := (h.resolved _ he).source
      cases hs.symm.trans hnone
    | noDestination he hnone =>
      obtain ⟨d, hd⟩ := (h.resolved _ he).destination
      cases hd.symm.trans hnone
    | malformed he hread =>
      obtain ⟨pairs, hpairs⟩ := (h.resolved _ he).pairs
      cases hpairs.symm.trans hread
  · intro h
    exact {
      named := fun e he => ⟨fun hname => h (.unnamedTable he hname),
        fun c hc hname => h (.unnamedColumn he hc hname)⟩
      names_nodup := Decidable.byContradiction fun hnames => h (.sameNames hnames)
      resolved := fun e he => .of_not_isRefused h he }

/-! ## Tables that are named are read -/

theorem readColumn_of_ne_empty {table : String} {e : Element} (h : nameIn e "ColName" ≠ "") :
    readColumn table e
      = .ok (nameIn e "ColName", decide (e.attribute? "PrimaryKey" = some "1")) := by
  rw [readColumn]
  exact if_neg h

theorem readTable_eq_ok_iff {e : Element} {t : Table} :
    readTable e = .ok t ↔ IsNamed e ∧ t = bareTable e := by
  constructor
  · intro h
    obtain ⟨ht, hname, hcolumns⟩ := readTable_eq_ok h
    have hbare : t = bareTable e := ht
    refine ⟨⟨?_, fun c hc => (hcolumns c.1 ?_).ne_empty⟩, hbare⟩
    · rw [hbare] at hname
      exact hname.ne_empty
    · rw [hbare]
      exact List.mem_map_of_mem hc
  · rintro ⟨⟨hname, hcolumns⟩, rfl⟩
    have hread : (e.select ["COLUMNS", "COLUMN"]).mapM (readColumn (nameIn e "Tablename"))
        = .ok (columnEntries e) :=
      mapM_eq_ok_of_forall fun c hc =>
        readColumn_of_ne_empty (hcolumns _ (List.mem_map_of_mem hc))
    have hne : ¬ nameIn e "Tablename" = "" := hname
    rw [readTable, if_neg hne, hread]
    exact congrArg Except.ok (foldl_addColumn _ _)

theorem readTables_eq_ok_iff {taken : List String} {es : List Element}
    {ts : List (String × Table)} :
    readTables taken es = .ok ts ↔ (∀ e ∈ es, IsNamed e) ∧ (es.map tableName).Nodup ∧
      (∀ n ∈ es.map tableName, n ∉ taken) ∧
      ts = es.map fun e => (effectiveIdentifier e, bareTable e) := by
  induction es generalizing taken ts with
  | nil => simp [readTables, eq_comm]
  | cons e es ih =>
    rw [readTables, bind_eq_ok_iff]
    constructor
    · rintro ⟨t, ht, h⟩
      obtain ⟨hnamed, rfl⟩ := readTable_eq_ok_iff.1 ht
      split at h
      · cases h
      · next htaken =>
        obtain ⟨others, hothers, h⟩ := bind_eq_ok_iff.1 h
        cases h
        obtain ⟨hall, hn, hfresh, rfl⟩ := ih.1 hothers
        refine ⟨List.forall_mem_cons.2 ⟨hnamed, hall⟩, List.nodup_cons.2 ⟨?_, hn⟩,
          List.forall_mem_cons.2 ⟨htaken, ?_⟩, rfl⟩
        · exact fun hm => hfresh _ hm List.mem_cons_self
        · exact fun n hm hk => hfresh n hm (List.mem_cons_of_mem _ hk)
    · rintro ⟨hall, hn, hfresh, rfl⟩
      obtain ⟨hnamed, hall⟩ := List.forall_mem_cons.1 hall
      obtain ⟨hnot, hn⟩ := List.nodup_cons.1 hn
      obtain ⟨htaken, hfresh⟩ := List.forall_mem_cons.1 hfresh
      have hothers : ∀ n ∈ es.map tableName, n ∉ tableName e :: taken := fun n hm =>
        List.not_mem_cons_of_ne_of_not_mem (fun he => hnot (he ▸ hm)) (hfresh n hm)
      have hname : (bareTable e).name ∉ taken := htaken
      refine ⟨bareTable e, readTable_eq_ok_iff.2 ⟨hnamed, rfl⟩, ?_⟩
      rw [if_neg hname]
      exact bind_eq_ok_iff.2 ⟨_, ih.2 ⟨hall, hn, hothers, rfl⟩, rfl⟩

/-! ## Relations that are resolved are read -/

theorem exists_readRelation_iff {root : Element} {ids : Identifiers}
    (hids : ∀ reference, ids.nameOf? reference = resolve root reference) {e : Element} :
    (∃ r, readRelation ids e = .ok r) ↔ IsResolved root e := by
  constructor
  · rintro ⟨r, h⟩
    obtain ⟨hsource, hdestination, hpairs, -⟩ := readRelation_eq_ok hids h
    exact ⟨⟨_, hsource⟩, ⟨_, hdestination⟩, ⟨_, hpairs⟩⟩
  · rintro ⟨⟨s, hs⟩, ⟨d, hd⟩, ⟨pairs, hpairs⟩⟩
    rw [sourceOf] at hs
    rw [destinationOf] at hd
    rw [readRelation, hids, hids, hs, hd, hpairs]
    exact ⟨_, rfl⟩

/-! ## Foreign keys -/

theorem entryLinks_eq (root e : Element) :
    entryLinks root e = match sourceOf root e, destinationOf root e with
      | some s, some d => (pairsOf e).map (⟨d, s, ·⟩)
      | _, _ => [] := by
  rw [entryLinks, sourceOf, destinationOf, pairsOf]
  cases resolve root ((e.attribute? "SrcTable").getD "") with
  | none => rfl
  | some s =>
    cases resolve root ((e.attribute? "DestTable").getD "") with
    | none => rfl
    | some d => cases ForeignKeyText.read ((e.attribute? "FKFields").getD "") <;> rfl

/-- The links of a relation element that stand under a table are those of a relation into it. -/
theorem filter_entryLinks (root : Element) (table : String) (e : Element) :
    ((entryLinks root e).filter (·.table = table)).map (fun l => (l.referenced, l.pair))
      = Entries.flat (if destinationOf root e = some table
          then (sourceOf root e).map (·, pairsOf e) else none).toList := by
  rw [entryLinks_eq]
  cases sourceOf root e with
  | none => simp
  | some s =>
    cases destinationOf root e with
    | none => simp
    | some d =>
      by_cases hd : d = table
      · simp [hd, List.filter_map, Function.comp_def, Entries.flat]
      · simp [hd, List.filter_map, Function.comp_def]

/-- The links of a document that stand under a table are those of the relations into it. -/
theorem filter_documentLinks (root : Element) (table : String) :
    ((documentLinks root).filter (·.table = table)).map (fun l => (l.referenced, l.pair))
      = Entries.flat (relationsInto root table) := by
  rw [documentLinks, relationsInto, List.filter_flatMap, List.map_flatMap]
  induction relationElements root with
  | nil => rfl
  | cons e es ih =>
    rw [List.flatMap_cons, ih, filter_entryLinks, ← List.singleton_append, List.filterMap_append,
      Entries.flat_append]
    rfl

/-- **The links of a table, gathered, are its foreign keys.** -/
theorem gather_links_eq (root : Element) (table : String) :
    Entries.gather (((documentLinks root).filter (·.table = table)).map
        fun l => (l.referenced, [l.pair])) = foreignKeysOf root table := by
  have hportions : ((documentLinks root).filter (·.table = table)).map
        (fun l => (l.referenced, [l.pair]))
      = (Entries.flat (relationsInto root table)).map fun p => (p.1, [p.2]) := by
    rw [← filter_documentLinks, List.map_map]
    rfl
  rw [hportions, Entries.gather_map_flat, Entries.gather_eq]
  refine List.map_congr_left fun s _ => congrArg (Prod.mk s) ?_
  -- a relation without column pairs adds nothing
  have hempty : ∀ rs : List (String × List ColumnPair),
      (((rs.filter fun r => !r.2.isEmpty).filter (·.1 = s)).flatMap Prod.snd)
        = (rs.filter (·.1 = s)).flatMap Prod.snd := by
    intro rs
    induction rs with
    | nil => rfl
    | cons r rs ih =>
      obtain ⟨k, pairs⟩ := r
      cases pairs with
      | nil => by_cases hk : k = s <;> simpa [hk] using ih
      | cons pair pairs => by_cases hk : k = s <;> simpa [hk] using ih
  exact hempty _

/-! ## Acceptance -/

/-- A table with the links of the document entered. -/
theorem withLinks_bareTable (root e : Element) :
    (bareTable e).withLinks (documentLinks root)
      = { bareTable e with foreignKeys := foreignKeysOf root (tableName e) } :=
  congrArg (fun keys => { bareTable e with foreignKeys := keys })
    (gather_links_eq root (tableName e))

theorem tag_of_ofElement {root : Element} {tables : List Table}
    (h : (ofElement root).outcome = .ok tables) : root.tag = "DBMODEL" := by
  rw [ofElement] at h
  split at h
  · obtain ⟨_, h, -⟩ := Traced.outcome_bind_eq_ok_iff.1 h
    cases h
  · next htag => exact not_not.1 htag

/-- **A document is accepted if it is a model, and is read into its tables.** -/
theorem ofElement_eq_ok_iff {root : Element} {tables : List Table} :
    (ofElement root).outcome = .ok tables ↔
      root.tag = "DBMODEL" ∧ IsModel root ∧ tables = tablesOf root := by
  -- entering the relations into the bare tables gives the tables of the document
  have henter : ∀ rs, (relationElements root).mapM (readRelation ((tableElements root).map
        fun e => (effectiveIdentifier e, tableName e))) = .ok rs →
      rs.foldl enterRelation ((tableElements root).map bareTable) = tablesOf root := by
    intro rs hrs
    rw [foldl_enterRelation, flatMap_links_eq (nameOf?_eq_resolve root) hrs, List.map_map]
    exact List.map_congr_left fun e _ => withLinks_bareTable root e
  constructor
  · intro h
    obtain ⟨ts, hts, rs, hrs, rfl⟩ := walks_of_ofElement h
    obtain ⟨hnamed, hn, -, rfl⟩ := readTables_eq_ok_iff.1 hts
    rw [List.map_map] at hrs
    refine ⟨?_, ⟨hnamed, hn, fun e he => ?_⟩, ?_⟩
    · exact tag_of_ofElement h
    · exact (exists_readRelation_iff (nameOf?_eq_resolve root)).1
        (exists_mapM_eq_ok_iff.1 ⟨rs, hrs⟩ e he)
    · rw [List.map_map]
      exact henter rs hrs
  · rintro ⟨htag, hmodel, rfl⟩
    have htables : readTables [] (tableElements root)
        = .ok ((tableElements root).map fun e => (effectiveIdentifier e, bareTable e)) :=
      readTables_eq_ok_iff.2 ⟨hmodel.named, hmodel.names_nodup, fun _ _ => List.not_mem_nil, rfl⟩
    obtain ⟨rs, hrs⟩ := exists_mapM_eq_ok_iff.2 fun e he =>
      (exists_readRelation_iff (nameOf?_eq_resolve root)).2 (hmodel.resolved e he)
    rw [ofElement, if_neg (not_not.2 htag)]
    refine Traced.outcome_bind_eq_ok_iff.2 ⟨_, htables, ?_⟩
    dsimp only
    rw [List.map_map]
    refine Traced.outcome_bind_eq_ok_iff.2 ⟨rs, outcome_readRelations.2 hrs, ?_⟩
    refine Traced.outcome_bind_eq_ok_iff.2 ⟨(), rfl, ?_⟩
    rw [List.map_map]
    exact congrArg Except.ok (henter rs hrs)

/-! ## What a refusal says -/

/-- Whether an error is one in what a document says, as opposed to one of the document itself. -/
def ReadError.isOfModel : ReadError → Bool
  | document _ => false
  | _ => true

theorem isOfModel_of_readTable {element : Element} {e : ReadError}
    (h : readTable element = .error e) : e.isOfModel = true := by
  rw [readTable] at h
  split at h
  · cases h
    rfl
  · rcases bind_eq_error h with h | ⟨columns, -, h⟩
    · obtain ⟨column, -, h⟩ := exists_of_mapM_eq_error h
      rw [readColumn] at h
      split at h
      · cases h
        rfl
      · cases h
    · cases h

theorem isOfModel_of_readTables {taken : List String} {elements : List Element} {e : ReadError}
    (h : readTables taken elements = .error e) : e.isOfModel = true := by
  induction elements generalizing taken with
  | nil => cases h
  | cons element elements ih =>
    rcases bind_eq_error h with h | ⟨t, -, h⟩
    · exact isOfModel_of_readTable h
    · split at h
      · cases h
        rfl
      · rcases bind_eq_error h with h | ⟨others, -, h⟩
        · exact ih h
        · cases h

theorem isOfModel_of_readRelations {ids : Identifiers} {elements : List Element} {e : ReadError}
    (h : (readRelations ids elements).outcome = .error e) : e.isOfModel = true := by
  induction elements with
  | nil => cases h
  | cons element elements ih =>
    rcases Traced.outcome_bind_eq_error h with h | ⟨r, -, h⟩
    · rw [Traced.outcome_ofExcept, readRelation] at h
      split at h
      · split at h
        · cases h
        · cases h
          rfl
      · cases h
        rfl
    · rcases Traced.outcome_bind_eq_error h with h | ⟨_, -, h⟩
      · cases h
      · rcases Traced.outcome_bind_eq_error h with h | ⟨others, -, h⟩
        · exact ih h
        · cases h

theorem isOfModel_of_ofElement {root : Element} {e : ReadError}
    (h : (ofElement root).outcome = .error e) : e.isOfModel = true := by
  rw [ofElement] at h
  split at h
  · cases h
    rfl
  · rcases Traced.outcome_bind_eq_error h with h | ⟨tables, -, h⟩
    · exact isOfModel_of_readTables h
    · rcases Traced.outcome_bind_eq_error h with h | ⟨relations, -, h⟩
      · exact isOfModel_of_readRelations h
      · rcases Traced.outcome_bind_eq_error h with h | ⟨_, -, h⟩ <;> cases h

/-- An error in what a document says is one of reading. -/
theorem kind_of_isOfModel {e : ReadError} (h : e.isOfModel = true) :
    (Failure.model e).kind = .reading := by
  cases e with
  | document d => cases h
  | _ => rfl

/-! ## Both sides together -/

/-- A document is read as its element is. -/
theorem outcome_read_of_element {source : Source} {root : Element} (h : source.element = .ok root) :
    source.read.outcome = (ofElement root).outcome := by
  cases source with
  | octets content =>
    have hroot : Xml.Document.readOctets content = .ok root := h
    rw [Source.read, readOctets, hroot, Traced.outcome_bind]
    rfl
  | text content =>
    have hroot : Xml.Document.readText content = .ok root := h
    rw [Source.read, readText, hroot, Traced.outcome_bind]
    rfl

theorem isRefused_iff_exists_error {root : Element} (htag : root.tag = "DBMODEL") :
    IsRefused root ↔ ∃ e, (ofElement root).outcome = .error e := by
  constructor
  · intro hrefused
    cases h : (ofElement root).outcome with
    | ok tables => exact absurd hrefused (isModel_iff.1 (ofElement_eq_ok_iff.1 h).2.1)
    | error e => exact ⟨e, rfl⟩
  · rintro ⟨e, he⟩
    by_contra hrefused
    cases he.symm.trans (ofElement_eq_ok_iff.2 ⟨htag, isModel_iff.2 hrefused, rfl⟩)

/-- **Relations are resolved exactly.** An element of a model that is accepted, however it was
parsed, is read into its tables, each with the relations into it under the last tables with the
identifiers they name; and it is refused, with an error of reading, just for the reasons there
are. -/
theorem resolvesRelations_of_tag {root : Element} (htag : root.tag = "DBMODEL") :
    (∀ source : Source, source.element = .ok root →
        source.read.outcome = (ofElement root).outcome) ∧
      (∀ tables, (ofElement root).outcome = .ok tables → tables = tablesOf root) ∧
      ((∃ e, (ofElement root).outcome = .error e ∧ (Failure.model e).kind = .reading) ↔
        IsRefused root) := by
  refine ⟨fun source h => outcome_read_of_element h, fun tables h => (ofElement_eq_ok_iff.1 h).2.2,
    ?_⟩
  rw [isRefused_iff_exists_error htag]
  exact exists_congr fun e => and_iff_left_of_imp fun he =>
    kind_of_isOfModel (isOfModel_of_ofElement he)

/-- A model of travels, in which a town has the identifier that a person goes by. -/
def travelRoot : Element :=
  let column (name key : String) : Element :=
    .mk "COLUMN" [("ColName", name), ("PrimaryKey", key)] []
  let relation (src dest fields : String) : Element :=
    .mk "RELATION" [("SrcTable", src), ("DestTable", dest), ("FKFields", fields)] []
  .mk "DBMODEL" [] [.mk "METADATA" [] [
    .mk "TABLES" [] [
      .mk "TABLE" [("Tablename", " person ")] [.mk "COLUMNS" [] [column "id" "1"]],
      .mk "TABLE" [("ID", "person"), ("Tablename", "town")] [],
      .mk "TABLE" [("ID", "7"), ("Tablename", "visit")] []],
    .mk "RELATIONS" [] [relation "7" "7" "", relation "person" "7" "id=town_id",
      relation "person" "person" "id=part_of\\n", relation "person" "7" "code = town_code"]]]

/-- The tables of the model of travels. -/
def travelTables : List Table :=
  [{ name := "person", columns := ["id"], primaryKey := ["id"] },
   { name := "town", foreignKeys := [("town", [⟨"id", "part_of"⟩])] },
   { name := "visit", foreignKeys := [("town", [⟨"id", "town_id"⟩, ⟨"code", "town_code"⟩])] }]

/-- In the model of travels all relations of that identifier are those of the town. -/
theorem resolvesRelations_travel :
    travelRoot.tag = "DBMODEL" ∧ (ofElement travelRoot).outcome = .ok travelTables ∧
      travelTables = tablesOf travelRoot ∧ ¬ IsRefused travelRoot := by
  have htag : travelRoot.tag = "DBMODEL" := rfl
  have hread : (ofElement travelRoot).outcome = .ok travelTables := by decide +kernel
  obtain ⟨-, htables, hrefused⟩ := resolvesRelations_of_tag htag
  refine ⟨htag, hread, htables _ hread, fun h => ?_⟩
  obtain ⟨e, he, -⟩ := hrefused.2 h
  cases hread.symm.trans he

end Model

end SchemaGen
