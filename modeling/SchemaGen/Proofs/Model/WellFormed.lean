import SchemaGen.Proofs.Model.Acceptance
import SchemaGen.Proofs.Model.Doubts
import SchemaGen.Proofs.Scheme

/-!
# Models are well formed

Whatever text a document holds, the model that is read from it can be relied on: names are names,
tables are told apart by them, the primary key of a table is made of its own columns, and every
foreign key leads to a table of the model and joins at least one pair of columns (`IsWellFormed`,
`isWellFormed_of_read`). So of the doubts about tables one never arises from a document, that a
table refers to one that is not there (`Warning.unknownTable_mem_ofTables_iff`).
-/

namespace SchemaGen.Model

open Text (IsName)
open Xml (Element)

/-! ## Well-formed models -/

/-- **A model that is well formed**, read from the given element. -/
structure IsWellFormed (root : Element) (tables : List Table) : Prop where
  isName_name : ∀ t ∈ tables, IsName t.name
  names_nodup : (tableNames tables).Nodup
  isName_column : ∀ t ∈ tables, ∀ c ∈ t.columns, IsName c
  /-- The primary key is made of the columns at the marked elements, in their order. -/
  primaryKey_eq : ∀ t ∈ tables, ∃ e ∈ tableElements root, t.name = tableName e ∧
    t.columns = (columnEntries e).map Prod.fst ∧
    t.primaryKey = ((columnEntries e).filter (·.2)).map Prod.fst
  referenced_mem : ∀ t ∈ tables, ∀ key ∈ t.foreignKeys, key.1 ∈ tableNames tables
  pairs_ne_nil : ∀ t ∈ tables, ∀ key ∈ t.foreignKeys, key.2 ≠ []
  isName_pair : ∀ t ∈ tables, ∀ key ∈ t.foreignKeys, ∀ pair ∈ key.2,
    IsName pair.foreignColumn ∧ IsName pair.localColumn
  /-- No reference is in doubt. -/
  not_unknown : ∀ table referenced,
    Warning.unknownTable table referenced ∉ Warning.ofTables tables

/-- A relation into a table comes from a table of the document, with pairs of names. -/
theorem relationsInto_spec {root : Element} {table : String} {r : String × List ColumnPair}
    (h : r ∈ relationsInto root table) :
    r.1 ∈ (tableElements root).map tableName ∧
      ∀ pair ∈ r.2, IsName pair.foreignColumn ∧ IsName pair.localColumn := by
  obtain ⟨e, -, he⟩ := List.mem_filterMap.1 h
  split at he
  · obtain ⟨s, hs, rfl⟩ := Option.map_eq_some_iff.1 he
    refine ⟨mem_tableNames_of_resolve hs, fun pair hpair => ?_⟩
    rw [pairsOf] at hpair
    split at hpair
    · next hread => exact ForeignKeyText.isName_of_read hread hpair
    · cases hpair
  · cases he

/-- A foreign key joins at least one pair of columns, each of which is that of a relation. -/
theorem foreignKeysOf_spec {root : Element} {table : String} {key : String × List ColumnPair}
    (h : key ∈ foreignKeysOf root table) :
    (∃ r ∈ relationsInto root table, r.1 = key.1) ∧ key.2 ≠ [] ∧
      ∀ pair ∈ key.2, ∃ r ∈ relationsInto root table, pair ∈ r.2 := by
  obtain ⟨s, hs, rfl⟩ := List.mem_map.1 h
  rw [referencedBy, List.mem_eraseDups] at hs
  obtain ⟨r, hr, rfl⟩ := List.mem_map.1 hs
  obtain ⟨hr, hpairs⟩ := List.mem_filter.1 hr
  obtain ⟨pair, hpair⟩ := List.exists_mem_of_ne_nil _ (by simpa using hpairs)
  refine ⟨⟨r, hr, rfl⟩, List.ne_nil_of_mem (List.mem_flatMap.2 ⟨r, ?_, hpair⟩), ?_⟩
  · exact List.mem_filter.2 ⟨hr, by simp⟩
  · intro pair hpair
    obtain ⟨r', hr', hpair⟩ := List.mem_flatMap.1 hpair
    exact ⟨r', (List.mem_filter.1 hr').1, hpair⟩

/-- **What is read off a document is well formed.** -/
theorem isWellFormed_of_ofElement {root : Element} {tables : List Table}
    (h : (ofElement root).outcome = .ok tables) : IsWellFormed root tables := by
  have hread := readsAs_of_ofElement h
  obtain ⟨-, -, rfl⟩ := ofElement_eq_ok_iff.1 h
  have hkeys : ∀ t ∈ tablesOf root, t.foreignKeys = foreignKeysOf root t.name := by
    intro t ht
    obtain ⟨e, -, rfl⟩ := List.mem_map.1 ht
    rfl
  have hreferenced : ∀ t ∈ tablesOf root, ∀ key ∈ t.foreignKeys,
      key.1 ∈ tableNames (tablesOf root) := by
    intro t ht key hkey
    rw [hkeys t ht] at hkey
    obtain ⟨⟨r, hr, hname⟩, -⟩ := foreignKeysOf_spec hkey
    rw [hread.names_eq, ← hname]
    exact (relationsInto_spec hr).1
  exact {
    isName_name := hread.isName_name
    names_nodup := hread.names_nodup
    isName_column := hread.isName_column
    primaryKey_eq := fun t ht => by
      obtain ⟨e, he, rfl⟩ := List.mem_map.1 ht
      exact ⟨e, he, rfl, rfl, rfl⟩
    referenced_mem := hreferenced
    pairs_ne_nil := fun t ht key hkey => by
      rw [hkeys t ht] at hkey
      exact (foreignKeysOf_spec hkey).2.1
    isName_pair := fun t ht key hkey pair hpair => by
      rw [hkeys t ht] at hkey
      obtain ⟨r, hr, hpair⟩ := (foreignKeysOf_spec hkey).2.2 pair hpair
      exact (relationsInto_spec hr).2 pair hpair
    not_unknown := fun table referenced hdoubt => by
      obtain ⟨t, ht, -, hkeys, hunknown⟩ := Warning.unknownTable_mem_ofTables_iff.1 hdoubt
      obtain ⟨key, hkey, rfl⟩ := List.mem_map.1 hkeys
      exact hunknown (hreferenced t ht key hkey) }

/-- **Every model that is read is well formed**, whatever its document holds. -/
theorem isWellFormed_of_read {source : Source} {tables : List Table}
    (h : source.read.outcome = .ok tables) :
    ∃ root, source.element = .ok root ∧ IsWellFormed root tables := by
  obtain ⟨root, hroot, -⟩ := readsAs_of_read h
  rw [outcome_read_of_element hroot] at h
  exact ⟨root, hroot, isWellFormed_of_ofElement h⟩

/-- The sample document is read into a model that is well formed. -/
theorem isWellFormed_sample : Scheme.sampleDocument.read.outcome = .ok Scheme.sampleTables ∧
    ∃ root, Scheme.sampleDocument.element = .ok root ∧ IsWellFormed root Scheme.sampleTables :=
  ⟨Scheme.read_sampleDocument, isWellFormed_of_read Scheme.read_sampleDocument⟩

end SchemaGen.Model
