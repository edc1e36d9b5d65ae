import SchemaGen.Model.Warning
import SchemaGen.Proofs.Model.Mirror

/-!
# Relations and warnings agree

The foreign keys of a model are gone through twice: the derivation of relations enters each of them
at both of its ends, and the warnings compare each of them with the names of the tables. Neither
knows of the other, and they are at one about the names that are referred to and are those of no
table (`danglingNames`): in the relations these are the names behind those of the tables
(`keys_derive_eq_append`), with no incoming pairs, and in the warnings they are the unknown tables
(`Warning.unknownTable_mem_ofTables_iff`). So the relations tell when there is nothing to warn of
(`agreeOnDoubts_derive`). This holds whatever names repeat, and for a foreign key without pairs as
for any other.
-/

namespace SchemaGen.Model

/-- **The names that are referred to and are those of no table**, in the order of their first
reference. -/
def danglingNames (tables : List Table) : List String :=
  ((tables.flatMap (·.foreignKeys.keys)).filter (· ∉ tableNames tables)).eraseDups

theorem mem_danglingNames {tables : List Table} {name : String} :
    name ∈ danglingNames tables ↔
      (∃ t ∈ tables, name ∈ t.foreignKeys.keys) ∧ name ∉ tableNames tables := by
  simp [danglingNames]

/-- A pair that leads to a table stands under one of the keys of its name. -/
theorem Table.mem_pairsTo {t : Table} {name : String} {pair : ColumnPair} :
    pair ∈ t.pairsTo name ↔ ∃ key ∈ t.foreignKeys, key.1 = name ∧ pair ∈ key.2 := by
  simp [pairsTo, and_assoc]

/-! ## Warnings -/

namespace Warning

/-- **A reference is in doubt just if its table is not in the model.** -/
theorem unknownTable_mem_ofTables_iff {tables : List Table} {table referenced : String} :
    unknownTable table referenced ∈ ofTables tables ↔
      ∃ t ∈ tables, t.name = table ∧ referenced ∈ t.foreignKeys.keys ∧
        referenced ∉ tableNames tables := by
  have hkey : ∀ (t : Table) (key : String × List ColumnPair),
      unknownTable table referenced ∈ ofForeignKey (tableNames tables) t key ↔
        t.name = table ∧ key.1 = referenced ∧ key.1 ∉ tableNames tables := by
    intro t key
    by_cases hknown : key.1 ∈ tableNames tables
    · simp [ofForeignKey, hknown]
    · simp [ofForeignKey, hknown, eq_comm]
  have htable : ∀ t : Table, unknownTable table referenced ∈ ofTable (tableNames tables) t ↔
      t.name = table ∧ referenced ∈ t.foreignKeys.keys ∧ referenced ∉ tableNames tables := by
    intro t
    have hcolumns : unknownTable table referenced ∉
        (if t.columns = [] then [noColumns t.name] else []) := by split <;> simp
    have hprimary : unknownTable table referenced ∉
        (if t.primaryKey = [] then [noPrimaryKey t.name] else []) := by split <;> simp
    rw [ofTable, List.mem_append, List.mem_append, or_iff_right (not_or.2 ⟨hcolumns, hprimary⟩),
      List.mem_flatMap]
    constructor
    · rintro ⟨key, hmem, h⟩
      obtain ⟨hname, rfl, hunknown⟩ := (hkey t key).1 h
      exact ⟨hname, List.mem_map_of_mem hmem, hunknown⟩
    · rintro ⟨hname, hmem, hunknown⟩
      obtain ⟨key, hkeyMem, rfl⟩ := List.mem_map.1 hmem
      exact ⟨key, hkeyMem, (hkey t key).2 ⟨hname, rfl, hunknown⟩⟩
  rw [ofTables, List.mem_flatMap]
  exact exists_congr fun t => and_congr_right fun _ => htable t

/-- The unknown tables of the warnings are the names without a table. -/
theorem exists_unknownTable_iff {tables : List Table} {referenced : String} :
    (∃ table, unknownTable table referenced ∈ ofTables tables) ↔
      referenced ∈ danglingNames tables := by
  simp only [unknownTable_mem_ofTables_iff, mem_danglingNames]
  constructor
  · rintro ⟨_, t, ht, -, hkey, hunknown⟩
    exact ⟨⟨t, ht, hkey⟩, hunknown⟩
  · rintro ⟨⟨t, ht, hkey⟩, hunknown⟩
    exact ⟨t.name, t, ht, rfl, hkey, hunknown⟩

theorem ofForeignKey_eq_nil_iff {known : List String} {t : Table}
    {key : String × List ColumnPair} :
    ofForeignKey known t key = [] ↔
      key.1 ∈ known ∧ ∀ pair ∈ key.2, pair.localColumn ∈ t.columns := by
  simp [ofForeignKey]

/-- **A table is beyond doubt** if it has columns and a primary key, refers to known tables and
joins them by columns of its own. -/
theorem ofTable_eq_nil_iff {known : List String} {t : Table} :
    ofTable known t = [] ↔ (t.columns ≠ [] ∧ t.primaryKey ≠ []) ∧
      ∀ key ∈ t.foreignKeys, key.1 ∈ known ∧ ∀ pair ∈ key.2, pair.localColumn ∈ t.columns := by
  simp only [ofTable, List.append_eq_nil_iff, List.flatMap_eq_nil_iff, ofForeignKey_eq_nil_iff]
  simp

/-- **There is nothing to warn of** if all tables have columns and a primary key, all names have
tables and all pairs join columns that are there. -/
theorem ofTables_eq_nil_iff {tables : List Table} :
    ofTables tables = [] ↔ (∀ t ∈ tables, t.columns ≠ [] ∧ t.primaryKey ≠ []) ∧
      danglingNames tables = [] ∧
      ∀ t ∈ tables, ∀ name, ∀ pair ∈ t.pairsTo name, pair.localColumn ∈ t.columns := by
  simp only [ofTables, List.flatMap_eq_nil_iff, ofTable_eq_nil_iff]
  constructor
  · intro h
    refine ⟨fun t ht => (h t ht).1, List.eq_nil_iff_forall_not_mem.2 fun name hname => ?_,
      fun t ht name pair hpair => ?_⟩
    · obtain ⟨⟨t, ht, hname⟩, hunknown⟩ := mem_danglingNames.1 hname
      obtain ⟨key, hkey, rfl⟩ := List.mem_map.1 hname
      exact hunknown ((h t ht).2 key hkey).1
    · obtain ⟨key, hkey, -, hpair⟩ := Table.mem_pairsTo.1 hpair
      exact ((h t ht).2 key hkey).2 pair hpair
  · rintro ⟨hfilled, hdangling, hjoined⟩ t ht
    refine ⟨hfilled t ht, fun key hkey => ⟨?_, fun pair hpair => ?_⟩⟩
    · by_contra hunknown
      have hmem : key.1 ∈ danglingNames tables :=
        mem_danglingNames.2 ⟨⟨t, ht, List.mem_map_of_mem hkey⟩, hunknown⟩
      rw [hdangling] at hmem
      exact List.not_mem_nil hmem
    · exact hjoined t ht key.1 pair (Table.mem_pairsTo.2 ⟨key, hkey, rfl, hpair⟩)

end Warning

/-! ## The keys of the relations -/

namespace Relations

/-- **Behind the names of the tables**, the relations stand under the names that are referred to and
have none. -/
theorem keys_derive_eq_append (tables : List Table) :
    (derive tables).keys = (tableNames tables).eraseDups ++ danglingNames tables := by
  rw [keys_derive, List.eraseDups_append, danglingNames, List.removeAll]
  simp

/-- **A name without a table has no incoming pairs.** -/
theorem incoming_derive_of_mem_danglingNames {tables : List Table} {name : String}
    (h : name ∈ danglingNames tables) : ((derive tables).of name).incoming = [] := by
  obtain ⟨-, hunknown⟩ := mem_danglingNames.1 h
  have hnone : tables.filter (·.name = name) = [] := List.filter_eq_nil_iff.2 fun t ht he =>
    hunknown (of_decide_eq_true he ▸ List.mem_map_of_mem ht)
  have hkeys := keys_incoming_derive tables name
  rw [hnone] at hkeys
  exact List.map_eq_nil_iff.1 hkeys

/-- The incoming pairs of a name are those of its tables. -/
theorem exists_incoming_iff {tables : List Table} {name other : String} {pair : ColumnPair} :
    (∃ pairs, ((derive tables).of name).incoming.get? other = some pairs ∧ pair ∈ pairs) ↔
      ∃ t ∈ tables, t.name = name ∧ pair ∈ t.pairsTo other := by
  have hpairs : pair ∈ pairsBetween tables name other ↔
      ∃ t ∈ tables, t.name = name ∧ pair ∈ t.pairsTo other := by
    simp [pairsBetween, and_assoc]
  rw [get?_incoming_derive, ← hpairs]
  split
  · simp
  · next hrefers =>
    simp only [reduceCtorEq, false_and, exists_false, false_iff, hpairs]
    rintro ⟨t, ht, hname, hpair⟩
    obtain ⟨key, hkey, rfl, -⟩ := Table.mem_pairsTo.1 hpair
    exact hrefers ⟨t, ht, hname, List.mem_map_of_mem hkey⟩

/-! ## Both together -/

/-- **Relations and warnings that are at one** about the doubts of a model. -/
structure AgreeOnDoubts (tables : List Table) (rs : Relations) (warnings : List Warning) :
    Prop where
  keys_eq : rs.keys = (tableNames tables).eraseDups ++ danglingNames tables
  unknown_iff : ∀ name, name ∈ danglingNames tables ↔
    ∃ table, Warning.unknownTable table name ∈ warnings
  incoming_eq_nil : ∀ e ∈ rs, e.1 ∈ danglingNames tables → e.2.incoming = []
  /-- Without a warning all tables are filled, no name dangles, and each incoming pair joins a
  column of every table that declares it. -/
  eq_nil_iff : warnings = [] ↔ (∀ t ∈ tables, t.columns ≠ [] ∧ t.primaryKey ≠ []) ∧
    danglingNames tables = [] ∧
    ∀ name other pairs, (rs.of name).incoming.get? other = some pairs → ∀ pair ∈ pairs,
      ∀ t ∈ tables, t.name = name → pair ∈ t.pairsTo other → pair.localColumn ∈ t.columns

/-- **The derivation and the warnings agree**, for every list of tables. -/
theorem agreeOnDoubts_derive (tables : List Table) :
    AgreeOnDoubts tables (derive tables) (Warning.ofTables tables) where
  keys_eq := keys_derive_eq_append tables
  unknown_iff _ := Warning.exists_unknownTable_iff.symm
  incoming_eq_nil := by
    intro e he hname
    have hof : (derive tables).of e.1 = e.2 := by
      rw [of, Entries.get?_eq_some_of_mem (nodup_keys_derive tables) he]
      rfl
    rw [← hof, incoming_derive_of_mem_danglingNames hname]
  eq_nil_iff := by
    rw [Warning.ofTables_eq_nil_iff]
    refine and_congr_right fun _ => and_congr_right fun _ => ⟨fun h => ?_, fun h => ?_⟩
    · intro _ other _ _ pair _ t ht _ hpair
      exact h t ht other pair hpair
    · intro t ht other pair hpair
      obtain ⟨pairs, hpairs, hmem⟩ := exists_incoming_iff.2 ⟨t, ht, rfl, hpair⟩
      exact h t.name other pairs hpairs pair hmem t ht rfl hpair

/-- Two tables of one name refer to a table that is missing, one of them without a pair. -/
example : (derive [{ name := "a", foreignKeys := [("b", []), ("a", [])] },
    { name := "c", foreignKeys := [("d", [⟨"id", "x"⟩])] },
    { name := "a", foreignKeys := [("b", [⟨"no", "y"⟩])] }]).keys = ["a", "c", "b", "d"] := by
  decide

end Relations

end SchemaGen.Model
