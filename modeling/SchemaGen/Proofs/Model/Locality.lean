import Mathlib.Data.List.Induction
import SchemaGen.Proofs.Model.Derivation

/-!
# What one table adds to the relations

A table of a new name adds to the relations of any other table only what it declares on it, after
all that stands there (`flat_outgoing_append`), and nothing to what the other table declares itself
(`incoming_append`). So, where all names differ, the outgoing pairs of a table are put together from
what each table declares on it, table by table in their order (`flat_outgoing_of_nodup`), while its
incoming pairs are its own foreign keys and do not depend on the other tables at all
(`incoming_derive_eq_gather`).
-/

namespace SchemaGen.Model

/-- The pairs by which a table refers to another. -/
def Table.pairsTo (t : Table) (name : String) : List ColumnPair :=
  (t.foreignKeys.filter (·.1 = name)).flatMap Prod.snd

/-- A table does not pair with one that it does not refer to. -/
theorem Table.pairsTo_of_not_mem {t : Table} {name : String} (h : name ∉ t.foreignKeys.keys) :
    t.pairsTo name = [] := by
  have hnone : t.foreignKeys.filter (·.1 = name) = [] := List.filter_eq_nil_iff.2 fun key hkey => by
    intro he
    exact h (of_decide_eq_true he ▸ List.mem_map_of_mem hkey)
  rw [pairsTo, hnone]
  rfl

/-- The portions that a table adds to the outgoing pairs of another. -/
def Table.portionsTo (t : Table) (name : String) : List (String × List ColumnPair) :=
  (t.references.filter (·.referenced = name)).map fun r => (r.table, r.pairs)

theorem Table.key_eq_of_mem_portionsTo {t : Table} {name : String}
    {e : String × List ColumnPair} (he : e ∈ t.portionsTo name) : e.1 = t.name := by
  obtain ⟨r, hr, rfl⟩ := List.mem_map.1 he
  exact table_of_mem_references (List.mem_filter.1 hr).1

/-- Its portions hold just its pairs. -/
theorem Table.flat_portionsTo (t : Table) (name : String) :
    Entries.flat (t.portionsTo name) = (t.pairsTo name).map (Prod.mk t.name) := by
  rw [portionsTo, references, List.filter_map, List.map_map, Entries.flat, List.flatMap_map,
    pairsTo, List.map_flatMap]
  rfl

namespace Relations

theorem references_append (tables : List Table) (u : Table) :
    references (tables ++ [u]) = references tables ++ u.references := by
  rw [references, List.flatMap_append, List.flatMap_singleton]
  rfl

/-- **A table of a new name adds its own pairs at the end**, to the outgoing ones of the tables that
it refers to. -/
theorem flat_outgoing_append {tables : List Table} {u : Table} (hu : u.name ∉ tableNames tables)
    (name : String) :
    Entries.flat ((derive (tables ++ [u])).of name).outgoing
      = Entries.flat ((derive tables).of name).outgoing
        ++ (u.pairsTo name).map (Prod.mk u.name) := by
  -- no other portion stands under the new name, so its portions are gathered apart
  have happart : ∀ k ∈ Entries.keys (u.portionsTo name), k ∉ Entries.keys
      (((references tables).filter (·.referenced = name)).map fun r => (r.table, r.pairs)) := by
    intro k hk hm
    obtain ⟨e, he, rfl⟩ := List.mem_map.1 hk
    obtain ⟨f, hf, hname⟩ := List.mem_map.1 hm
    obtain ⟨r, hr, rfl⟩ := List.mem_map.1 hf
    obtain ⟨t, ht, hr⟩ := List.mem_flatMap.1 (List.mem_filter.1 hr).1
    have hsame : t.name = u.name := by
      rw [← Table.table_of_mem_references hr, ← Table.key_eq_of_mem_portionsTo he]
      exact hname
    exact hu (hsame ▸ List.mem_map_of_mem ht)
  rw [outgoing_derive, outgoing_derive, references_append, List.filter_append, List.map_append]
  refine (congrArg Entries.flat (Entries.gather_append happart)).trans ?_
  rw [Entries.flat_append]
  refine congrArg (_ ++ ·) ?_
  exact (Entries.flat_gather_of_key_eq fun e he => Table.key_eq_of_mem_portionsTo he).trans
    (u.flat_portionsTo name)

/-- **The outgoing pairs are put together table by table.** -/
theorem flat_outgoing_of_nodup {tables : List Table} (hn : (tableNames tables).Nodup)
    (name : String) :
    Entries.flat ((derive tables).of name).outgoing
      = tables.flatMap fun u => (u.pairsTo name).map (Prod.mk u.name) := by
  induction tables using List.reverseRecOn with
  | nil => rw [outgoing_derive]; rfl
  | append_singleton tables u ih =>
    rw [tableNames, List.map_append, List.nodup_append] at hn
    obtain ⟨hn, -, hne⟩ := hn
    have hu : u.name ∉ tableNames tables := fun hm =>
      hne _ hm _ (List.mem_singleton.2 rfl) rfl
    rw [flat_outgoing_append hu, ih hn, List.flatMap_append, List.flatMap_singleton]

/-- **What a table declares itself is not touched** by another one. -/
theorem incoming_append (tables : List Table) {u : Table} {name : String} (h : u.name ≠ name) :
    ((derive (tables ++ [u])).of name).incoming = ((derive tables).of name).incoming := by
  rw [incoming_derive, incoming_derive, references_append, List.filter_append,
    u.filter_references_of_ne h, List.append_nil]

end Relations

end SchemaGen.Model
