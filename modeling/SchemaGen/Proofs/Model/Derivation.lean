import SchemaGen.Model.Relations
import SchemaGen.Proofs.Entries.Gathering

/-!
# What the derivation of relations computes

The foreign keys of all tables, one after the other, are the `references` of a model. The derivation
enters each of them at both of its ends, and nothing else: the outgoing pairs of a table are
gathered from the references to it (`outgoing_derive`), its incoming pairs from those that it makes
(`incoming_derive`), for every list of tables, whatever names repeat or are missing.

A single column pair of a reference is a `Link`. Read pair by pair, the outgoing pairs of a table
are the links to it and the incoming ones its own, up to their order (`flat_outgoing_derive`,
`flat_incoming_derive`).
-/

namespace SchemaGen.Model

/-- A foreign key, with the table that declares it. -/
structure Reference where
  table : String
  referenced : String
  pairs : List ColumnPair

/-- A column pair of a foreign key, with both tables. -/
structure Link where
  table : String
  referenced : String
  pair : ColumnPair
deriving DecidableEq

/-- The foreign keys of a table, with its name. -/
def Table.references (t : Table) : List Reference :=
  t.foreignKeys.map fun key => ⟨t.name, key.1, key.2⟩

theorem Table.table_of_mem_references {t : Table} {r : Reference} (hr : r ∈ t.references) :
    r.table = t.name := by
  obtain ⟨key, -, rfl⟩ := List.mem_map.1 hr
  rfl

/-- The references of a table are all its own, -/
theorem Table.filter_references_self (t : Table) :
    t.references.filter (·.table = t.name) = t.references :=
  List.filter_eq_self.2 fun _ hr => decide_eq_true (table_of_mem_references hr)

/-- and none are those of another. -/
theorem Table.filter_references_of_ne {t : Table} {name : String} (h : t.name ≠ name) :
    t.references.filter (·.table = name) = [] :=
  List.filter_eq_nil_iff.2 fun r hr => by
    rw [table_of_mem_references hr, decide_eq_true_iff]
    exact h

/-- All foreign keys in order. -/
def references (tables : List Table) : List Reference := tables.flatMap Table.references

/-- The column pairs of a reference, one by one. -/
def Reference.links (r : Reference) : List Link :=
  r.pairs.map fun pair => ⟨r.table, r.referenced, pair⟩

/-- **All column pairs** of all foreign keys in order. -/
def links (tables : List Table) : List Link := (references tables).flatMap Reference.links

/-- The links of a table are the pairs of its foreign keys. -/
theorem flatMap_links (t : Table) :
    t.references.flatMap Reference.links
      = (Entries.flat t.foreignKeys).map fun p => ⟨t.name, p.1, p.2⟩ := by
  rw [Table.references, List.flatMap_map, Entries.flat, List.map_flatMap]
  refine List.flatMap_congr fun key _ => ?_
  rw [Reference.links, List.map_map]
  rfl

namespace Relations

/-! ## One reference -/

theorem of_change_self (rs : Relations) (name : String) (f : RelationSet → RelationSet) :
    (rs.change name f).of name = f (rs.of name) := by
  rw [of, change, Entries.get?_alter_self]
  rfl

theorem of_change_of_ne (rs : Relations) {name other : String} (f : RelationSet → RelationSet)
    (h : name ≠ other) : (rs.change name f).of other = rs.of other := by
  rw [of, change, Entries.get?_alter_of_ne _ _ h]
  rfl

/-- A reference extends the outgoing pairs of the table referred to, and no others. -/
theorem outgoing_declare (rs : Relations) (table : String) (key : String × List ColumnPair)
    (name : String) :
    ((rs.declare table key).of name).outgoing
      = if key.1 = name then Entries.extend (rs.of name).outgoing (table, key.2)
        else (rs.of name).outgoing := by
  have hown : ((rs.declare table key).of name).outgoing
      = ((rs.change key.1 (·.addOutgoing table key.2)).of name).outgoing := by
    rw [declare]
    -- a table that refers to itself has both of its sides changed
    by_cases ht : table = name
    · subst ht
      rw [of_change_self]
      rfl
    · rw [of_change_of_ne _ _ ht]
  rw [hown]
  split
  · next h =>
    subst h
    rw [of_change_self]
    rfl
  · next h => rw [of_change_of_ne _ _ h]

/-- A reference extends the incoming pairs of the table that declares it, and no others. -/
theorem incoming_declare (rs : Relations) (table : String) (key : String × List ColumnPair)
    (name : String) :
    ((rs.declare table key).of name).incoming
      = if table = name then Entries.extend (rs.of name).incoming key
        else (rs.of name).incoming := by
  have hother : ((rs.change key.1 (·.addOutgoing table key.2)).of name).incoming
      = (rs.of name).incoming := by
    by_cases hk : key.1 = name
    · rw [hk, of_change_self]
      rfl
    · rw [of_change_of_ne _ _ hk]
  rw [← hother, declare]
  split
  · next h =>
    subst h
    rw [of_change_self]
    rfl
  · next h => rw [of_change_of_ne _ _ h]

/-! ## All references -/

/-- Enters some references one after the other. -/
def declareEach (rs : Relations) (refs : List Reference) : Relations :=
  refs.foldl (fun acc r => acc.declare r.table (r.referenced, r.pairs)) rs

theorem declareAll_eq (rs : Relations) (t : Table) :
    rs.declareAll t = rs.declareEach t.references := by
  rw [declareEach, Table.references, List.foldl_map]
  rfl

theorem foldl_declareAll (rs : Relations) (tables : List Table) :
    tables.foldl declareAll rs = rs.declareEach (references tables) := by
  induction tables generalizing rs with
  | nil => rfl
  | cons t tables ih =>
    rw [List.foldl_cons, ih, declareAll_eq]
    exact List.foldl_append.symm

/-- Before the first reference no table has relations. -/
theorem of_start (names : List String) (name : String) :
    of (Entries.ofList (names.map fun n => (n, {}))) name = {} := by
  suffices h : ∀ rs : Relations, rs.of name = {} →
      of (Entries.merge rs (names.map fun n => (n, {}))) name = {} from h [] rfl
  induction names with
  | nil => exact fun rs h => h
  | cons n names ih =>
    intro rs h
    refine ih (Entries.set rs n {}) ?_
    by_cases hn : n = name
    · subst hn
      rw [of, Entries.get?_set_self]
      rfl
    · rwa [of, Entries.get?_set_of_ne _ _ hn]

/-- **A side of the relations grows by the references that extend it**, one after the other. -/
theorem side_declareEach (side : RelationSet → PairsByTable) (chosen key : Reference → String)
    (name : String)
    (hstep : ∀ (rs : Relations) (r : Reference),
      side ((rs.declare r.table (r.referenced, r.pairs)).of name)
        = if chosen r = name then Entries.extend (side (rs.of name)) (key r, r.pairs)
          else side (rs.of name))
    (rs : Relations) (refs : List Reference) :
    side ((rs.declareEach refs).of name)
      = ((refs.filter (chosen · = name)).map fun r => (key r, r.pairs)).foldl Entries.extend
          (side (rs.of name)) := by
  induction refs generalizing rs with
  | nil => rfl
  | cons r refs ih =>
    rw [declareEach, List.foldl_cons]
    refine (ih _).trans ?_
    rw [hstep]
    by_cases h : chosen r = name
    · rw [if_pos h, List.filter_cons_of_pos (by simpa using h)]
      rfl
    · rw [if_neg h, List.filter_cons_of_neg (by simpa using h)]

theorem derive_eq (tables : List Table) :
    derive tables
      = declareEach (Entries.ofList ((tableNames tables).map fun n => (n, {})))
          (references tables) := by
  rw [derive, foldl_declareAll, tableNames, List.map_map]
  rfl

/-- **The outgoing pairs of a table** are gathered from the references to it. -/
theorem outgoing_derive (tables : List Table) (name : String) :
    ((derive tables).of name).outgoing
      = Entries.gather (((references tables).filter (·.referenced = name)).map
          fun r => (r.table, r.pairs)) := by
  have hstep := fun (rs : Relations) (r : Reference) =>
    outgoing_declare rs r.table (r.referenced, r.pairs) name
  rw [derive_eq,
    side_declareEach RelationSet.outgoing Reference.referenced Reference.table name hstep, of_start]
  rfl

/-- **The incoming pairs of a table** are gathered from the references that it makes. -/
theorem incoming_derive (tables : List Table) (name : String) :
    ((derive tables).of name).incoming
      = Entries.gather (((references tables).filter (·.table = name)).map
          fun r => (r.referenced, r.pairs)) := by
  have hstep := fun (rs : Relations) (r : Reference) =>
    incoming_declare rs r.table (r.referenced, r.pairs) name
  rw [derive_eq,
    side_declareEach RelationSet.incoming Reference.table Reference.referenced name hstep, of_start]
  rfl

/-! ## Pair by pair -/

/-- Portions that are chosen and keyed by an end of the references hold the links that are chosen
and keyed by the same end. -/
theorem flat_portions (chosen key : Reference → String) (chosenLink keyLink : Link → String)
    (hchosen : ∀ r, ∀ l ∈ r.links, chosenLink l = chosen r)
    (hkey : ∀ r, ∀ l ∈ r.links, keyLink l = key r) (refs : List Reference) (name : String) :
    Entries.flat ((refs.filter (chosen · = name)).map fun r => (key r, r.pairs))
      = ((refs.flatMap Reference.links).filter (chosenLink · = name)).map
          fun l => (keyLink l, l.pair) := by
  induction refs with
  | nil => rfl
  | cons r refs ih =>
    rw [List.flatMap_cons, List.filter_append, List.map_append, ← ih]
    by_cases h : chosen r = name
    · have hall : ∀ l ∈ r.links, decide (chosenLink l = name) = true := fun l hl => by
        rw [hchosen r l hl, h, decide_eq_true rfl]
      have hmap : r.links.map (fun l => (keyLink l, l.pair)) = r.pairs.map (Prod.mk (key r)) := by
        rw [List.map_congr_left fun l hl => by rw [hkey r l hl], Reference.links, List.map_map]
        rfl
      rw [List.filter_cons_of_pos (by simpa using h), List.filter_eq_self.2 hall, hmap]
      rfl
    · have hnone : ∀ l ∈ r.links, ¬ decide (chosenLink l = name) = true := fun l hl => by
        rw [hchosen r l hl, decide_eq_true_iff]
        exact h
      rw [List.filter_cons_of_neg (by simpa using h), List.filter_eq_nil_iff.2 hnone]
      rfl

/-- The ends of a link are those of its reference. -/
theorem ends_of_mem_links {r : Reference} {l : Link} (hl : l ∈ r.links) :
    l.table = r.table ∧ l.referenced = r.referenced := by
  obtain ⟨pair, -, rfl⟩ := List.mem_map.1 hl
  exact ⟨rfl, rfl⟩

/-- **The outgoing pairs of a table are the links to it**, each under the table it comes from. -/
theorem flat_outgoing_derive (tables : List Table) (name : String) :
    (Entries.flat ((derive tables).of name).outgoing).Perm
      (((links tables).filter (·.referenced = name)).map fun l => (l.table, l.pair)) := by
  rw [outgoing_derive]
  refine (Entries.flat_gather _).trans (List.Perm.of_eq ?_)
  exact flat_portions Reference.referenced Reference.table Link.referenced Link.table
    (fun _ _ hl => (ends_of_mem_links hl).2) (fun _ _ hl => (ends_of_mem_links hl).1) _ name

/-- **The incoming pairs of a table are its own links**, each under the table it leads to. -/
theorem flat_incoming_derive (tables : List Table) (name : String) :
    (Entries.flat ((derive tables).of name).incoming).Perm
      (((links tables).filter (·.table = name)).map fun l => (l.referenced, l.pair)) := by
  rw [incoming_derive]
  refine (Entries.flat_gather _).trans (List.Perm.of_eq ?_)
  exact flat_portions Reference.table Reference.referenced Link.table Link.referenced
    (fun _ _ hl => (ends_of_mem_links hl).1) (fun _ _ hl => (ends_of_mem_links hl).2) _ name

end Relations

/-! ## Tables with names of their own -/

/-- The references that a table makes, among those of tables with distinct names. -/
theorem filter_references {tables : List Table} (hn : (tableNames tables).Nodup) {t : Table}
    (ht : t ∈ tables) : (references tables).filter (·.table = t.name) = t.references := by
  induction tables with
  | nil => cases ht
  | cons u tables ih =>
    obtain ⟨hu, hn⟩ := List.nodup_cons.1 hn
    rw [references, List.flatMap_cons, List.filter_append]
    rcases List.mem_cons.1 ht with rfl | ht
    · have hrest : (tables.flatMap Table.references).filter (·.table = t.name) = [] := by
        rw [List.filter_flatMap, List.flatMap_eq_nil_iff]
        exact fun v hv => v.filter_references_of_ne fun he => hu (he ▸ List.mem_map_of_mem hv)
      rw [t.filter_references_self, hrest, List.append_nil]
    · have hother : u.name ≠ t.name := fun he => hu (he ▸ List.mem_map_of_mem ht)
      rw [u.filter_references_of_ne hother, List.nil_append]
      exact ih hn ht

/-- **With distinct names the incoming pairs of a table are gathered from its own foreign keys.** -/
theorem Relations.incoming_derive_eq_gather {tables : List Table}
    (hn : (tableNames tables).Nodup) {t : Table} (ht : t ∈ tables) :
    ((derive tables).of t.name).incoming = Entries.gather t.foreignKeys := by
  have hportions : t.references.map (fun r => (r.referenced, r.pairs)) = t.foreignKeys := by
    rw [Table.references, List.map_map]
    exact List.map_id' t.foreignKeys
  rw [incoming_derive, filter_references hn ht, hportions]

/-- They are its foreign keys as they stand, if these have distinct keys in turn. -/
theorem Relations.incoming_derive_of_mem {tables : List Table} (hn : (tableNames tables).Nodup)
    {t : Table} (ht : t ∈ tables) (hk : t.foreignKeys.keys.Nodup) :
    ((derive tables).of t.name).incoming = t.foreignKeys := by
  rw [incoming_derive_eq_gather hn ht, Entries.gather_of_nodup hk]

/-- Every link comes from a foreign key of one of the tables. -/
theorem exists_key_of_mem_links {tables : List Table} {l : Link} (hl : l ∈ links tables) :
    ∃ t ∈ tables, t.name = l.table ∧
      ∃ key ∈ t.foreignKeys, key.1 = l.referenced ∧ l.pair ∈ key.2 := by
  obtain ⟨r, hr, hl⟩ := List.mem_flatMap.1 hl
  obtain ⟨t, ht, hr⟩ := List.mem_flatMap.1 hr
  obtain ⟨key, hkey, rfl⟩ := List.mem_map.1 hr
  obtain ⟨pair, hpair, rfl⟩ := List.mem_map.1 hl
  exact ⟨t, ht, rfl, key, hkey, rfl, hpair⟩

theorem pairCount_eq (t : Table) : t.pairCount = (t.references.flatMap Reference.links).length := by
  rw [Table.pairCount, Entries.foldl_length, Nat.zero_add, flatMap_links, List.length_map]

theorem links_cons (t : Table) (tables : List Table) :
    links (t :: tables) = t.references.flatMap Reference.links ++ links tables :=
  List.flatMap_append

/-- Counting the pairs of all tables counts the links. -/
theorem foldl_pairCount (tables : List Table) :
    tables.foldl (fun count t => count + t.pairCount) 0 = (links tables).length := by
  suffices h : ∀ n : Nat, tables.foldl (fun count t => count + t.pairCount) n
      = n + (links tables).length from (h 0).trans (Nat.zero_add _)
  induction tables with
  | nil => exact fun _ => rfl
  | cons t tables ih =>
    intro n
    rw [List.foldl_cons, ih, links_cons, List.length_append, pairCount_eq, Nat.add_assoc]

end SchemaGen.Model
