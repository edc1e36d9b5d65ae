import Mathlib.Algebra.GroupWithZero.Nat
import SchemaGen.Proofs.Entries.Merging
import SchemaGen.Proofs.Model.Locality

/-!
# The two sides of the relations

A foreign key is seen from two sides: among the incoming relations of the table that declares it and
among the outgoing ones of the table referred to. Both sides hold the same under each other's name:
the pairs that all tables of the one name declare on the other, in their order
(`pairsBetween`). This needs no distinct names, and no table of the name referred to; where a name
repeats, its tables count as one, and a name without a table has relations as any other.

So the relations are two maps that mirror each other (`areMirrored_derive`). They differ in the
order of their keys, since the incoming relations of a table follow the foreign keys that it
declares, and the outgoing ones the tables that declare on it.
-/

namespace SchemaGen.Model

/-- Whether one of the tables of a name refers to another table. -/
def RefersTo (tables : List Table) (name referenced : String) : Prop :=
  ∃ t ∈ tables, t.name = name ∧ referenced ∈ t.foreignKeys.keys

instance (tables : List Table) (name referenced : String) :
    Decidable (RefersTo tables name referenced) :=
  inferInstanceAs (Decidable (∃ t ∈ tables, t.name = name ∧ referenced ∈ t.foreignKeys.keys))

/-- **What the tables of a name declare on another table**, one table after the other. -/
def pairsBetween (tables : List Table) (name referenced : String) : List ColumnPair :=
  (tables.filter (·.name = name)).flatMap (·.pairsTo referenced)

/-! ## References between two tables -/

theorem mem_references {tables : List Table} {r : Reference} :
    r ∈ references tables ↔ ∃ t ∈ tables, ∃ key ∈ t.foreignKeys, r = ⟨t.name, key.1, key.2⟩ := by
  simp only [references, List.mem_flatMap, Table.references, List.mem_map, eq_comm]

/-- There is a reference from a name to another just if one of its tables refers to it. -/
theorem exists_reference_iff {tables : List Table} {name referenced : String} :
    (∃ r ∈ references tables, r.table = name ∧ r.referenced = referenced) ↔
      RefersTo tables name referenced := by
  constructor
  · rintro ⟨r, hr, rfl, rfl⟩
    obtain ⟨t, ht, key, hkey, rfl⟩ := mem_references.1 hr
    exact ⟨t, ht, rfl, List.mem_map_of_mem hkey⟩
  · rintro ⟨t, ht, rfl, hname⟩
    obtain ⟨key, hkey, rfl⟩ := List.mem_map.1 hname
    exact ⟨_, mem_references.2 ⟨t, ht, key, hkey, rfl⟩, rfl, rfl⟩

/-- The references from a name to another hold what its tables declare. -/
theorem flatMap_pairs_references (tables : List Table) (name referenced : String) :
    ((references tables).filter fun r => r.table = name ∧ r.referenced = referenced).flatMap
      Reference.pairs = pairsBetween tables name referenced := by
  induction tables with
  | nil => rfl
  | cons t tables ih =>
    rw [references, List.flatMap_cons, List.filter_append, List.flatMap_append]
    refine (congrArg (_ ++ ·) ih).trans ?_
    by_cases ht : t.name = name
    · have hown : (t.references.filter fun r => r.table = name ∧ r.referenced = referenced).flatMap
          Reference.pairs = t.pairsTo referenced := by
        rw [Table.references, List.filter_map, List.flatMap_map, Table.pairsTo]
        simp [Function.comp_def, ht]
      rw [hown, pairsBetween, pairsBetween, List.filter_cons_of_pos (by simpa using ht),
        List.flatMap_cons]
    · have hnone : (t.references.filter fun r => r.table = name ∧ r.referenced = referenced)
          = [] := by
        rw [Table.references, List.filter_map]
        simp [Function.comp_def, ht]
      rw [hnone, pairsBetween, pairsBetween, List.filter_cons_of_neg (by simpa using ht)]
      rfl

namespace Relations

/-! ## Side by side -/

/-- What one side has under a name, where the ends of the references choose and key its portions. -/
theorem get?_gather_references (chosen key : Reference → String) (refs : List Reference)
    (name other : String) :
    (Entries.gather ((refs.filter (chosen · = name)).map fun r => (key r, r.pairs))).get? other
      = if ∃ r ∈ refs, chosen r = name ∧ key r = other then
          some ((refs.filter fun r => chosen r = name ∧ key r = other).flatMap Reference.pairs)
        else none := by
  have hkeys : other ∈ Entries.keys ((refs.filter (chosen · = name)).map fun r => (key r, r.pairs))
      ↔ ∃ r ∈ refs, chosen r = name ∧ key r = other := by
    simp [Entries.keys, and_assoc]
  rw [Entries.get?_gather, List.filter_map, List.flatMap_map, List.filter_filter]
  refine if_congr hkeys (congrArg some ?_) rfl
  simp only [Function.comp_def, Bool.decide_and, Bool.and_comm]

/-- **What a table has under another name** among its outgoing pairs, -/
theorem get?_outgoing_derive (tables : List Table) (name other : String) :
    ((derive tables).of name).outgoing.get? other
      = if RefersTo tables other name then some (pairsBetween tables other name) else none := by
  rw [outgoing_derive, get?_gather_references Reference.referenced Reference.table,
    ← flatMap_pairs_references]
  simp only [and_comm (a := Reference.referenced _ = name)]
  exact if_congr exists_reference_iff rfl rfl

/-- and among its incoming pairs. -/
theorem get?_incoming_derive (tables : List Table) (name other : String) :
    ((derive tables).of name).incoming.get? other
      = if RefersTo tables name other then some (pairsBetween tables name other) else none := by
  rw [incoming_derive, get?_gather_references Reference.table Reference.referenced,
    ← flatMap_pairs_references]
  exact if_congr exists_reference_iff rfl rfl

/-! ## The order of the keys -/

/-- Of names that are given once for each of some values, those with no value drop out. -/
theorem eraseDups_flatMap_name (tables : List Table)
    (own : Table → List (String × List ColumnPair)) :
    (tables.flatMap fun t => (own t).map fun _ => t.name).eraseDups
      = ((tables.filter fun t => !(own t).isEmpty).map Table.name).eraseDups := by
  induction tables with
  | nil => rfl
  | cons t tables ih =>
    rw [List.flatMap_cons, List.map_const']
    cases hown : own t with
    | nil =>
      rw [List.filter_cons_of_neg (by simp [hown])]
      exact ih
    | cons key keys =>
      rw [List.filter_cons_of_pos (by simp [hown]), List.length_cons, List.map_cons,
        Entries.eraseDups_replicate_append, ← List.singleton_append,
        Entries.eraseDups_append_congr ih, List.singleton_append]

/-- **Outgoing pairs stand in the order of the tables that declare them**, -/
theorem keys_outgoing_derive (tables : List Table) (name : String) :
    ((derive tables).of name).outgoing.keys
      = ((tables.filter (name ∈ ·.foreignKeys.keys)).map Table.name).eraseDups := by
  have hkeys : Entries.keys (((references tables).filter (·.referenced = name)).map
      fun r => (r.table, r.pairs))
      = tables.flatMap fun t => (t.foreignKeys.filter (·.1 = name)).map fun _ => t.name := by
    rw [Entries.keys, List.map_map, references, List.filter_flatMap, List.map_flatMap]
    refine List.flatMap_congr fun t _ => ?_
    rw [Table.references, List.filter_map, List.map_map]
    rfl
  have hrefers : ∀ t ∈ tables, (!(t.foreignKeys.filter (·.1 = name)).isEmpty)
      = decide (name ∈ t.foreignKeys.keys) := by
    intro t _
    have hmem : name ∈ t.foreignKeys.keys ↔ ∃ key ∈ t.foreignKeys, key.1 = name := List.mem_map
    rw [Bool.eq_iff_iff, decide_eq_true_iff, hmem]
    simp
  rw [outgoing_derive, Entries.keys_gather, hkeys, eraseDups_flatMap_name,
    List.filter_congr hrefers]

/-- and incoming pairs in the order of the foreign keys that declare them. -/
theorem keys_incoming_derive (tables : List Table) (name : String) :
    ((derive tables).of name).incoming.keys
      = ((tables.filter (·.name = name)).flatMap (·.foreignKeys.keys)).eraseDups := by
  have hkeys : Entries.keys (((references tables).filter (·.table = name)).map
      fun r => (r.referenced, r.pairs))
      = (tables.filter (·.name = name)).flatMap (·.foreignKeys.keys) := by
    induction tables with
    | nil => rfl
    | cons t tables ih =>
      rw [references, List.flatMap_cons, List.filter_append, List.map_append, Entries.keys,
        List.map_append]
      refine (congrArg (_ ++ ·) ih).trans ?_
      by_cases ht : t.name = name
      · subst ht
        rw [t.filter_references_self, List.filter_cons_of_pos (by simp), List.flatMap_cons,
          Table.references, List.map_map, List.map_map]
        rfl
      · rw [t.filter_references_of_ne ht, List.filter_cons_of_neg (by simpa using ht)]
        rfl
  rw [incoming_derive, Entries.keys_gather, hkeys]

/-! ## The keys of the relations -/

/-- A reference brings in the name that it leads to, at the end if it is new. -/
theorem keys_declareEach {rs : Relations} {names : List String} (h : rs.keys = names.eraseDups)
    {refs : List Reference} (htable : ∀ r ∈ refs, r.table ∈ names) :
    (rs.declareEach refs).keys = (names ++ refs.map Reference.referenced).eraseDups := by
  induction refs generalizing rs names with
  | nil => simpa [declareEach] using h
  | cons r refs ih =>
    obtain ⟨hr, hrefs⟩ := List.forall_mem_cons.1 htable
    -- its own table is there already, so of its two ends only one can be new
    have hdeclare : (rs.declare r.table (r.referenced, r.pairs)).keys
        = (names ++ [r.referenced]).eraseDups := by
      have hknown : r.table ∈ (names ++ [r.referenced]).eraseDups :=
        List.mem_eraseDups.2 (List.mem_append_left _ hr)
      have hkeys := Entries.keys_alter_eq_eraseDups h r.referenced
        fun known => (known.getD {}).addOutgoing r.table r.pairs
      rw [declare, change, change, Entries.keys_alter_eq_eraseDups hkeys,
        Entries.eraseDups_append_singleton, if_pos hknown]
    refine (ih hdeclare fun r' hr' => List.mem_append_left _ (hrefs r' hr')).trans ?_
    rw [List.append_assoc, List.singleton_append, List.map_cons]

theorem map_referenced_references (tables : List Table) :
    (references tables).map Reference.referenced = tables.flatMap (·.foreignKeys.keys) := by
  rw [references, List.map_flatMap]
  refine List.flatMap_congr fun t _ => ?_
  rw [Table.references, List.map_map]
  rfl

/-- **The relations stand under the names of the tables** and then under those that are referred to,
each at its first occurrence. -/
theorem keys_derive (tables : List Table) : (derive tables).keys
    = (tableNames tables ++ tables.flatMap (·.foreignKeys.keys)).eraseDups := by
  have hstart : Entries.keys (Entries.ofList ((tableNames tables).map fun n =>
      (n, ({} : RelationSet)))) = (tableNames tables).eraseDups := by
    rw [Entries.keys_ofList, Entries.keys, List.map_map]
    exact congrArg List.eraseDups (List.map_id' _)
  have htable : ∀ r ∈ references tables, r.table ∈ tableNames tables := by
    intro r hr
    obtain ⟨t, ht, _, -, rfl⟩ := mem_references.1 hr
    exact List.mem_map_of_mem ht
  rw [derive_eq, keys_declareEach hstart htable, map_referenced_references]

theorem nodup_keys_derive (tables : List Table) : (derive tables).keys.Nodup := by
  rw [keys_derive]
  exact Entries.nodup_eraseDups _

/-- **Both ends of every link have relations.** -/
theorem ends_mem_keys_derive {tables : List Table} {l : Link} (hl : l ∈ links tables) :
    l.referenced ∈ (derive tables).keys ∧ l.table ∈ (derive tables).keys := by
  obtain ⟨t, ht, htable, key, hkey, hreferenced, -⟩ := exists_key_of_mem_links hl
  have hmem : l.referenced ∈ t.foreignKeys.keys := hreferenced ▸ List.mem_map_of_mem hkey
  rw [keys_derive, List.mem_eraseDups, List.mem_eraseDups]
  exact ⟨List.mem_append_right _ (List.mem_flatMap.2 ⟨t, ht, hmem⟩),
    List.mem_append_left _ (htable ▸ List.mem_map_of_mem ht)⟩

/-! ## The number of pairs -/

/-- How many pairs one side of all relations holds. -/
def sideCount (side : RelationSet → PairsByTable) (rs : Relations) : Nat :=
  (rs.values.map fun r => (Entries.flat (side r)).length).sum

/-- A side that holds the links under one of their ends holds all of them. -/
theorem sideCount_derive (side : RelationSet → PairsByTable) (chosen key : Link → String)
    (tables : List Table)
    (hside : ∀ name, (Entries.flat (side ((derive tables).of name))).Perm
      (((links tables).filter (chosen · = name)).map fun l => (key l, l.pair)))
    (hchosen : ∀ l ∈ links tables, chosen l ∈ (derive tables).keys) :
    sideCount side (derive tables) = (links tables).length := by
  have hvalues : (derive tables).values.map (fun r => (Entries.flat (side r)).length)
      = (derive tables).keys.map fun name => ((links tables).filter (chosen · = name)).length := by
    rw [Entries.values, Entries.keys, List.map_map, List.map_map]
    refine List.map_congr_left fun e he => ?_
    have hof : (derive tables).of e.1 = e.2 := by
      rw [of, Entries.get?_eq_some_of_mem (nodup_keys_derive tables) he]
      rfl
    have hlength := (hside e.1).length_eq
    rwa [hof, List.length_map] at hlength
  rw [sideCount, hvalues, ← List.length_flatMap]
  exact (Entries.flatMap_filter_perm chosen (nodup_keys_derive tables) hchosen).length_eq

/-- The links are the pairs of all foreign keys. -/
theorem length_links (tables : List Table) :
    (links tables).length = (tables.map Table.pairCount).sum := by
  induction tables with
  | nil => rfl
  | cons t tables ih =>
    rw [links_cons, List.length_append, ih, List.map_cons, List.sum_cons, pairCount_eq]

/-! ## Both sides -/

/-- **Relations that mirror each other**, and hold all that some tables declare. -/
structure AreMirrored (tables : List Table) (rs : Relations) : Prop where
  mem_outgoing : ∀ name other,
    other ∈ (rs.of name).outgoing.keys ↔ RefersTo tables other name
  mem_incoming : ∀ name other,
    name ∈ (rs.of other).incoming.keys ↔ RefersTo tables other name
  outgoing_eq : ∀ name other, RefersTo tables other name →
    (rs.of name).outgoing.get? other = some (pairsBetween tables other name)
  incoming_eq : ∀ name other, RefersTo tables other name →
    (rs.of other).incoming.get? name = some (pairsBetween tables other name)
  outgoing_keys : ∀ name, (rs.of name).outgoing.keys
    = ((tables.filter (name ∈ ·.foreignKeys.keys)).map Table.name).eraseDups
  incoming_keys : ∀ name, (rs.of name).incoming.keys
    = ((tables.filter (·.name = name)).flatMap (·.foreignKeys.keys)).eraseDups
  outgoing_count : rs.sideCount RelationSet.outgoing = (tables.map Table.pairCount).sum
  incoming_count : rs.sideCount RelationSet.incoming = (tables.map Table.pairCount).sum

/-- **The derivation computes two mirrored maps**, for every list of tables. -/
theorem areMirrored_derive (tables : List Table) : AreMirrored tables (derive tables) where
  mem_outgoing name other := by
    rw [Entries.mem_keys_iff, get?_outgoing_derive]
    split <;> simp_all
  mem_incoming name other := by
    rw [Entries.mem_keys_iff, get?_incoming_derive]
    split <;> simp_all
  outgoing_eq name other h := by rw [get?_outgoing_derive, if_pos h]
  incoming_eq name other h := by rw [get?_incoming_derive, if_pos h]
  outgoing_keys := keys_outgoing_derive tables
  incoming_keys := keys_incoming_derive tables
  outgoing_count := (sideCount_derive RelationSet.outgoing Link.referenced Link.table tables
    (flat_outgoing_derive tables) fun _ hl => (ends_mem_keys_derive hl).1).trans
      (length_links tables)
  incoming_count := (sideCount_derive RelationSet.incoming Link.table Link.referenced tables
    (flat_incoming_derive tables) fun _ hl => (ends_mem_keys_derive hl).2).trans
      (length_links tables)

/-- Two tables of one name that refer to a table that is missing. -/
example : ((derive [{ name := "a", foreignKeys := [("b", [⟨"id", "x"⟩])] },
    { name := "a", foreignKeys := [("b", [⟨"no", "y"⟩])] }]).of "b").outgoing
    = [("a", [⟨"id", "x"⟩, ⟨"no", "y"⟩])] := by decide

end Relations

end SchemaGen.Model
