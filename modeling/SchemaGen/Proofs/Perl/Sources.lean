import Mathlib.Data.List.Nodup
import SchemaGen.Proofs.Entries.Merging
import SchemaGen.Proofs.Outcome
import SchemaGen.Proofs.Perl.Packages

/-!
# The sources of a generation

The settings say how all classes of a generation are written (`Style`). In a style, and with a name
for the schema class, every table has one class (`Style.classesOf`), and so has the schema: these
are the sources (`Style.sourcesOf`), and a generation that succeeds has them and no others
(`outcome_sources_eq_ok_iff`). Packages tell the classes apart, so each source is found under its
own (`get?_sourcesOf`), and where the names of the tables differ the sources are those of all tables
in order (`classesOf_of_nodup`).
-/

namespace SchemaGen.Perl

open Model (Table RelationSet Relations tableNames)

/-! ## Styles -/

/-- **How the classes of a generation are written.** -/
structure Style where
  nameSpace : String
  layout : Layout
  /-- What stands in front of a name in a list. -/
  indent : String
  /-- Whether a comment on the origin follows the first line. -/
  isCommented : Bool

namespace Style

/-- The package of a table's class. -/
def packageOf (st : Style) (schemaName table : String) : String :=
  tablePackage st.nameSpace st.layout schemaName table

/-- The class of a table. -/
def tableClass (st : Style) (schemaName : String) (t : Table) (r : RelationSet) : ResultClass :=
  resultClass st.layout st.indent st.isCommented (st.packageOf schemaName) t r

/-- The class that a table has among some tables. -/
def classOf (st : Style) (schemaName : String) (tables : List Table) (t : Table) : ResultClass :=
  st.tableClass schemaName t ((Relations.derive tables).of t.name)

/-- The schema class, which lists the tables unless they are found by their namespace. -/
def schemaClass (st : Style) (schemaName : String) (names : List String) : SchemaClass where
  package := schemaPackage st.nameSpace schemaName
  classes := if st.layout = .namespaces then none else some names
  indent := st.indent
  isCommented := st.isCommented

end Style

/-- A layout is read off its name. -/
theorem layoutOf_eq_ok {v : Value} {layout : Layout} (h : layoutOf v = .ok layout) :
    v = .text layout.name := by
  rw [layoutOf.eq_def] at h
  split at h
  · next name =>
    split at h
    · next l hl =>
      cases h
      have hname : layout.name = name := by simpa using List.find?_some hl
      rw [hname]
    · cases h
  · cases h
  · cases h
  · cases h

section Writing

variable [Memory]

/-- The style that settings give. -/
def styleOf (s : Settings) : Except GenerationError Style := do
  let layout ← layoutOf s.layout
  let nameSpace ← s.namespaceName
  let indent ← indentOf s.indentSize
  pure { nameSpace, layout, indent, isCommented := s.addComments.isGiven }

theorem styleOf_eq_ok {s : Settings} {st : Style} :
    styleOf s = .ok st ↔ layoutOf s.layout = .ok st.layout ∧ s.namespaceName = .ok st.nameSpace ∧
      indentOf s.indentSize = .ok st.indent ∧ s.addComments.isGiven = st.isCommented := by
  rw [styleOf]
  constructor
  · intro h
    obtain ⟨layout, hlayout, h⟩ := bind_eq_ok_iff.1 h
    obtain ⟨nameSpace, hnameSpace, h⟩ := bind_eq_ok_iff.1 h
    obtain ⟨indent, hindent, h⟩ := bind_eq_ok_iff.1 h
    cases h
    exact ⟨hlayout, hnameSpace, hindent, rfl⟩
  · rintro ⟨hlayout, hnameSpace, hindent, hcomment⟩
    refine bind_eq_ok_iff.2 ⟨_, hlayout, bind_eq_ok_iff.2 ⟨_, hnameSpace, bind_eq_ok_iff.2
      ⟨_, hindent, ?_⟩⟩⟩
    rw [hcomment]
    rfl

/-- An indentation consists of blanks. -/
theorem indentOf_eq_ok {v : Value} {indent : String} (h : indentOf v = .ok indent) :
    ∀ c ∈ indent.toList, c = ' ' := by
  have hblanks : ∀ n : Int, (if n ≥ wordLimit ∨ n < -wordLimit then Except.error .indentTooLarge
      else if n > Memory.maxIndent then Except.error GenerationError.outOfMemory
      else .ok (String.ofList (List.replicate n.toNat ' '))) = .ok indent →
      ∀ c ∈ indent.toList, c = ' ' := by
    intro n h c hc
    split at h
    · cases h
    · split at h
      · cases h
      · cases h
        rw [String.toList_ofList] at hc
        exact List.eq_of_mem_replicate hc
  rw [indentOf.eq_def] at h
  split at h
  · exact hblanks _ h
  · exact hblanks _ h
  · cases h

/-! ## One class after the other -/

/-- **The class of a table is written in the style of the settings**, and fails only with that. -/
theorem outcome_tableClass_eq (s : Settings) {t : Table} (ht : t.name ≠ "") (r : RelationSet)
    (schemaName : String) :
    (tableClass s t r schemaName).outcome = (styleOf s).map fun st =>
      (st.packageOf schemaName t.name, (st.tableClass schemaName t r).render) := by
  rw [tableClass, if_neg ht, styleOf]
  simp only [Traced.outcome_bind, Traced.outcome_ofExcept]
  cases layoutOf s.layout with
  | error e => rfl
  | ok layout =>
    cases s.namespaceName with
    | error e => rfl
    | ok nameSpace => cases indentOf s.indentSize <;> rfl

/-- **So is the schema class.** A layout that is known is all that it leaves open of the style. -/
theorem outcome_schemaClass_eq {s : Settings} {layout : Layout}
    (hlayout : layoutOf s.layout = .ok layout) (names : List String) (schemaName : String) :
    (schemaClass s names schemaName).outcome = (styleOf s).map fun st =>
      (schemaPackage st.nameSpace schemaName, (st.schemaClass schemaName names).render) := by
  -- the setting is compared with the name of the layout, which no other layout has
  have hnamespaces : (s.layout = .text Layout.namespaces.name) = (layout = .namespaces) := by
    rw [layoutOf_eq_ok hlayout]
    cases layout <;> decide
  rw [schemaClass, styleOf, hlayout]
  simp only [Traced.outcome_bind, Traced.outcome_ofExcept, hnamespaces]
  cases s.namespaceName with
  | error e => rfl
  | ok nameSpace => cases indentOf s.indentSize <;> rfl

theorem outcome_tableClass {s : Settings} {t : Table} {r : RelationSet} {schemaName : String}
    {file : String × String} (h : (tableClass s t r schemaName).outcome = .ok file) :
    t.name ≠ "" ∧ ∃ st, styleOf s = .ok st ∧
      file = (st.packageOf schemaName t.name, (st.tableClass schemaName t r).render) := by
  have hne : t.name ≠ "" := by
    intro ht
    rw [tableClass, if_pos ht] at h
    cases h
  rw [outcome_tableClass_eq s hne] at h
  obtain ⟨st, hst, hfile⟩ := map_eq_ok_iff.1 h
  exact ⟨hne, st, hst, hfile.symm⟩

theorem outcome_schemaClass {s : Settings} {layout : Layout}
    (hlayout : layoutOf s.layout = .ok layout) {names : List String} {schemaName : String}
    {file : String × String}
    (h : (schemaClass s names schemaName).outcome = .ok file) :
    ∃ st, styleOf s = .ok st ∧ file = (schemaPackage st.nameSpace schemaName,
      (st.schemaClass schemaName names).render) := by
  rw [outcome_schemaClass_eq hlayout] at h
  obtain ⟨st, hst, hfile⟩ := map_eq_ok_iff.1 h
  exact ⟨st, hst, hfile.symm⟩

/-- No class is made for a table without a name. -/
theorem name_ne_empty_of_tableClasses {s : Settings} {relations : Relations} {schemaName : String}
    {tables : List Table} {files files' : Entries String String}
    (h : ((generator s).tableClasses relations schemaName tables files).outcome = .ok files') :
    ∀ t ∈ tables, t.name ≠ "" := by
  induction tables generalizing files with
  | nil =>
    intro t ht
    cases ht
  | cons t tables ih =>
    rw [Generator.tableClasses] at h
    obtain ⟨file, hfile, h⟩ := Traced.outcome_bind_eq_ok_iff.1 h
    intro u hu
    rcases List.mem_cons.1 hu with rfl | hu
    · exact (outcome_tableClass hfile).1
    · exact ih h u hu

/-- **In a style the classes of all tables are entered one after the other.** -/
theorem outcome_tableClasses {s : Settings} {st : Style} (hst : styleOf s = .ok st)
    (relations : Relations) (schemaName : String) {tables : List Table}
    (hne : ∀ t ∈ tables, t.name ≠ "") (files : Entries String String) :
    ((generator s).tableClasses relations schemaName tables files).outcome
      = .ok (files.merge (tables.map fun t => (st.packageOf schemaName t.name,
          (st.tableClass schemaName t (relations.of t.name)).render))) := by
  induction tables generalizing files with
  | nil => rfl
  | cons t tables ih =>
    have ht := outcome_tableClass_eq s (hne t List.mem_cons_self) (relations.of t.name) schemaName
    rw [hst] at ht
    exact Traced.outcome_bind_eq_ok_iff.2
      ⟨_, ht, ih (fun u hu => hne u (List.mem_cons_of_mem t hu)) _⟩

end Writing

/-! ## Names of the schema class -/

/-- The name of the schema class is the first candidate that is not taken. -/
theorem chooseSchemaName_eq_ok_iff {candidates taken : List String} {name : String} :
    Package.chooseSchemaName candidates taken = .ok name ↔
      candidates.find? (· ∉ taken) = some name := by
  rw [Package.chooseSchemaName]
  cases candidates.find? (· ∉ taken) <;> simp

theorem mem_of_chooseSchemaName {candidates taken : List String} {name : String}
    (h : Package.chooseSchemaName candidates taken = .ok name) : name ∈ candidates :=
  List.mem_of_find?_eq_some (chooseSchemaName_eq_ok_iff.1 h)

theorem ne_empty_of_mem_candidates {name : String} (h : name ∈ Package.schemaNameCandidates) :
    name ≠ "" := by
  have hall : ∀ name ∈ Package.schemaNameCandidates, name ≠ "" := by decide
  exact hall name h

/-! ## All classes -/

namespace Style

/-- The classes of some tables by their packages, where a later class takes the place of an earlier
one of its name. -/
def classesOf (st : Style) (schemaName : String) (tables : List Table) :
    Entries String ResultClass :=
  Entries.ofList (tables.map fun t => (st.packageOf schemaName t.name,
    st.classOf schemaName tables t))

/-- **The sources of some tables**: those of their classes, and that of the schema class. -/
def sourcesOf (st : Style) (schemaName : String) (tables : List Table) : Entries String String :=
  (st.classesOf schemaName tables).mapValues ResultClass.render
    ++ [(schemaPackage st.nameSpace schemaName,
      (st.schemaClass schemaName (tableNames tables)).render)]

end Style

/-- Each name has a last table. -/
theorem exists_last_of_mem_tableNames {tables : List Table} {name : String}
    (h : name ∈ tableNames tables) :
    ∃ t ∈ tables, t.name = name ∧ (tables.filter (·.name = name)).getLast? = some t := by
  obtain ⟨u, hu, hname⟩ := List.mem_map.1 h
  have hmem : u ∈ tables.filter (·.name = name) :=
    List.mem_filter.2 ⟨hu, decide_eq_true hname⟩
  cases hlast : (tables.filter (·.name = name)).getLast? with
  | none => exact absurd (List.getLast?_eq_none_iff.1 hlast) (List.ne_nil_of_mem hmem)
  | some t =>
    obtain ⟨ht, hsame⟩ := List.mem_filter.1 (List.mem_of_getLast? hlast)
    exact ⟨t, ht, of_decide_eq_true hsame, rfl⟩

section Classes

variable (st : Style) {schemaName : String} {tables : List Table}

/-- Each class is that of one of the tables. -/
theorem exists_table_of_mem_classesOf {e : String × ResultClass}
    (he : e ∈ st.classesOf schemaName tables) :
    ∃ t ∈ tables, e = (st.packageOf schemaName t.name, st.classOf schemaName tables t) := by
  obtain ⟨t, ht, rfl⟩ := List.mem_map.1 (Entries.mem_ofList he)
  exact ⟨t, ht, rfl⟩

variable (hschema : schemaName ≠ "") (hne : ∀ t ∈ tables, t.name ≠ "")
include hschema hne

/-- The package of a new name is that of no class, -/
theorem packageOf_not_mem_classesOf {name : String} (hname : name ≠ "")
    (hnew : name ∉ tableNames tables) :
    st.packageOf schemaName name ∉ (st.classesOf schemaName tables).keys := by
  intro hm
  obtain ⟨e, he, hkey⟩ := List.mem_map.1 hm
  obtain ⟨t, ht, rfl⟩ := exists_table_of_mem_classesOf st he
  exact hnew (tablePackage_inj hschema (hne t ht) hname hkey ▸ List.mem_map_of_mem ht)

/-- and neither is that of the schema class. -/
theorem schemaPackage_not_mem_classesOf :
    schemaPackage st.nameSpace schemaName ∉ (st.classesOf schemaName tables).keys := by
  intro hm
  obtain ⟨e, he, hkey⟩ := List.mem_map.1 hm
  obtain ⟨t, ht, rfl⟩ := exists_table_of_mem_classesOf st he
  exact tablePackage_ne_schemaPackage st.nameSpace st.layout hschema (hne t ht) hkey

/-- **The classes stand under the packages of the names**, each at its first occurrence, -/
theorem keys_classesOf : (st.classesOf schemaName tables).keys
    = (tableNames tables).eraseDups.map (st.packageOf schemaName) := by
  have hname : ∀ n ∈ tableNames tables, n ≠ "" := by
    intro n hn
    obtain ⟨t, ht, rfl⟩ := List.mem_map.1 hn
    exact hne t ht
  have hinj : ∀ m ∈ tableNames tables, ∀ n ∈ tableNames tables,
      st.packageOf schemaName m = st.packageOf schemaName n → m = n := fun m hm n hn he =>
    tablePackage_inj hschema (hname m hm) (hname n hn) he
  rw [← Entries.eraseDups_map_of_injOn hinj, Style.classesOf, Entries.keys_ofList, Entries.keys,
    List.map_map, tableNames, List.map_map]
  rfl

/-- **and the class of a name is that of its last table.** -/
theorem get?_classesOf {name : String} {t : Table}
    (ht : (tables.filter (·.name = name)).getLast? = some t) :
    (st.classesOf schemaName tables).get? (st.packageOf schemaName name)
      = some (st.classOf schemaName tables t) := by
  obtain ⟨hmem, hname⟩ := List.mem_filter.1 (List.mem_of_getLast? ht)
  obtain rfl := of_decide_eq_true hname
  have hfilter : ∀ u ∈ tables, decide (st.packageOf schemaName u.name
      = st.packageOf schemaName t.name) = decide (u.name = t.name) := by
    intro u hu
    exact decide_eq_decide.2
      ⟨tablePackage_inj hschema (hne u hu) (hne t hmem), congrArg (st.packageOf schemaName)⟩
  rw [Style.classesOf, Entries.get?_ofList, List.filter_map]
  show ((tables.filter fun u => decide (st.packageOf schemaName u.name
    = st.packageOf schemaName t.name)).map _).getLast?.map _ = _
  rw [List.filter_congr hfilter, List.getLast?_map, ht]
  rfl

/-- So each table has a class of its name, if not its own. -/
theorem exists_mem_classesOf {t : Table} (ht : t ∈ tables) :
    ∃ c, (st.packageOf schemaName t.name, c) ∈ st.classesOf schemaName tables ∧
      c.tableName = t.name := by
  obtain ⟨v, -, hname, hlast⟩ := exists_last_of_mem_tableNames (List.mem_map_of_mem ht)
  exact ⟨_, Entries.mem_of_get?_eq_some (get?_classesOf st hschema hne hlast), hname⟩

/-- **No class takes the place of another where all names differ.** -/
theorem classesOf_of_nodup (hn : (tableNames tables).Nodup) :
    st.classesOf schemaName tables
      = tables.map fun t => (st.packageOf schemaName t.name, st.classOf schemaName tables t) := by
  refine Entries.merge_of_fresh ?_ fun _ _ => List.not_mem_nil
  rw [Entries.keys, List.map_map]
  refine List.Nodup.map_on (fun t ht u hu he => ?_) (List.Nodup.of_map _ hn)
  exact List.inj_on_of_nodup_map hn ht hu (tablePackage_inj hschema (hne t ht) (hne u hu) he)

/-! ## All sources -/

omit hschema hne in
theorem keys_sourcesOf :
    (st.sourcesOf schemaName tables).keys
      = (st.classesOf schemaName tables).keys ++ [schemaPackage st.nameSpace schemaName] := by
  rw [Style.sourcesOf, Entries.keys, List.map_append]
  exact congrArg (· ++ _) (Entries.keys_mapValues _ _)

/-- Packages tell the sources apart. -/
theorem nodup_keys_sourcesOf : (st.sourcesOf schemaName tables).keys.Nodup := by
  rw [keys_sourcesOf, ← List.concat_eq_append]
  exact List.Nodup.concat (schemaPackage_not_mem_classesOf st hschema hne)
    (Entries.nodup_keys_ofList _)

/-- **Each class has its source under its package**, -/
theorem get?_sourcesOf {package : String} {c : ResultClass}
    (hc : (package, c) ∈ st.classesOf schemaName tables) :
    (st.sourcesOf schemaName tables).get? package = some c.render :=
  have he : (package, c.render) ∈ st.sourcesOf schemaName tables :=
    List.mem_append_left _ (List.mem_map.2 ⟨_, hc, rfl⟩)
  Entries.get?_eq_some_of_mem (nodup_keys_sourcesOf st hschema hne) he

/-- and so has the schema class. -/
theorem get?_sourcesOf_schemaPackage :
    (st.sourcesOf schemaName tables).get? (schemaPackage st.nameSpace schemaName)
      = some (st.schemaClass schemaName (tableNames tables)).render :=
  Entries.get?_eq_some_of_mem (nodup_keys_sourcesOf st hschema hne)
    (List.mem_append_right _ (List.mem_singleton.2 rfl))

theorem keys_sourcesOf_of_nodup (hn : (tableNames tables).Nodup) :
    (st.sourcesOf schemaName tables).keys
      = (tableNames tables).map (st.packageOf schemaName)
        ++ [schemaPackage st.nameSpace schemaName] := by
  rw [keys_sourcesOf, classesOf_of_nodup st hschema hne hn, Entries.keys, List.map_map, tableNames,
    List.map_map]
  rfl

end Classes

/-- **The sources of a generation**, before they are made tidy, are those of its tables. They are
there just if the settings have a style, a name of the schema class is left, and all tables have
names. -/
theorem outcome_sources_eq_ok_iff [Memory] {s : Settings} {layout : Layout}
    (hlayout : layoutOf s.layout = .ok layout) {tables : List Table}
    {files : Entries String String} :
    ((generator s).sources tables).outcome = .ok files ↔
      ∃ st schemaName, styleOf s = .ok st ∧
        Package.chooseSchemaName Package.schemaNameCandidates (tableNames tables)
          = .ok schemaName ∧
        (∀ t ∈ tables, t.name ≠ "") ∧ files = st.sourcesOf schemaName tables := by
  -- the schema class is entered last, under a package that no table class has
  have hlast : ∀ {st : Style} {schemaName : String},
      Package.chooseSchemaName Package.schemaNameCandidates (tableNames tables) = .ok schemaName →
      (∀ t ∈ tables, t.name ≠ "") →
      Entries.set (Entries.merge [] (tables.map fun t => (st.packageOf schemaName t.name,
          (st.classOf schemaName tables t).render))) (schemaPackage st.nameSpace schemaName)
          (st.schemaClass schemaName (tableNames tables)).render
        = st.sourcesOf schemaName tables := by
    intro st schemaName hchoice hne
    have hclasses : Entries.merge [] (tables.map fun t => (st.packageOf schemaName t.name,
          (st.classOf schemaName tables t).render))
        = (st.classesOf schemaName tables).mapValues ResultClass.render := by
      rw [Style.classesOf, Entries.mapValues_ofList, Entries.mapValues, List.map_map]
      rfl
    rw [hclasses]
    refine Entries.set_of_not_mem _ ?_ _
    rw [Entries.keys_mapValues]
    exact schemaPackage_not_mem_classesOf st
      (ne_empty_of_mem_candidates (mem_of_chooseSchemaName hchoice)) hne
  rw [Generator.sources]
  constructor
  · intro h
    obtain ⟨schemaName, hchoice, h⟩ := Traced.outcome_bind_eq_ok_iff.1 h
    obtain ⟨_, -, h⟩ := Traced.outcome_bind_eq_ok_iff.1 h
    obtain ⟨classes, hclasses, h⟩ := Traced.outcome_bind_eq_ok_iff.1 h
    obtain ⟨file, hfile, h⟩ := Traced.outcome_bind_eq_ok_iff.1 h
    obtain ⟨st, hst, rfl⟩ := outcome_schemaClass hlayout hfile
    have hchoice := mapError_eq_ok_iff.1 hchoice
    have hne := name_ne_empty_of_tableClasses hclasses
    rw [outcome_tableClasses hst _ _ hne] at hclasses
    cases hclasses
    cases h
    exact ⟨st, schemaName, hst, hchoice, hne, hlast hchoice hne⟩
  · rintro ⟨st, schemaName, hst, hchoice, hne, rfl⟩
    have hschema := outcome_schemaClass_eq hlayout (tableNames tables) schemaName
    rw [hst] at hschema
    rw [← hlast hchoice hne]
    exact Traced.outcome_bind_eq_ok_iff.2 ⟨_, mapError_eq_ok_iff.2 hchoice,
      Traced.outcome_bind_eq_ok_iff.2 ⟨_, rfl, Traced.outcome_bind_eq_ok_iff.2
        ⟨_, outcome_tableClasses hst _ _ hne [], Traced.outcome_bind_eq_ok_iff.2
          ⟨_, hschema, rfl⟩⟩⟩⟩

end SchemaGen.Perl
