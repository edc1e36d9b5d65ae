import SchemaGen.Proofs.Model.Locality
import SchemaGen.Proofs.Perl.Emission

/-!
# The parts of a source

The source of a table class is its head, up to the primary key, then the statements of its
`has_many` and its `belongs_to` declarations, and the last line (`ResultClass.render_eq_parts`). Of
these only the `has_many` declarations hang on other tables: they are those that each table makes by
its foreign keys (`Style.declaredBy`). Where all names differ they come table by table, and all else
is told by the table of the class alone (`classOf_of_nodup`). In any case those of a new table come
last (`classOf_append`).

The source of a schema class that lists its classes is what stands before the list, a line for each
class, and what stands after it (`SchemaClass.render_eq_parts`).
-/

namespace SchemaGen.Perl

open Model (Table RelationSet Relations tableNames)

/-! ## Texts of several lines -/

/-- Some texts, each ended by a line feed. -/
def endLines (ls : List String) : String := String.join (ls.map (· ++ "\n"))

theorem endLines_append (ls ms : List String) :
    endLines (ls ++ ms) = endLines ls ++ endLines ms := by
  rw [endLines, List.map_append, String.join_append]
  rfl

/-- The statements of some declarations, each after an empty line. -/
def statements (ds : List Declaration) : String := endLines (ds.flatMap fun d => ["", d.render])

theorem statements_append (ds es : List Declaration) :
    statements (ds ++ es) = statements ds ++ statements es := by
  rw [statements, List.flatMap_append, endLines_append]
  rfl

/-- The lines of some names in a list, each after the indentation. -/
def listLines (indent : String) (names : List String) : String := endLines (names.map (indent ++ ·))

theorem listLines_append (indent : String) (names : List String) (name : String) :
    listLines indent (names ++ [name]) = listLines indent names ++ (indent ++ name ++ "\n") := by
  rw [listLines, List.map_append, endLines_append]
  rfl

namespace ResultClass

/-- The source of a table class up to its primary key. -/
def headText (c : ResultClass) : String := endLines c.headLines

/-- The source of a table class from its `belongs_to` declarations on. -/
def tailText (c : ResultClass) : String := statements c.belongsTo ++ endLines ["", "1;"]

/-- **The parts of the source of a table class.** -/
theorem render_eq_parts (c : ResultClass) :
    c.render = c.headText ++ statements c.hasMany ++ c.tailText := by
  show endLines (c.headLines ++ c.bodyLines) = _
  rw [bodyLines, declarations, List.flatMap_append, endLines_append, endLines_append,
    endLines_append, tailText, String.append_assoc, String.append_assoc]
  rfl

end ResultClass

namespace SchemaClass

/-- The source of a schema class up to its list of classes. -/
def headText (c : SchemaClass) : String :=
  endLines ([s!"package {c.package};"] ++
    (if c.isCommented then ["# Generated schema class. Regenerate instead of editing."] else []) ++
    ["", "use strict;", "use warnings;", "use base qw/DBIx::Class::Schema/;", ""] ++
    ["__PACKAGE__->load_classes(qw/"])

/-- The source of a schema class after its list of classes. -/
def tailText : String := endLines ["/);", "", "1;"]

/-- **The parts of the source of a schema class** that lists its classes. -/
theorem render_eq_parts {c : SchemaClass} {names : List String} (h : c.classes = some names) :
    c.render = c.headText ++ listLines c.indent names ++ tailText := by
  show endLines c.lines = _
  rw [lines, loadLines, h, headText, listLines, tailText, ← endLines_append, ← endLines_append]
  simp only [List.append_assoc, List.cons_append, List.nil_append]

end SchemaClass

namespace Style

variable {st : Style} (schemaName : String)

/-- The schema class lists the tables where the layout has it list them. -/
theorem render_schemaClass_of_classes (h : st.layout = .classes) (names : List String) :
    (st.schemaClass schemaName names).render
      = (st.schemaClass schemaName []).headText ++ listLines st.indent names
        ++ SchemaClass.tailText :=
  have hnames : (st.schemaClass schemaName names).classes = some names := by
    rw [schemaClass, h, if_neg (by decide)]
  SchemaClass.render_eq_parts hnames

/-- Where it finds them by their namespace, it does not depend on them. -/
theorem schemaClass_of_namespaces (h : st.layout = .namespaces) (names names' : List String) :
    st.schemaClass schemaName names = st.schemaClass schemaName names' := by
  rw [schemaClass, schemaClass, if_pos h, if_pos h]

end Style

/-! ## What a table declares in the class of another -/

/-- **The `has_many` declarations that a table makes** in the class of the table it refers to. -/
def Style.declaredBy (st : Style) (schemaName : String) (u : Table) (name : String) :
    List Declaration :=
  (u.pairsTo name).map (.ofPair .hasMany (st.packageOf schemaName u.name))

/-- The class of a table as far as the table tells it, without any `has_many`. -/
def Style.ownClass (st : Style) (schemaName : String) (t : Table) : ResultClass :=
  st.tableClass schemaName t { incoming := Entries.gather t.foreignKeys }

section Classes

variable (st : Style) (schemaName : String) {tables : List Table}

/-- Pairs under the name of a table make its declarations. -/
theorem map_ofPair_pairsTo (u : Table) (name : String) :
    ((u.pairsTo name).map (Prod.mk u.name)).map
        (fun p => Declaration.ofPair .hasMany (st.packageOf schemaName p.1) p.2)
      = st.declaredBy schemaName u name := by
  rw [List.map_map]
  rfl

theorem hasMany_classOf_eq (tables : List Table) (t : Table) :
    (st.classOf schemaName tables t).hasMany
      = (Entries.flat ((Relations.derive tables).of t.name).outgoing).map fun p =>
          Declaration.ofPair .hasMany (st.packageOf schemaName p.1) p.2 :=
  ofPairs_eq _ _ _

/-- **The `has_many` of a class are declared table by table.** -/
theorem hasMany_classOf_of_nodup (hn : (tableNames tables).Nodup) (t : Table) :
    (st.classOf schemaName tables t).hasMany
      = tables.flatMap fun u => st.declaredBy schemaName u t.name := by
  rw [hasMany_classOf_eq, Relations.flat_outgoing_of_nodup hn, List.map_flatMap]
  exact List.flatMap_congr fun u _ => map_ofPair_pairsTo st schemaName u t.name

/-- **All else of a class is told by its own table**, where all names differ. -/
theorem classOf_of_nodup (hn : (tableNames tables).Nodup) {t : Table} (ht : t ∈ tables) :
    st.classOf schemaName tables t
      = { st.ownClass schemaName t with
          hasMany := tables.flatMap fun u => st.declaredBy schemaName u t.name } := by
  have hto : (st.classOf schemaName tables t).belongsTo = (st.ownClass schemaName t).belongsTo :=
    congrArg (Declaration.ofPairs .belongsTo (st.packageOf schemaName))
      (Relations.incoming_derive_eq_gather hn ht)
  rw [← hasMany_classOf_of_nodup st schemaName hn]
  show ResultClass.mk .. = ResultClass.mk ..
  congr 1

/-- So its source is that of its own table, with the `has_many` between head and tail. -/
theorem render_classOf_of_nodup (hn : (tableNames tables).Nodup) {t : Table} (ht : t ∈ tables) :
    (st.classOf schemaName tables t).render
      = (st.ownClass schemaName t).headText
        ++ statements (tables.flatMap fun u => st.declaredBy schemaName u t.name)
        ++ (st.ownClass schemaName t).tailText := by
  rw [classOf_of_nodup st schemaName hn ht, ResultClass.render_eq_parts]
  rfl

/-- **A new table adds its own declarations after the `has_many` of a class**, and nothing else. -/
theorem classOf_append {u : Table} (hu : u.name ∉ tableNames tables) {t : Table}
    (ht : u.name ≠ t.name) :
    st.classOf schemaName (tables ++ [u]) t
      = { st.classOf schemaName tables t with
          hasMany := (st.classOf schemaName tables t).hasMany
            ++ st.declaredBy schemaName u t.name } := by
  have hmany : (st.classOf schemaName (tables ++ [u]) t).hasMany
      = (st.classOf schemaName tables t).hasMany ++ st.declaredBy schemaName u t.name := by
    rw [hasMany_classOf_eq, Relations.flat_outgoing_append hu, List.map_append, map_ofPair_pairsTo,
      hasMany_classOf_eq]
  have hto : (st.classOf schemaName (tables ++ [u]) t).belongsTo
      = (st.classOf schemaName tables t).belongsTo :=
    congrArg (Declaration.ofPairs .belongsTo (st.packageOf schemaName))
      (Relations.incoming_append tables ht)
  rw [← hmany]
  show ResultClass.mk .. = ResultClass.mk ..
  congr 1

end Classes

end SchemaGen.Perl
