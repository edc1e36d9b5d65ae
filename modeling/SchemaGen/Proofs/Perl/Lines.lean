import SchemaGen.Perl.ResultClass
import SchemaGen.Perl.SchemaClass
import SchemaGen.Proofs.Text.TidyLines

/-!
# The paragraphs of a source

The source of a class stands in paragraphs, with an empty line between them: the package, the
pragmas, the table or the classes that are loaded, a paragraph for every declaration, and the last
line. The paragraphs of a table class are `ResultClass.paragraphs`, those of the schema class
`SchemaClass.paragraphs`, and the source is written from them line by line (`ResultClass.render_eq`,
`SchemaClass.render_eq`).

A source whose names are of one line, and whose listed names end visibly, is tidy as it is written
(`ResultClass.tidy_render`, `SchemaClass.tidy_render`).
-/

namespace SchemaGen.Perl

open Text (IsLine EndsVisibly IsTidyLine)

theorem mem_escape {s : List Char} {c : Char} (h : c ∈ escape s) : c = '\\' ∨ c ∈ s := by
  induction s with
  | nil => cases h
  | cons d s ih =>
    have hrest : c ∈ escape s → c = '\\' ∨ c ∈ d :: s := fun h =>
      (ih h).imp_right (List.mem_cons_of_mem d)
    rw [escape] at h
    split at h
    · rcases List.mem_cons.1 h with h | h
      · exact .inl h
      · rcases List.mem_cons.1 h with rfl | h
        · exact .inr List.mem_cons_self
        · exact hrest h
    · rcases List.mem_cons.1 h with rfl | h
      · exact .inr List.mem_cons_self
      · exact hrest h

/-- Quoting keeps a text on its line. -/
theorem isLine_quote {s : String} (h : IsLine s) : IsLine (quote s) := by
  rw [IsLine, quote, String.toList_ofList, quoteChars]
  intro hm
  simp only [List.cons_append, List.mem_cons, List.mem_append, List.not_mem_nil, or_false] at hm
  rcases hm with hm | hm | hm
  · exact absurd hm (by decide)
  · rcases mem_escape hm with hm | hm
    · exact absurd hm (by decide)
    · exact h hm
  · exact absurd hm (by decide)

/-! ## Declarations -/

namespace Declaration

/-- The first line of a statement: the kind, the name and the class of the other table. -/
def firstLine (d : Declaration) : String :=
  "__PACKAGE__->" ++ d.kind.method ++ "(" ++ d.name ++ " => " ++ quote d.package ++ ","

/-- The second line of a statement: the columns that are joined. -/
def secondLine (d : Declaration) : String :=
  "             \x7b 'foreign." ++ d.foreignColumn ++ "' => 'self." ++ d.localColumn ++ "' \x7d);"

/-- The paragraph of a statement. -/
def paragraph (d : Declaration) : List String := [d.firstLine, d.secondLine]

theorem render_eq (d : Declaration) : d.render = d.firstLine ++ "\n" ++ d.secondLine := by
  have hend : (",\n" : String) = "," ++ "\n" := by decide
  unfold render firstLine secondLine
  simp only [toString]
  rw [hend]
  simp only [String.append_assoc]

/-- A declaration all of whose names are of one line. -/
structure IsLinewise (d : Declaration) : Prop where
  name : IsLine d.name
  package : IsLine d.package
  foreignColumn : IsLine d.foreignColumn
  localColumn : IsLine d.localColumn

/-- Both lines of a statement are tidy, whatever its names end in. -/
theorem IsLinewise.isTidyLine {d : Declaration} (h : d.IsLinewise) :
    ∀ s ∈ d.paragraph, IsTidyLine s := by
  have hkind : IsLine d.kind.method := by cases d.kind <;> decide
  intro s hs
  rw [paragraph, List.mem_cons, List.mem_singleton] at hs
  rcases hs with rfl | rfl
  · refine IsTidyLine.append ?_ (by decide)
    exact ((((IsLine.append (by decide) hkind).append (by decide)).append h.name).append
      (by decide)).append (isLine_quote h.package)
  · refine IsTidyLine.append ?_ (by decide)
    exact ((IsLine.append (by decide) h.foreignColumn).append (by decide)).append h.localColumn

end Declaration

/-! ## Table classes -/

namespace ResultClass

/-- The line of the primary key. -/
def primaryKeyLine (c : ResultClass) : String :=
  "__PACKAGE__->set_primary_key( qw/ " ++ String.intercalate " " c.primaryKey ++ " / );"

/-- The paragraph of the package, with the comment on the origin. -/
def packageParagraph (c : ResultClass) : List String :=
  ["package " ++ c.package ++ ";"] ++
    if c.isCommented then
      ["# Generated from table '" ++ c.tableName ++ "'. Regenerate instead of editing."]
    else []

/-- The paragraph of the pragmas. -/
def pragmaParagraph (c : ResultClass) : List String :=
  ["use strict;", "use warnings;", "use base qw/" ++ c.layout.baseClass ++ "/;"]

/-- The paragraph of the table, from its components to its primary key. -/
def tableParagraph (c : ResultClass) : List String :=
  (if c.layout.components = [] then []
    else
      ["__PACKAGE__->load_components( qw/" ++ String.intercalate " " c.layout.components ++
        "/ );"]) ++
    ["__PACKAGE__->table( " ++ quote c.tableName ++ " );", "__PACKAGE__->add_columns( qw/"] ++
    c.columns.map (c.indent ++ ·) ++ ["/);", c.primaryKeyLine]

/-- **The paragraphs of a table class.** -/
def paragraphs (c : ResultClass) : List (List String) :=
  [c.packageParagraph, c.pragmaParagraph, c.tableParagraph] ++
    c.declarations.map Declaration.paragraph ++ [["1;"]]

theorem headLines_eq (c : ResultClass) :
    c.headLines = c.packageParagraph ++ "" :: (c.pragmaParagraph ++ "" :: c.tableParagraph) := by
  unfold headLines packageParagraph pragmaParagraph tableParagraph primaryKeyLine
  simp only [toString]
  simp only [List.append_assoc, List.cons_append, List.nil_append]

/-- Every statement comes after an empty line, and so does the last line. -/
theorem linesOf_statements (ds : List Declaration) :
    [] :: Text.linesOf (ds.map Declaration.paragraph ++ [["1;"]])
      = ds.flatMap (fun d => [[], d.firstLine.toList, d.secondLine.toList])
        ++ [[], "1;".toList] := by
  induction ds with
  | nil => rfl
  | cons d ds ih =>
    rw [List.map_cons, List.cons_append, Text.linesOf_cons _ (by simp), ih, List.flatMap_cons]
    rfl

/-- The lines of the paragraphs are those of the head and of the statements. -/
theorem linesOf_paragraphs (c : ResultClass) :
    Text.linesOf c.paragraphs
      = c.headLines.map String.toList
        ++ (c.declarations.flatMap (fun d => [[], d.firstLine.toList, d.secondLine.toList])
        ++ [[], "1;".toList]) := by
  rw [← linesOf_statements, headLines_eq, paragraphs, List.append_assoc, List.cons_append,
    List.cons_append, List.cons_append, List.nil_append, Text.linesOf_cons _ (by simp),
    Text.linesOf_cons _ (by simp), Text.linesOf_cons _ (by simp)]
  simp only [List.map_append, List.map_cons, List.append_assoc, List.cons_append,
    String.toList_empty]

/-- The texts after the head are the lines of the statements. -/
theorem flatMap_bodyLines (c : ResultClass) :
    c.bodyLines.flatMap (fun s => (s ++ "\n").toList)
      = Text.unlines (c.declarations.flatMap
          (fun d => [[], d.firstLine.toList, d.secondLine.toList]) ++ [[], "1;".toList]) := by
  rw [bodyLines, List.flatMap_append, Text.unlines_append]
  congr 1
  rw [List.flatMap_assoc, Text.unlines, List.flatMap_assoc]
  refine List.flatMap_congr fun d _ => ?_
  rw [Declaration.render_eq]
  simp

/-- **The source of a table class is written from its paragraphs.** -/
theorem render_eq (c : ResultClass) :
    c.render = String.ofList (Text.unlines (Text.linesOf c.paragraphs)) := by
  apply String.ext
  rw [String.toList_ofList, render, String.toList_join, linesOf_paragraphs, Text.unlines_append,
    ← flatMap_bodyLines, List.flatMap_map, List.flatMap_append]
  congr 1
  rw [Text.unlines, List.flatMap_map]
  exact List.flatMap_congr fun s _ => String.toList_append

/-- A table class all of whose names are of one line. -/
structure IsLinewise (c : ResultClass) : Prop where
  package : IsLine c.package
  tableName : IsLine c.tableName
  columns : ∀ n ∈ c.columns, IsLine n
  primaryKey : ∀ n ∈ c.primaryKey, IsLine n
  indent : IsLine c.indent
  declarations : ∀ d ∈ c.declarations, d.IsLinewise

theorem isTidyLine_packageParagraph {c : ResultClass} (h : c.IsLinewise) :
    ∀ s ∈ c.packageParagraph, IsTidyLine s := by
  intro s hs
  rw [packageParagraph, List.singleton_append, List.mem_cons] at hs
  rcases hs with rfl | hs
  · exact IsTidyLine.append (IsLine.append (by decide) h.package) (by decide)
  · split at hs
    · rw [List.mem_singleton.1 hs]
      exact IsTidyLine.append (IsLine.append (by decide) h.tableName) (by decide)
    · cases hs

theorem isTidyLine_pragmaParagraph (c : ResultClass) : ∀ s ∈ c.pragmaParagraph, IsTidyLine s := by
  intro s hs
  simp only [pragmaParagraph, List.mem_cons, List.not_mem_nil, or_false] at hs
  rcases hs with rfl | rfl | rfl
  · decide
  · decide
  · cases c.layout <;> decide

theorem isTidyLine_tableParagraph {c : ResultClass} (h : c.IsLinewise)
    (hend : ∀ n ∈ c.columns, EndsVisibly n) : ∀ s ∈ c.tableParagraph, IsTidyLine s := by
  intro s hs
  simp only [tableParagraph, List.mem_append, List.mem_cons, List.not_mem_nil, or_false] at hs
  rcases hs with ((hs | rfl | rfl) | hs) | rfl | rfl
  · cases hl : c.layout with
    | classes =>
      rw [hl, if_neg (by decide), List.mem_singleton] at hs
      rw [hs]
      decide
    | namespaces =>
      rw [hl, if_pos (by decide)] at hs
      cases hs
  · exact IsTidyLine.append (IsLine.append (by decide) (isLine_quote h.tableName))
      (by decide)
  · decide
  · obtain ⟨n, hn, rfl⟩ := List.mem_map.1 hs
    exact IsTidyLine.append h.indent ⟨h.columns n hn, hend n hn⟩
  · decide
  · exact IsTidyLine.append
      (IsLine.append (by decide) (IsLine.intercalate (by decide) h.primaryKey)) (by decide)

theorem mem_paragraphs {c : ResultClass} {p : List String} (hp : p ∈ c.paragraphs) :
    p = c.packageParagraph ∨ p = c.pragmaParagraph ∨ p = c.tableParagraph ∨
      (∃ d ∈ c.declarations, d.paragraph = p) ∨ p = ["1;"] := by
  simpa only [paragraphs, List.mem_append, List.mem_cons, List.mem_map, List.not_mem_nil,
    or_false, or_assoc] using hp

/-- All lines of a table class are tidy. -/
theorem isTidyLine_paragraphs {c : ResultClass} (h : c.IsLinewise)
    (hend : ∀ n ∈ c.columns, EndsVisibly n) : ∀ p ∈ c.paragraphs, ∀ s ∈ p, IsTidyLine s := by
  intro p hp
  rcases mem_paragraphs hp with rfl | rfl | rfl | ⟨d, hd, rfl⟩ | rfl
  · exact isTidyLine_packageParagraph h
  · exact isTidyLine_pragmaParagraph c
  · exact isTidyLine_tableParagraph h hend
  · exact (h.declarations d hd).isTidyLine
  · intro s hs
    rw [List.mem_singleton.1 hs]
    decide

theorem areTidy_paragraphs {c : ResultClass} (h : c.IsLinewise)
    (hend : ∀ n ∈ c.columns, EndsVisibly n) : Text.AreTidy (Text.linesOf c.paragraphs) := by
  refine Text.areTidy_linesOf (by simp [paragraphs]) ?_ (isTidyLine_paragraphs h hend)
  intro p hp
  rcases mem_paragraphs hp with rfl | rfl | rfl | ⟨d, -, rfl⟩ | rfl
  · simp [packageParagraph]
  · simp [pragmaParagraph]
  · simp [tableParagraph]
  · simp [Declaration.paragraph]
  · simp

/-- **The source of a table class is tidy as it is written.** -/
theorem tidy_render {c : ResultClass} (h : c.IsLinewise) (hend : ∀ n ∈ c.columns, EndsVisibly n) :
    Text.tidy c.render = c.render := by
  rw [render_eq, (areTidy_paragraphs h hend).tidy_unlines]

end ResultClass

/-! ## The schema class -/

namespace SchemaClass

/-- The paragraphs of the schema class. -/
def paragraphs (c : SchemaClass) : List (List String) :=
  [["package " ++ c.package ++ ";"] ++
      if c.isCommented then ["# Generated schema class. Regenerate instead of editing."] else [],
    ["use strict;", "use warnings;", "use base qw/DBIx::Class::Schema/;"], c.loadLines, ["1;"]]

/-- **The source of the schema class is written from its paragraphs.** -/
theorem render_eq (c : SchemaClass) :
    c.render = String.ofList (Text.unlines (Text.linesOf c.paragraphs)) := by
  have hlines : Text.linesOf c.paragraphs = c.lines.map String.toList := by
    rw [paragraphs, Text.linesOf_cons _ (by simp), Text.linesOf_cons _ (by simp),
      Text.linesOf_cons _ (by simp)]
    unfold lines
    simp only [toString, List.map_append, List.map_cons, List.append_assoc, List.cons_append,
      List.nil_append, String.toList_empty]
    rfl
  apply String.ext
  rw [String.toList_ofList, render, String.toList_join, hlines, Text.unlines, List.flatMap_map,
    List.flatMap_map]
  exact List.flatMap_congr fun s _ => String.toList_append

/-- A schema class all of whose names are of one line. -/
structure IsLinewise (c : SchemaClass) : Prop where
  package : IsLine c.package
  classes : ∀ names ∈ c.classes, ∀ n ∈ names, IsLine n
  indent : IsLine c.indent

theorem isTidyLine_loadLines {c : SchemaClass} (h : c.IsLinewise)
    (hend : ∀ names ∈ c.classes, ∀ n ∈ names, EndsVisibly n) :
    ∀ s ∈ c.loadLines, IsTidyLine s := by
  intro s hs
  rw [loadLines] at hs
  split at hs
  · rw [List.mem_singleton.1 hs]
    decide
  · next names hnames =>
    simp only [List.mem_append, List.mem_cons, List.not_mem_nil, or_false] at hs
    rcases hs with (rfl | hs) | rfl
    · decide
    · obtain ⟨n, hn, rfl⟩ := List.mem_map.1 hs
      exact IsTidyLine.append h.indent ⟨h.classes names hnames n hn, hend names hnames n hn⟩
    · decide

/-- All lines of the schema class are tidy. -/
theorem isTidyLine_paragraphs {c : SchemaClass} (h : c.IsLinewise)
    (hend : ∀ names ∈ c.classes, ∀ n ∈ names, EndsVisibly n) :
    ∀ p ∈ c.paragraphs, ∀ s ∈ p, IsTidyLine s := by
  intro p hp s hs
  simp only [paragraphs, List.mem_cons, List.not_mem_nil, or_false] at hp
  rcases hp with rfl | rfl | rfl | rfl
  · rw [List.singleton_append, List.mem_cons] at hs
    rcases hs with rfl | hs
    · exact IsTidyLine.append (IsLine.append (by decide) h.package) (by decide)
    · split at hs
      · rw [List.mem_singleton.1 hs]
        decide
      · cases hs
  · simp only [List.mem_cons, List.not_mem_nil, or_false] at hs
    rcases hs with rfl | rfl | rfl <;> decide
  · exact isTidyLine_loadLines h hend s hs
  · rw [List.mem_singleton.1 hs]
    decide

theorem areTidy_paragraphs {c : SchemaClass} (h : c.IsLinewise)
    (hend : ∀ names ∈ c.classes, ∀ n ∈ names, EndsVisibly n) :
    Text.AreTidy (Text.linesOf c.paragraphs) := by
  refine Text.areTidy_linesOf (by simp [paragraphs]) ?_ (isTidyLine_paragraphs h hend)
  intro p hp
  simp only [paragraphs, List.mem_cons, List.not_mem_nil, or_false] at hp
  rcases hp with rfl | rfl | rfl | rfl
  · simp
  · simp
  · rw [loadLines]
    split <;> simp
  · simp

/-- **The source of the schema class is tidy as it is written.** -/
theorem tidy_render {c : SchemaClass} (h : c.IsLinewise)
    (hend : ∀ names ∈ c.classes, ∀ n ∈ names, EndsVisibly n) : Text.tidy c.render = c.render := by
  rw [render_eq, (areTidy_paragraphs h hend).tidy_unlines]

end SchemaClass

end SchemaGen.Perl
