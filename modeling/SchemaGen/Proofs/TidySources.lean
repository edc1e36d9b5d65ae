import SchemaGen.Proofs.Success

/-!
# Sources that are tidy as they are written

A generator makes all its sources tidy at the end, without a look at what they are. With checked
settings that changes nothing: as long as the names of a table and of its relations stand on one
line each, and its columns end visibly (`AreOfLines`), the source of its class is tidy as it is
written. The same goes for the schema class over names that are of one line and end visibly
(`tidy_sources`). It holds in every layout, with comments or without them, and whether there are any
columns, keys and relations or not.

The relations need not be those that the foreign keys of some tables make.
-/

namespace SchemaGen.Perl

open Model (Table RelationSet)
open Text (IsLine IsTidyLine)

/-- Where there is room for an indentation of few enough bits, checked settings give sources of
every table with a name, and of the schema class. -/
theorem exists_sources [Memory] {s : Settings} (hs : s.IsChecked) (schemaName : String) {n : Int}
    (hindent : s.indentSize = .int n) (hn : n < wordLimit) (hroom : n ≤ Memory.maxIndent) :
    (∀ (t : Table) (r : RelationSet), t.name ≠ "" →
      ∃ file, (tableClass s t r schemaName).outcome = .ok file) ∧
    ∀ names : List String, ∃ file, (schemaClass s names schemaName).outcome = .ok file := by
  rcases hs.exists_style hindent hn with ⟨st, hst⟩ | ⟨hwide, -⟩
  · obtain ⟨layout, hlayout⟩ := hs.exists_layoutOf
    constructor
    · intro t r ht
      rw [outcome_tableClass_eq s ht, hst]
      exact ⟨_, rfl⟩
    · intro names
      rw [outcome_schemaClass_eq hlayout, hst]
      exact ⟨_, rfl⟩
  · exact absurd hwide (Int.not_lt.2 hroom)

/-- **Sources are tidy as they are written.** With checked settings and a schema name of one line,
tidying changes neither the source of a class whose names are of one line, nor that of the schema
class over names that are of one line and end visibly. And there are such sources, of every table
with a name, as long as the indentation is of few enough bits and there is room for it. -/
theorem tidy_sources [Memory] {s : Settings} (hs : s.IsChecked) {schemaName : String}
    (hschema : IsLine schemaName) :
    (∀ (t : Table) (r : RelationSet), AreOfLines t r →
      ∀ file, (tableClass s t r schemaName).outcome = .ok file → Text.tidy file.2 = file.2) ∧
    (∀ names : List String, (∀ name ∈ names, IsTidyLine name) →
      ∀ file, (schemaClass s names schemaName).outcome = .ok file → Text.tidy file.2 = file.2) ∧
    ∀ n : Int, s.indentSize = .int n → n < wordLimit → n ≤ Memory.maxIndent →
      (∀ (t : Table) (r : RelationSet), t.name ≠ "" →
        ∃ file, (tableClass s t r schemaName).outcome = .ok file) ∧
      ∀ names : List String, ∃ file, (schemaClass s names schemaName).outcome = .ok file := by
  refine ⟨?_, ?_, fun n => exists_sources hs schemaName⟩
  · intro t r h file hfile
    obtain ⟨-, st, hst, rfl⟩ := outcome_tableClass hfile
    exact h.tidy_tableClass (hs.isPlain hst) hschema
  · intro names h file hfile
    obtain ⟨layout, hlayout⟩ := hs.exists_layoutOf
    obtain ⟨st, hst, rfl⟩ := outcome_schemaClass hlayout hfile
    exact tidy_schemaClass h (hs.isPlain hst) hschema

/-- A table of readings. -/
def readingTable : Table :=
  { name := "reading", columns := ["id", "at"], primaryKey := ["id"] }

/-- Readings refer to their sensor, and alarms to the reading that set them off. -/
def readingRelations : RelationSet :=
  { outgoing := [("alarm", [⟨"id", "reading_id"⟩])]
    incoming := [("sensor", [⟨"no", "sensor_no"⟩])] }

theorem areOfLines_reading : AreOfLines readingTable readingRelations :=
  ⟨by decide, by decide, by decide, by decide, by decide⟩

/-- Classes that are found by their namespace, with comments and without an indentation. -/
def bareSettings : Settings :=
  { layout := .text "namespaces", indentSize := .int 0, addComments := .bool true }

theorem tidy_sources_readings : ∃ file schemaFile,
    (tableClass bareSettings readingTable readingRelations "Schema").outcome = .ok file ∧
    (schemaClass bareSettings [] "Schema").outcome = .ok schemaFile ∧
    Text.tidy file.2 = file.2 ∧ Text.tidy schemaFile.2 = schemaFile.2 := by
  have hs : bareSettings.IsChecked := ⟨bareSettings, rfl⟩
  have hline : IsLine "Schema" := by decide
  obtain ⟨htable, hschema, hsources⟩ := tidy_sources hs hline
  obtain ⟨htables, hclass⟩ := hsources 0 rfl (by decide) (by decide)
  obtain ⟨file, hfile⟩ := htables readingTable readingRelations (by decide)
  obtain ⟨schemaFile, hschemaFile⟩ := hclass []
  exact ⟨file, schemaFile, hfile, hschemaFile,
    htable readingTable readingRelations areOfLines_reading file hfile,
    hschema [] (by simp) schemaFile hschemaFile⟩

end SchemaGen.Perl
