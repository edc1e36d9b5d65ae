import SchemaGen.Proofs.Package.Namespace
import SchemaGen.Proofs.Perl.Sources

/-!
# Segments of packages

A package that is put together from segments is taken apart again where a file is looked for. This
gives back what was put in as far as it consists of words (`segments_append`): the segments of a
namespace, the name of the schema class and the segment of the layout (`segments_schemaPackage`,
`areWords_schemaPackage`). Behind them stand whatever segments the name of the table is cut into
(`segments_tablePackage`).
-/

namespace SchemaGen

open Text (pieces)

/-! ## Cutting at the separator of packages -/

namespace ModuleName

theorem pieces_separator {name : String} (h : AreWords name) (rest : String) :
    pieces separator.toList (name ++ separator ++ rest).toList
      = pieces separator.toList name.toList ++ pieces separator.toList rest.toList := by
  rw [String.toList_append, String.toList_append]
  exact Text.pieces_append_separator_append (by decide)
    (fun p hp c hc => not_mem_separator (h p hp c hc)) _

/-- **Words are cut off** from what follows them. -/
theorem segments_append {name : String} (h : AreWords name) (rest : String) :
    segments separator (name ++ separator ++ rest)
      = segments separator name ++ segments separator rest := by
  rw [segments, Text.split, pieces_separator h, List.map_append, List.filter_append]
  rfl

theorem AreWords.append {name rest : String} (h : AreWords name) (hrest : AreWords rest) :
    AreWords (name ++ separator ++ rest) := by
  intro p hp
  rw [pieces_separator h] at hp
  rcases List.mem_append.1 hp with hp | hp
  · exact h p hp
  · exact hrest p hp

theorem AreWords.isWordText {name segment : String} (h : AreWords name)
    (hs : segment ∈ segments separator name) : Text.IsWordText segment := by
  obtain ⟨hmem, hne⟩ := List.mem_filter.1 hs
  obtain ⟨p, hp, rfl⟩ := List.mem_map.1 hmem
  exact ⟨of_decide_eq_true hne, by rw [String.toList_ofList]; exact h p hp⟩

/-- **Words are taken apart from what is joined to them.** -/
theorem segments_joinSegments_pair {name : String} (h : AreWords name) {part : String}
    (hpart : part ≠ "") :
    segments separator (joinSegments separator [some name, some part])
      = segments separator name ++ segments separator part := by
  rw [joinSegments_pair _ _ hpart]
  split
  · next hempty =>
    rw [hempty, String.empty_append]
    rfl
  · exact segments_append h part

/-- A text in which the separator does not occur is a segment of its own. -/
theorem segments_eq_singleton {sep part : String} (hpart : part ≠ "")
    (h : ¬ sep.toList <:+: part.toList) : segments sep part = [part] := by
  rw [segments, Text.split, Text.pieces_eq_singleton h, List.map_singleton, String.ofList_toList,
    List.filter_singleton, decide_eq_true hpart]
  rfl

end ModuleName

namespace Package

open ModuleName (separator AreWords segments)

/-- A name for the schema class is a single word. -/
theorem areWords_of_mem_candidates {name : String} (h : name ∈ schemaNameCandidates) :
    AreWords name ∧ segments separator name = [name] := by
  have hall : ∀ name ∈ schemaNameCandidates,
      AreWords name ∧ segments separator name = [name] := by
    decide +kernel
  exact hall name h

end Package

namespace Perl

open ModuleName (separator AreWords segments)

variable {nameSpace schemaName : String}

/-- The package of the schema class consists of words if the namespace does. -/
theorem areWords_schemaPackage (hns : AreWords nameSpace)
    (hschema : schemaName ∈ Package.schemaNameCandidates) :
    AreWords (schemaPackage nameSpace schemaName) := by
  obtain ⟨hwords, -⟩ := Package.areWords_of_mem_candidates hschema
  rw [schemaPackage_eq _ (ne_empty_of_mem_candidates hschema)]
  split
  · rwa [String.empty_append]
  · exact hns.append hwords

/-- **The segments of the schema class** are those of the namespace and its own name. -/
theorem segments_schemaPackage (hns : AreWords nameSpace)
    (hschema : schemaName ∈ Package.schemaNameCandidates) :
    segments separator (schemaPackage nameSpace schemaName)
      = segments separator nameSpace ++ [schemaName] := by
  obtain ⟨-, hsegments⟩ := Package.areWords_of_mem_candidates hschema
  refine (ModuleName.segments_joinSegments_pair hns (ne_empty_of_mem_candidates hschema)).trans ?_
  rw [hsegments]

/-- **The segments of a table's class** are those of the schema class, that of the layout, and those
that the name of the table is cut into. -/
theorem segments_tablePackage (hns : AreWords nameSpace) (layout : Layout)
    (hschema : schemaName ∈ Package.schemaNameCandidates) {table : String} (htable : table ≠ "") :
    segments separator (tablePackage nameSpace layout schemaName table)
      = segments separator nameSpace ++ schemaName :: layout.tableSegment.toList
        ++ segments separator table := by
  have hwords := areWords_schemaPackage hns hschema
  have hsegments := segments_schemaPackage hns hschema
  rw [tablePackage_eq _ _ (ne_empty_of_mem_candidates hschema) htable]
  cases layout with
  | classes =>
    show segments separator (schemaPackage nameSpace schemaName ++ separator ++ table) = _
    rw [ModuleName.segments_append hwords, hsegments]
    rfl
  | namespaces =>
    have hresult : AreWords "Result" ∧ segments separator "Result" = ["Result"] := by
      decide +kernel
    show segments separator (schemaPackage nameSpace schemaName
      ++ (separator ++ "Result" ++ separator) ++ table) = _
    rw [← String.append_assoc, ← String.append_assoc,
      ModuleName.segments_append (hwords.append hresult.1), ModuleName.segments_append hwords,
      hsegments, hresult.2]
    simp [Layout.tableSegment]

end Perl

end SchemaGen
