import SchemaGen.Perl.Generator
import SchemaGen.Proofs.Package.Joining
import SchemaGen.Proofs.Perl.Lines
import SchemaGen.Proofs.Text.Trim

/-!
# Packages

The package of a table's class is that of the schema class followed by the name of the table, with
the segment of the layout in between (`tablePackage_eq`). So packages tell tables apart, and no
table has the package of the schema class.

Packages stand on one line if the names in them do (`isLine_tablePackage`).
-/

namespace SchemaGen

open Text (IsLine)

/-! ## Joining on one line -/

namespace ModuleName

/-- Segments of one line are joined on one line. -/
theorem isLine_joinSegments {sep : String} (hsep : IsLine sep) {parts : List (Option String)}
    (h : ∀ part ∈ present parts, IsLine part) : IsLine (joinSegments sep parts) := by
  rw [IsLine, joinSegments, Text.join, String.toList_ofList]
  intro hm
  rcases Text.mem_glue hm with hm | ⟨p, hp, hm⟩
  · exact hsep hm
  · obtain ⟨part, hpart, rfl⟩ := List.mem_map.1 hp
    exact h part hpart hm

end ModuleName

namespace Perl

/-! ## The packages of a generation -/

/-- What stands between the package of the schema class and the name of a table. -/
def Layout.infixText : Layout → String
  | classes => "::"
  | namespaces => "::Result::"

theorem present_schema (nameSpace : String) {schemaName : String} (hschema : schemaName ≠ "") :
    ModuleName.present [some nameSpace, some schemaName] ≠ [] :=
  List.ne_nil_of_mem (ModuleName.mem_present.2 ⟨by simp, hschema⟩)

/-- **The package of a table's class** is that of the schema class, what the layout puts in between,
and the name of the table. -/
theorem tablePackage_eq (nameSpace : String) (layout : Layout) {schemaName table : String}
    (hschema : schemaName ≠ "") (htable : table ≠ "") :
    tablePackage nameSpace layout schemaName table
      = schemaPackage nameSpace schemaName ++ layout.infixText ++ table := by
  have hpresent := present_schema nameSpace hschema
  unfold tablePackage schemaPackage
  cases layout with
  | classes =>
    show ModuleName.joinSegments _ ([some nameSpace, some schemaName] ++ [some table]) = _
    rw [ModuleName.joinSegments_concat hpresent htable]
    rfl
  | namespaces =>
    show ModuleName.joinSegments _
      (([some nameSpace, some schemaName] ++ [some "Result"]) ++ [some table]) = _
    have hresult : ModuleName.present ([some nameSpace, some schemaName] ++ [some "Result"]) ≠ [] :=
      List.ne_nil_of_mem (ModuleName.mem_present.2
        ⟨List.mem_append_right _ (List.mem_singleton.2 rfl), by decide⟩)
    have hinfix : Layout.namespaces.infixText
        = ModuleName.separator ++ "Result" ++ ModuleName.separator := rfl
    rw [ModuleName.joinSegments_concat hresult htable,
      ModuleName.joinSegments_concat hpresent (by decide), hinfix]
    simp only [String.append_assoc]

/-- The package of the schema class is the name of it below the namespace. -/
theorem schemaPackage_eq (nameSpace : String) {schemaName : String} (hschema : schemaName ≠ "") :
    schemaPackage nameSpace schemaName
      = (if nameSpace = "" then "" else nameSpace ++ "::") ++ schemaName :=
  ModuleName.joinSegments_pair ModuleName.separator nameSpace hschema

/-- **Packages tell tables apart.** -/
theorem tablePackage_inj {nameSpace : String} {layout : Layout} {schemaName m n : String}
    (hschema : schemaName ≠ "") (hm : m ≠ "") (hn : n ≠ "")
    (h : tablePackage nameSpace layout schemaName m = tablePackage nameSpace layout schemaName n) :
    m = n := by
  rw [tablePackage_eq _ _ hschema hm, tablePackage_eq _ _ hschema hn] at h
  exact (String.append_right_inj _).1 h

/-- **No table has the package of the schema class.** -/
theorem tablePackage_ne_schemaPackage (nameSpace : String) (layout : Layout)
    {schemaName table : String} (hschema : schemaName ≠ "") (htable : table ≠ "") :
    tablePackage nameSpace layout schemaName table ≠ schemaPackage nameSpace schemaName := by
  rw [tablePackage_eq _ _ hschema htable, String.append_assoc]
  intro h
  have hempty : layout.infixText ++ table = "" :=
    (String.append_right_inj (schemaPackage nameSpace schemaName)).1
      (h.trans String.append_empty.symm)
  exact htable (String.append_eq_empty_iff.1 hempty).2

/-- The package of the schema class tells its name. -/
theorem schemaPackage_inj {nameSpace m n : String} (hm : m ≠ "") (hn : n ≠ "")
    (h : schemaPackage nameSpace m = schemaPackage nameSpace n) : m = n := by
  rw [schemaPackage_eq _ hm, schemaPackage_eq _ hn] at h
  exact (String.append_right_inj _).1 h

theorem isLine_schemaPackage {nameSpace schemaName : String} (hns : IsLine nameSpace)
    (hschema : IsLine schemaName) : IsLine (schemaPackage nameSpace schemaName) := by
  refine ModuleName.isLine_joinSegments (by decide) fun part hpart => ?_
  obtain ⟨hpart, -⟩ := ModuleName.mem_present.1 hpart
  simp only [List.mem_cons, Option.some.injEq, List.not_mem_nil, or_false] at hpart
  rcases hpart with rfl | rfl
  · exact hns
  · exact hschema

theorem isLine_tablePackage {nameSpace schemaName table : String} (layout : Layout)
    (hns : IsLine nameSpace) (hschema : IsLine schemaName) (htable : IsLine table) :
    IsLine (tablePackage nameSpace layout schemaName table) := by
  refine ModuleName.isLine_joinSegments (by decide) fun part hpart => ?_
  obtain ⟨hpart, -⟩ := ModuleName.mem_present.1 hpart
  simp only [List.mem_cons, Option.some.injEq, List.not_mem_nil, or_false] at hpart
  rcases hpart with rfl | rfl | hpart | rfl
  · exact hns
  · exact hschema
  · cases layout with
    | classes => cases hpart
    | namespaces =>
      cases hpart
      decide
  · exact htable

end Perl

end SchemaGen
