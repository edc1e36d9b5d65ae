import SchemaGen.Text.Pieces

/-!
# Names of modules

A fully qualified module name is a list of segments with a separator between them. Missing and empty
segments are left out when a name is put together (`joinSegments`) and when it is taken apart
(`segments`), so a missing namespace never leaves a separator behind.
-/

namespace SchemaGen.ModuleName

/-- The separator of Perl packages. -/
def separator : String := "::"

/-- The parts that are there and not empty. -/
def present (parts : List (Option String)) : List String :=
  parts.filterMap fun
    | some part => if part = "" then none else some part
    | none => none

/-- A module name from its segments; a missing or empty one is left out. -/
def joinSegments (separator : String) (parts : List (Option String)) : String :=
  Text.join separator (present parts)

/-- The segments of a module name, for a separator that is not empty. -/
def segments (separator name : String) : List String :=
  (Text.split separator name).filter (· ≠ "")

/-- A name cannot be taken apart at an empty separator. -/
structure EmptySeparator where
deriving DecidableEq, Repr

def EmptySeparator.message (_ : EmptySeparator) : String := "empty separator"

/-- The segments of a module name, for any separator. -/
def segments? (separator name : String) : Except EmptySeparator (List String) :=
  if separator = "" then .error {} else .ok (segments separator name)

theorem present_append (xs ys : List (Option String)) :
    present (xs ++ ys) = present xs ++ present ys :=
  List.filterMap_append

@[simp] theorem present_none (xs : List (Option String)) : present (none :: xs) = present xs := rfl

theorem mem_present {part : String} {parts : List (Option String)} :
    part ∈ present parts ↔ some part ∈ parts ∧ part ≠ "" := by
  simp only [present, List.mem_filterMap]
  constructor
  · rintro ⟨p, hp, h⟩
    cases p with
    | none => simp at h
    | some q =>
      simp only [Option.ite_none_left_eq_some, Option.some.injEq] at h
      exact ⟨h.2 ▸ hp, h.2 ▸ h.1⟩
  · rintro ⟨hp, h⟩
    exact ⟨some part, hp, by simp [h]⟩

end SchemaGen.ModuleName
