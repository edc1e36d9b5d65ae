import SchemaGen.Files.Destination
import SchemaGen.Proofs.Text.Lines
import Mathlib.Data.List.Infix

/-!
# Paths that are put together step by step

The path of a module is put together from a directory and some texts, its steps. A step that starts
with a slash leads to the root of the file system, so nothing that stands before it counts
(`Path.joinAll_of_rooted`). If no step does, the path is the directory with the components of all
steps behind it (`Path.joinAll_of_relative`), and leads out of the directory just if one of these is
`..` (`Path.isBelow_joinAll_iff`).
-/

namespace SchemaGen

namespace Path

/-- Whether a text starts with a slash. -/
def IsRooted (step : String) : Prop := step.toList.head? = some '/'

instance (step : String) : Decidable (IsRooted step) :=
  inferInstanceAs (Decidable (step.toList.head? = some '/'))

/-- Whether a text has a component that leads to the directory above. -/
def LeadsUp (step : String) : Prop := ".." ∈ Text.split "/" step

instance (step : String) : Decidable (LeadsUp step) :=
  inferInstanceAs (Decidable (".." ∈ Text.split "/" step))

/-- **Whether a path stays below a directory**: it starts with the components of the directory, and
does not lead up after them. -/
def IsBelow (directory p : Path) : Prop :=
  p.root = directory.root ∧ directory.components <+: p.components ∧
    ".." ∉ p.components.drop directory.components.length

instance (directory p : Path) : Decidable (IsBelow directory p) :=
  inferInstanceAs (Decidable (p.root = directory.root ∧ directory.components <+: p.components ∧
    ".." ∉ p.components.drop directory.components.length))

theorem root_ofString_eq_working_iff {step : String} :
    (ofString step).root = .working ↔ ¬ IsRooted step := by
  show rootOf step = .working ↔ ¬ step.toList.head? = some '/'
  rw [rootOf]
  cases h : step.toList with
  | nil => simp
  | cons c cs =>
    by_cases hc : c = '/'
    · subst hc
      rw [List.takeWhile_cons_of_pos (by simp), List.length_cons]
      split <;> simp_all
    · rw [List.takeWhile_cons_of_neg (by simpa using hc)]
      simpa using hc

theorem leadsUp_iff {step : String} : LeadsUp step ↔ ".." ∈ (ofString step).components := by
  show ".." ∈ Text.split "/" step ↔ ".." ∈ (Text.split "/" step).filter isComponent
  rw [List.mem_filter, and_iff_left (by decide)]

theorem joinAll_cons (p : Path) (step : String) (steps : List String) :
    p.joinAll (step :: steps) = (p.join (ofString step)).joinAll steps := rfl

/-- **Steps that do not start with a slash** are appended. -/
theorem joinAll_of_relative {p : Path} {steps : List String} (h : ∀ step ∈ steps, ¬ IsRooted step) :
    p.joinAll steps
      = { p with
          components := p.components ++ steps.flatMap fun s => (ofString s).components } := by
  induction steps generalizing p with
  | nil => rw [List.flatMap_nil, List.append_nil]; rfl
  | cons step steps ih =>
    obtain ⟨hstep, hrest⟩ := List.forall_mem_cons.1 h
    have hjoin : p.join (ofString step)
        = { p with components := p.components ++ (ofString step).components } :=
      if_pos (root_ofString_eq_working_iff.2 hstep)
    rw [joinAll_cons, hjoin, ih hrest, List.flatMap_cons, List.append_assoc]

/-- **A step that starts with a slash** leads to the same place from everywhere. -/
theorem joinAll_of_rooted {steps : List String} (h : ∃ step ∈ steps, IsRooted step) (p q : Path) :
    p.joinAll steps = q.joinAll steps := by
  induction steps generalizing p q with
  | nil =>
    obtain ⟨step, hstep, -⟩ := h
    cases hstep
  | cons step steps ih =>
    rw [joinAll_cons, joinAll_cons]
    by_cases hstep : IsRooted step
    · have hjoin : ∀ p : Path, p.join (ofString step) = ofString step := fun p =>
        if_neg fun hroot => root_ofString_eq_working_iff.1 hroot hstep
      rw [hjoin, hjoin]
    · obtain ⟨s, hs, hrooted⟩ := h
      rcases List.mem_cons.1 hs with rfl | hs
      · exact absurd hrooted hstep
      · exact ih ⟨s, hs, hrooted⟩ _ _

/-- **Where no step starts with a slash, a path stays below just if no step leads up.** -/
theorem isBelow_joinAll_iff {directory : Path} {steps : List String}
    (h : ∀ step ∈ steps, ¬ IsRooted step) :
    IsBelow directory (directory.joinAll steps) ↔ ∀ step ∈ steps, ¬ LeadsUp step := by
  rw [joinAll_of_relative h]
  show directory.root = directory.root ∧ directory.components <+: directory.components ++ _ ∧
    ".." ∉ (directory.components ++ _).drop directory.components.length ↔ _
  rw [List.drop_left, and_iff_right rfl, and_iff_right (List.prefix_append _ _), List.mem_flatMap]
  constructor
  · exact fun hnot step hstep hup => hnot ⟨step, hstep, leadsUp_iff.1 hup⟩
  · rintro hall ⟨step, hstep, hup⟩
    exact hall step hstep (leadsUp_iff.2 hup)

/-- **Where a file comes to stand** that some steps lead to, from a directory: below it if none of
the steps starts with a slash and none leads up; outside of it if one leads up; and at a place that
has nothing to do with the directory if one starts with a slash. -/
structure StandsAt (directory : Path) (steps : List String) (p : Path) : Prop where
  isBelow_iff : (∀ step ∈ steps, ¬ IsRooted step) →
    (IsBelow directory p ↔ ∀ step ∈ steps, ¬ LeadsUp step)
  eq_joinAll : (∃ step ∈ steps, IsRooted step) → ∀ start : Path, p = start.joinAll steps

/-- Steps in front that are neither rooted nor lead up change nothing of this. -/
theorem standsAt_joinAll (directory : Path) {before own : List String}
    (h : ∀ step ∈ before, ¬ IsRooted step ∧ ¬ LeadsUp step) :
    StandsAt directory own (directory.joinAll (before ++ own)) where
  isBelow_iff := by
    intro hown
    have hrooted : ∀ step ∈ before ++ own, ¬ IsRooted step := by
      intro step hs
      rcases List.mem_append.1 hs with hs | hs
      · exact (h step hs).1
      · exact hown step hs
    rw [isBelow_joinAll_iff hrooted]
    constructor
    · exact fun hall step hs => hall step (List.mem_append_right before hs)
    · intro hall step hs
      rcases List.mem_append.1 hs with hs | hs
      · exact (h step hs).2
      · exact hall step hs
  eq_joinAll := by
    intro hown start
    rw [joinAll, List.foldl_append]
    exact joinAll_of_rooted hown _ _

/-! ## Steps of one component -/

/-- **A text that is a component of a path as it stands.** -/
structure IsComponentText (s : String) : Prop where
  slash_not_mem : '/' ∉ s.toList
  counts : isComponent s = true

theorem IsComponentText.not_isRooted {s : String} (h : IsComponentText s) : ¬ IsRooted s :=
  fun hrooted => h.slash_not_mem (List.mem_of_mem_head? hrooted)

theorem IsComponentText.components_eq {s : String} (h : IsComponentText s) :
    (ofString s).components = [s] := by
  have hpieces : Text.pieces "/".toList s.toList = [s.toList] :=
    Text.pieces_eq_singleton fun hfound =>
      h.slash_not_mem (hfound.subset (List.mem_singleton_self _))
  show (Text.split "/" s).filter isComponent = [s]
  rw [Text.split, hpieces, List.map_singleton, String.ofList_toList,
    List.filter_cons_of_pos h.counts, List.filter_nil]

/-- **Steps of one component each** are appended as they stand. -/
theorem joinAll_of_isComponentText {p : Path} {steps : List String}
    (h : ∀ step ∈ steps, IsComponentText step) :
    p.joinAll steps = { p with components := p.components ++ steps } := by
  have hsteps : (steps.flatMap fun s => (ofString s).components) = steps := by
    rw [List.flatMap_congr fun s hs => (h s hs).components_eq]
    exact List.flatMap_singleton' steps
  rw [joinAll_of_relative fun step hs => (h step hs).not_isRooted, hsteps]

end Path

namespace Destination

/-- The steps to the file of a module with the given segments. -/
def steps (d : Destination) (segments : List String) : List String :=
  match segments.getLast? with
  | some file => segments.dropLast ++ [file ++ d.fileExtension]
  | none => []

theorem steps_append (d : Destination) (before : List String) {own : List String} (h : own ≠ []) :
    d.steps (before ++ own) = before ++ d.steps own := by
  obtain ⟨own, file, rfl⟩ := (List.eq_nil_or_concat own).resolve_left h
  rw [List.concat_eq_append, steps, steps, ← List.append_assoc, List.getLast?_concat,
    List.getLast?_concat]
  dsimp only
  rw [List.dropLast_concat, List.dropLast_concat, List.append_assoc]

/-- **The path of a module's file** leads from the directory along the steps of its segments. -/
theorem pathOf_eq_ok {d : Destination} (hsep : d.separator ≠ "") {module : String}
    (h : ModuleName.segments d.separator module ≠ []) :
    d.pathOf module = .ok
      ((d.directory.getD {}).joinAll (d.steps (ModuleName.segments d.separator module))) := by
  rw [pathOf, ModuleName.segments?, if_neg hsep]
  dsimp only
  obtain ⟨before, file, he⟩ := (List.eq_nil_or_concat _).resolve_left h
  rw [he, List.concat_eq_append, steps, List.getLast?_concat]
  dsimp only
  rw [List.dropLast_concat, pathOfSegments, Path.joinAll, Path.joinAll, List.foldl_append]
  rfl

end Destination

end SchemaGen
