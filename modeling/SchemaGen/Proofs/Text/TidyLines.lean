import Mathlib.Data.List.Basic
import SchemaGen.Proofs.Text.Spacing

/-!
# Lines that stay as they are

A line that ends visibly (`IsTidyLine`) is not changed when the text around it is made tidy. Texts
are put together from such lines in paragraphs, with an empty line in between: `linesOf` are the
lines of some paragraphs, and they are tidy as they stand (`areTidy_linesOf`).
-/

namespace SchemaGen.Text

/-- A text of one line. -/
def IsLine (s : String) : Prop := '\n' ∉ s.toList

instance (s : String) : Decidable (IsLine s) := inferInstanceAs (Decidable (_ ∉ _))

/-- A text that is not empty and does not end in a blank. -/
def EndsVisibly (s : String) : Prop := ∃ c ∈ s.toList.getLast?, isBlank c = false

theorem any_getLast?_iff (s : String) :
    s.toList.getLast?.any (!isBlank ·) = true ↔ EndsVisibly s := by
  rw [EndsVisibly, Option.any_eq_true]
  refine exists_congr fun c => and_congr Iff.rfl ?_
  rw [Bool.not_eq_true']

instance (s : String) : Decidable (EndsVisibly s) := decidable_of_iff _ (any_getLast?_iff s)

/-- A line that stays as it is when the text around it is made tidy. -/
structure IsTidyLine (s : String) : Prop where
  isLine : IsLine s
  endsVisibly : EndsVisibly s

instance (s : String) : Decidable (IsTidyLine s) :=
  decidable_of_iff (IsLine s ∧ EndsVisibly s) ⟨fun h => ⟨h.1, h.2⟩, fun h => ⟨h.1, h.2⟩⟩

/-- A text that is not empty ends visibly if it does not end in a blank. -/
theorem endsVisibly_of_last {s : String} (hne : s ≠ "")
    (h : ∀ c ∈ s.toList.getLast?, isBlank c = false) : EndsVisibly s := by
  have hlist : s.toList ≠ [] := fun hs => hne (String.ext hs)
  obtain ⟨c, hc⟩ := Option.ne_none_iff_exists'.1 fun he => hlist (List.getLast?_eq_none_iff.1 he)
  exact ⟨c, hc, h c hc⟩

theorem IsLine.append {s t : String} (hs : IsLine s) (ht : IsLine t) : IsLine (s ++ t) := by
  rw [IsLine, String.toList_append, List.mem_append]
  exact not_or.2 ⟨hs, ht⟩

theorem EndsVisibly.append (s : String) {t : String} (ht : EndsVisibly t) :
    EndsVisibly (s ++ t) := by
  obtain ⟨c, hc, hb⟩ := ht
  refine ⟨c, ?_, hb⟩
  rw [String.toList_append, List.getLast?_append, Option.mem_def.1 hc]
  rfl

/-- What comes before the end of a line only has to stay on it. -/
theorem IsTidyLine.append {s t : String} (hs : IsLine s) (ht : IsTidyLine t) :
    IsTidyLine (s ++ t) :=
  ⟨hs.append ht.isLine, EndsVisibly.append s ht.endsVisibly⟩

/-- A separator of one line joins texts of one line to a text of one line. -/
theorem IsLine.intercalate {sep : String} (hsep : IsLine sep) {ss : List String}
    (h : ∀ s ∈ ss, IsLine s) : IsLine (String.intercalate sep ss) := by
  rw [IsLine, String.toList_intercalate]
  induction ss with
  | nil => exact List.not_mem_nil
  | cons s ss ih =>
    have hs : IsLine s := h s List.mem_cons_self
    have ih := ih fun t ht => h t (List.mem_cons_of_mem s ht)
    cases ss with
    | nil => rwa [List.map_singleton, List.intercalate_singleton]
    | cons t ss =>
      rw [List.map_cons, List.map_cons, List.intercalate_cons_cons, List.mem_append,
        List.mem_append]
      exact not_or.2 ⟨not_or.2 ⟨hs, hsep⟩, ih⟩

/-- The lines of some paragraphs of texts. -/
def linesOf (ps : List (List String)) : List (List Char) :=
  glue [[]] (ps.map (·.map String.toList))

theorem linesOf_cons (p : List String) {ps : List (List String)} (hps : ps ≠ []) :
    linesOf (p :: ps) = p.map String.toList ++ [] :: linesOf ps := by
  obtain ⟨q, ps, rfl⟩ := List.exists_cons_of_ne_nil hps
  rw [linesOf, List.map_cons, List.map_cons, glue_cons_cons, List.append_assoc]
  rfl

/-- **Paragraphs of tidy lines are tidy.** -/
theorem areTidy_linesOf {ps : List (List String)} (hps : ps ≠ []) (hne : ∀ p ∈ ps, p ≠ [])
    (h : ∀ p ∈ ps, ∀ s ∈ p, IsTidyLine s) : AreTidy (linesOf ps) := by
  have hline : ∀ q ∈ ps.map (·.map String.toList), ∀ l ∈ q, ∃ s, IsTidyLine s ∧ s.toList = l := by
    intro q hq l hl
    obtain ⟨p, hp, rfl⟩ := List.mem_map.1 hq
    obtain ⟨s, hs, rfl⟩ := List.mem_map.1 hl
    exact ⟨s, h p hp s hs, rfl⟩
  refine areTidy_glue (by simpa using hps) ?_ ?_ ?_
  · intro q hq
    obtain ⟨p, hp, rfl⟩ := List.mem_map.1 hq
    simpa using hne p hp
  · intro q hq l hl
    obtain ⟨s, hs, rfl⟩ := hline q hq l hl
    exact hs.isLine
  · intro q hq l hl
    obtain ⟨s, hs, rfl⟩ := hline q hq l hl
    exact hs.endsVisibly

end SchemaGen.Text
