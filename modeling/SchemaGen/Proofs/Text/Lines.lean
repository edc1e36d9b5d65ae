import SchemaGen.Proofs.Text.Cutting
import SchemaGen.Proofs.Text.Trim
import SchemaGen.Text.Tidy

/-!
# Lines

A text that is written line by line is `unlines` of its lines: every line, ended by a line feed;
`lines` takes it apart again (`lines_unlines`). This is the case of a single character of the
general law that cutting undoes gluing where no piece meets the separator (`pieces_glue`). The case
of an empty line gives the paragraphs of a text (`paragraphs_glue`).
-/

namespace SchemaGen.Text

/-- The text of some lines, each ended by a line feed. -/
def unlines (ls : List (List Char)) : List Char := ls.flatMap (· ++ ['\n'])

theorem unlines_cons (l : List Char) (ls : List (List Char)) :
    unlines (l :: ls) = l ++ '\n' :: unlines ls := by
  simp [unlines]

theorem unlines_append (ls ms : List (List Char)) :
    unlines (ls ++ ms) = unlines ls ++ unlines ms := by
  simp [unlines]

/-- The line feed after the last line stands before an empty piece. -/
theorem unlines_eq_glue (ls : List (List Char)) : unlines ls = glue ['\n'] (ls ++ [[]]) := by
  induction ls with
  | nil => rfl
  | cons l ls ih =>
    rw [unlines_cons, ih]
    cases ls <;> simp [glue]

/-- The lines are the pieces between the line feeds, but for the empty one after the last. -/
theorem pieces_unlines {ls : List (List Char)} (h : ∀ l ∈ ls, '\n' ∉ l) :
    pieces ['\n'] (unlines ls) = ls ++ [[]] := by
  rw [unlines_eq_glue]
  refine pieces_glue (by simp) (by simp) (fun p hp a ha hm => ?_)
  rw [List.mem_singleton] at hm
  rw [List.mem_append, List.mem_singleton] at hp
  rcases hp with hp | rfl
  · exact h p hp (hm ▸ ha)
  · cases ha

/-- The lines of a text whose last line is ended too. -/
def lines (s : String) : List (List Char) := (pieces ['\n'] s.toList).dropLast

/-- **The lines of a text come back.** -/
theorem lines_unlines {ls : List (List Char)} (h : ∀ l ∈ ls, '\n' ∉ l) :
    lines (String.ofList (unlines ls)) = ls := by
  rw [lines, String.toList_ofList, pieces_unlines h, List.dropLast_concat]

/-- The paragraphs of some lines: what stands between empty lines. -/
def paragraphs (ls : List (List Char)) : List (List (List Char)) := pieces [[]] ls

/-- **Paragraphs come back** from between the empty lines. -/
theorem paragraphs_glue {ps : List (List (List Char))} (hps : ps ≠ []) (h : ∀ p ∈ ps, [] ∉ p) :
    paragraphs (glue [[]] ps) = ps :=
  pieces_glue (by simp) hps fun p hp l hl hm => h p hp (List.mem_singleton.1 hm ▸ hl)

end SchemaGen.Text
