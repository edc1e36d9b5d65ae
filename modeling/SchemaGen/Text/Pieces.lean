/-!
# Pieces between separators

`pieces sep` cuts a list wherever `sep` occurs, from left to right and without overlap; `glue sep`
puts pieces together again with `sep` between them. Gluing undoes cutting (`glue_pieces`), and a
list in which the separator does not begin anywhere is one piece.
-/

namespace SchemaGen.Text

variable {α : Type} [BEq α]

/-- Puts an element in front of the first piece. -/
def consHead (a : α) : List (List α) → List (List α)
  | [] => [[a]]
  | p :: ps => (a :: p) :: ps

/-- The pieces of a list, where `skip` elements at its start still belong to the separator found
last. -/
def piecesFrom (sep : List α) : Nat → List α → List (List α)
  | _, [] => [[]]
  | skip + 1, _ :: rest => piecesFrom sep skip rest
  | 0, a :: rest =>
    if sep.isPrefixOf (a :: rest) then [] :: piecesFrom sep (sep.length - 1) rest
    else consHead a (piecesFrom sep 0 rest)

/-- The pieces of a list between the occurrences of a separator that is not empty. -/
def pieces (sep s : List α) : List (List α) := piecesFrom sep 0 s

/-- The pieces one after the other with the separator between them. -/
def glue (sep : List α) : List (List α) → List α
  | [] => []
  | [p] => p
  | p :: ps => p ++ sep ++ glue sep ps

omit [BEq α] in
theorem consHead_ne_nil (a : α) (ps : List (List α)) : consHead a ps ≠ [] := by
  cases ps <;> simp [consHead]

theorem piecesFrom_ne_nil (sep : List α) (skip : Nat) (s : List α) :
    piecesFrom sep skip s ≠ [] := by
  induction s generalizing skip with
  | nil => simp [piecesFrom]
  | cons a rest ih =>
    cases skip with
    | succ k => simpa [piecesFrom] using ih k
    | zero =>
      simp only [piecesFrom]
      split
      · simp
      · exact consHead_ne_nil _ _

omit [BEq α] in
theorem glue_consHead (sep : List α) (a : α) {ps : List (List α)} (h : ps ≠ []) :
    glue sep (consHead a ps) = a :: glue sep ps := by
  cases ps with
  | nil => exact absurd rfl h
  | cons p ps => cases ps <;> simp [consHead, glue]

omit [BEq α] in
theorem glue_nil_cons (sep : List α) {ps : List (List α)} (h : ps ≠ []) :
    glue sep ([] :: ps) = sep ++ glue sep ps := by
  cases ps with
  | nil => exact absurd rfl h
  | cons p ps => simp [glue]

theorem piecesFrom_eq_drop (sep : List α) (skip : Nat) (s : List α) (h : skip ≤ s.length) :
    piecesFrom sep skip s = piecesFrom sep 0 (s.drop skip) := by
  induction s generalizing skip with
  | nil => simp_all
  | cons a rest ih =>
    cases skip with
    | zero => simp
    | succ k => simpa [piecesFrom] using ih k (by simpa using h)

/-- Gluing the pieces gives the list back. -/
theorem glue_pieces [LawfulBEq α] {sep : List α} (hsep : sep ≠ []) (s : List α) :
    glue sep (pieces sep s) = s := by
  unfold pieces
  induction h : s.length using Nat.strongRecOn generalizing s with
  | _ n ih =>
    cases s with
    | nil => simp [piecesFrom, glue]
    | cons a rest =>
      simp only [piecesFrom]
      split
      · next hp =>
        obtain ⟨t, ht⟩ := List.isPrefixOf_iff_prefix.1 hp
        have hlen : sep.length - 1 ≤ rest.length := by
          have := congrArg List.length ht
          simp at this
          omega
        rw [glue_nil_cons _ (piecesFrom_ne_nil _ _ _), piecesFrom_eq_drop _ _ _ hlen,
          ih (rest.drop (sep.length - 1)).length (by simp at h; simp; omega) _ rfl]
        cases sep with
        | nil => exact absurd rfl hsep
        | cons b sep =>
          simp at ht
          obtain ⟨rfl, rfl⟩ := ht
          simp
      · rw [glue_consHead _ _ (piecesFrom_ne_nil _ _ _),
          ih rest.length (by simp at h; omega) rest rfl]

/-- A text cut at every occurrence of a separator that is not empty. -/
def split (sep s : String) : List String :=
  (pieces sep.toList s.toList).map String.ofList

/-- Texts put together with a separator between them. -/
def join (sep : String) (parts : List String) : String :=
  String.ofList (glue sep.toList (parts.map String.toList))

end SchemaGen.Text
