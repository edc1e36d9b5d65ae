import Mathlib.Data.List.Infix
import SchemaGen.Text.Pieces

/-!
# Cutting and gluing

A list is cut at a separator from left to right: a piece ends where the separator first begins, and
what follows the separator is cut in turn. `IsCutAt` says this of a list and its pieces. It holds of
one list of pieces only, and that is the one that `pieces` gives (`pieces_eq_iff`), also for a
separator that may overlap itself, as two equal characters do.

So cutting undoes gluing just where no separator begins early, be it inside of a piece or at its end
together with a part of the separator behind it; empty pieces may be left out of what comes back
(`filter_pieces_glue_eq_iff`). Pieces without an element of the separator come back in any case
(`pieces_glue`). Gluing undoes cutting without a condition, but without the empty pieces it does so
only if there are none, or if the list is empty (`glue_filter_eq_iff`).
-/

namespace SchemaGen.Text

/-! ## Gluing -/

section Glue

variable {α : Type}

theorem glue_cons_cons (sep p q : List α) (ps : List (List α)) :
    glue sep (p :: q :: ps) = p ++ sep ++ glue sep (q :: ps) := rfl

/-- Gluing lists is putting a list between them. -/
theorem glue_eq_intercalate (sep : List α) (ps : List (List α)) :
    glue sep ps = sep.intercalate ps := by
  induction ps with
  | nil => rfl
  | cons p ps ih =>
    cases ps with
    | nil => exact (List.intercalate_singleton).symm
    | cons q ps => rw [glue_cons_cons, List.intercalate_cons_cons, ih, List.append_assoc]

/-- Of two lists of pieces each may be glued first. -/
theorem glue_append (sep : List α) {ps qs : List (List α)} (hps : ps ≠ []) (hqs : qs ≠ []) :
    glue sep (ps ++ qs) = glue sep ps ++ sep ++ glue sep qs := by
  induction ps with
  | nil => exact absurd rfl hps
  | cons p ps ih =>
    cases ps with
    | nil =>
      obtain ⟨q, qs, rfl⟩ := List.exists_cons_of_ne_nil hqs
      rfl
    | cons r ps =>
      rw [List.cons_append, List.cons_append, glue_cons_cons, glue_cons_cons, ← List.cons_append,
        ih (List.cons_ne_nil r ps)]
      simp only [List.append_assoc]

theorem glue_append_singleton (sep : List α) {ps : List (List α)} (hps : ps ≠ []) (p : List α) :
    glue sep (ps ++ [p]) = glue sep ps ++ sep ++ p :=
  glue_append sep hps (List.cons_ne_nil p [])

theorem mem_glue {sep : List α} {ps : List (List α)} {a : α} (h : a ∈ glue sep ps) :
    a ∈ sep ∨ ∃ p ∈ ps, a ∈ p := by
  induction ps with
  | nil => cases h
  | cons p ps ih =>
    cases ps with
    | nil => exact .inr ⟨p, List.mem_cons_self, h⟩
    | cons q ps =>
      rw [glue_cons_cons, List.mem_append, List.mem_append] at h
      rcases h with (h | h) | h
      · exact .inr ⟨p, List.mem_cons_self, h⟩
      · exact .inl h
      · rcases ih h with h | ⟨p', hp', h⟩
        · exact .inl h
        · exact .inr ⟨p', List.mem_cons_of_mem p hp', h⟩

theorem map_glue {β : Type} (f : α → β) (sep : List α) (ps : List (List α)) :
    (glue sep ps).map f = glue (sep.map f) (ps.map (List.map f)) := by
  induction ps with
  | nil => rfl
  | cons p ps ih =>
    cases ps with
    | nil => rfl
    | cons q ps =>
      rw [glue_cons_cons, List.map_append, List.map_append, ih]
      rfl

/-- What is glued starts as the first piece does, if that is not empty, -/
theorem head?_glue (sep p : List α) (ps : List (List α)) (hp : p ≠ []) :
    (glue sep (p :: ps)).head? = p.head? := by
  obtain ⟨a, q, rfl⟩ := List.exists_cons_of_ne_nil hp
  cases ps <;> rfl

/-- and ends as the last one does. -/
theorem getLast?_glue (sep : List α) (ps : List (List α)) (p : List α) (hp : p ≠ []) :
    (glue sep (ps ++ [p])).getLast? = p.getLast? := by
  obtain ⟨a, ha⟩ := Option.ne_none_iff_exists'.1 fun he => hp (List.getLast?_eq_none_iff.1 he)
  cases ps with
  | nil => rfl
  | cons q ps =>
    rw [glue_append_singleton _ (List.cons_ne_nil q ps), List.getLast?_append, ha]
    rfl

/-- Between pieces there is one separator less than there are pieces. -/
theorem length_glue (sep : List α) {ps : List (List α)} (hps : ps ≠ []) :
    (glue sep ps).length + sep.length = ps.flatten.length + ps.length * sep.length := by
  induction ps with
  | nil => exact absurd rfl hps
  | cons p ps ih =>
    cases ps with
    | nil => simp [glue]
    | cons q ps =>
      have ih := ih (List.cons_ne_nil q ps)
      rw [glue_cons_cons, List.flatten_cons, List.length_cons, Nat.succ_mul]
      simp only [List.length_append] at ih ⊢
      omega

/-- If nothing comes of some pieces, they are empty. -/
theorem eq_nil_of_glue_eq_nil {sep : List α} {ps : List (List α)} (h : glue sep ps = []) :
    ∀ p ∈ ps, p = [] := by
  intro p hp
  have hlength := length_glue sep (List.ne_nil_of_mem hp)
  have hcount : 1 * sep.length ≤ ps.length * sep.length :=
    Nat.mul_le_mul_right _ (List.length_pos_of_mem hp)
  rw [h, List.length_nil] at hlength
  exact List.flatten_eq_nil_iff.1 (List.length_eq_zero_iff.1 (by omega)) p hp

theorem glue_eq_nil_iff {sep : List α} {ps : List (List α)} (h : [] ∉ ps) :
    glue sep ps = [] ↔ ps = [] := by
  constructor
  · intro hglue
    refine List.eq_nil_iff_forall_not_mem.2 fun p hp => ?_
    exact h (eq_nil_of_glue_eq_nil hglue p hp ▸ hp)
  · rintro rfl
    rfl

theorem filter_not_isEmpty_eq_self {ps : List (List α)} (h : [] ∉ ps) :
    ps.filter (!·.isEmpty) = ps := by
  refine List.filter_eq_self.2 fun p hp => ?_
  rw [Bool.not_eq_true', List.isEmpty_eq_false_iff]
  exact fun he => h (he ▸ hp)

/-- **Gluing without the empty pieces makes no difference** only if there are none, or if nothing
comes of the pieces at all. -/
theorem glue_filter_eq_iff {sep : List α} (hsep : sep ≠ []) (ps : List (List α)) :
    glue sep (ps.filter (!·.isEmpty)) = glue sep ps ↔ glue sep ps = [] ∨ [] ∉ ps := by
  constructor
  · intro h
    by_contra hnot
    obtain ⟨hglue, hmem⟩ := not_or.1 hnot
    have hkept : ps.filter (!·.isEmpty) ≠ [] := fun he => hglue (by rw [← h, he]; rfl)
    have hps : ps ≠ [] := List.ne_nil_of_mem (not_not.1 hmem)
    -- the pieces that are kept have the same elements, so there must be as many separators
    have hlength := length_glue sep hkept
    rw [h, List.flatten_filter_not_isEmpty, length_glue sep hps] at hlength
    have hcount : (ps.filter (!·.isEmpty)).length = ps.length :=
      (Nat.eq_of_mul_eq_mul_right (List.length_pos_iff.2 hsep) (by omega)).symm
    exact absurd (List.length_filter_eq_length_iff.1 hcount [] (not_not.1 hmem)) (by simp)
  · rintro (h | h)
    · have hnone : ps.filter (!·.isEmpty) = [] :=
        List.filter_eq_nil_iff.2 fun p hp => by simp [eq_nil_of_glue_eq_nil h p hp]
      rw [hnone, h]
      rfl
    · rw [filter_not_isEmpty_eq_self h]

end Glue

/-! ## Cutting -/

section Cut

variable {α : Type}

/-- **A list that is cut at a separator from left to right.** In the last piece the separator does
not begin, and in any other one it begins where the piece ends and not before. -/
inductive IsCutAt (sep : List α) : List α → List (List α) → Prop
  | last {p : List α} : ¬ sep <:+: p → IsCutAt sep p [p]
  | cons {p s : List α} {ps : List (List α)} :
      ¬ sep <:+: p ++ sep.dropLast → IsCutAt sep s ps → IsCutAt sep (p ++ sep ++ s) (p :: ps)

/-- A separator that begins in a piece or at its end is in front of what follows the piece, but for
its last element. -/
theorem isPrefix_append_dropLast {sep p s : List α} (hp : p ≠ []) (h : sep <+: p ++ sep ++ s) :
    sep <+: p ++ sep.dropLast := by
  have hfront : p ++ sep.dropLast <+: p ++ sep ++ s :=
    ((List.prefix_append_right_inj p).2 (List.dropLast_prefix sep)).trans (List.prefix_append _ s)
  refine List.prefix_of_prefix_length_le h hfront ?_
  have hpos := List.length_pos_iff.2 hp
  rw [List.length_append, List.length_dropLast]
  omega

/-- An element in front of which no separator begins belongs to the first piece. -/
theorem IsCutAt.consHead {sep s : List α} {ps : List (List α)} (h : IsCutAt sep s ps) {a : α}
    (ha : ¬ sep <+: a :: s) : IsCutAt sep (a :: s) (consHead a ps) := by
  cases h with
  | last hp => exact .last fun hi => (List.infix_cons_iff.1 hi).elim ha hp
  | @cons p s ps hp h =>
    refine .cons (p := a :: p) (fun hi => ?_) h
    rcases List.infix_cons_iff.1 hi with hfront | hi
    · refine ha (hfront.trans ?_)
      exact ((List.prefix_append_right_inj (a :: p)).2 (List.dropLast_prefix sep)).trans
        (List.prefix_append (a :: p ++ sep) s)
    · exact hp hi

/-- Pieces in which no separator begins early are what they are glued to is cut into. -/
theorem isCutAt_glue {sep : List α} {ps : List (List α)} (hps : ps ≠ [])
    (h : ∀ p ∈ ps, ¬ sep <:+: p ++ sep.dropLast) : IsCutAt sep (glue sep ps) ps := by
  induction ps with
  | nil => exact absurd rfl hps
  | cons p ps ih =>
    obtain ⟨hp, hrest⟩ := List.forall_mem_cons.1 h
    cases ps with
    | nil => exact .last fun hi => hp (hi.trans (List.prefix_append p _).isInfix)
    | cons q ps => exact .cons hp (ih (List.cons_ne_nil q ps) hrest)

/-- No separator begins early in a stretch without elements of it. -/
theorem not_isInfix_append_dropLast {sep p : List α} (hsep : sep ≠ []) (h : ∀ a ∈ p, a ∉ sep) :
    ¬ sep <:+: p ++ sep.dropLast := by
  obtain ⟨b, rest, hb⟩ := List.exists_cons_of_ne_nil hsep
  induction p with
  | nil =>
    intro hi
    have hle : sep.length ≤ sep.dropLast.length := hi.length_le
    rw [List.length_dropLast, hb, List.length_cons] at hle
    omega
  | cons a p ih =>
    obtain ⟨ha, hp⟩ := List.forall_mem_cons.1 h
    intro hi
    rcases List.infix_cons_iff.1 hi with hfront | hi
    · obtain ⟨hba, -⟩ := List.cons_prefix_cons.1 (hb ▸ hfront)
      exact ha (by rw [hb, hba]; exact List.mem_cons_self)
    · exact ih hp hi

end Cut

section Pieces

variable {α : Type} [BEq α]

theorem pieces_ne_nil (sep s : List α) : pieces sep s ≠ [] :=
  piecesFrom_ne_nil sep 0 s

theorem exists_pieces_eq_cons (sep s : List α) : ∃ p ps, pieces sep s = p :: ps :=
  List.exists_cons_of_ne_nil (pieces_ne_nil sep s)

/-- An element that does not start a separator belongs to the piece behind it. -/
theorem pieces_cons_of_not_isPrefixOf {sep : List α} {a : α} {s : List α}
    (h : ¬ sep.isPrefixOf (a :: s) = true) : pieces sep (a :: s) = consHead a (pieces sep s) := by
  rw [pieces, piecesFrom, if_neg h]
  rfl

variable [LawfulBEq α]

/-- A list in which the separator does not occur is one piece. -/
theorem pieces_eq_singleton {sep s : List α} (h : ¬ sep <:+: s) :
    pieces sep s = [s] := by
  induction s with
  | nil => rfl
  | cons a s ih =>
    have hfront : ¬ sep.isPrefixOf (a :: s) = true := fun hp =>
      h (List.isPrefixOf_iff_prefix.1 hp).isInfix
    have hrest : pieces sep s = [s] := ih fun hs => h (hs.trans (List.suffix_cons a s).isInfix)
    rw [pieces_cons_of_not_isPrefixOf hfront, hrest]
    rfl

/-- A separator at the front ends an empty piece. -/
theorem pieces_separator_append {sep : List α} (hsep : sep ≠ []) (s : List α) :
    pieces sep (sep ++ s) = [] :: pieces sep s := by
  cases sep with
  | nil => exact absurd rfl hsep
  | cons a sep =>
    have hp : (a :: sep).isPrefixOf (a :: (sep ++ s)) = true :=
      List.isPrefixOf_iff_prefix.2 (List.prefix_append (a :: sep) s)
    show piecesFrom (a :: sep) 0 (a :: (sep ++ s)) = _
    rw [piecesFrom, if_pos hp, List.length_cons, Nat.add_sub_cancel,
      piecesFrom_eq_drop _ _ _ (by simp), List.drop_left]
    rfl

/-- A separator that does not begin before ends the piece in front of it. -/
theorem pieces_append_separator {sep p : List α} (hsep : sep ≠ [])
    (h : ¬ sep <:+: p ++ sep.dropLast) (s : List α) :
    pieces sep (p ++ sep ++ s) = p :: pieces sep s := by
  induction p with
  | nil => exact pieces_separator_append hsep s
  | cons a p ih =>
    have hfront : ¬ sep.isPrefixOf (a :: (p ++ sep ++ s)) = true := fun hp =>
      h (isPrefix_append_dropLast (List.cons_ne_nil a p) (List.isPrefixOf_iff_prefix.1 hp)).isInfix
    have hrest : ¬ sep <:+: p ++ sep.dropLast := fun hi =>
      h (hi.trans (List.suffix_cons a _).isInfix)
    rw [List.cons_append, List.cons_append, pieces_cons_of_not_isPrefixOf hfront, ih hrest]
    rfl

/-- **A list is cut into its pieces**, -/
theorem isCutAt_pieces {sep : List α} (hsep : sep ≠ []) (s : List α) :
    IsCutAt sep s (pieces sep s) := by
  -- by length, since a separator at the front is taken off as a whole
  induction hn : s.length using Nat.strongRecOn generalizing s with
  | _ n ih =>
    subst hn
    cases s with
    | nil => exact .last fun hi => hsep (List.infix_nil.1 hi)
    | cons a s =>
      by_cases hfront : sep <+: a :: s
      · obtain ⟨rest, hrest⟩ := hfront
        have hlt : rest.length < (a :: s).length := by
          have hpos := List.length_pos_iff.2 hsep
          rw [← hrest, List.length_append]
          omega
        rw [← hrest, pieces_separator_append hsep]
        refine .cons (p := []) ?_ (ih rest.length hlt rest rfl)
        exact not_isInfix_append_dropLast hsep (List.forall_mem_nil _)
      · rw [pieces_cons_of_not_isPrefixOf (mt List.isPrefixOf_iff_prefix.1 hfront)]
        exact (ih s.length (Nat.lt_succ_self _) s rfl).consHead hfront

/-- **and in no other way.** -/
theorem pieces_eq_iff {sep : List α} (hsep : sep ≠ []) {s : List α} {ps : List (List α)} :
    pieces sep s = ps ↔ IsCutAt sep s ps := by
  constructor
  · rintro rfl
    exact isCutAt_pieces hsep s
  · intro h
    induction h with
    | last hp => exact pieces_eq_singleton hp
    | cons hp _ ih => rw [pieces_append_separator hsep hp, ih]

/-- A single element that separates pieces is in none of them. -/
theorem not_mem_of_mem_pieces {a : α} {s p : List α} (hp : p ∈ pieces [a] s) : a ∉ p := by
  have hcut := isCutAt_pieces (List.cons_ne_nil a []) s
  generalize pieces [a] s = ps at hp hcut
  induction hcut with
  | last hnot =>
    rw [List.mem_singleton.1 hp]
    exact fun hm => hnot ((List.singleton_infix_iff _ _).2 hm)
  | cons hnot _ ih =>
    rcases List.mem_cons.1 hp with rfl | hp
    · exact fun hm => hnot ((List.singleton_infix_iff _ _).2 (List.mem_append_left _ hm))
    · exact ih hp

/-- **Cutting undoes gluing**: pieces without elements of the separator come back. -/
theorem pieces_glue {sep : List α} (hsep : sep ≠ []) {ps : List (List α)} (hps : ps ≠ [])
    (h : ∀ p ∈ ps, ∀ a ∈ p, a ∉ sep) : pieces sep (glue sep ps) = ps :=
  (pieces_eq_iff hsep).2
    (isCutAt_glue hps fun p hp => not_isInfix_append_dropLast hsep (h p hp))

/-- **Pieces that are not empty come back**, but for empty ones beside them, only if no separator
begins early. -/
theorem filter_pieces_glue_eq_iff {sep : List α} (hsep : sep ≠ []) {ps : List (List α)}
    (h : [] ∉ ps) :
    (pieces sep (glue sep ps)).filter (!·.isEmpty) = ps ↔
      ps = [] ∨ IsCutAt sep (glue sep ps) ps := by
  constructor
  · intro hfound
    have hglue : glue sep ((pieces sep (glue sep ps)).filter (!·.isEmpty))
        = glue sep (pieces sep (glue sep ps)) := by rw [hfound, glue_pieces hsep]
    rcases (glue_filter_eq_iff hsep _).1 hglue with hnil | hfull
    · rw [glue_pieces hsep] at hnil
      exact .inl ((glue_eq_nil_iff h).1 hnil)
    · rw [filter_not_isEmpty_eq_self hfull] at hfound
      exact .inr ((pieces_eq_iff hsep).1 hfound)
  · rintro (rfl | hcut)
    · rfl
    · rw [(pieces_eq_iff hsep).2 hcut, filter_not_isEmpty_eq_self h]

/-- **Cutting starts afresh** behind a list whose own pieces have no element of the separator. -/
theorem pieces_append_separator_append {sep p : List α} (hsep : sep ≠ [])
    (h : ∀ q ∈ pieces sep p, ∀ a ∈ q, a ∉ sep) (s : List α) :
    pieces sep (p ++ sep ++ s) = pieces sep p ++ pieces sep s := by
  have hcut := isCutAt_pieces hsep p
  generalize pieces sep p = ps at h hcut ⊢
  induction hcut with
  | last _ =>
    have hlast := h _ List.mem_cons_self
    exact pieces_append_separator hsep (not_isInfix_append_dropLast hsep hlast) s
  | cons hp _ ih =>
    rw [List.append_assoc, List.append_assoc, pieces_append_separator hsep hp, ← List.append_assoc,
      ih fun q hq => h q (List.mem_cons_of_mem _ hq)]
    rfl

end Pieces

/-- The parts of a text between separators are its pieces. -/
theorem map_toList_split (sep s : String) :
    (split sep s).map String.toList = pieces sep.toList s.toList := by
  rw [split, List.map_map]
  exact (List.map_congr_left fun p _ => String.toList_ofList).trans (List.map_id _)

end SchemaGen.Text
