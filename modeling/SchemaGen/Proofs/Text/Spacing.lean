import SchemaGen.Proofs.Text.Lines

/-!
# The spacing of a text

What tidying keeps of a text is its *spacing*: the lines that are not blank, each with the number of
blank lines just before it (`spacing`). A text in tidy form is written from a spacing (`tidy_eq`),
that of the text it was made from with no blank lines before the first line, at most two before any
other, and no blanks at the end of a line (`tidySpacing`). As that spacing comes back when the tidy
text is cut into lines (`spacing_tidy`), no line is lost, and a tidy text is its own tidy form.

`IsTidyForm` says what this comes to for the text itself, and `isTidyForm_tidy` that it holds of
every text.

Lines that are spaced as tidying would space them stay as they are (`AreTidy.tidy_unlines`). Those
of paragraphs are, if no line of a paragraph is empty or ends in a blank (`areTidy_glue`).
-/

namespace SchemaGen.Text

/-! ## Blank lines -/

/-- Whether a line has no character but blanks. -/
def isBlankLine (l : List Char) : Bool := l.all isBlank

theorem isBlankLine_iff {l : List Char} : isBlankLine l = true ↔ trimEndChars l = [] := by
  rw [isBlankLine, List.all_eq_true, trimEndChars, List.reverse_eq_nil_iff,
    List.dropWhile_eq_nil_iff]
  simp only [List.mem_reverse]

theorem trimEndChars_trimEndChars (l : List Char) :
    trimEndChars (trimEndChars l) = trimEndChars l :=
  trimEndChars_eq_self (getLast?_trimEndChars l)

/-- A line without blanks at its end is blank if it was blank before. -/
theorem isBlankLine_trimEndChars (l : List Char) :
    isBlankLine (trimEndChars l) = isBlankLine l := by
  rw [Bool.eq_iff_iff, isBlankLine_iff, isBlankLine_iff, trimEndChars_trimEndChars]

/-! ## Spacing -/

/-- **The lines that are not blank, each with the number of blank lines just before it**, where
`run` of them were passed already. -/
def spacing (run : Nat) : List (List Char) → List (Nat × List Char)
  | [] => []
  | l :: ls => if isBlankLine l then spacing (run + 1) ls else (run, l) :: spacing 0 ls

/-- Some lines, each behind its number of empty lines. -/
def spaced (ps : List (Nat × List Char)) : List (List Char) :=
  ps.flatMap fun (n, l) => List.replicate n [] ++ [l]

/-- A line without blanks at its end, behind two blank lines at most. -/
def tidyGap (p : Nat × List Char) : Nat × List Char := (min p.1 2, trimEndChars p.2)

/-- **The spacing of a tidy text**: no blank line comes first. -/
def tidySpacing : List (Nat × List Char) → List (Nat × List Char)
  | [] => []
  | (_, l) :: ps => (0, trimEndChars l) :: ps.map tidyGap

theorem spaced_cons (p : Nat × List Char) (ps : List (Nat × List Char)) :
    spaced (p :: ps) = List.replicate p.1 [] ++ p.2 :: spaced ps := by
  rw [spaced, List.flatMap_cons, List.append_assoc]
  rfl

theorem spacing_cons_of_blank {l : List Char} (h : isBlankLine l = true) (run : Nat)
    (ls : List (List Char)) : spacing run (l :: ls) = spacing (run + 1) ls := if_pos h

theorem spacing_cons {l : List Char} (h : isBlankLine l = false) (run : Nat)
    (ls : List (List Char)) : spacing run (l :: ls) = (run, l) :: spacing 0 ls :=
  if_neg (Bool.eq_false_iff.1 h)

theorem spacing_replicate_append (run n : Nat) (ls : List (List Char)) :
    spacing run (List.replicate n [] ++ ls) = spacing (run + n) ls := by
  induction n generalizing run with
  | zero => rfl
  | succ n ih =>
    rw [List.replicate_succ, List.cons_append, spacing_cons_of_blank rfl, ih]
    congr 1
    omega

/-- The lines of a spacing are those that are not blank. -/
theorem map_snd_spacing (run : Nat) (ls : List (List Char)) :
    (spacing run ls).map Prod.snd = ls.filter (!isBlankLine ·) := by
  induction ls generalizing run with
  | nil => rfl
  | cons l ls ih =>
    cases hl : isBlankLine l with
    | true => rw [spacing_cons_of_blank hl, ih, List.filter_cons_of_neg (by simp [hl])]
    | false =>
      rw [spacing_cons hl, List.map_cons, ih, List.filter_cons_of_pos (by simp [hl])]

theorem mem_of_mem_spacing {run : Nat} {ls : List (List Char)} {p : Nat × List Char}
    (hp : p ∈ spacing run ls) : p.2 ∈ ls ∧ isBlankLine p.2 = false := by
  have hmem : p.2 ∈ (spacing run ls).map Prod.snd := List.mem_map_of_mem hp
  rw [map_snd_spacing, List.mem_filter] at hmem
  exact ⟨hmem.1, by simpa using hmem.2⟩

theorem mem_spaced {ps : List (Nat × List Char)} {l : List Char} (hl : l ∈ spaced ps) :
    l = [] ∨ ∃ p ∈ ps, p.2 = l := by
  obtain ⟨p, hp, hl⟩ := List.mem_flatMap.1 hl
  rcases List.mem_append.1 hl with hl | hl
  · exact .inl (List.eq_of_mem_replicate hl)
  · exact .inr ⟨p, hp, (List.mem_singleton.1 hl).symm⟩

/-- A blank line at the end does not count. -/
theorem spacing_append_nil (run : Nat) (ls : List (List Char)) :
    spacing run (ls ++ [[]]) = spacing run ls := by
  induction ls generalizing run with
  | nil => rfl
  | cons l ls ih =>
    rw [List.cons_append, spacing, spacing, ih, ih]

/-- **A spacing comes back** from the lines that are written with it. -/
theorem spacing_spaced {ps : List (Nat × List Char)} (h : ∀ p ∈ ps, isBlankLine p.2 = false) :
    spacing 0 (spaced ps) = ps := by
  induction ps with
  | nil => rfl
  | cons p ps ih =>
    obtain ⟨hp, hps⟩ := List.forall_mem_cons.1 h
    rw [spaced_cons, spacing_replicate_append, spacing_cons hp, Nat.zero_add, ih hps]

/-- Every line of a tidy spacing is one of the spacing without the blanks at its end. -/
theorem exists_of_mem_tidySpacing {ps : List (Nat × List Char)} {q : Nat × List Char}
    (hq : q ∈ tidySpacing ps) : ∃ p ∈ ps, q.2 = trimEndChars p.2 := by
  cases ps with
  | nil => cases hq
  | cons p ps =>
    rcases List.mem_cons.1 hq with rfl | hq
    · exact ⟨p, List.mem_cons_self, rfl⟩
    · obtain ⟨p', hp', rfl⟩ := List.mem_map.1 hq
      exact ⟨p', List.mem_cons_of_mem p hp', rfl⟩

theorem map_snd_tidySpacing (ps : List (Nat × List Char)) :
    (tidySpacing ps).map Prod.snd = (ps.map Prod.snd).map trimEndChars := by
  cases ps with
  | nil => rfl
  | cons p ps => rw [tidySpacing, List.map_cons, List.map_map, List.map_cons, List.map_cons,
      List.map_map]; rfl

theorem map_fst_tail_tidySpacing (ps : List (Nat × List Char)) :
    (tidySpacing ps).tail.map Prod.fst = (ps.tail.map Prod.fst).map (min · 2) := by
  cases ps with
  | nil => rfl
  | cons p ps => rw [tidySpacing, List.tail_cons, List.tail_cons, List.map_map, List.map_map]; rfl

/-- **A tidy spacing is tidy already.** -/
theorem tidySpacing_tidySpacing (ps : List (Nat × List Char)) :
    tidySpacing (tidySpacing ps) = tidySpacing ps := by
  have hgap : ∀ p, tidyGap (tidyGap p) = tidyGap p := fun p =>
    Prod.ext (by simp [tidyGap]) (trimEndChars_trimEndChars p.2)
  cases ps with
  | nil => rfl
  | cons p ps =>
    rw [tidySpacing, tidySpacing, trimEndChars_trimEndChars, List.map_map]
    exact congrArg ((0, trimEndChars p.2) :: ·) (List.map_congr_left fun p _ => hgap p)

/-! ## Tidying by spacing -/

theorem limitBlankLines_cons (run : Nat) {l : List Char} (hl : l ≠ []) (ls : List (List Char)) :
    limitBlankLines run (l :: ls) = l :: limitBlankLines 0 ls := by
  cases l with
  | nil => exact absurd rfl hl
  | cons c l => rfl

/-- **Runs of blank lines are shortened one by one.** Of the blank lines passed already two at most
were kept, and those after the last line stay behind it. -/
theorem exists_limitBlankLines_eq (run : Nat) (ls : List (List Char)) :
    ∃ k, List.replicate (min run 2) [] ++ limitBlankLines run (ls.map trimEndChars)
      = spaced ((spacing run ls).map tidyGap) ++ List.replicate k [] := by
  induction ls generalizing run with
  | nil => exact ⟨min run 2, List.append_nil _⟩
  | cons l ls ih =>
    cases hl : isBlankLine l with
    | true =>
      obtain ⟨k, hk⟩ := ih (run + 1)
      refine ⟨k, ?_⟩
      rw [spacing_cons_of_blank hl, ← hk, List.map_cons, isBlankLine_iff.1 hl, limitBlankLines]
      split
      · rw [show min (run + 1) 2 = min run 2 + 1 by omega, List.replicate_succ', List.append_assoc,
          List.singleton_append]
      · rw [show min (run + 1) 2 = min run 2 by omega]
    | false =>
      obtain ⟨k, hk⟩ := ih 0
      have hne : trimEndChars l ≠ [] := fun he => Bool.eq_false_iff.1 hl (isBlankLine_iff.2 he)
      refine ⟨k, ?_⟩
      rw [Nat.zero_min, List.replicate_zero, List.nil_append] at hk
      rw [spacing_cons hl, List.map_cons, List.map_cons, limitBlankLines_cons run hne, hk,
        spaced_cons, List.append_assoc]
      rfl

/-- Empty lines are written as line feeds in front of the others, -/
theorem glue_replicate_append (m : Nat) {ls : List (List Char)} (h : ls ≠ []) :
    glue ['\n'] (List.replicate m [] ++ ls) = List.replicate m '\n' ++ glue ['\n'] ls := by
  induction m with
  | zero => rfl
  | succ m ih =>
    rw [List.replicate_succ, List.cons_append, glue_nil_cons _ (by simp [h]), ih]
    rfl

/-- and behind them. -/
theorem glue_append_replicate (n : Nat) {ls : List (List Char)} (h : ls ≠ []) :
    glue ['\n'] (ls ++ List.replicate n []) = glue ['\n'] ls ++ List.replicate n '\n' := by
  induction n with
  | zero => rw [List.replicate_zero, List.replicate_zero, List.append_nil, List.append_nil]
  | succ n ih =>
    rw [List.replicate_succ', ← List.append_assoc, glue_append_singleton _ (by simp [h]), ih,
      List.append_nil, List.append_assoc, ← List.replicate_succ']

/-- The last line of a spacing is the last one that is written. -/
theorem exists_spaced_eq_append {ps : List (Nat × List Char)} (h : ps ≠ []) :
    ∃ ls, ∃ p ∈ ps, spaced ps = ls ++ [p.2] := by
  rcases List.eq_nil_or_concat ps with rfl | ⟨qs, p, rfl⟩
  · exact absurd rfl h
  · refine ⟨spaced qs ++ List.replicate p.1 [], p, by simp, ?_⟩
    rw [List.concat_eq_append, spaced, List.flatMap_append, List.flatMap_singleton,
      List.append_assoc]
    rfl

/-- Line feeds are taken off either end up to the first other character. -/
theorem trimLineFeeds_append_replicate (m n : Nat) (cs : List Char)
    (hhead : ∀ c ∈ cs.head?, c ≠ '\n') (hlast : ∀ c ∈ cs.getLast?, c ≠ '\n') :
    trimLineFeeds (List.replicate m '\n' ++ (cs ++ List.replicate n '\n')) = cs := by
  have hpad : ∀ (k : Nat) (ds : List Char),
      (List.replicate k '\n' ++ ds).dropWhile (· = '\n') = ds.dropWhile (· = '\n') := fun k ds =>
    List.dropWhile_append_of_pos fun c hc => decide_eq_true (List.eq_of_mem_replicate hc)
  rcases List.eq_nil_or_concat cs with rfl | ⟨es, e, rfl⟩
  · rw [trimLineFeeds, hpad, List.nil_append, ← List.append_nil (List.replicate n '\n'), hpad]
    rfl
  · rw [List.concat_eq_append] at hhead hlast ⊢
    obtain ⟨c, ds, hcs⟩ := List.exists_cons_of_ne_nil (l := es ++ [e]) (by simp)
    have hc : c ≠ '\n' := hhead c (by rw [hcs]; rfl)
    have he : e ≠ '\n' := hlast e (by simp)
    rw [trimLineFeeds, hpad, hcs, List.cons_append, List.dropWhile_cons_of_neg (by simpa using hc),
      ← List.cons_append, ← hcs, List.reverse_append, List.reverse_replicate, hpad,
      List.reverse_append, List.reverse_singleton, List.singleton_append,
      List.dropWhile_cons_of_neg (by simpa using he), List.reverse_cons, List.reverse_reverse]

/-- **Empty lines at either end are taken off**, and what stands between them stays. -/
theorem trimLineFeeds_glue_spaced {n : Nat} {l : List Char} {ps : List (Nat × List Char)}
    (h : ∀ p ∈ (n, l) :: ps, '\n' ∉ p.2 ∧ p.2 ≠ []) (k : Nat) :
    trimLineFeeds (glue ['\n'] (spaced ((n, l) :: ps) ++ List.replicate k []))
      = glue ['\n'] (spaced ((0, l) :: ps)) := by
  have hfirst : spaced ((n, l) :: ps) = List.replicate n [] ++ spaced ((0, l) :: ps) :=
    spaced_cons (n, l) ps
  have hne : spaced ((0, l) :: ps) ≠ [] := List.cons_ne_nil l (spaced ps)
  obtain ⟨hl, hps⟩ := List.forall_mem_cons.1 h
  have h' : ∀ p ∈ (0, l) :: ps, '\n' ∉ p.2 ∧ p.2 ≠ [] := List.forall_mem_cons.2 ⟨hl, hps⟩
  rw [hfirst, List.append_assoc, glue_replicate_append n (by simp [hne]),
    glue_append_replicate k hne]
  refine trimLineFeeds_append_replicate n k _ ?_ ?_
  · rintro c hc rfl
    rw [show spaced ((0, l) :: ps) = l :: spaced ps from rfl, head?_glue _ _ _ hl.2] at hc
    exact hl.1 (List.mem_of_mem_head? hc)
  · rintro c hc rfl
    obtain ⟨ls, p, hp, hls⟩ := exists_spaced_eq_append (List.cons_ne_nil (0, l) ps)
    obtain ⟨hlf, hp⟩ := h' p hp
    rw [hls, getLast?_glue _ _ _ hp] at hc
    exact hlf (List.mem_of_getLast? hc)

/-- Of empty lines nothing is left. -/
theorem trimLineFeeds_glue_replicate (k : Nat) :
    trimLineFeeds (glue ['\n'] (List.replicate k [])) = [] := by
  cases k with
  | zero => rfl
  | succ k =>
    have hglue : glue ['\n'] ([[]] ++ List.replicate k []) = [] ++ List.replicate k '\n' :=
      glue_append_replicate k (List.cons_ne_nil [] [])
    rw [List.replicate_succ, ← List.singleton_append (x := []), hglue]
    exact trimLineFeeds_append_replicate 0 k [] (by simp) (by simp)

/-- The lines between the line feeds of a text, that after the last one included. -/
def cutLines (s : String) : List (List Char) := pieces ['\n'] s.toList

/-- **A tidy text is written from its tidy spacing**, and ends in a line feed. -/
theorem tidy_eq (s : String) :
    tidy s = String.ofList
      (glue ['\n'] (spaced (tidySpacing (spacing 0 (cutLines s)))) ++ ['\n']) := by
  obtain ⟨k, hk⟩ := exists_limitBlankLines_eq 0 (cutLines s)
  have hlines : ∀ p ∈ (spacing 0 (cutLines s)).map tidyGap, '\n' ∉ p.2 ∧ p.2 ≠ [] := by
    intro q hq
    obtain ⟨p, hp, rfl⟩ := List.mem_map.1 hq
    obtain ⟨hmem, hblank⟩ := mem_of_mem_spacing hp
    refine ⟨fun hm => ?_, fun he => Bool.eq_false_iff.1 hblank (isBlankLine_iff.2 he)⟩
    exact not_mem_of_mem_pieces hmem ((trimEndChars_isPrefix p.2).subset hm)
  have htidy : tidyLines s.toList
      = spaced ((spacing 0 (cutLines s)).map tidyGap) ++ List.replicate k [] := hk
  have htrim : trimLineFeeds (glue ['\n']
      (spaced ((spacing 0 (cutLines s)).map tidyGap) ++ List.replicate k []))
      = glue ['\n'] (spaced (tidySpacing (spacing 0 (cutLines s)))) := by
    cases hps : spacing 0 (cutLines s) with
    | nil => exact trimLineFeeds_glue_replicate k
    | cons p ps =>
      rw [hps] at hlines
      exact trimLineFeeds_glue_spaced hlines k
  rw [tidy, htidy, htrim]

/-- The lines of a tidy spacing are not blank, stand on one line and do not end in a blank. -/
theorem of_mem_tidySpacing {s : String} {q : Nat × List Char}
    (hq : q ∈ tidySpacing (spacing 0 (cutLines s))) :
    isBlankLine q.2 = false ∧ '\n' ∉ q.2 ∧ ∀ c ∈ q.2.getLast?, isBlank c = false := by
  obtain ⟨p, hp, he⟩ := exists_of_mem_tidySpacing hq
  obtain ⟨hmem, hblank⟩ := mem_of_mem_spacing hp
  rw [he, isBlankLine_trimEndChars]
  exact ⟨hblank, fun hm => not_mem_of_mem_pieces hmem ((trimEndChars_isPrefix p.2).subset hm),
    getLast?_trimEndChars p.2⟩

/-- **The lines of a tidy text** are those of its spacing, each behind its empty lines, with an
empty line at the end; of a text of blanks an empty line stays. -/
theorem cutLines_tidy (s : String) :
    cutLines (tidy s) = (if spacing 0 (cutLines s) = [] then [[]]
      else spaced (tidySpacing (spacing 0 (cutLines s)))) ++ [[]] := by
  rw [cutLines, tidy_eq, String.toList_ofList]
  split
  · next h => rw [h]; rfl
  · next h =>
    obtain ⟨p, ps, hps⟩ := List.exists_cons_of_ne_nil h
    have hne : spaced (tidySpacing (spacing 0 (cutLines s))) ≠ [] := by
      rw [hps]
      exact List.cons_ne_nil _ _
    have hlast := glue_append_singleton ['\n'] hne []
    rw [List.append_nil, ← unlines_eq_glue] at hlast
    rw [← hlast, pieces_unlines]
    intro l hl
    rcases mem_spaced hl with rfl | ⟨q, hq, rfl⟩
    · exact List.not_mem_nil
    · exact (of_mem_tidySpacing hq).2.1

/-- **Tidying makes the spacing tidy**, and does nothing else to it. -/
theorem spacing_tidy (s : String) :
    spacing 0 (cutLines (tidy s)) = tidySpacing (spacing 0 (cutLines s)) := by
  rw [cutLines_tidy, spacing_append_nil]
  split
  · next h => rw [h]; rfl
  · exact spacing_spaced fun q hq => (of_mem_tidySpacing hq).1

/-! ## Tidy forms -/

/-- The lines of a text that are not blank. -/
def nonBlankLines (s : String) : List (List Char) := (cutLines s).filter (!isBlankLine ·)

/-- How many blank lines stand between each line that is not blank and the next such one. -/
def gaps (s : String) : List Nat := (spacing 0 (cutLines s)).tail.map Prod.fst

/-- **A text `t` in tidy form**, made from a text `s`. -/
structure IsTidyForm (t s : String) : Prop where
  /-- No line is lost, and only the blanks at its end are. -/
  nonBlankLines_eq : nonBlankLines t = (nonBlankLines s).map trimEndChars
  /-- Of the blank lines between two others at most two are left. -/
  gaps_eq : gaps t = (gaps s).map (min · 2)
  /-- No line ends in a blank. -/
  no_blank_at_end : ∀ l ∈ cutLines t, ∀ c ∈ l.getLast?, isBlank c = false
  /-- A text of blank lines becomes a line feed, -/
  eq_lineFeed : nonBlankLines s = [] → t = "\n"
  /-- any other starts with a line that is not blank -/
  starts : nonBlankLines s ≠ [] → ∃ l ls, cutLines t = l :: ls ∧ isBlankLine l = false
  /-- and ends with such a line and a single line feed. -/
  ends : nonBlankLines s ≠ [] → ∃ ls l, cutLines t = ls ++ [l, []] ∧ isBlankLine l = false

theorem nonBlankLines_eq_map (s : String) :
    nonBlankLines s = (spacing 0 (cutLines s)).map Prod.snd :=
  (map_snd_spacing 0 (cutLines s)).symm

theorem nonBlankLines_eq_nil_iff (s : String) :
    nonBlankLines s = [] ↔ spacing 0 (cutLines s) = [] := by
  rw [nonBlankLines_eq_map, List.map_eq_nil_iff]

theorem last_not_blank_of_mem_cutLines_tidy {s : String} {l : List Char}
    (hl : l ∈ cutLines (tidy s)) : ∀ c ∈ l.getLast?, isBlank c = false := by
  have hempty : ∀ c ∈ ([] : List Char).getLast?, isBlank c = false := fun c hc => nomatch hc
  rw [cutLines_tidy] at hl
  rcases List.mem_append.1 hl with hl | hl
  · split at hl
    · exact List.mem_singleton.1 hl ▸ hempty
    · rcases mem_spaced hl with rfl | ⟨q, hq, rfl⟩
      · exact hempty
      · exact (of_mem_tidySpacing hq).2.2
  · exact List.mem_singleton.1 hl ▸ hempty

/-- A tidy text that is not blank starts with its first line, -/
theorem exists_cutLines_tidy_eq_cons {s : String} (h : spacing 0 (cutLines s) ≠ []) :
    ∃ l ls, cutLines (tidy s) = l :: ls ∧ isBlankLine l = false := by
  obtain ⟨p, ps, hps⟩ := List.exists_cons_of_ne_nil h
  have hfirst : (0, trimEndChars p.2) ∈ tidySpacing (spacing 0 (cutLines s)) := by
    rw [hps]
    exact List.mem_cons_self
  refine ⟨trimEndChars p.2, spaced (ps.map tidyGap) ++ [[]], ?_, (of_mem_tidySpacing hfirst).1⟩
  rw [cutLines_tidy, if_neg h, hps]
  rfl

/-- and ends with its last one. -/
theorem exists_cutLines_tidy_eq_append {s : String} (h : spacing 0 (cutLines s) ≠ []) :
    ∃ ls l, cutLines (tidy s) = ls ++ [l, []] ∧ isBlankLine l = false := by
  have hne : tidySpacing (spacing 0 (cutLines s)) ≠ [] := by
    obtain ⟨p, ps, hps⟩ := List.exists_cons_of_ne_nil h
    rw [hps]
    exact List.cons_ne_nil _ _
  obtain ⟨ls, q, hq, hls⟩ := exists_spaced_eq_append hne
  refine ⟨ls, q.2, ?_, (of_mem_tidySpacing hq).1⟩
  rw [cutLines_tidy, if_neg h, hls, List.append_assoc]
  rfl

/-- **Every text has a tidy form**, and a tidy form is its own. -/
theorem isTidyForm_tidy (s : String) : IsTidyForm (tidy s) s ∧ tidy (tidy s) = tidy s where
  left :=
    { nonBlankLines_eq := by
        rw [nonBlankLines_eq_map, nonBlankLines_eq_map, spacing_tidy, map_snd_tidySpacing]
      gaps_eq := by
        rw [gaps, gaps, spacing_tidy, map_fst_tail_tidySpacing]
      no_blank_at_end := fun _ => last_not_blank_of_mem_cutLines_tidy
      eq_lineFeed := by
        intro h
        rw [nonBlankLines_eq_nil_iff] at h
        rw [tidy_eq, h]
        rfl
      starts := fun h =>
        exists_cutLines_tidy_eq_cons (mt (nonBlankLines_eq_nil_iff s).2 h)
      ends := fun h =>
        exists_cutLines_tidy_eq_append (mt (nonBlankLines_eq_nil_iff s).2 h) }
  right := by
    rw [tidy_eq (tidy s), spacing_tidy, tidySpacing_tidySpacing, ← tidy_eq]

/-! ## Lines that tidying leaves alone -/

/-- **Lines that tidying leaves alone.** -/
structure AreTidy (ls : List (List Char)) : Prop where
  no_lineFeed : ∀ l ∈ ls, '\n' ∉ l
  no_blank_at_end : ∀ l ∈ ls, ∀ c ∈ l.getLast?, isBlank c = false
  no_surplus : limitBlankLines 0 ls = ls
  ne_nil : ls ≠ []
  head_ne_nil : ∀ l ∈ ls.head?, l ≠ []
  last_ne_nil : ∀ l ∈ ls.getLast?, l ≠ []

/-- Tidy lines are spaced as tidying would space them. -/
theorem AreTidy.spaced_tidySpacing {ls : List (List Char)} (h : AreTidy ls) :
    spaced (tidySpacing (spacing 0 ls)) = ls := by
  have htrim : ls.map trimEndChars = ls :=
    (List.map_congr_left fun l hl => trimEndChars_eq_self (h.no_blank_at_end l hl)).trans
      (List.map_id' ls)
  obtain ⟨k, hk⟩ := exists_limitBlankLines_eq 0 ls
  rw [htrim, h.no_surplus, Nat.zero_min, List.replicate_zero, List.nil_append] at hk
  -- neither the last line nor the first one is empty, so there is nothing to take off
  obtain rfl : k = 0 := by
    cases k with
    | zero => rfl
    | succ k =>
      refine absurd rfl (h.last_ne_nil [] ?_)
      rw [hk, List.replicate_succ', ← List.append_assoc, List.getLast?_concat]
      rfl
  rw [List.replicate_zero, List.append_nil] at hk
  cases hps : spacing 0 ls with
  | nil =>
    rw [hps] at hk
    exact absurd hk h.ne_nil
  | cons p ps =>
    obtain ⟨n, l⟩ := p
    rw [hps] at hk
    cases n with
    | zero => exact hk.symm
    | succ n =>
      refine absurd rfl (h.head_ne_nil [] ?_)
      rw [hk, List.map_cons, spaced_cons, tidyGap, show min (n + 1) 2 = min n 1 + 1 by omega,
        List.replicate_succ]
      rfl

/-- **A text of tidy lines is its own tidy form.** -/
theorem AreTidy.tidy_unlines {ls : List (List Char)} (h : AreTidy ls) :
    tidy (String.ofList (unlines ls)) = String.ofList (unlines ls) := by
  have hcut : cutLines (String.ofList (unlines ls)) = ls ++ [[]] := by
    rw [cutLines, String.toList_ofList, pieces_unlines h.no_lineFeed]
  rw [tidy_eq, hcut, spacing_append_nil, h.spaced_tidySpacing, unlines_eq_glue,
    glue_append_singleton _ h.ne_nil, List.append_nil]

@[simp] theorem limitBlankLines_nil_cons (ls : List (List Char)) :
    limitBlankLines 0 ([] :: ls) = [] :: limitBlankLines 1 ls := rfl

/-- Lines that are not empty all stay. -/
theorem limitBlankLines_append {ls : List (List Char)} (h : ∀ l ∈ ls, l ≠ [])
    (ms : List (List Char)) : limitBlankLines 0 (ls ++ ms) = ls ++ limitBlankLines 0 ms := by
  induction ls with
  | nil => rfl
  | cons l ls ih =>
    rw [List.cons_append, limitBlankLines_cons 0 (h l List.mem_cons_self),
      ih (fun l' hl' => h l' (List.mem_cons_of_mem l hl')), List.cons_append]

/-- Lines in paragraphs have no two empty lines in a row. -/
theorem limitBlankLines_glue {ps : List (List (List Char))} (hne : ∀ p ∈ ps, p ≠ [])
    (h : ∀ p ∈ ps, ∀ l ∈ p, l ≠ []) : limitBlankLines 0 (glue [[]] ps) = glue [[]] ps := by
  -- the empty line in front of a paragraph may have started a run
  suffices hrun : ∀ run < 2, limitBlankLines run (glue [[]] ps) = glue [[]] ps from hrun 0 (by simp)
  induction ps with
  | nil => exact fun _ _ => rfl
  | cons p ps ih =>
    intro run _
    obtain ⟨l, ls, rfl⟩ := List.exists_cons_of_ne_nil (hne p List.mem_cons_self)
    have hl : l ≠ [] := h (l :: ls) List.mem_cons_self l List.mem_cons_self
    have hls : ∀ l' ∈ ls, l' ≠ [] := fun l' hl' =>
      h (l :: ls) List.mem_cons_self l' (List.mem_cons_of_mem l hl')
    cases ps with
    | nil =>
      have hend := limitBlankLines_append hls []
      rw [List.append_nil] at hend
      rw [glue, limitBlankLines_cons run hl, hend, limitBlankLines, List.append_nil]
    | cons q ps =>
      have ih := ih (fun p' hp' => hne p' (List.mem_cons_of_mem _ hp'))
        (fun p' hp' => h p' (List.mem_cons_of_mem _ hp')) 1 (by simp)
      rw [glue_cons_cons, List.append_assoc, List.cons_append, limitBlankLines_cons run hl,
        limitBlankLines_append hls, List.singleton_append, limitBlankLines_nil_cons, ih]

/-- **Paragraphs are tidy** if no line is empty or ends in a blank. -/
theorem areTidy_glue {ps : List (List (List Char))} (hps : ps ≠ []) (hne : ∀ p ∈ ps, p ≠ [])
    (hlf : ∀ p ∈ ps, ∀ l ∈ p, '\n' ∉ l)
    (hend : ∀ p ∈ ps, ∀ l ∈ p, ∃ c ∈ l.getLast?, isBlank c = false) : AreTidy (glue [[]] ps) := by
  have hl : ∀ p ∈ ps, ∀ l ∈ p, l ≠ [] := by
    rintro p hp l hl rfl
    obtain ⟨c, hc, -⟩ := hend p hp [] hl
    cases hc
  refine ⟨?_, ?_, limitBlankLines_glue hne hl, ?_, ?_, ?_⟩
  · intro l hm
    rcases mem_glue hm with hm | ⟨p, hp, hm⟩
    · rw [List.mem_singleton.1 hm]
      exact List.not_mem_nil
    · exact hlf p hp l hm
  · intro l hm c hc
    rcases mem_glue hm with hm | ⟨p, hp, hm⟩
    · rw [List.mem_singleton.1 hm] at hc
      cases hc
    · obtain ⟨c', hc', hb⟩ := hend p hp l hm
      rwa [Option.mem_unique hc hc']
  · obtain ⟨p, ps, rfl⟩ := List.exists_cons_of_ne_nil hps
    intro he
    have hhead := head?_glue [[]] p ps (hne p List.mem_cons_self)
    rw [he] at hhead
    exact hne p List.mem_cons_self (List.head?_eq_none_iff.1 hhead.symm)
  · obtain ⟨p, ps, rfl⟩ := List.exists_cons_of_ne_nil hps
    intro l hm
    rw [head?_glue _ p ps (hne p List.mem_cons_self)] at hm
    exact hl p List.mem_cons_self l (List.mem_of_mem_head? hm)
  · rcases List.eq_nil_or_concat ps with rfl | ⟨qs, q, rfl⟩
    · exact absurd rfl hps
    · rw [List.concat_eq_append] at hne hl ⊢
      intro l hm
      rw [getLast?_glue _ qs q (hne q (by simp))] at hm
      exact hl q (by simp) l (List.mem_of_getLast? hm)

end SchemaGen.Text
