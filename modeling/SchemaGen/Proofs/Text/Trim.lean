import Mathlib.Data.List.TakeWhile
import SchemaGen.Text.Blank

/-!
# What trimming leaves

A trimmed text is a stretch of the text that was trimmed, and neither starts nor ends with a blank.
A name of a model is a trimmed text that is not empty (`IsName`).
-/

namespace SchemaGen.Text

theorem trimEndChars_isPrefix (cs : List Char) : trimEndChars cs <+: cs := by
  have h := List.reverse_prefix.2 (List.dropWhile_suffix isBlank (l := cs.reverse))
  rwa [List.reverse_reverse] at h

/-- A trimmed text is a stretch of the text. -/
theorem trimChars_isInfix (cs : List Char) : trimChars cs <:+: cs :=
  (trimEndChars_isPrefix _).isInfix.trans (List.dropWhile_suffix isBlank).isInfix

theorem mem_of_mem_trimChars {cs : List Char} {c : Char} (h : c ∈ trimChars cs) : c ∈ cs :=
  (trimChars_isInfix cs).subset h

/-- A trimmed text does not start with a blank. -/
theorem head?_trimChars (cs : List Char) : ∀ c ∈ (trimChars cs).head?, isBlank c = false := by
  intro c hc
  obtain ⟨rest, hrest⟩ := trimEndChars_isPrefix (cs.dropWhile isBlank)
  have hd : (cs.dropWhile isBlank).head? = some c := by
    rw [← hrest, List.head?_append]
    show Option.or (trimChars cs).head? _ = some c
    rw [Option.mem_def.1 hc]
    rfl
  have hnot := List.head?_dropWhile_not isBlank cs
  rw [hd] at hnot
  simpa using hnot

/-- A trimmed text does not end with a blank. -/
theorem getLast?_trimChars (cs : List Char) : ∀ c ∈ (trimChars cs).getLast?, isBlank c = false :=
  getLast?_trimEndChars _

/-- A text that does not end in a blank loses nothing at its end. -/
theorem trimEndChars_eq_self {cs : List Char} (h : ∀ c ∈ cs.getLast?, isBlank c = false) :
    trimEndChars cs = cs := by
  rcases List.eq_nil_or_concat cs with rfl | ⟨ds, c, rfl⟩
  · rfl
  · rw [List.concat_eq_append] at h ⊢
    exact trimEndChars_append_singleton (h c (by simp))

/-- **A trimmed text loses nothing.** -/
theorem trimChars_eq_self {cs : List Char} (hhead : ∀ c ∈ cs.head?, isBlank c = false)
    (hlast : ∀ c ∈ cs.getLast?, isBlank c = false) : trimChars cs = cs := by
  have hdrop : cs.dropWhile isBlank = cs := by
    cases cs with
    | nil => rfl
    | cons c cs => exact List.dropWhile_cons_of_neg (by simp [hhead c rfl])
  rw [trimChars, hdrop, trimEndChars_eq_self hlast]

/-- Blanks in front do not count, -/
theorem trimChars_blanks_append {bs : List Char} (h : ∀ b ∈ bs, isBlank b = true)
    (cs : List Char) : trimChars (bs ++ cs) = trimChars cs := by
  rw [trimChars, List.dropWhile_append_of_pos h]
  rfl

/-- and neither do those at the end. -/
theorem trimChars_append_blanks (cs : List Char) {bs : List Char}
    (h : ∀ b ∈ bs, isBlank b = true) : trimChars (cs ++ bs) = trimChars cs := by
  have hend : ∀ ds : List Char, trimEndChars (ds ++ bs) = trimEndChars ds := by
    intro ds
    rw [trimEndChars, List.reverse_append, List.dropWhile_append_of_pos (by simpa using h)]
    rfl
  unfold trimChars
  rw [List.dropWhile_append]
  split
  · next hall =>
    rw [List.isEmpty_iff.1 hall, List.dropWhile_eq_nil_iff.2 h]
  · rw [hend]

/-- **Trimming takes off blanks at either end**, and nothing else. -/
theorem exists_trimChars (cs : List Char) : ∃ bs bs' : List Char,
    (∀ b ∈ bs, isBlank b = true) ∧ (∀ b ∈ bs', isBlank b = true) ∧
      cs = bs ++ (trimChars cs ++ bs') := by
  have hend : ∀ ds : List Char, ds = trimEndChars ds ++ (ds.reverse.takeWhile isBlank).reverse := by
    intro ds
    rw [trimEndChars, ← List.reverse_append, List.takeWhile_append_dropWhile, List.reverse_reverse]
  refine ⟨cs.takeWhile isBlank, ((cs.dropWhile isBlank).reverse.takeWhile isBlank).reverse,
    fun b hb => List.mem_takeWhile_imp hb, fun b hb => ?_, ?_⟩
  · exact List.mem_takeWhile_imp (List.mem_reverse.1 hb)
  · show cs = _ ++ (trimEndChars (cs.dropWhile isBlank) ++ _)
    rw [← hend, List.takeWhile_append_dropWhile]

/-- Of blanks nothing is left. -/
theorem trimChars_eq_nil_iff {cs : List Char} :
    trimChars cs = [] ↔ ∀ c ∈ cs, isBlank c = true := by
  constructor
  · intro h
    obtain ⟨bs, bs', hbs, hbs', hcs⟩ := exists_trimChars cs
    rw [h, List.nil_append] at hcs
    rw [hcs]
    exact List.forall_mem_append.2 ⟨hbs, hbs'⟩
  · intro h
    rw [trimChars, List.dropWhile_eq_nil_iff.2 h, trimEndChars_nil]

/-- **A name**: a text that is not empty and neither starts nor ends with a blank. -/
structure IsName (s : String) : Prop where
  ne_empty : s ≠ ""
  head_not_blank : ∀ c ∈ s.toList.head?, isBlank c = false
  last_not_blank : ∀ c ∈ s.toList.getLast?, isBlank c = false

instance : DecidablePred IsName := fun s =>
  decidable_of_iff (s ≠ "" ∧ s.toList.head?.any isBlank = false ∧
      s.toList.getLast?.any isBlank = false)
    ⟨fun ⟨h1, h2, h3⟩ => ⟨h1, (Option.any_eq_false _ _).1 h2, (Option.any_eq_false _ _).1 h3⟩,
      fun ⟨h1, h2, h3⟩ => ⟨h1, (Option.any_eq_false _ _).2 h2, (Option.any_eq_false _ _).2 h3⟩⟩

theorem IsName.toList_ne_nil {s : String} (h : IsName s) : s.toList ≠ [] := fun hnil =>
  h.ne_empty (String.toList_eq_nil_iff.1 hnil)

theorem IsName.trimChars_eq {s : String} (h : IsName s) : trimChars s.toList = s.toList :=
  trimChars_eq_self h.head_not_blank h.last_not_blank

theorem isName_ofList_trimChars {cs : List Char} (h : trimChars cs ≠ []) :
    IsName (String.ofList (trimChars cs)) where
  ne_empty := fun he => h (String.ofList_eq_empty_iff.1 he)
  head_not_blank := by
    rw [String.toList_ofList]
    exact head?_trimChars _
  last_not_blank := by
    rw [String.toList_ofList]
    exact getLast?_trimChars _

/-- Trimming makes a name of every text that is not blank. -/
theorem isName_trim {s : String} (h : trim s ≠ "") : IsName (trim s) :=
  isName_ofList_trimChars fun he => h (by rw [trim, he, String.ofList_nil])

end SchemaGen.Text
