import Mathlib.Data.List.Basic
import SchemaGen.Proofs.Text.TidyLines
import SchemaGen.Text.Word

/-!
# Words

A word is a text of word characters that is not empty (`IsWordText`). No blank is a word character,
so a word stands on one line, ends visibly, and cannot be taken for two where words are listed with
blanks in between (`intercalate_inj`).
-/

namespace SchemaGen.Text

/-- The numbers of the blanks. -/
def blankNumbers : List Nat :=
  [9, 10, 11, 12, 13, 28, 29, 30, 31, 32, 0x85, 0xA0, 0x1680, 0x2000, 0x2001, 0x2002, 0x2003,
    0x2004, 0x2005, 0x2006, 0x2007, 0x2008, 0x2009, 0x200A, 0x2028, 0x2029, 0x202F, 0x205F, 0x3000]

theorem toNat_mem_blankNumbers {c : Char} (h : isBlank c = true) : c.toNat ∈ blankNumbers := by
  simp only [isBlank, Bool.or_eq_true, Bool.and_eq_true, decide_eq_true_eq, beq_iff_eq] at h
  simp only [blankNumbers, List.mem_cons, List.not_mem_nil, or_false]
  omega

/-- **No blank is a word character.** -/
theorem isBlank_of_isWord {c : Char} (h : isWord c = true) : isBlank c = false := by
  have hall : ∀ n ∈ blankNumbers, wordRuns.contains n = false := by decide +kernel
  rw [Bool.eq_false_iff]
  intro hblank
  exact Bool.false_ne_true ((hall _ (toNat_mem_blankNumbers hblank)).symm.trans h)

/-- **A word**: a text of word characters that is not empty. -/
structure IsWordText (s : String) : Prop where
  ne_empty : s ≠ ""
  isWord : ∀ c ∈ s.toList, isWord c = true

instance (s : String) : Decidable (IsWordText s) :=
  decidable_of_iff (s ≠ "" ∧ s.toList.all SchemaGen.Text.isWord = true)
    ⟨fun h => ⟨h.1, List.all_eq_true.1 h.2⟩, fun h => ⟨h.1, List.all_eq_true.2 h.2⟩⟩

theorem IsWordText.isBlank {s : String} (h : IsWordText s) {c : Char} (hc : c ∈ s.toList) :
    isBlank c = false :=
  isBlank_of_isWord (h.isWord c hc)

/-- A word stands on one line and ends visibly. -/
theorem IsWordText.isTidyLine {s : String} (h : IsWordText s) : IsTidyLine s where
  isLine := fun hm => absurd (h.isBlank hm) (by decide)
  endsVisibly := endsVisibly_of_last h.ne_empty fun _ hc => h.isBlank (List.mem_of_getLast? hc)

/-- The words of a list come back from between the blanks. -/
theorem splitOn_intercalate_words {ws : List String} (hne : ws ≠ []) (h : ∀ w ∈ ws, IsWordText w) :
    (String.intercalate " " ws).toList.splitOn ' ' = ws.map String.toList := by
  rw [String.toList_intercalate]
  refine List.splitOn_intercalate ' ' (fun l hl hm => ?_) (by simpa using hne)
  obtain ⟨w, hw, rfl⟩ := List.mem_map.1 hl
  exact absurd ((h w hw).isBlank hm) (by decide)

theorem intercalate_ne_empty {ws : List String} (hne : ws ≠ []) (h : ∀ w ∈ ws, IsWordText w) :
    String.intercalate " " ws ≠ "" := by
  intro he
  have hsplit := splitOn_intercalate_words hne h
  obtain ⟨w, ws, rfl⟩ := List.exists_cons_of_ne_nil hne
  rw [he, List.map_cons] at hsplit
  exact (h w List.mem_cons_self).ne_empty (String.ext (List.cons.inj hsplit).1.symm)

/-- **Lists of words are told apart by what they are written as.** -/
theorem intercalate_inj {ws vs : List String} (hws : ∀ w ∈ ws, IsWordText w)
    (hvs : ∀ v ∈ vs, IsWordText v) (h : String.intercalate " " ws = String.intercalate " " vs) :
    ws = vs := by
  by_cases hw : ws = []
  · by_cases hv : vs = []
    · rw [hw, hv]
    · rw [hw] at h
      exact absurd h.symm (intercalate_ne_empty hv hvs)
  · by_cases hv : vs = []
    · rw [hv] at h
      exact absurd h (intercalate_ne_empty hw hws)
    · have hlists : ws.map String.toList = vs.map String.toList := by
        rw [← splitOn_intercalate_words hw hws, h, splitOn_intercalate_words hv hvs]
      exact List.map_injective_iff.2 (fun _ _ => String.ext) hlists

end SchemaGen.Text
