import Mathlib.Computability.Language
import SchemaGen.Package.ModuleName
import SchemaGen.Package.Namespace
import SchemaGen.Proofs.Text.Words

/-!
# The grammar of namespaces

A namespace is read from left to right, and a colon in it is looked at together with what follows.
The same texts are told by what stands between the separators, wherever these are found first
(`isNamespace_iff_pieces`): a text is a namespace if it is empty or cut into segments, each a
capital letter with word characters after it. No colon is a word character, so the segments are what
the text is put together from, and the namespaces that are not empty are those that the pattern
`[A-Z]\w*(::[A-Z]\w*)*` matches as a whole (`isNamespace_iff_pattern`).
-/

namespace SchemaGen

open Text (isWord pieces consHead glue)
open ModuleName (separator)

namespace Text

/-- A capital letter A to Z is a word character. -/
theorem isWord_of_isUpper {c : Char} (h : c.isUpper = true) : isWord c = true := by
  have hall : ∀ n ∈ List.range' 65 26, wordRuns.contains n = true := by decide +kernel
  have hbounds : 65 ≤ c.toNat ∧ c.toNat ≤ 90 := by
    have h : decide (c.val ≥ 'A'.val ∧ c.val ≤ 'Z'.val) = true := h
    simpa [UInt32.le_iff_toNat_le, ← Char.toNat_val] using h
  exact hall c.toNat (List.mem_range'_1.2 (by omega))

end Text

/-! ## Words between separators -/

namespace ModuleName

/-- **What is cut into words**: between the separators of a text stand word characters only. -/
def AreWords (name : String) : Prop :=
  ∀ p ∈ pieces separator.toList name.toList, ∀ c ∈ p, isWord c = true

instance : DecidablePred AreWords := fun name =>
  decidable_of_iff ((pieces separator.toList name.toList).all (List.all · isWord) = true)
    (by simp only [AreWords, List.all_eq_true])

theorem not_mem_separator {c : Char} (h : isWord c = true) : c ∉ separator.toList := by
  intro hc
  rw [show separator.toList = [':', ':'] from rfl, List.mem_cons, List.mem_singleton, or_self] at hc
  subst hc
  exact absurd h (by decide)

/-- A text that is cut into words stands on one line. -/
theorem AreWords.isLine {name : String} (h : AreWords name) : Text.IsLine name := by
  have hglue : glue separator.toList (pieces separator.toList name.toList) = name.toList :=
    Text.glue_pieces (by decide) name.toList
  intro hm
  rw [← hglue] at hm
  rcases Text.mem_glue hm with hm | ⟨p, hp, hm⟩
  · exact absurd hm (by decide)
  · exact absurd (h p hp _ hm) (by decide)

end ModuleName

namespace Package

/-! ## Segments -/

/-- **A segment of a namespace**: a capital letter A to Z, followed by word characters. -/
def IsSegment : List Char → Prop
  | [] => False
  | c :: rest => c.isUpper = true ∧ ∀ d ∈ rest, isWord d = true

instance : DecidablePred IsSegment
  | [] => inferInstanceAs (Decidable False)
  | c :: rest => inferInstanceAs (Decidable (c.isUpper = true ∧ ∀ d ∈ rest, isWord d = true))

/-- A segment is a word. -/
theorem IsSegment.isWord {p : List Char} (h : IsSegment p) : ∀ c ∈ p, isWord c = true := by
  cases p with
  | nil => exact h.elim
  | cons c rest => exact List.forall_mem_cons.2 ⟨Text.isWord_of_isUpper h.1, h.2⟩

/-- What a text is cut into when it follows the first letter of a segment: the rest of that segment,
and further ones. -/
def AreRest : List (List Char) → Prop
  | [] => False
  | p :: ps => (∀ c ∈ p, isWord c = true) ∧ ∀ q ∈ ps, IsSegment q

/-- **Segments start with a capital letter**, so what follows it is the rest of them. -/
theorem forall_isSegment_pieces_cons (c : Char) (cs : List Char) :
    (∀ p ∈ pieces separator.toList (c :: cs), IsSegment p) ↔
      c.isUpper = true ∧ AreRest (pieces separator.toList cs) := by
  by_cases hsep : separator.toList.isPrefixOf (c :: cs) = true
  · -- a separator at the front leaves an empty piece before it, which is no segment
    obtain ⟨rest, hrest⟩ := List.isPrefixOf_iff_prefix.1 hsep
    obtain ⟨rfl, -⟩ := List.cons.inj hrest
    rw [← hrest, Text.pieces_separator_append (by decide), List.forall_mem_cons]
    exact iff_of_false (fun h => h.1) (fun h => absurd h.1 (by decide))
  · obtain ⟨p, ps, hps⟩ := Text.exists_pieces_eq_cons separator.toList cs
    rw [Text.pieces_cons_of_not_isPrefixOf hsep, hps, consHead, List.forall_mem_cons, IsSegment,
      AreRest, and_assoc]

/-- **The rest of a namespace is read by its pieces.** -/
theorem isNamespaceTail_iff (cs : List Char) :
    isNamespaceTail cs = true ↔ AreRest (pieces separator.toList cs) := by
  fun_induction isNamespaceTail cs with
  | case1 => exact iff_of_true rfl ⟨List.forall_mem_nil _, List.forall_mem_nil _⟩
  | case2 c rest ih =>
    rw [Bool.and_eq_true_iff, ih, ← forall_isSegment_pieces_cons,
      show ':' :: ':' :: c :: rest = separator.toList ++ c :: rest from rfl,
      Text.pieces_separator_append (by decide), AreRest]
    exact (and_iff_right (List.forall_mem_nil _)).symm
  | case3 c rest hcolons ih =>
    rw [Bool.and_eq_true_iff, ih]
    by_cases hsep : separator.toList.isPrefixOf (c :: rest) = true
    · -- two colons that nothing follows leave an empty piece at the end
      obtain ⟨rest', hrest⟩ := List.isPrefixOf_iff_prefix.1 hsep
      obtain ⟨rfl, rfl⟩ : ':' = c ∧ ':' :: rest' = rest := List.cons.inj hrest
      cases rest' with
      | cons d rest' => exact (hcolons d rest' rfl rfl).elim
      | nil => exact iff_of_false (fun h => absurd h.1 (by decide)) (fun h => h.2 [] (by decide))
    · obtain ⟨p, ps, hps⟩ := Text.exists_pieces_eq_cons separator.toList rest
      rw [Text.pieces_cons_of_not_isPrefixOf hsep, hps, consHead, AreRest, AreRest,
        List.forall_mem_cons, and_assoc]

/-- **A namespace is empty or cut into segments.** -/
theorem isNamespace_iff_pieces (s : String) :
    isNamespace s = true ↔ s = "" ∨ ∀ p ∈ pieces separator.toList s.toList, IsSegment p := by
  rw [isNamespace, ← String.toList_eq_nil_iff]
  cases s.toList with
  | nil => exact iff_of_true rfl (.inl rfl)
  | cons c rest =>
    rw [or_iff_right (List.cons_ne_nil c rest), forall_isSegment_pieces_cons,
      ← isNamespaceTail_iff]
    exact Bool.and_eq_true_iff

/-- A namespace consists of words. -/
theorem areWords_of_isNamespace {s : String} (h : isNamespace s = true) :
    ModuleName.AreWords s := by
  rcases (isNamespace_iff_pieces s).1 h with rfl | h
  · decide
  · exact fun p hp => (h p hp).isWord

/-- **A namespace stands on one line.** -/
theorem isLine_of_isNamespace {s : String} (h : isNamespace s = true) : Text.IsLine s :=
  (areWords_of_isNamespace h).isLine

/-! ## The pattern -/

open scoped Computability

/-- The texts of one character that a test admits. -/
def oneOf (admits : Char → Bool) : Language Char :=
  { cs | ∃ c, admits c = true ∧ cs = [c] }

/-- What `[A-Z]\w*` matches. -/
def segmentPattern : Language Char := oneOf Char.isUpper * (oneOf isWord)∗

/-- **What `[A-Z]\w*(::[A-Z]\w*)*` matches.** -/
def namespacePattern : Language Char :=
  segmentPattern * ({separator.toList} * segmentPattern)∗

theorem mem_kstar_oneOf {admits : Char → Bool} {cs : List Char} :
    cs ∈ (oneOf admits)∗ ↔ ∀ c ∈ cs, admits c = true := by
  rw [Language.mem_kstar]
  constructor
  · rintro ⟨ls, rfl, h⟩ c hc
    obtain ⟨l, hl, hc⟩ := List.mem_flatten.1 hc
    obtain ⟨d, hd, rfl⟩ := h l hl
    rwa [List.mem_singleton.1 hc]
  · intro h
    refine ⟨cs.map ([·]), (List.flatMap_singleton' cs).symm, fun l hl => ?_⟩
    obtain ⟨c, hc, rfl⟩ := List.mem_map.1 hl
    exact ⟨c, h c hc, rfl⟩

theorem mem_segmentPattern {cs : List Char} : cs ∈ segmentPattern ↔ IsSegment cs := by
  rw [segmentPattern, Language.mem_mul]
  constructor
  · rintro ⟨_, ⟨c, hc, rfl⟩, rest, hrest, rfl⟩
    exact ⟨hc, mem_kstar_oneOf.1 hrest⟩
  · intro h
    cases cs with
    | nil => exact h.elim
    | cons c rest => exact ⟨[c], ⟨c, h.1, rfl⟩, rest, mem_kstar_oneOf.2 h.2, rfl⟩

theorem glue_cons_eq (sep p : List Char) (ps : List (List Char)) :
    glue sep (p :: ps) = p ++ (ps.map (sep ++ ·)).flatten := by
  induction ps generalizing p with
  | nil => exact (List.append_nil p).symm
  | cons q ps ih => rw [Text.glue_cons_cons, ih, List.map_cons, List.flatten_cons]; simp

/-- The pattern matches segments with separators between them. -/
theorem mem_namespacePattern {cs : List Char} :
    cs ∈ namespacePattern ↔ ∃ ps ≠ [], (∀ p ∈ ps, IsSegment p) ∧ cs = glue separator.toList ps := by
  rw [namespacePattern, Language.mem_mul]
  constructor
  · rintro ⟨p, hp, rest, ⟨ls, rfl, hls⟩, rfl⟩
    have hall : ∃ ps : List (List Char), (∀ q ∈ ps, IsSegment q) ∧
        ls = ps.map (separator.toList ++ ·) := by
      induction ls with
      | nil => exact ⟨[], List.forall_mem_nil _, rfl⟩
      | cons l ls ih =>
        obtain ⟨hl, hrest⟩ := List.forall_mem_cons.1 hls
        obtain ⟨_, rfl, q, hq, rfl⟩ := Language.mem_mul.1 hl
        obtain ⟨ps, hps, rfl⟩ := ih hrest
        exact ⟨q :: ps, List.forall_mem_cons.2 ⟨mem_segmentPattern.1 hq, hps⟩, rfl⟩
    obtain ⟨ps, hps, rfl⟩ := hall
    exact ⟨p :: ps, List.cons_ne_nil p ps,
      List.forall_mem_cons.2 ⟨mem_segmentPattern.1 hp, hps⟩, (glue_cons_eq _ p ps).symm⟩
  · rintro ⟨ps, hne, hps, rfl⟩
    obtain ⟨p, ps, rfl⟩ := List.exists_cons_of_ne_nil hne
    obtain ⟨hp, hps⟩ := List.forall_mem_cons.1 hps
    refine ⟨p, mem_segmentPattern.2 hp, _, Language.join_mem_kstar fun l hl => ?_,
      (glue_cons_eq _ p ps).symm⟩
    obtain ⟨q, hq, rfl⟩ := List.mem_map.1 hl
    exact Language.mem_mul.2 ⟨_, rfl, q, mem_segmentPattern.2 (hps q hq), rfl⟩

/-- **A namespace that is not empty is matched by the pattern**, and nothing else is. -/
theorem isNamespace_iff_pattern (s : String) :
    isNamespace s = true ↔ s = "" ∨ s.toList ∈ namespacePattern := by
  rw [isNamespace_iff_pieces, mem_namespacePattern]
  refine or_congr_right ⟨fun h => ?_, ?_⟩
  · exact ⟨_, Text.piecesFrom_ne_nil _ 0 _, h, (Text.glue_pieces (by decide) _).symm⟩
  · rintro ⟨ps, hne, hps, hs⟩
    rwa [hs, Text.pieces_glue (by decide) hne fun p hp c hc =>
      ModuleName.not_mem_separator ((hps p hp).isWord c hc)]

end Package

end SchemaGen
