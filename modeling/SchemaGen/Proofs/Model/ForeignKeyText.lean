import Mathlib.Data.List.Infix
import SchemaGen.Proofs.Model.ForeignKeyCut

/-!
# Pairs in a foreign key text

An entry of a foreign key text is blank (`readEntry_eq_none_iff`), or it holds a pair of names with
an equals sign between them and blanks around either (`readEntry_eq_some_iff`); any other is
malformed. The first equals sign counts, so only the second name can hold one itself.

The text is cut at every line feed, so whatever else the names of its pairs hold, they hold none
(`lineFeed_not_mem_of_read`), and as each of them is trimmed and not blank, they are names
(`isName_of_read`).
-/

namespace SchemaGen.Model.ForeignKeyText

open Text (IsName isBlank trimChars)

/-! ## Entries of pairs -/

/-- **A pair of names** that can be told apart at the first equals sign. -/
structure HasNames (pair : ColumnPair) : Prop where
  foreignColumn : IsName pair.foreignColumn
  localColumn : IsName pair.localColumn
  equals : '=' ∉ pair.foreignColumn.toList

/-- **An entry of a pair**: its names with an equals sign between them, and blanks around either. -/
def IsEntryOf (pair : ColumnPair) (cs : List Char) : Prop :=
  ∃ before behind ahead after : List Char,
    (∀ b ∈ before ++ behind ++ ahead ++ after, isBlank b = true) ∧
      cs = (before ++ (pair.foreignColumn.toList ++ behind))
        ++ '=' :: (ahead ++ (pair.localColumn.toList ++ after))

/-- A blank entry holds no pair, and no other entry is passed over. -/
theorem readEntry_eq_none_iff {cs : List Char} :
    readEntry cs = .ok none ↔ ∀ c ∈ cs, isBlank c = true := by
  rw [← Text.trimChars_eq_nil_iff, readEntry]
  split
  · next hnil => simp [hnil]
  · next hne =>
    simp only [iff_false_right hne]
    split <;> simp

/-- **An entry is taken apart at its first equals sign.** -/
theorem readEntry_eq_of_trimChars {cs left right : List Char}
    (htrim : trimChars cs = left ++ '=' :: right) (hleft : '=' ∉ left) :
    readEntry cs = if trimChars left = [] ∨ trimChars right = [] then
        .error ⟨String.ofList (trimChars cs)⟩
      else .ok (some ⟨String.ofList (trimChars left), String.ofList (trimChars right)⟩) := by
  have hequals : ∀ c ∈ left, decide (c ≠ '=') = true := fun c hc =>
    decide_eq_true fun he => hleft (he ▸ hc)
  have htake : (left ++ '=' :: right).takeWhile (· ≠ '=') = left := by
    rw [List.takeWhile_append_of_pos hequals, List.takeWhile_cons_of_neg (by decide),
      List.append_nil]
  have hdrop : ((left ++ '=' :: right).dropWhile (· ≠ '=')).drop 1 = right := by
    rw [List.dropWhile_append_of_pos hequals, List.dropWhile_cons_of_neg (by decide)]
    rfl
  rw [readEntry, htrim]
  split
  · next hnil => exact absurd hnil (by simp)
  · simp only [htake, hdrop]
    simp

/-- What stands on either side of the first equals sign is, but for the blanks around it, a pair. -/
theorem isEntryOf_of_trimChars {cs left right : List Char}
    (htrim : trimChars cs = left ++ '=' :: right) :
    IsEntryOf ⟨String.ofList (trimChars left), String.ofList (trimChars right)⟩ cs := by
  obtain ⟨bs, bs', hbs, hbs', hcs⟩ := Text.exists_trimChars cs
  obtain ⟨ls, ls', hls, hls', hleft⟩ := Text.exists_trimChars left
  obtain ⟨rs, rs', hrs, hrs', hright⟩ := Text.exists_trimChars right
  refine ⟨bs ++ ls, ls', rs, rs' ++ bs', ?_, ?_⟩
  · simp only [List.forall_mem_append]
    exact ⟨⟨⟨⟨hbs, hls⟩, hls'⟩, hrs⟩, hrs', hbs'⟩
  · rw [String.toList_ofList, String.toList_ofList, hcs, htrim]
    conv => lhs; rw [hleft, hright]
    simp only [List.append_assoc, List.cons_append]

/-- Without the blanks around it, an entry has the blanks inside on either side of the first equals
sign. -/
theorem IsEntryOf.exists_trimChars {cs : List Char} {pair : ColumnPair} (h : IsEntryOf pair cs)
    (hnames : HasNames pair) : ∃ left right : List Char,
      trimChars cs = left ++ '=' :: right ∧ '=' ∉ left ∧
        trimChars left = pair.foreignColumn.toList ∧ trimChars right = pair.localColumn.toList := by
  obtain ⟨before, behind, ahead, after, hblanks, hcs⟩ := h
  simp only [List.forall_mem_append] at hblanks
  obtain ⟨⟨⟨hbefore, hbehind⟩, hahead⟩, hafter⟩ := hblanks
  have hforeign := hnames.foreignColumn
  have hlocal := hnames.localColumn
  refine ⟨pair.foreignColumn.toList ++ behind, ahead ++ pair.localColumn.toList, ?_, ?_, ?_, ?_⟩
  · have hcore : cs = before ++ (((pair.foreignColumn.toList ++ behind)
        ++ '=' :: (ahead ++ pair.localColumn.toList)) ++ after) := by
      rw [hcs]
      simp only [List.append_assoc, List.cons_append]
    rw [hcore, Text.trimChars_blanks_append hbefore, Text.trimChars_append_blanks _ hafter]
    refine Text.trimChars_eq_self ?_ ?_
    · rw [List.append_assoc, List.head?_append_of_ne_nil _ hforeign.toList_ne_nil]
      exact hforeign.head_not_blank
    · rw [← List.cons_append, ← List.append_assoc,
        List.getLast?_append_of_ne_nil _ hlocal.toList_ne_nil]
      exact hlocal.last_not_blank
  · rw [List.mem_append, not_or]
    exact ⟨hnames.equals, fun hin => absurd (hbehind _ hin) (by decide)⟩
  · rw [Text.trimChars_append_blanks _ hbehind, hforeign.trimChars_eq]
  · rw [Text.trimChars_blanks_append hahead, hlocal.trimChars_eq]

/-- **An entry holds a pair just if it is an entry of it.** -/
theorem readEntry_eq_some_iff {cs : List Char} {pair : ColumnPair} :
    readEntry cs = .ok (some pair) ↔ HasNames pair ∧ IsEntryOf pair cs := by
  constructor
  · intro h
    have hmem : '=' ∈ trimChars cs := by
      by_contra hnone
      rw [readEntry] at h
      split at h
      · cases h
      · simp [hnone] at h
    obtain ⟨left, right, htrim, hleft⟩ := List.eq_append_cons_of_mem hmem
    rw [readEntry_eq_of_trimChars htrim hleft] at h
    split at h
    · cases h
    · next hne =>
      cases h
      rw [not_or] at hne
      refine ⟨⟨Text.isName_ofList_trimChars hne.1, Text.isName_ofList_trimChars hne.2, ?_⟩,
        isEntryOf_of_trimChars htrim⟩
      rw [String.toList_ofList]
      exact fun hin => hleft (Text.mem_of_mem_trimChars hin)
  · rintro ⟨hnames, hentry⟩
    obtain ⟨left, right, htrim, hequals, hleft, hright⟩ := hentry.exists_trimChars hnames
    rw [readEntry_eq_of_trimChars htrim hequals, hleft, hright, if_neg (not_or.2
      ⟨hnames.foreignColumn.toList_ne_nil, hnames.localColumn.toList_ne_nil⟩),
      String.ofList_toList, String.ofList_toList]

/-- The names of a pair are stretches of its entry. -/
theorem IsEntryOf.isInfix {cs : List Char} {pair : ColumnPair} (h : IsEntryOf pair cs) :
    pair.foreignColumn.toList <:+: cs ∧ pair.localColumn.toList <:+: cs := by
  obtain ⟨before, behind, ahead, after, -, rfl⟩ := h
  refine ⟨⟨before, behind ++ '=' :: (ahead ++ (pair.localColumn.toList ++ after)), ?_⟩,
    ⟨(before ++ (pair.foreignColumn.toList ++ behind)) ++ '=' :: ahead, after, ?_⟩⟩
  · simp only [List.append_assoc]
  · simp only [List.append_assoc, List.cons_append]

/-! ## Pairs of a text -/

/-- Entries are read if the first is, and then those behind it. -/
theorem readEntries_cons_eq_ok_iff {e : List Char} {es : List (List Char)}
    {pairs : List ColumnPair} : readEntries (e :: es) = .ok pairs ↔
      ∃ pair others, readEntry e = .ok pair ∧ readEntries es = .ok others ∧
        pairs = pair.toList ++ others := by
  rw [readEntries]
  cases readEntry e with
  | error m => simp
  | ok pair =>
    cases pair <;> cases readEntries es <;> simp [eq_comm]

theorem exists_entry_of_mem {es : List (List Char)} {pairs : List ColumnPair}
    (h : readEntries es = .ok pairs) {pair : ColumnPair} (hp : pair ∈ pairs) :
    ∃ e ∈ es, readEntry e = .ok (some pair) := by
  induction es generalizing pairs with
  | nil =>
    cases h
    cases hp
  | cons e es ih =>
    obtain ⟨first, others, hfirst, hothers, rfl⟩ := readEntries_cons_eq_ok_iff.1 h
    rcases List.mem_append.1 hp with hp | hp
    · obtain rfl := Option.mem_toList.1 hp
      exact ⟨e, List.mem_cons_self, hfirst⟩
    · obtain ⟨e', he', hr⟩ := ih hothers hp
      exact ⟨e', List.mem_cons_of_mem e he', hr⟩

/-- **Each pair of a text stands in one of its entries.** -/
theorem exists_isEntryOf_of_read {text : String} {pairs : List ColumnPair}
    (h : read text = .ok pairs) {pair : ColumnPair} (hp : pair ∈ pairs) :
    ∃ e ∈ entries text.toList, HasNames pair ∧ IsEntryOf pair e := by
  obtain ⟨e, he, hr⟩ := exists_entry_of_mem h hp
  exact ⟨e, he, readEntry_eq_some_iff.1 hr⟩

/-- **The names of the pairs of a text hold no line feed.** -/
theorem lineFeed_not_mem_of_read {text : String} {pairs : List ColumnPair}
    (h : read text = .ok pairs) {pair : ColumnPair} (hp : pair ∈ pairs) :
    '\n' ∉ pair.foreignColumn.toList ∧ '\n' ∉ pair.localColumn.toList := by
  obtain ⟨e, he, -, hentry⟩ := exists_isEntryOf_of_read h hp
  have hlf := lineFeed_not_mem_entries text.toList e he
  exact ⟨fun hc => hlf (hentry.isInfix.1.subset hc), fun hc => hlf (hentry.isInfix.2.subset hc)⟩

/-- **The pairs of a text have names on either side.** -/
theorem isName_of_read {text : String} {pairs : List ColumnPair} (h : read text = .ok pairs)
    {pair : ColumnPair} (hp : pair ∈ pairs) :
    IsName pair.foreignColumn ∧ IsName pair.localColumn := by
  obtain ⟨_, -, hnames, -⟩ := exists_isEntryOf_of_read h hp
  exact ⟨hnames.foreignColumn, hnames.localColumn⟩

end SchemaGen.Model.ForeignKeyText
