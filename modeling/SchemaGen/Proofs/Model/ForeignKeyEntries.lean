import SchemaGen.Proofs.Model.ForeignKeySpelling

/-!
# Foreign key texts that are written

Pairs of names that hold no white space but blanks (`IsWritable`) come back from a text with
separators between their entries (`read_joinEntries`), since it spells them. A blank is no
separator: where it stands between two entries, the column of the first takes in all of the second
(`absorb`), so that the pairs of a text with blanks between its entries are merged into one
(`read_joinEntries_blank`).
-/

namespace SchemaGen.Model.ForeignKeyText

/-! ## Parts of entries -/

/-- **A name that can stand in an entry**: of all white space it holds blanks alone. -/
structure IsPart (name : String) : Prop where
  isName : Text.IsName name
  whiteSpace : ∀ c ∈ name.toList, c ∉ ['\n', '\r', '\t']
  literal : ¬ ['\\', 'n'] <:+: name.toList

instance : DecidablePred IsPart := fun name =>
  decidable_of_iff (Text.IsName name ∧
      name.toList.all (fun c => decide (c ∉ ['\n', '\r', '\t'])) = true ∧
      ¬ ['\\', 'n'] <:+: name.toList)
    ⟨fun ⟨h1, h2, h3⟩ => ⟨h1, fun c hc => of_decide_eq_true (List.all_eq_true.1 h2 c hc), h3⟩,
      fun ⟨h1, h2, h3⟩ => ⟨h1, List.all_eq_true.2 fun c hc => decide_eq_true (h2 c hc), h3⟩⟩

/-- **Two parts make one** with a sign between them. -/
theorem IsPart.append {name other joined : String} (h : IsPart name) (ho : IsPart other) {m : Char}
    (hm : m ∉ ['\n', '\r', '\t', '\\', 'n'])
    (hjoined : joined.toList = name.toList ++ m :: other.toList) : IsPart joined := by
  have hne : name.toList ≠ [] := h.isName.toList_ne_nil
  have hlast : (m :: other.toList).getLast? = other.toList.getLast? := by
    obtain ⟨c, cs, hcs⟩ := List.exists_cons_of_ne_nil ho.isName.toList_ne_nil
    rw [hcs, List.getLast?_cons_cons]
  refine ⟨⟨?_, ?_, ?_⟩, ?_, ?_⟩
  · rintro rfl
    exact absurd hjoined.symm (List.append_ne_nil_of_left_ne_nil hne _)
  · rw [hjoined, List.head?_append_of_ne_nil _ hne]
    exact h.isName.head_not_blank
  · rw [hjoined, List.getLast?_append_of_ne_nil _ (List.cons_ne_nil _ _), hlast]
    exact ho.isName.last_not_blank
  · intro c hc
    rw [hjoined, List.mem_append, List.mem_cons] at hc
    rcases hc with hc | rfl | hc
    · exact h.whiteSpace c hc
    · exact fun hin => hm (List.mem_append_left ['\\', 'n'] hin)
    · exact ho.whiteSpace c hc
  · rw [hjoined]
    intro hin
    have hsign : m ∉ ['\\', 'n'] := fun hmem => hm (List.mem_append_right ['\n', '\r', '\t'] hmem)
    rcases isInfix_of_append_cons hsign hin with hin | hin
    · exact h.literal hin
    · exact ho.literal hin

/-! ## Pairs -/

/-- **A pair that can be written as an entry.** -/
structure IsWritable (pair : ColumnPair) : Prop where
  foreignColumn : IsPart pair.foreignColumn
  localColumn : IsPart pair.localColumn
  equals : '=' ∉ pair.foreignColumn.toList

instance : DecidablePred IsWritable := fun pair =>
  decidable_of_iff (IsPart pair.foreignColumn ∧ IsPart pair.localColumn ∧
      '=' ∉ pair.foreignColumn.toList)
    ⟨fun ⟨h1, h2, h3⟩ => ⟨h1, h2, h3⟩, fun ⟨h1, h2, h3⟩ => ⟨h1, h2, h3⟩⟩

namespace IsWritable

variable {pair other : ColumnPair}

theorem isPart_writeEntry (h : IsWritable pair) : IsPart (writeEntry pair) :=
  h.foreignColumn.append h.localColumn (by decide) (toList_writeEntry pair)

theorem hasNames (h : IsWritable pair) : HasNames pair where
  foreignColumn := h.foreignColumn.isName
  localColumn := h.localColumn.isName
  equals := h.equals

theorem isAdmissible (h : IsWritable pair) : IsAdmissible pair where
  toHasNames := h.hasNames
  lineFeed := ⟨fun hin => h.foreignColumn.whiteSpace '\n' hin (by decide),
    fun hin => h.localColumn.whiteSpace '\n' hin (by decide)⟩
  literal := ⟨h.foreignColumn.literal, h.localColumn.literal⟩

end IsWritable

/-- **Pairs come back** from a text with separators between their entries. -/
theorem read_joinEntries {pairs : List ColumnPair} (h : ∀ pair ∈ pairs, IsWritable pair)
    {sep : List Char} (hsep : IsSeparator sep) (isEnded : Bool) :
    read (String.ofList (joinEntries sep isEnded pairs)) = .ok pairs := by
  have hpairs : ∀ pair ∈ pairs, IsAdmissible pair := fun pair hpair => (h pair hpair).isAdmissible
  rw [read, String.toList_ofList]
  exact (spells_joinEntries hsep isEnded hpairs).readEntries_eq hpairs

/-! ## Blanks between entries -/

/-- A pair whose column took in the entry of another, with a blank before it. -/
def absorb (pair other : ColumnPair) : ColumnPair :=
  { pair with localColumn := pair.localColumn ++ " " ++ writeEntry other }

/-- **The pairs that are left** of some pairs with blanks between their entries: the first one,
which took in all others. -/
def merged : List ColumnPair → List ColumnPair
  | [] => []
  | pair :: pairs => [pairs.foldl absorb pair]

theorem merged_eq_self_iff {pairs : List ColumnPair} (hne : pairs ≠ []) :
    merged pairs = pairs ↔ pairs.length = 1 := by
  match pairs with
  | [pair] => simp [merged]
  | pair :: other :: pairs => simp [merged]

theorem toList_absorb (pair other : ColumnPair) :
    (absorb pair other).localColumn.toList
      = pair.localColumn.toList ++ ' ' :: (writeEntry other).toList := by
  rw [absorb, String.toList_append, String.toList_append, List.append_assoc]
  rfl

theorem IsWritable.absorb {pair other : ColumnPair} (h : IsWritable pair) (ho : IsWritable other) :
    IsWritable (absorb pair other) where
  foreignColumn := h.foreignColumn
  localColumn :=
    h.localColumn.append ho.isPart_writeEntry (by decide) (toList_absorb pair other)
  equals := h.equals

theorem IsWritable.foldl_absorb {pair : ColumnPair} (h : IsWritable pair) {pairs : List ColumnPair}
    (hpairs : ∀ other ∈ pairs, IsWritable other) :
    IsWritable (pairs.foldl ForeignKeyText.absorb pair) := by
  induction pairs generalizing pair with
  | nil => exact h
  | cons other pairs ih =>
    obtain ⟨ho, hpairs⟩ := List.forall_mem_cons.1 hpairs
    exact ih (h.absorb ho) hpairs

/-- Two entries with a blank between them are the entry of a pair that took in the other. -/
theorem joinEntries_blank_cons_cons (isEnded : Bool) (pair other : ColumnPair)
    (pairs : List ColumnPair) :
    joinEntries [' '] isEnded (pair :: other :: pairs)
      = joinEntries [' '] isEnded (absorb pair other :: pairs) := by
  have hentry : (writeEntry (absorb pair other)).toList
      = (writeEntry pair).toList ++ ' ' :: (writeEntry other).toList := by
    rw [toList_writeEntry, toList_absorb, toList_writeEntry pair, List.append_assoc]
    rfl
  show Text.glue [' '] ((writeEntry pair).toList :: (writeEntry other).toList ::
    entryTexts isEnded pairs) = Text.glue [' '] ((writeEntry (absorb pair other)).toList ::
      entryTexts isEnded pairs)
  rw [hentry]
  cases entryTexts isEnded pairs with
  | nil => simp [Text.glue]
  | cons e es => simp [Text.glue_cons_cons]

/-- So all entries with blanks between them are one. -/
theorem joinEntries_blank (isEnded : Bool) (pair : ColumnPair) (pairs : List ColumnPair) :
    joinEntries [' '] isEnded (pair :: pairs)
      = (writeEntry (pairs.foldl absorb pair)).toList ++ if isEnded then [' '] else [] := by
  induction pairs generalizing pair with
  | nil => cases isEnded <;> simp [joinEntries, entryTexts, Text.glue]
  | cons other pairs ih => rw [joinEntries_blank_cons_cons, ih, List.foldl_cons]

/-- **Pairs are merged** where blanks stand between their entries. -/
theorem read_joinEntries_blank {pairs : List ColumnPair} (hne : pairs ≠ [])
    (h : ∀ pair ∈ pairs, IsWritable pair) (isEnded : Bool) :
    read (String.ofList (joinEntries [' '] isEnded pairs)) = .ok (merged pairs) := by
  obtain ⟨pair, pairs, rfl⟩ := List.exists_cons_of_ne_nil hne
  obtain ⟨hpair, hpairs⟩ := List.forall_mem_cons.1 h
  have hadmissible := (hpair.foldl_absorb hpairs).isAdmissible
  have hblanks : ∀ b ∈ if isEnded then [' '] else [], b = ' ' := by cases isEnded <;> simp
  rw [read, String.toList_ofList, joinEntries_blank]
  exact (hadmissible.spells_writeEntry_append hblanks).readEntries_eq
    (List.forall_mem_singleton.2 hadmissible)

end SchemaGen.Model.ForeignKeyText
