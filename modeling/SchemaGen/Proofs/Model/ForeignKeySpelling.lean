import SchemaGen.Proofs.Model.ForeignKeyText
import SchemaGen.Proofs.Text.Lines

/-!
# The texts of some pairs

A list of column pairs can be spelled in many ways: with blanks around the names, with any of the
separators between the entries, and with blank entries anywhere (`Spells`). The reader prefers none
of them and reads the pairs from each of their texts; and it reads nothing else, so a text that is
not malformed spells the pairs that are read from it (`read_eq_ok_iff_spells`). These pairs are not
arbitrary, since their names went through a text (`IsAdmissible`), and this is all that it takes for
them to be written and read again.
-/

namespace SchemaGen.Model.ForeignKeyText

open Text (isBlank)

/-! ## Spellings -/

/-- **A pair that has a text**: its names are told apart at the first equals sign, and neither holds
a separator. A carriage return inside a name is none. -/
structure IsAdmissible (pair : ColumnPair) : Prop extends HasNames pair where
  lineFeed : '\n' ∉ pair.foreignColumn.toList ∧ '\n' ∉ pair.localColumn.toList
  literal : ¬ ['\\', 'n'] <:+: pair.foreignColumn.toList ∧
    ¬ ['\\', 'n'] <:+: pair.localColumn.toList

/-- **The texts that spell some pairs**, one after the other: a blank entry spells none, the entry
of a pair spells that pair, and texts are put together with a separator, whichever it is. The blanks
of an entry are any but line feeds. -/
inductive Spells : List Char → List ColumnPair → Prop
  | blank {cs : List Char} : (∀ c ∈ cs, isBlank c = true) → '\n' ∉ cs → Spells cs []
  | entry {cs : List Char} {pair : ColumnPair} : IsEntryOf pair cs → '\n' ∉ cs → Spells cs [pair]
  | append {cs sep ds : List Char} {pairs others : List ColumnPair} : Spells cs pairs →
      IsSeparator sep → Spells ds others → Spells (cs ++ (sep ++ ds)) (pairs ++ others)

/-! ## Blanks and the two characters -/

/-- Two signs that stand in a text with a third in its middle stand on one of its sides. -/
theorem isInfix_of_append_cons {a b m : Char} (hm : m ∉ [a, b]) {xs ys : List Char}
    (h : [a, b] <:+: xs ++ m :: ys) : [a, b] <:+: xs ∨ [a, b] <:+: ys := by
  simp only [List.mem_cons, List.not_mem_nil, or_false, not_or] at hm
  induction xs with
  | nil =>
    rw [List.nil_append, List.infix_cons_iff] at h
    rcases h with ⟨t, ht⟩ | h
    · exact absurd (List.cons.inj ht).1.symm hm.1
    · exact .inr h
  | cons x xs ih =>
    rw [List.cons_append, List.infix_cons_iff] at h
    rcases h with ⟨t, ht⟩ | h
    · obtain ⟨hx, ht⟩ := List.cons.inj ht
      cases xs with
      | nil => exact absurd (List.cons.inj ht).1.symm hm.2
      | cons y xs =>
        obtain ⟨hy, -⟩ := List.cons.inj ht
        exact .inl ⟨[], xs, by rw [hx, hy]; rfl⟩
    · rcases ih h with h | h
      · exact .inl (h.trans (List.suffix_cons x xs).isInfix)
      · exact .inr h

theorem not_mem_literal_of_isBlank {b : Char} (h : isBlank b = true) : b ∉ ['\\', 'n'] := by
  have hall : ∀ c ∈ ['\\', 'n'], isBlank c = false :=
    List.forall_mem_cons.2 ⟨rfl, List.forall_mem_singleton.2 rfl⟩
  exact fun hmem => absurd h (by rw [hall b hmem]; decide)

/-- Blanks do not hold the two characters backslash and `n`, -/
theorem literal_not_isInfix_blanks {bs : List Char} (h : ∀ b ∈ bs, isBlank b = true) :
    ¬ ['\\', 'n'] <:+: bs := fun hin =>
  not_mem_literal_of_isBlank (h '\\' (hin.subset List.mem_cons_self)) List.mem_cons_self

/-- nor do they complete them, in front of a text -/
theorem literal_isInfix_of_blanks_append {bs cs : List Char} (h : ∀ b ∈ bs, isBlank b = true)
    (hin : ['\\', 'n'] <:+: bs ++ cs) : ['\\', 'n'] <:+: cs := by
  rcases List.eq_nil_or_concat bs with rfl | ⟨bs, b, rfl⟩
  · exact hin
  · rw [List.concat_eq_append] at h hin
    obtain ⟨hbs, hb⟩ := List.forall_mem_append.1 h
    rw [List.append_assoc, List.singleton_append] at hin
    have hsign := not_mem_literal_of_isBlank (hb b List.mem_cons_self)
    exact (isInfix_of_append_cons hsign hin).resolve_left (literal_not_isInfix_blanks hbs)

/-- or behind it. -/
theorem literal_isInfix_of_append_blanks {bs cs : List Char} (h : ∀ b ∈ bs, isBlank b = true)
    (hin : ['\\', 'n'] <:+: cs ++ bs) : ['\\', 'n'] <:+: cs := by
  cases bs with
  | nil => rwa [List.append_nil] at hin
  | cons b bs =>
    obtain ⟨hb, hbs⟩ := List.forall_mem_cons.1 h
    exact (isInfix_of_append_cons (not_mem_literal_of_isBlank hb) hin).resolve_right
      (literal_not_isInfix_blanks hbs)

/-- So an entry does not hold them if the names of its pair do not. -/
theorem IsAdmissible.literal_not_isInfix {pair : ColumnPair} (hpair : IsAdmissible pair)
    {cs : List Char} (h : IsEntryOf pair cs) : ¬ ['\\', 'n'] <:+: cs := by
  obtain ⟨before, behind, ahead, after, hblanks, rfl⟩ := h
  simp only [List.forall_mem_append] at hblanks
  obtain ⟨⟨⟨hbefore, hbehind⟩, hahead⟩, hafter⟩ := hblanks
  intro hin
  rcases isInfix_of_append_cons (by decide) hin with hin | hin
  · exact hpair.literal.1 (literal_isInfix_of_append_blanks hbehind
      (literal_isInfix_of_blanks_append hbefore hin))
  · exact hpair.literal.2 (literal_isInfix_of_append_blanks hafter
      (literal_isInfix_of_blanks_append hahead hin))

/-! ## Reading -/

/-- **The pairs that a text spells are read from it.** -/
theorem Spells.readEntries_eq {cs : List Char} {pairs : List ColumnPair} (h : Spells cs pairs)
    (hpairs : ∀ pair ∈ pairs, IsAdmissible pair) : readEntries (entries cs) = .ok pairs := by
  induction h with
  | blank hblank hlineFeed =>
    rw [entries_eq_singleton hlineFeed (literal_not_isInfix_blanks hblank), readEntries,
      readEntry_eq_none_iff.2 hblank]
    rfl
  | entry hentry hlineFeed =>
    have hpair := List.forall_mem_singleton.1 hpairs
    rw [entries_eq_singleton hlineFeed (hpair.literal_not_isInfix hentry), readEntries,
      readEntry_eq_some_iff.2 ⟨hpair.toHasNames, hentry⟩]
    rfl
  | append _ hsep _ ihs iht =>
    obtain ⟨hs, ht⟩ := List.forall_mem_append.1 hpairs
    rw [readEntries_append_separator _ hsep, ihs hs, iht ht]
    rfl

/-- An entry that is read spells what it holds. -/
theorem spells_of_readEntry {e : List Char} (hlineFeed : '\n' ∉ e) {pair : Option ColumnPair}
    (h : readEntry e = .ok pair) : Spells e pair.toList := by
  cases pair with
  | none => exact .blank (readEntry_eq_none_iff.1 h) hlineFeed
  | some pair => exact .entry (readEntry_eq_some_iff.1 h).2 hlineFeed

/-- **A text that is cut into entries spells what is read from them.** -/
theorem IsCut.spells {cs : List Char} {es : List (List Char)} (hcut : IsCut cs es)
    (hlineFeed : ∀ e ∈ es, '\n' ∉ e) {pairs : List ColumnPair} (h : readEntries es = .ok pairs) :
    Spells cs pairs := by
  induction hcut generalizing pairs with
  | last e =>
    obtain ⟨pair, others, hpair, hothers, rfl⟩ := readEntries_cons_eq_ok_iff.1 h
    cases hothers
    rw [List.append_nil]
    exact spells_of_readEntry (hlineFeed e List.mem_cons_self) hpair
  | cons hsep _ ih =>
    obtain ⟨pair, others, hpair, hothers, rfl⟩ := readEntries_cons_eq_ok_iff.1 h
    obtain ⟨he, hes⟩ := List.forall_mem_cons.1 hlineFeed
    exact .append (spells_of_readEntry he hpair) hsep (ih hes hothers)

/-- **The pairs that are read from a text have a text.** -/
theorem isAdmissible_of_read {text : String} {pairs : List ColumnPair}
    (h : read text = .ok pairs) {pair : ColumnPair} (hp : pair ∈ pairs) : IsAdmissible pair := by
  obtain ⟨e, he, hnames, hentry⟩ := exists_isEntryOf_of_read h hp
  have hliteral := literal_not_isInfix_entries text.toList e he
  exact {
    toHasNames := hnames
    lineFeed := lineFeed_not_mem_of_read h hp
    literal := ⟨fun hin => hliteral (hin.trans hentry.isInfix.1),
      fun hin => hliteral (hin.trans hentry.isInfix.2)⟩ }

/-! ## Writing -/

theorem toList_writeEntry (pair : ColumnPair) :
    (writeEntry pair).toList = pair.foreignColumn.toList ++ '=' :: pair.localColumn.toList := by
  rw [writeEntry, String.toList_append, String.toList_append, List.append_assoc]
  rfl

/-- A pair is spelled by its entry, and blanks behind it do not count. -/
theorem IsAdmissible.spells_writeEntry_append {pair : ColumnPair} (h : IsAdmissible pair)
    {blanks : List Char} (hblanks : ∀ b ∈ blanks, b = ' ') :
    Spells ((writeEntry pair).toList ++ blanks) [pair] := by
  rw [toList_writeEntry]
  refine .entry ⟨[], [], [], blanks, fun b hb => ?_, ?_⟩ ?_
  · rw [hblanks b (by simpa using hb)]
    decide
  · simp only [List.append_assoc, List.cons_append, List.nil_append]
  · simp only [List.mem_append, List.mem_cons, not_or]
    exact ⟨⟨h.lineFeed.1, by decide, h.lineFeed.2⟩, fun hin => absurd (hblanks _ hin) (by decide)⟩

theorem IsAdmissible.spells_writeEntry {pair : ColumnPair} (h : IsAdmissible pair) :
    Spells (writeEntry pair).toList [pair] := by
  have happend := h.spells_writeEntry_append (List.forall_mem_nil (· = ' '))
  rwa [List.append_nil] at happend

/-- The entries of some pairs, and an empty one if the last of them is to be ended too. -/
def entryTexts (isEnded : Bool) (pairs : List ColumnPair) : List (List Char) :=
  (pairs.map fun pair => (writeEntry pair).toList) ++ if isEnded then [[]] else []

/-- The text of some pairs, with a separator between their entries. -/
def joinEntries (sep : List Char) (isEnded : Bool) (pairs : List ColumnPair) : List Char :=
  Text.glue sep (entryTexts isEnded pairs)

/-- **Some pairs are spelled by their entries** with a separator between them. -/
theorem spells_joinEntries {sep : List Char} (hsep : IsSeparator sep) (isEnded : Bool)
    {pairs : List ColumnPair} (h : ∀ pair ∈ pairs, IsAdmissible pair) :
    Spells (joinEntries sep isEnded pairs) pairs := by
  have hnil : Spells [] [] := .blank (List.forall_mem_nil _) List.not_mem_nil
  induction pairs with
  | nil => cases isEnded <;> exact hnil
  | cons pair pairs ih =>
    obtain ⟨hpair, hpairs⟩ := List.forall_mem_cons.1 h
    have hentry := hpair.spells_writeEntry
    cases pairs with
    | nil =>
      cases isEnded with
      | false => exact hentry
      | true =>
        rw [show joinEntries sep true [pair] = (writeEntry pair).toList ++ (sep ++ []) from
          List.append_assoc _ _ _]
        exact hentry.append hsep hnil
    | cons other pairs =>
      show Spells (Text.glue sep ((writeEntry pair).toList :: (writeEntry other).toList ::
        entryTexts isEnded pairs)) _
      rw [Text.glue_cons_cons, List.append_assoc]
      exact hentry.append hsep (ih hpairs)

theorem toList_write (pairs : List ColumnPair) :
    (write pairs).toList = joinEntries ['\n'] false pairs := by
  rw [write, String.toList_intercalate, joinEntries, Text.glue_eq_intercalate, entryTexts,
    List.map_map]
  exact congrArg (List.intercalate ['\n']) (List.append_nil _).symm

/-- So are they by what is written of them, one entry a line. -/
theorem spells_write {pairs : List ColumnPair} (h : ∀ pair ∈ pairs, IsAdmissible pair) :
    Spells (write pairs).toList pairs := by
  rw [toList_write]
  exact spells_joinEntries (by decide) false h

/-- **The reader inverts every spelling**: pairs are read from a text just if they have texts and
this is one of them. So they are read again when they are written. -/
theorem read_eq_ok_iff_spells (text : String) (pairs : List ColumnPair) :
    (read text = .ok pairs ↔
      (∀ pair ∈ pairs, IsAdmissible pair) ∧ Spells text.toList pairs) ∧
    (read text = .ok pairs → read (write pairs) = .ok pairs) := by
  have hsound : read text = .ok pairs → ∀ pair ∈ pairs, IsAdmissible pair :=
    fun h _ hp => isAdmissible_of_read h hp
  refine ⟨⟨fun h => ⟨hsound h, ?_⟩, fun ⟨hpairs, hspells⟩ => hspells.readEntries_eq hpairs⟩,
    fun h => (spells_write (hsound h)).readEntries_eq (hsound h)⟩
  exact (isCut_entries text.toList).spells (lineFeed_not_mem_entries text.toList) h

/-- A text with all the separators and with blank entries, in which one name ends in a backslash,
another holds an equals sign, and a third is an `n` behind a line that ends in a backslash. -/
theorem read_eq_ok_iff_spells_mixed :
    ((∀ pair ∈ [⟨"id", "back\\"⟩, ⟨"no", "a=b"⟩, ⟨"\\", "n"⟩], IsAdmissible pair) ∧
      Spells "\r\n id\t= back\\\\nno \r=a=b\r\n\\n  \n\\ =\rn".toList
        [⟨"id", "back\\"⟩, ⟨"no", "a=b"⟩, ⟨"\\", "n"⟩]) ∧
    read (write [⟨"id", "back\\"⟩, ⟨"no", "a=b"⟩, ⟨"\\", "n"⟩])
      = .ok [⟨"id", "back\\"⟩, ⟨"no", "a=b"⟩, ⟨"\\", "n"⟩] := by
  have hread : read "\r\n id\t= back\\\\nno \r=a=b\r\n\\n  \n\\ =\rn"
      = .ok [⟨"id", "back\\"⟩, ⟨"no", "a=b"⟩, ⟨"\\", "n"⟩] := by decide +kernel
  exact ⟨(read_eq_ok_iff_spells _ _).1.1 hread, (read_eq_ok_iff_spells _ _).2 hread⟩

end SchemaGen.Model.ForeignKeyText
