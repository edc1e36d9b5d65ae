import SchemaGen.Model.ForeignKeyText
import SchemaGen.Proofs.Text.Trim

/-!
# Where a foreign key text is cut

The entries of a foreign key text stand between separators (`isCut_entries`), and no entry holds
one: neither a line feed nor the two characters backslash and `n`. A carriage return is another
matter. It belongs to a separator only with a line feed behind it and to an entry otherwise, so
where a text that ends in one meets a separator that is a line feed, it changes sides. That is the
one thing that happens at a seam (`entries_append_separator`), whatever texts meet there, malformed
ones included, and it does not count, since a carriage return is a blank. So reading a text with a
separator in its middle is reading what stands on either side (`read_append_separator`).
-/

namespace SchemaGen.Model.ForeignKeyText

/-! ## Separators -/

/-- What ends an entry. -/
def IsSeparator (sep : List Char) : Prop := sep ∈ [['\\', 'n'], ['\n'], ['\r', '\n']]

instance : DecidablePred IsSeparator := fun sep =>
  inferInstanceAs (Decidable (sep ∈ [['\\', 'n'], ['\n'], ['\r', '\n']]))

namespace IsSeparator

variable {sep : List Char} (h : IsSeparator sep) (rest : List Char)
include h

/-- A separator is found at the start of a text, -/
theorem entries_append : entries (sep ++ rest) = [] :: entries rest := by
  have hall : ∀ sep ∈ [['\\', 'n'], ['\n'], ['\r', '\n']],
      entries (sep ++ rest) = [] :: entries rest := by
    simp [entries]
  exact hall sep h

/-- and it does not end one that has begun before it, -/
theorem append_ne_cons {more : List Char} : sep ++ rest ≠ 'n' :: more := by
  have hall : ∀ sep ∈ [['\\', 'n'], ['\n'], ['\r', '\n']], sep ++ rest ≠ 'n' :: more := by simp
  exact hall sep h

/-- unless it is a line feed. -/
theorem eq_lineFeed {more : List Char} (hmore : sep ++ rest = '\n' :: more) : sep = ['\n'] := by
  have hall : ∀ sep ∈ [['\\', 'n'], ['\n'], ['\r', '\n']],
      sep ++ rest = '\n' :: more → sep = ['\n'] := by simp
  exact hall sep h hmore

end IsSeparator

/-! ## Cuts -/

/-- **A text that is cut into some parts**, with a separator between any two of them. -/
inductive IsCut : List Char → List (List Char) → Prop
  | last (e : List Char) : IsCut e [e]
  | cons {e sep cs : List Char} {es : List (List Char)} :
      IsSeparator sep → IsCut cs es → IsCut (e ++ (sep ++ cs)) (e :: es)

/-- A character in front belongs to the first part. -/
theorem IsCut.consHead {cs : List Char} {es : List (List Char)} (h : IsCut cs es) (c : Char) :
    IsCut (c :: cs) (consHead c es) := by
  cases h with
  | last => exact .last _
  | cons hsep h => exact .cons (e := c :: _) hsep h

/-- **A text is cut into its entries.** -/
theorem isCut_entries (cs : List Char) : IsCut cs (entries cs) := by
  fun_induction entries cs with
  | case1 => exact .last []
  | case2 rest ih => exact .cons (e := []) (show IsSeparator ['\\', 'n'] by decide) ih
  | case3 rest ih => exact .cons (e := []) (show IsSeparator ['\r', '\n'] by decide) ih
  | case4 rest ih => exact .cons (e := []) (show IsSeparator ['\n'] by decide) ih
  | case5 c rest _ _ _ ih => exact ih.consHead c

/-! ## Entries hold no separator -/

theorem lineFeed_not_mem_consHead {c : Char} (hc : c ≠ '\n') {es : List (List Char)}
    (h : ∀ e ∈ es, '\n' ∉ e) : ∀ e ∈ consHead c es, '\n' ∉ e := by
  cases es with
  | nil => simpa [consHead] using hc.symm
  | cons e es =>
    intro e' he'
    rcases List.mem_cons.1 he' with rfl | he'
    · rw [List.mem_cons, not_or]
      exact ⟨hc.symm, h e List.mem_cons_self⟩
    · exact h e' (List.mem_cons_of_mem e he')

/-- **No entry holds a line feed.** -/
theorem lineFeed_not_mem_entries (cs : List Char) : ∀ e ∈ entries cs, '\n' ∉ e := by
  fun_induction entries cs with
  | case1 => simp
  | case2 rest ih => exact List.forall_mem_cons.2 ⟨List.not_mem_nil, ih⟩
  | case3 rest ih => exact List.forall_mem_cons.2 ⟨List.not_mem_nil, ih⟩
  | case4 rest ih => exact List.forall_mem_cons.2 ⟨List.not_mem_nil, ih⟩
  | case5 c rest _ _ hc ih => exact lineFeed_not_mem_consHead (fun h => hc h) ih

/-- The first entry is at the start of the text. -/
theorem IsCut.head_isPrefix {cs e : List Char} {es : List (List Char)} (h : IsCut cs (e :: es)) :
    e <+: cs := by
  cases h with
  | last => exact List.prefix_refl _
  | cons => exact List.prefix_append _ _

/-- **No entry holds the two characters** backslash and `n`. -/
theorem literal_not_isInfix_entries (cs : List Char) :
    ∀ e ∈ entries cs, ¬ ['\\', 'n'] <:+: e := by
  have hnil : ¬ ['\\', 'n'] <:+: ([] : List Char) := by decide
  fun_induction entries cs with
  | case1 => exact List.forall_mem_singleton.2 hnil
  | case2 rest ih => exact List.forall_mem_cons.2 ⟨hnil, ih⟩
  | case3 rest ih => exact List.forall_mem_cons.2 ⟨hnil, ih⟩
  | case4 rest ih => exact List.forall_mem_cons.2 ⟨hnil, ih⟩
  | case5 c rest hliteral _ _ ih =>
    have hcut := isCut_entries rest
    revert ih hcut
    cases entries rest with
    | nil => exact fun _ hcut => nomatch hcut
    | cons e es =>
      intro ih hcut
      obtain ⟨he, hes⟩ := List.forall_mem_cons.1 ih
      refine List.forall_mem_cons.2 ⟨fun hin => ?_, hes⟩
      rcases List.infix_cons_iff.1 hin with ⟨t, ht⟩ | hin
      · -- the `n` behind the backslash is the first character of the rest
        obtain ⟨rfl, rfl⟩ := List.cons.inj ht
        obtain ⟨more, hmore⟩ := hcut.head_isPrefix
        exact hliteral (t ++ more) rfl hmore.symm
      · exact he hin

/-- A text that holds no separator is one entry. -/
theorem entries_eq_singleton {cs : List Char} (hlineFeed : '\n' ∉ cs)
    (hliteral : ¬ ['\\', 'n'] <:+: cs) : entries cs = [cs] := by
  induction cs with
  | nil => rfl
  | cons c cs ih =>
    have hcs : entries cs = [cs] := ih (fun hin => hlineFeed (List.mem_cons_of_mem c hin))
      fun hin => hliteral (hin.trans (List.suffix_cons c cs).isInfix)
    rw [entries, hcs]
    · rfl
    · rintro more rfl rfl
      exact hliteral ⟨[], more, rfl⟩
    · rintro more rfl rfl
      exact hlineFeed (by simp)
    · rintro rfl
      exact hlineFeed List.mem_cons_self

/-! ## Seams -/

/-- **Where a separator follows a text, nothing is cut but its last entry**, and of this no more
than a carriage return, which belongs to the separator if that is a line feed. -/
theorem entries_append_separator (cs : List Char) {sep : List Char} (hsep : IsSeparator sep)
    (rest : List Char) : ∃ es e e', entries cs = es ++ [e] ∧
      entries (cs ++ (sep ++ rest)) = es ++ e' :: entries rest ∧ (e = e' ∨ e = e' ++ ['\r']) := by
  have hbreak : ∀ {cs tail : List Char}, (∃ es e e', entries cs = es ++ [e] ∧
      entries tail = es ++ e' :: entries rest ∧ (e = e' ∨ e = e' ++ ['\r'])) →
      ∃ es e e', [] :: entries cs = es ++ [e] ∧
        [] :: entries tail = es ++ e' :: entries rest ∧ (e = e' ∨ e = e' ++ ['\r']) := by
    rintro cs tail ⟨es, e, e', hcs, htail, he⟩
    exact ⟨[] :: es, e, e', by rw [hcs]; rfl, by rw [htail]; rfl, he⟩
  fun_induction entries cs with
  | case1 => exact ⟨[], [], [], rfl, hsep.entries_append rest, .inl rfl⟩
  | case2 cs ih => exact hbreak ih
  | case3 cs ih => exact hbreak ih
  | case4 cs ih => exact hbreak ih
  | case5 c cs hliteral hbreaks hlineFeed ih =>
    by_cases hseam : cs = [] ∧ c = '\r' ∧ sep = ['\n']
    · -- the carriage return changes sides
      obtain ⟨rfl, rfl, rfl⟩ := hseam
      exact ⟨[], ['\r'], [], rfl, rfl, .inr rfl⟩
    · have hcons : entries (c :: (cs ++ (sep ++ rest)))
          = consHead c (entries (cs ++ (sep ++ rest))) := by
        rw [entries]
        · rintro more rfl hmore
          cases cs with
          | nil => exact hsep.append_ne_cons rest hmore
          | cons d cs => exact hliteral cs rfl (by rw [(List.cons.inj hmore).1])
        · rintro more rfl hmore
          cases cs with
          | nil => exact hseam ⟨rfl, rfl, hsep.eq_lineFeed rest hmore⟩
          | cons d cs => exact hbreaks cs rfl (by rw [(List.cons.inj hmore).1])
        · exact hlineFeed
      obtain ⟨es, e, e', hcs, htail, he⟩ := ih
      rw [List.cons_append, hcons, hcs, htail]
      cases es with
      | nil => exact ⟨[], c :: e, c :: e', rfl, rfl, he.imp (congrArg _) (congrArg _)⟩
      | cons d es => exact ⟨(c :: d) :: es, e, e', rfl, rfl, he⟩

/-- A carriage return at the end of an entry does not count. -/
theorem readEntry_append_carriageReturn (cs : List Char) :
    readEntry (cs ++ ['\r']) = readEntry cs := by
  have hblank : ∀ b ∈ ['\r'], Text.isBlank b = true := List.forall_mem_singleton.2 rfl
  rw [readEntry, readEntry, Text.trimChars_append_blanks cs hblank]

/-- Entries are read one after the other, and the first error counts. -/
theorem readEntries_append (es fs : List (List Char)) :
    readEntries (es ++ fs) = (do
      let pairs ← readEntries es
      let others ← readEntries fs
      pure (pairs ++ others)) := by
  induction es with
  | nil =>
    show readEntries fs = readEntries fs >>= pure
    exact (bind_pure _).symm
  | cons e es ih =>
    rw [List.cons_append, readEntries, readEntries, ih]
    cases readEntry e with
    | error m => rfl
    | ok pair =>
      cases pair with
      | none => rfl
      | some pair => cases readEntries es <;> cases readEntries fs <;> rfl

/-- **A text with a separator in it is read on either side.** -/
theorem readEntries_append_separator (cs : List Char) {sep : List Char} (hsep : IsSeparator sep)
    (rest : List Char) :
    readEntries (entries (cs ++ (sep ++ rest))) = (do
      let pairs ← readEntries (entries cs)
      let others ← readEntries (entries rest)
      pure (pairs ++ others)) := by
  obtain ⟨es, e, e', hcs, htail, he⟩ := entries_append_separator cs hsep rest
  have hread : readEntries [e'] = readEntries [e] := by
    rcases he with rfl | rfl
    · rfl
    · simp only [readEntries, readEntry_append_carriageReturn]
  rw [htail, hcs, List.append_cons, readEntries_append, readEntries_append, readEntries_append,
    hread]

/-- **Reading a text with a separator in it is reading the texts on either side**, one after the
other. If the first is malformed its error counts, and otherwise that of the second. -/
theorem read_append_separator {sep : String} (hsep : IsSeparator sep.toList) (text rest : String) :
    read (text ++ sep ++ rest) = (do
      let pairs ← read text
      let others ← read rest
      pure (pairs ++ others)) := by
  unfold read
  rw [String.toList_append, String.toList_append, List.append_assoc,
    readEntries_append_separator text.toList hsep rest.toList]

/-- Texts whose ends look like a part of the separator between them: a carriage return before a line
feed, a backslash before the two characters, and an `n` behind a backslash and a line feed. -/
theorem read_append_separator_seams :
    read ("id=part_id\r" ++ "\n" ++ "no=part_no") = .ok [⟨"id", "part_id"⟩, ⟨"no", "part_no"⟩] ∧
    read ("id=back\\" ++ "\\n" ++ "no=n") = .ok [⟨"id", "back\\"⟩, ⟨"no", "n"⟩] ∧
    read ("id=\\" ++ "\n" ++ "n") = .error ⟨"n"⟩ ∧
    read ("orphan\r" ++ "\r\n" ++ "=") = .error ⟨"orphan"⟩ :=
  ⟨(read_append_separator (by decide) _ _).trans (by decide +kernel),
    (read_append_separator (by decide) _ _).trans (by decide +kernel),
    (read_append_separator (by decide) _ _).trans (by decide +kernel),
    (read_append_separator (by decide) _ _).trans (by decide +kernel)⟩

end SchemaGen.Model.ForeignKeyText
