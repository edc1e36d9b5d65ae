import Mathlib.Data.List.Basic
import SchemaGen.Proofs.Text.Lines
import SchemaGen.Proofs.Xml.Markup

/-!
# What is read of a document as it is written

Signs are read as the characters they stand for, but for white space that stands for itself
(`Sign.read_eq_map_char`). So texts with a separator between them are read as such, while of a line
break between them a blank is left (`Sign.read_glue_of_areKept`, `Sign.read_glue_of_isLineBreak`).

A path of names leads to the tags of a document as it leads to its elements
(`Script.select_root`), and an attribute of a tag is one of its element
(`Tag.attribute?_element`).
-/

namespace SchemaGen.Xml

/-! ## Signs -/

namespace Sign

/-- Whether a sign is read as the character it stands for. -/
def IsKept : Sign → Prop
  | plain c => isSpace c = true → c = ' '
  | reference _ _ => True

instance : DecidablePred IsKept
  | plain c => inferInstanceAs (Decidable (isSpace c = true → c = ' '))
  | reference _ _ => inferInstanceAs (Decidable True)

def AreKept (signs : List Sign) : Prop := ∀ s ∈ signs, s.IsKept

instance (signs : List Sign) : Decidable (AreKept signs) :=
  inferInstanceAs (Decidable (∀ s ∈ signs, s.IsKept))

/-- A character that is no white space other than a blank can be written in any way. -/
theorem isKept_of_char {s : Sign} (h : s.char ∉ ['\n', '\r', '\t']) : s.IsKept := by
  cases s with
  | plain c =>
    intro hspace
    simp only [isSpace, Bool.or_eq_true, beq_iff_eq] at hspace
    rcases hspace with ((hc | rfl) | rfl) | rfl
    · exact hc
    all_goals exact absurd (by decide) h
  | reference r c => trivial

theorem read_append_of_areKept {signs : List Sign} (h : AreKept signs) (rest : List Sign) :
    read (signs ++ rest) = signs.map char ++ read rest := by
  induction signs with
  | nil => rfl
  | cons s signs ih =>
    obtain ⟨hs, hsigns⟩ := List.forall_mem_cons.1 h
    rw [List.cons_append, List.map_cons, List.cons_append, ← ih hsigns]
    cases s with
    | plain c =>
      have hc : (if isSpace c then ' ' else c) = c := by
        split
        · next hspace => exact (hs hspace).symm
        · rfl
      rw [read, hc]
      · rfl
      · rintro _ - rfl
        exact absurd (hs rfl) (by decide)
    | reference r c => rw [read]; rfl

/-- **Signs are read as the characters they stand for.** -/
theorem read_eq_map_char {signs : List Sign} (h : AreKept signs) :
    read signs = signs.map char := by
  have happend := read_append_of_areKept h []
  rwa [List.append_nil, show read [] = [] from rfl, List.append_nil] at happend

/-- A line break that is written as such. -/
def IsLineBreak (sep : List Sign) : Prop :=
  sep ∈ [[plain '\n'], [plain '\r', plain '\n'], [plain '\r']]

/-- A line break gives a blank, unless a line feed follows that it does not end with. -/
theorem read_append_of_isLineBreak {sep : List Sign} (h : IsLineBreak sep) {rest : List Sign}
    (hrest : plain '\n' ∈ rest → plain '\n' ∈ sep) : read (sep ++ rest) = ' ' :: read rest := by
  simp only [IsLineBreak, List.mem_cons, List.not_mem_nil, or_false] at h
  rcases h with rfl | rfl | rfl
  · rfl
  · rfl
  · rw [List.singleton_append, read]
    · rfl
    · rintro more rfl -
      exact absurd (hrest List.mem_cons_self) (by simp)

/-- **A separator that is kept stands between the texts it separates.** -/
theorem read_glue_of_areKept {sep : List Sign} {texts : List (List Sign)} (hsep : AreKept sep)
    (h : ∀ signs ∈ texts, AreKept signs) :
    read (Text.glue sep texts) = Text.glue (sep.map char) (texts.map (List.map char)) := by
  rw [read_eq_map_char, Text.map_glue]
  intro s hs
  rcases Text.mem_glue hs with hs | ⟨signs, hsigns, hs⟩
  · exact hsep s hs
  · exact h signs hsigns s hs

/-- **Of a line break a blank is left.** -/
theorem read_glue_of_isLineBreak {sep : List Sign} {texts : List (List Sign)}
    (hsep : IsLineBreak sep) (h : ∀ signs ∈ texts, AreKept signs) :
    read (Text.glue sep texts) = Text.glue [' '] (texts.map (List.map char)) := by
  induction texts with
  | nil => rfl
  | cons signs texts ih =>
    obtain ⟨hsigns, hall⟩ := List.forall_mem_cons.1 h
    cases texts with
    | nil => exact read_eq_map_char hsigns
    | cons signs' texts =>
      -- the texts hold no line feed, so a break that is a carriage return does not join one
      have hfeed : plain '\n' ∈ Text.glue sep (signs' :: texts) → plain '\n' ∈ sep := by
        intro hin
        rcases Text.mem_glue hin with hin | ⟨signs, hsigns, hin⟩
        · exact hin
        · exact absurd (hall signs hsigns _ hin) (by decide)
      rw [Text.glue_cons_cons, List.append_assoc, read_append_of_areKept hsigns,
        read_append_of_isLineBreak hsep hfeed, ih hall]
      simp [Text.glue_cons_cons]

end Sign

/-! ## Attributes -/

/-- **An attribute of a tag is one of its element.** -/
theorem Tag.attribute?_element {t : Tag} (h : t.IsWellFormed) {a : Attribute}
    (ha : a ∈ t.attributes) (children : List Element) :
    (t.element children).attribute? (String.ofList a.name) = some a.entry.2 := by
  have hn := h.names_nodup
  show ((t.attributes.map Attribute.entry).find? (·.1 == String.ofList a.name)).map Prod.snd = _
  generalize t.attributes = as at ha hn
  induction as with
  | nil => cases ha
  | cons b as ih =>
    rw [List.map_cons, List.nodup_cons] at hn
    rcases List.mem_cons.1 ha with rfl | ha
    · rw [List.map_cons, List.find?_cons_of_pos (by simp [Attribute.entry])]
      rfl
    · have hne : String.ofList b.name ≠ String.ofList a.name := fun he =>
        hn.1 (String.ofList_injective he ▸ List.mem_map_of_mem ha)
      rw [List.map_cons, List.find?_cons_of_neg (by simpa [Attribute.entry] using hne)]
      exact ih ha hn.2

/-! ## Elements -/

namespace Markup

/-- The tags of the elements, each with what stands inside. -/
def children : Markup → List (Tag × Markup)
  | data _ => []
  | comment _ _ rest => rest.children
  | empty _ tag rest => (tag, data []) :: rest.children
  | element _ tag content rest => (tag, content) :: rest.children

/-- The element of a tag with what stands inside. -/
def elementOf (e : Tag × Markup) : Element := e.1.element e.2.elements

/-- The tags that are reached by a path of names. -/
def select : List String → Tag × Markup → List (Tag × Markup)
  | [], e => [e]
  | name :: path, e =>
    (e.2.children.filter (String.ofList ·.1.name == name)).flatMap (select path)

theorem elements_eq (m : Markup) : m.elements = m.children.map elementOf := by
  induction m with
  | data cs => rfl
  | comment before body rest ih => exact ih
  | empty before tag rest ih => exact congrArg _ ih
  | element before tag content rest _ ih => exact congrArg _ ih

/-- **A path leads to the elements of the tags it leads to.** -/
theorem select_elementOf (path : List String) (e : Tag × Markup) :
    (elementOf e).select path = (select path e).map elementOf := by
  induction path generalizing e with
  | nil => rfl
  | cons name path ih =>
    have hchildren : (elementOf e).childrenTagged name
        = (e.2.children.filter (String.ofList ·.1.name == name)).map elementOf := by
      show e.2.elements.filter (·.tag == name) = _
      rw [elements_eq, List.filter_map]
      rfl
    rw [Element.select, hchildren, select, List.flatMap_map, List.map_flatMap]
    exact List.flatMap_congr fun c _ => ih c

theorem isWellFormed_of_mem_children {m : Markup} (h : m.IsWellFormed) {e : Tag × Markup}
    (he : e ∈ m.children) : e.1.IsWellFormed ∧ e.2.IsWellFormed := by
  induction m with
  | data cs => cases he
  | comment before body rest ih => exact ih h.2.2 he
  | empty before tag rest ih =>
    obtain ⟨-, htag, hrest⟩ := h
    rcases List.mem_cons.1 he with rfl | he
    · exact ⟨htag, show IsData [] by decide⟩
    · exact ih hrest he
  | element before tag content rest _ ih =>
    obtain ⟨-, htag, hcontent, hrest⟩ := h
    rcases List.mem_cons.1 he with rfl | he
    · exact ⟨htag, hcontent⟩
    · exact ih hrest he

theorem isWellFormed_of_mem_select {path : List String} {e e' : Tag × Markup}
    (h : e.1.IsWellFormed ∧ e.2.IsWellFormed) (he : e' ∈ select path e) :
    e'.1.IsWellFormed ∧ e'.2.IsWellFormed := by
  induction path generalizing e with
  | nil => rwa [List.mem_singleton.1 he]
  | cons name path ih =>
    obtain ⟨c, hc, he⟩ := List.mem_flatMap.1 he
    exact ih (isWellFormed_of_mem_children h.2 (List.mem_filter.1 hc).1) he

end Markup

namespace Script

/-- The tags that are reached from the root by a path of names. -/
def select (path : List String) (d : Script) : List (Tag × Markup) :=
  Markup.select path (d.tag, d.content)

theorem select_root (path : List String) (d : Script) :
    d.root.select path = (d.select path).map Markup.elementOf :=
  Markup.select_elementOf path (d.tag, d.content)

theorem IsWellFormed.tag_of_mem_select {d : Script} (h : d.IsWellFormed) {path : List String}
    {e : Tag × Markup} (he : e ∈ d.select path) : e.1.IsWellFormed :=
  (Markup.isWellFormed_of_mem_select ⟨h.tag, h.content⟩ he).1

end Script

end SchemaGen.Xml
