import Mathlib.Data.List.Basic
import SchemaGen.Proofs.Xml.Tags

/-!
# Values are read with blanks for their white space

The value of an attribute is read piece by piece. A sign that stands for itself gives its character,
and so does one that is written by a reference; but white space gives a blank, a line end of two
signs a single one (`attributeText_signs`). So lines of a value are told apart when it is read only
if what separates them is written by its number.
-/

namespace SchemaGen.Xml

/-! ## Pieces of a value -/

/-- Signs that belong to the piece found last are passed over. -/
theorem pieces_eq_drop (r : Reading) (skip : Nat) (cs : List Char) :
    pieces r skip cs = pieces r 0 (cs.drop skip) := by
  induction cs generalizing skip with
  | nil => rw [List.drop_nil, pieces, pieces]
  | cons c cs ih =>
    cases skip with
    | zero => rfl
    | succ skip => rw [pieces, ih, List.drop_succ_cons]

theorem pieces_lineEnd (rest : List Char) :
    pieces innerReading 0 ('\r' :: '\n' :: rest) = .space :: pieces innerReading 0 rest := by
  rw [pieces]

/-- A sign that is no markup, unless it is the first of a line end of two. -/
theorem pieces_plain {c : Char} (hless : c ≠ '<') (hamp : c ≠ '&') {rest : List Char}
    (hline : ∀ rest', c = '\r' → rest ≠ '\n' :: rest') :
    pieces innerReading 0 (c :: rest)
      = (if isSpace c then .space else .char c) :: pieces innerReading 0 rest := by
  rw [pieces, if_neg hamp, if_neg hless]
  · split <;> rfl
  · exact fun rest' hc hrest => hline rest' hc hrest

theorem pieces_body {r : Reference} {c : Char} (h : r.IsWritten) (hc : r.char? = some c)
    (rest : List Char) :
    ∃ left, pieces innerReading 0 ('&' :: (r.body ++ rest))
      = (match r with
        | .entity n => .entity n left
        | .number base digits => .number (numberedChar? base digits) left)
        :: pieces innerReading 0 rest := by
  have hlength : (r.body ++ rest).length - rest.length = r.body.length := by
    rw [List.length_append, Nat.add_sub_cancel]
  refine ⟨(r.body ++ rest).length + 1, ?_⟩
  -- the signs of the reference are still in front, and are passed over one by one
  rw [pieces, if_pos rfl, r.reference_body h hc]
  · cases r <;> dsimp only <;> rw [hlength, pieces_eq_drop, List.drop_left]
  · exact fun _ hamp _ => absurd hamp (by decide)

/-! ## Values -/

section Fold

variable {x : ValueContext} (hx : x.isCdata = true) (opened : List (List Char))
  (nested : List Char → List Char → ValueText → Except ValueFault ValueText)

include hx in
theorem addPiece_space (t : ValueText) :
    addPiece x opened nested t .space = .ok { t with chars := ' ' :: t.chars } := by
  rw [addPiece, ValueText.addSpace, hx]
  rfl

include hx in
/-- A piece that is white space or a character. -/
theorem addPiece_plain (c : Char) (t : ValueText) :
    addPiece x opened nested t (if isSpace c then .space else .char c)
      = .ok { t with chars := (if isSpace c then ' ' else c) :: t.chars } := by
  split
  · exact addPiece_space hx opened nested t
  · rfl

include hx in
/-- **A reference gives a piece of its own.** -/
theorem exists_piece_reference {r : Reference} {c : Char} (h : r.IsWritten) (hc : r.char? = some c)
    (rest : List Char) (t : ValueText) :
    ∃ p, pieces innerReading 0 ('&' :: (r.body ++ rest)) = p :: pieces innerReading 0 rest ∧
      addPiece x opened nested t p = .ok { t with chars := c :: t.chars } := by
  obtain ⟨left, hpieces⟩ := pieces_body h hc rest
  refine ⟨_, hpieces, ?_⟩
  cases r with
  | entity n =>
    have hname : predefined? n = some c := hc
    rw [addPiece]
    dsimp only
    rw [hname]
  | number base digits =>
    have hnumber : numberedChar? base digits = some c := hc
    dsimp only
    rw [hnumber, addPiece, ValueText.add]
    split
    · next hblank => rw [ValueText.addSpace, hx, hblank]; rfl
    · rfl

/-- A line feed that is not the end of a reference is a sign of its own. -/
theorem exists_of_flatMap_text {signs : List Sign} {rest : List Char}
    (h : signs.flatMap Sign.text = '\n' :: rest) : ∃ rest', signs = .plain '\n' :: rest' := by
  cases signs with
  | nil => cases h
  | cons s signs =>
    cases s with
    | plain c =>
      obtain ⟨rfl, -⟩ := List.cons.inj h
      exact ⟨signs, rfl⟩
    | reference r c => cases h

include hx in
/-- **The pieces of a value add the characters that are read.** -/
theorem foldlM_pieces {quote : Char} {signs : List Sign} (h : ∀ s ∈ signs, s.IsAllowed quote)
    (t : ValueText) :
    (pieces innerReading 0 (signs.flatMap Sign.text)).foldlM (addPiece x opened nested) t
      = .ok { t with chars := (Sign.read signs).reverse ++ t.chars } := by
  -- the two signs of a line end are read at once, so this goes by how signs are read
  induction signs using Sign.read.induct generalizing t with
  | case1 => rfl
  | case2 rest ih =>
    obtain ⟨-, h⟩ := List.forall_mem_cons.1 h
    obtain ⟨-, hrest⟩ := List.forall_mem_cons.1 h
    show (pieces innerReading 0 ('\r' :: '\n' :: rest.flatMap Sign.text)).foldlM _ t = _
    rw [pieces_lineEnd, List.foldlM_cons, addPiece_space hx]
    refine (ih hrest _).trans ?_
    simp [Sign.read]
  | case3 c rest hline ih =>
    obtain ⟨⟨-, hless, hamp⟩, hrest⟩ := List.forall_mem_cons.1 h
    have hread : Sign.read (.plain c :: rest)
        = (if isSpace c then ' ' else c) :: Sign.read rest := by
      rw [Sign.read]
      exact hline
    have hline' : ∀ more, c = '\r' → rest.flatMap Sign.text ≠ '\n' :: more := by
      intro more hc hmore
      obtain ⟨signs, hsigns⟩ := exists_of_flatMap_text hmore
      exact hline signs hsigns hc
    show (pieces innerReading 0 (c :: rest.flatMap Sign.text)).foldlM _ t = _
    rw [pieces_plain hless hamp hline', List.foldlM_cons, addPiece_plain hx]
    refine (ih hrest _).trans ?_
    rw [hread, List.reverse_cons, List.append_assoc]
    rfl
  | case4 r c rest ih =>
    obtain ⟨⟨hr, hc⟩, hrest⟩ := List.forall_mem_cons.1 h
    obtain ⟨p, hpieces, hadd⟩ := exists_piece_reference hx opened nested hr hc
      (rest.flatMap Sign.text) t
    show (pieces innerReading 0 ('&' :: (r.body ++ rest.flatMap Sign.text))).foldlM _ t = _
    rw [hpieces, List.foldlM_cons, hadd]
    refine (ih hrest _).trans ?_
    rw [Sign.read, List.reverse_cons, List.append_assoc]
    rfl

end Fold

/-- **The value of an attribute is read.** -/
theorem attributeText_signs {x : ValueContext} (hx : x.isCdata = true) {quote : Char}
    {signs : List Sign} (h : ∀ s ∈ signs, s.IsAllowed quote) (opened : List (List Char))
    (spent : Nat) :
    Dtd.attributeText x innerReading opened spent (signs.flatMap Sign.text)
      = .ok (Sign.read signs, spent) := by
  rw [Dtd.attributeText, addValue, foldlM_pieces hx _ _ h]
  simp [hx]

/-! ## What a tag opens -/

/-- What a tag is read to open, outside of all namespaces. -/
def Tag.opened (t : Tag) : Opened where
  tag := String.ofList t.name
  attributes := t.attributes.map Attribute.entry
  scope := Scope.outermost

/-- A name without a colon binds no prefix, unless it is the word for that. -/
theorem boundPrefix?_eq_none {n : List Char} (h : ':' ∉ n) (hne : n ≠ "xmlns".toList) :
    boundPrefix? n = none := by
  rw [boundPrefix?, if_neg hne]
  split
  · next pre hpre =>
    rw [← List.append_eq_of_isPrefixOf?_eq_some hpre] at h
    exact absurd (List.mem_append_left pre (by decide)) h
  · rfl

theorem splitName_of_colon_not_mem {n : List Char} (h : ':' ∉ n) : splitName n = (none, n) := by
  have hall : ∀ c ∈ n, (c != ':') = true := by
    intro c hc
    rw [bne_iff_ne]
    rintro rfl
    exact h hc
  have hdrop : (n ++ []).dropWhile (· != ':') = [] := List.dropWhile_append_of_pos hall
  rw [List.append_nil] at hdrop
  rw [splitName, hdrop]

section Resolve

variable {dtd : Dtd} (hdtd : dtd.rules = []) (isTooMuch : Nat → Bool) (opened : List (List Char))
  (element : List Char)

include hdtd in
theorem rulesOf_eq_nil : dtd.rulesOf element = [] := by
  rw [Dtd.rulesOf, hdtd]
  rfl

include hdtd in
/-- **An attribute is entered with the value that is read.** -/
theorem enterWritten_eq {a : Attribute} (ha : a.IsWellFormed) {raw : RawAttribute}
    (hname : raw.name = a.name) (hvalue : raw.value = a.valueText) {s : AttributeState}
    (hs : a.name ∉ s.seen) :
    AttributeState.enterWritten dtd isTooMuch innerReading opened element s raw
      = .ok { s with
        seen := a.name :: s.seen
        values := s.values ++ [(a.name, Sign.read a.value)] } := by
  have hcdata : dtd.isCdata element a.name = true := by
    rw [Dtd.isCdata, rulesOf_eq_nil hdtd]
    rfl
  have hseen : ¬ s.seen.contains a.name = true := by simpa using hs
  have htext := attributeText_signs (x := ⟨dtd, true, isTooMuch⟩) rfl ha.value opened s.spent
  have hclean : { innerReading with ending := .clean } = innerReading := rfl
  rw [AttributeState.enterWritten, hname, if_neg hseen, hvalue, hcdata, hclean]
  dsimp only
  rw [Attribute.valueText, htext]
  dsimp only
  rw [AttributeState.enter, boundPrefix?_eq_none ha.name.colon_not_mem ha.name_ne]

include hdtd in
/-- So are all attributes of a tag, as long as no two have one name. -/
theorem foldlM_enterWritten {as : List Attribute} (has : ∀ a ∈ as, a.IsWellFormed)
    {raws : List RawAttribute}
    (hmap : raws.map (fun r => (r.name, r.value)) = as.map fun a => (a.name, a.valueText))
    {s : AttributeState} (hn : (as.map (·.name)).Nodup) (hs : ∀ a ∈ as, a.name ∉ s.seen) :
    ∃ seen, raws.foldlM (AttributeState.enterWritten dtd isTooMuch innerReading opened element) s
      = .ok { s with
        seen
        values := s.values ++ as.map fun a => (a.name, Sign.read a.value) } := by
  induction as generalizing raws s with
  | nil =>
    rw [List.map_eq_nil_iff.1 hmap]
    exact ⟨s.seen, by simp [List.foldlM]; rfl⟩
  | cons a as ih =>
    obtain ⟨raw, raws, rfl, hraw, hmap⟩ := List.map_eq_cons_iff.1 hmap
    obtain ⟨ha, has⟩ := List.forall_mem_cons.1 has
    obtain ⟨hfresh, hs⟩ := List.forall_mem_cons.1 hs
    rw [List.map_cons, List.nodup_cons] at hn
    have hs' : ∀ b ∈ as, b.name ∉ a.name :: s.seen := fun b hb =>
      List.not_mem_cons_of_ne_of_not_mem (fun he => hn.1 (he ▸ List.mem_map_of_mem hb)) (hs b hb)
    rw [List.foldlM_cons, enterWritten_eq hdtd isTooMuch opened element ha
      (congrArg Prod.fst hraw) (congrArg Prod.snd hraw) hfresh]
    obtain ⟨seen, hfold⟩ := ih has hmap (s := { s with
      seen := a.name :: s.seen
      values := s.values ++ [(a.name, Sign.read a.value)] }) hn.2 hs'
    exact ⟨seen, hfold.trans (by simp)⟩

end Resolve

/-- Names without a prefix stay as they are. -/
theorem expandNames_eq (scope : Scope) (done : List (String × String))
    {values : List (List Char × List Char)} (h : ∀ v ∈ values, ':' ∉ v.1)
    (hn : (values.map Prod.fst).Nodup)
    (hdone : ∀ v ∈ values, ∀ d ∈ done, d.1 ≠ String.ofList v.1) :
    AttributeState.expandNames scope done values
      = .ok (done.reverse ++ values.map fun v => (String.ofList v.1, String.ofList v.2)) := by
  induction values generalizing done with
  | nil => rw [AttributeState.expandNames, List.map_nil, List.append_nil]
  | cons v values ih =>
    obtain ⟨hv, hvalues⟩ := List.forall_mem_cons.1 h
    obtain ⟨hfresh, hdone⟩ := List.forall_mem_cons.1 hdone
    rw [List.map_cons, List.nodup_cons] at hn
    have hnot : ¬ done.any (·.1 == String.ofList v.1) = true := by
      simp only [List.any_eq_true, beq_iff_eq, not_exists, not_and]
      exact hfresh
    have hdone' : ∀ w ∈ values, ∀ d ∈ (String.ofList v.1, String.ofList v.2) :: done,
        d.1 ≠ String.ofList w.1 := by
      intro w hw d hd he
      rcases List.mem_cons.1 hd with rfl | hd
      · exact hn.1 (String.ofList_injective he ▸ List.mem_map_of_mem hw)
      · exact hdone w hw d hd he
    rw [AttributeState.expandNames, AttributeState.attributeName, splitName_of_colon_not_mem hv]
    dsimp only
    rw [if_neg hnot, ih _ hvalues hn.2 hdone', List.reverse_cons, List.append_assoc,
      List.singleton_append, List.map_cons]

/-- **A tag opens its element**, with the values that are read. -/
theorem resolve_eq {t : Tag} (h : t.IsWellFormed) {raws : List RawAttribute}
    (hmap : raws.map (fun r => (r.name, r.value)) = t.attributes.map fun a => (a.name, a.valueText))
    {dtd : Dtd} (hdtd : dtd.rules = []) (isTooMuch : Nat → Bool) (opened : List (List Char))
    (spent : Nat) (isEmpty : Bool) :
    StartTag.resolve dtd isTooMuch innerReading opened Scope.outermost spent ⟨t.name, raws, isEmpty⟩
      = .ok (t.opened, spent) := by
  obtain ⟨seen, hfold⟩ := foldlM_enterWritten hdtd isTooMuch opened t.name h.attributes hmap
    (s := ⟨[], [], Scope.outermost, spent⟩) h.names_nodup fun _ _ => List.not_mem_nil
  have hcolon : ∀ v ∈ t.attributes.map (fun a => (a.name, Sign.read a.value)), ':' ∉ v.1 := by
    simpa using fun a ha => (h.attributes a ha).name.colon_not_mem
  have hnames := expandNames_eq Scope.outermost [] hcolon
    (by simpa [Function.comp_def] using h.names_nodup) (by simp)
  have htag : elementName Scope.outermost t.name = .ok (String.ofList t.name) := by
    rw [elementName, splitName_of_colon_not_mem h.name.colon_not_mem]
    rfl
  rw [StartTag.resolve, hfold, rulesOf_eq_nil hdtd]
  show (AttributeState.expandNames Scope.outermost [] (t.attributes.map _) >>= _) = _
  rw [hnames]
  show (elementName Scope.outermost t.name >>= _) = _
  rw [htag]
  show Except.ok (Opened.mk _ ([] ++ _) Scope.outermost, spent) = Except.ok (Tag.opened t, spent)
  rw [Tag.opened, List.nil_append, List.map_map]
  rfl

end SchemaGen.Xml
