import SchemaGen.Proofs.Xml.Content
import SchemaGen.Proofs.Xml.Octets

/-!
# Documents are read as they are written

The root element of a document comes back with all that is in it (`read_script`). What stands around
it, the declaration included, leaves no trace.
-/

namespace SchemaGen.Xml

open Document (Setting readRoot readProlog readEpilog readBody)
open Prolog (Token)

/-! ## Around the root element -/

/-- White space is a token of its own. -/
theorem next_space {c : Char} (hc : isSpace c = true) (rest : List Char) :
    Token.next innerReading (c :: rest) = .ok (some (.space, skipSpace rest)) := by
  simp only [isSpace, Bool.or_eq_true, beq_iff_eq] at hc
  rcases hc with ((rfl | rfl) | rfl) | rfl <;> rfl

/-- The start of the root element is a token of which nothing is taken. -/
theorem next_rootElement {c : Char} (hc : isNameStart false c = true) (rest : List Char) :
    Token.next innerReading ('<' :: c :: rest) = .ok (some (.rootElement, '<' :: c :: rest)) := by
  obtain ⟨-, -, -, hmark, hquestion⟩ := IsPlainName.head_ne hc
  have hstart : (isNameStart innerReading.latin c || !innerReading.isSingle c) = true := by
    rw [show isNameStart innerReading.latin c = true from hc, Bool.true_or]
  have hmarkup : Token.markup innerReading (c :: rest) = .ok (.rootElement, '<' :: c :: rest) := by
    rw [Token.markup, if_pos hstart]
    · exact hmark
    · exact hquestion
  show (Token.markup innerReading (c :: rest)).map some = _
  rw [hmarkup]
  rfl

/-- **White space before the root element is passed over.** -/
theorem readProlog_append {ws : List Char} (hws : AreSpaces ws) {c : Char}
    (hc : isNameStart false c = true) (rest : List Char) (dtd : Dtd) (tooMuch : Nat → Bool)
    {fuel : Nat} (hfuel : 2 ≤ fuel) :
    readProlog innerReading tooMuch fuel { dtd } (ws ++ '<' :: c :: rest)
      = .ok ({ dtd }, '<' :: c :: rest) := by
  have hroot (fuel : Nat) : readProlog innerReading tooMuch (fuel + 1) { dtd } ('<' :: c :: rest)
      = .ok ({ dtd }, '<' :: c :: rest) := by
    rw [readProlog, next_rootElement hc]
    rfl
  obtain ⟨fuel, rfl⟩ := Nat.exists_eq_add_of_le' hfuel
  cases ws with
  | nil => exact hroot _
  | cons w ws =>
    obtain ⟨hw, hws⟩ := List.forall_mem_cons.1 hws
    rw [List.cons_append, readProlog, next_space hw, skipSpace_append hws (by decide)]
    exact hroot fuel

/-- **So is what follows it.** -/
theorem readEpilog_spaces {ws : List Char} (hws : AreSpaces ws) :
    readEpilog innerReading (ws.length + 1) ws = .ok () := by
  cases ws with
  | nil => rfl
  | cons w ws =>
    obtain ⟨hw, hws⟩ := List.forall_mem_cons.1 hws
    have hskip : skipSpace ws = [] := by
      rw [skipSpace, ← List.append_nil ws, List.dropWhile_append_of_pos hws]
      rfl
    rw [readEpilog, next_space hw, hskip]
    rfl

/-! ## Octets -/

theorem length_le_octetCount (cs : List Char) : cs.length ≤ octetCount cs := by
  have hacc : ∀ n, n + cs.length ≤ cs.foldl (fun n c => n + c.utf8Size) n := by
    induction cs with
    | nil => exact fun n => Nat.le_refl n
    | cons c cs ih =>
      intro n
      have hc := c.utf8Size_pos
      have hcs := ih (n + c.utf8Size)
      rw [List.length_cons, List.foldl_cons]
      omega
  simpa [octetCount] using hacc 0

/-- A text that starts with white space or markup shows no other encoding. -/
theorem detect_eq {a b : UInt8} (ha : a ∈ [0x3C, 0x20, 0x09, 0x0A, 0x0D]) (hb : b ≠ 0)
    (rest : List UInt8) : Encoding.detect (a :: b :: rest) = some (.utf8, 0) := by
  simp only [List.mem_cons, List.not_mem_nil, or_false] at ha
  rcases ha with rfl | rfl | rfl | rfl | rfl <;> simp [Encoding.detect, hb]

/-! ## The root element -/

namespace Script

variable {d : Script} (h : d.IsWellFormed)

/-- The text from the root element on. -/
def rootText (d : Script) : List Char :=
  '<' :: (d.tag.text ++ (tagEndText false ++
    (d.content.text ++ '<' :: '/' :: (d.tag.name ++ '>' :: d.after))))

theorem bodyText_eq (d : Script) : d.bodyText = d.before ++ d.rootText := by
  simp [bodyText, rootText, Markup.text, tagEndText]

include h in
/-- **The root element is read as it is written.** -/
theorem readRoot_rootText {s : Setting} (hreading : s.reading = innerReading)
    (hdtd : s.dtd.rules = []) (hsize : d.rootText.length ≤ s.size) (fuel : Nat) :
    readRoot s (d.content.steps + fuel + 1) { rest := d.rootText } = .ok (d.root, d.after) := by
  simp only [rootText, List.length_cons, List.length_append] at hsize
  have hattributes : d.tag.attributes.length ≤ s.size := by
    have := length_attributes_le d.tag
    omega
  have hnone : AreOutermost [] := fun _ he => absurd he List.not_mem_nil
  have hnil : IsData [] := by decide
  have hstart := readStep_startTag hreading hdtd hnil h.tag hattributes hnone false
    (d.content.text ++ '<' :: '/' :: (d.tag.name ++ '>' :: d.after))
  refine (readRoot_of_readStep hstart _).trans ?_
  refine (readRoot_markup hreading hdtd h.content (by omega) (e := ⟨d.tag.name, d.tag.opened, []⟩)
    h.tag.name (hnone.cons d.tag) d.after fuel).trans ?_
  rw [Markup.closes_opened]
  rfl

include h in
/-- **A document is read after its declaration.** -/
theorem readBody_bodyText (units : Char → Nat) (isStandalone : Bool) {all : List Char}
    (hall : d.bodyText.length ≤ all.length) :
    readBody innerReading units isStandalone all d.bodyText = .ok d.root := by
  obtain ⟨c, cs, hname, hc, -⟩ := h.tag.name.exists_cons
  obtain ⟨rest, hrest⟩ : ∃ rest, d.rootText = '<' :: c :: rest := by
    rw [rootText, Tag.text, hname]
    exact ⟨_, rfl⟩
  have hlength := Nat.le_trans hall (length_le_octetCount all)
  rw [bodyText_eq, List.length_append] at hlength
  have htwo : 2 ≤ d.bodyText.length + 1 := by
    rw [bodyText_eq, hrest, List.length_append, List.length_cons]
    omega
  have hprolog := readProlog_append h.before hc rest { isStandalone }
    (Document.isTooMuch (octetCount all) []) htwo
  rw [← hrest, ← bodyText_eq] at hprolog
  -- there is fuel for every step
  obtain ⟨fuel, hfuel⟩ : ∃ fuel, 4 * (Document.freeOctets
      + (Document.maxFactor + 2) * (octetCount all + 1)) = d.content.steps + fuel + 1 := by
    have hsteps := d.content.steps_le
    simp only [rootText, List.length_cons, List.length_append] at hlength
    refine ⟨4 * (Document.freeOctets + (Document.maxFactor + 2) * (octetCount all + 1))
      - (d.content.steps + 1), ?_⟩
    simp only [Document.freeOctets, Document.maxFactor]
    omega
  have hsize : d.rootText.length ≤ octetCount all := by omega
  have hroot := readRoot_rootText h
    (s := ⟨innerReading, { isStandalone }, octetCount all, units⟩) rfl rfl hsize fuel
  rw [← hfuel] at hroot
  rw [readBody, hprolog]
  show (readRoot ⟨innerReading, { isStandalone }, octetCount all, units⟩ _ { rest := d.rootText }
    >>= _) = _
  rw [hroot]
  show (readEpilog innerReading (d.after.length + 1) d.after >>= _) = _
  rw [readEpilog_spaces h.after]
  rfl

/-! ## The whole document -/

/-- The characters of the document. -/
theorem toList_text (d : Script) : d.text.toList = d.declarationText ++ d.bodyText :=
  String.toList_ofList

/-- A document starts with white space or a sign `<`, and does not end there. -/
theorem exists_cons_text (h : d.IsWellFormed) :
    ∃ a b rest, d.text.toList = a :: b :: rest ∧ (isSpace a = true ∨ a = '<') := by
  have hbody : ∃ a b rest, d.bodyText = a :: b :: rest ∧ (isSpace a = true ∨ a = '<') := by
    obtain ⟨c, cs, hname, hc, -⟩ := h.tag.name.exists_cons
    rw [bodyText_eq, rootText, Tag.text, hname]
    cases hbefore : d.before with
    | nil => exact ⟨'<', c, _, rfl, .inr rfl⟩
    | cons w ws =>
      have hw : isSpace w = true := h.before w (hbefore ▸ List.mem_cons_self)
      cases ws with
      | nil => exact ⟨w, '<', _, rfl, .inl hw⟩
      | cons v vs => exact ⟨w, v, _, rfl, .inl hw⟩
  rw [toList_text, declarationText]
  split
  · exact ⟨'<', '?', _, rfl, .inr rfl⟩
  · exact hbody

include h in
theorem detect_encode : Encoding.detect (Text.Utf8.encode d.text) = some (.utf8, 0) := by
  obtain ⟨a, b, rest, htext, ha⟩ := exists_cons_text h
  have hb := h.isDocument b (by rw [htext]; simp)
  obtain ⟨o, os, ho, hne⟩ := Encoding.exists_encodeChar_eq_cons hb
  have hoctet : Text.Utf8.encodeChar a = [UInt8.ofNat a.toNat] ∧
      UInt8.ofNat a.toNat ∈ [0x3C, 0x20, 0x09, 0x0A, 0x0D] := by
    simp only [isSpace, Bool.or_eq_true, beq_iff_eq] at ha
    rcases ha with (((rfl | rfl) | rfl) | rfl) | rfl <;> decide
  rw [Text.Utf8.encode, htext, List.flatMap_cons, List.flatMap_cons, hoctet.1, ho]
  exact detect_eq hoctet.2 hne _

include h in
theorem decode_encode :
    Encoding.utf8.decode (Text.Utf8.encode d.text) = (d.text.toList, .clean) :=
  Encoding.decode_flatMap_encodeChar h.isDocument

theorem instructionBody_append {cs : List Char} (h : '?' ∉ cs) (acc rest : List Char) :
    instructionBody innerReading acc (cs ++ '?' :: '>' :: rest)
      = .ok (acc.reverse ++ cs, rest) := by
  induction cs generalizing acc with
  | nil => rw [List.nil_append, List.append_nil]; rfl
  | cons c cs ih =>
    rw [List.mem_cons, not_or] at h
    rw [List.cons_append, instructionBody, ih h.2, List.reverse_cons, List.append_assoc,
      List.singleton_append]
    exact fun _ hc _ => h.1 hc.symm

/-- **The declaration of a document is read** off its front. -/
theorem next_declaration {cs : List Char} (h : IsDeclaration cs) (rest : List Char) :
    Token.next innerReading ("<?xml".toList ++ cs ++ "?>".toList ++ rest)
      = .ok (some (.instruction (.declaration cs), rest)) := by
  obtain ⟨c, hc, hspace⟩ := h.space
  cases cs with
  | nil => cases hc
  | cons d cs =>
    cases hc
    have hmark := h.mark
    rw [List.mem_cons, not_or] at hmark
    have hname := name_append (n := ['x', 'm', 'l']) (by decide)
      (endsName_of_isSpace hspace) (cs ++ '?' :: '>' :: rest)
    have hbody := instructionBody_append hmark.2 [c] rest
    have hnot : ¬ c = '?' := Ne.symm hmark.1
    have hinstruction : instruction innerReading
          (['x', 'm', 'l'] ++ c :: (cs ++ '?' :: '>' :: rest))
        = .ok (.declaration (c :: cs), rest) := by
      rw [instruction, hname]
      dsimp only
      rw [hspace, Bool.true_or, if_pos rfl, if_neg (by decide), if_neg (by simpa using hnot), hbody]
      rfl
    have htext : "<?xml".toList ++ c :: cs ++ "?>".toList ++ rest
        = '<' :: '?' :: (['x', 'm', 'l'] ++ c :: (cs ++ '?' :: '>' :: rest)) := by
      simp
    rw [htext]
    show (Token.markup innerReading
      ('?' :: (['x', 'm', 'l'] ++ c :: (cs ++ '?' :: '>' :: rest)))).map some = _
    rw [Token.markup, hinstruction]
    rfl

theorem isDocument_bodyText (h : d.IsWellFormed) :
    ∀ c ∈ d.bodyText, isDocumentChar c.toNat = true := fun c hc =>
  h.isDocument c (by rw [toList_text]; exact List.mem_append_right _ hc)

include h in
theorem readIn_bodyText (before : List Char) (isStandalone : Bool) :
    Document.readIn .utf8 before (d.bodyText.flatMap Text.Utf8.encodeChar) isStandalone
      = .ok d.root := by
  have hall : d.bodyText.length ≤ (before ++ d.bodyText).length := by
    rw [List.length_append]
    omega
  have hbody := readBody_bodyText h Encoding.utf8.units isStandalone hall
  have hclean : (⟨Encoding.utf8.alphabet, .clean⟩ : Reading) = innerReading := rfl
  rw [Document.readIn, Encoding.decode_flatMap_encodeChar (isDocument_bodyText h)]
  dsimp only
  rw [hclean, hbody]

/-- What follows the declaration does not start like one. -/
theorem exists_next_bodyText (h : d.IsWellFormed) :
    ∃ t rest, Token.next innerReading d.bodyText = .ok (some (t, rest)) ∧
      (t = .space ∨ t = .rootElement) := by
  obtain ⟨c, cs, hname, hc, -⟩ := h.tag.name.exists_cons
  rw [bodyText_eq, rootText, Tag.text, hname]
  cases hbefore : d.before with
  | nil => exact ⟨_, _, next_rootElement hc _, .inr rfl⟩
  | cons w ws => exact ⟨_, _, next_space (h.before w (hbefore ▸ List.mem_cons_self)) _, .inl rfl⟩

/-- The declaration takes as many octets as characters. -/
theorem length_encode_declarationText {cs : List Char} (hd : d.declaration = some cs)
    (h : IsDeclaration cs) :
    (d.declarationText.flatMap Text.Utf8.encodeChar).length = d.declarationText.length := by
  have hall : ∀ c ∈ d.declarationText, (Text.Utf8.encodeChar c).length = 1 := by
    intro c hc
    have hascii : c.toNat < 0x80 := by
      have hsigns : ∀ c ∈ "<?xml".toList ++ "?>".toList, c.toNat < 0x80 := by simp
      rw [declarationText, hd, List.mem_append, List.mem_append] at hc
      rcases hc with (hc | hc) | hc
      · exact hsigns c (List.mem_append_left _ hc)
      · exact h.isAscii c hc
      · exact hsigns c (List.mem_append_right _ hc)
    rw [Encoding.encodeChar_of_lt hascii, List.length_singleton]
  rw [List.length_flatMap, List.map_congr_left hall]
  simp

/-- So the octets after it are those of the text after it. -/
theorem drop_encode {cs : List Char} (hd : d.declaration = some cs) (h : IsDeclaration cs) :
    ((d.declarationText ++ d.bodyText).flatMap Text.Utf8.encodeChar).drop
        (0 + d.declarationText.length * Encoding.utf8.unitSize)
      = d.bodyText.flatMap Text.Utf8.encodeChar := by
  rw [List.flatMap_append, Nat.zero_add, show Encoding.utf8.unitSize = 1 from rfl, Nat.mul_one,
    ← length_encode_declarationText hd h, List.drop_left]

/-- Whether the encoding of a document is known beforehand, or no other is declared. -/
def IsUtf8 (isKnown : Bool) (d : Script) : Prop :=
  isKnown = true ∨ ∀ cs ∈ d.declaration, ∀ r, Declaration.read cs = .ok r →
    ∀ e ∈ r.encoding?, Encoding.utf8.choose e.1 = .use .utf8

/-- An encoding that is looked at is that of the octets. -/
theorem IsUtf8.choose_eq {isKnown : Bool} (h : IsUtf8 isKnown d) {cs : List Char}
    (hd : d.declaration = some cs) {r : Declaration} (hread : Declaration.read cs = .ok r) :
    ∀ e ∈ (if isKnown then none else r.encoding?), Encoding.utf8.choose e.1 = .use .utf8 := by
  intro e he
  rcases h with hknown | hdeclared
  · rw [if_pos hknown] at he
    cases he
  · split at he
    · cases he
    · exact hdeclared cs hd r hread e he

include h in
/-- **A document is read as it is written.** -/
theorem read_script {isKnown : Bool} (hutf8 : IsUtf8 isKnown d) :
    Document.read isKnown (Text.Utf8.encode d.text) = .ok d.root := by
  rw [Document.read, detect_encode h]
  dsimp only
  rw [List.drop_zero, decode_encode h, toList_text, Text.Utf8.encode, toList_text]
  dsimp only
  cases hd : d.declaration with
  | none =>
    have hnone : d.declarationText = [] := by rw [declarationText, hd]
    obtain ⟨t, rest, hnext, ht⟩ := exists_next_bodyText h
    have hnext' : Token.next ⟨Encoding.utf8.alphabet, .clean⟩ d.bodyText = .ok (some (t, rest)) :=
      hnext
    rw [hnone, List.nil_append, hnext']
    rcases ht with rfl | rfl <;> exact readIn_bodyText h [] false
  | some cs =>
    have hcs := h.declaration cs hd
    have hsome : d.declarationText = "<?xml".toList ++ cs ++ "?>".toList := by
      rw [declarationText, hd]
    obtain ⟨r, hread⟩ := hcs.reads
    have hnext := next_declaration hcs d.bodyText
    rw [← hsome] at hnext
    rw [show Token.next ⟨Encoding.utf8.alphabet, .clean⟩ (d.declarationText ++ d.bodyText) = _
      from hnext]
    dsimp only
    rw [hread]
    have htake : (d.declarationText ++ d.bodyText).take
        ((d.declarationText ++ d.bodyText).length - d.bodyText.length) = d.declarationText := by
      rw [List.length_append, Nat.add_sub_cancel, List.take_left]
    have hbody := readIn_bodyText h d.declarationText r.isStandalone
    dsimp only
    rw [htake, drop_encode hd hcs]
    cases hchoice : (if isKnown then none else r.encoding?) with
    | none => exact hbody
    | some e =>
      dsimp only
      rw [hutf8.choose_eq hd hread e hchoice]
      exact hbody

end Script

end SchemaGen.Xml
