import SchemaGen.Proofs.Xml.Markup

/-!
# Tags are read as they are written

Every reader of a part of a tag gives the part back from its text, and leaves what follows.
-/

namespace SchemaGen.Xml

/-! ## White space and names -/

theorem skipSpace_append {ws : List Char} (h : AreSpaces ws) {d : Char} (hd : isSpace d = false)
    (rest : List Char) : skipSpace (ws ++ d :: rest) = d :: rest := by
  rw [skipSpace, List.dropWhile_append_of_pos h, List.dropWhile_cons_of_neg (by simp [hd])]

theorem isNameChar_of_isNameStart {c : Char} (h : isNameStart false c = true) :
    isNameChar false c = true := by
  rw [isNameChar, h, Bool.true_or]

theorem IsPlainName.exists_cons {n : List Char} (h : IsPlainName n) :
    ∃ c cs, n = c :: cs ∧ isNameStart false c = true ∧ ∀ d ∈ cs, isNameChar false d = true := by
  obtain ⟨c, hc, hstart⟩ := h.head
  cases n with
  | nil => cases hc
  | cons d cs =>
    cases hc
    exact ⟨c, cs, rfl, hstart, h.tail⟩

theorem IsPlainName.isNameChar {n : List Char} (h : IsPlainName n) :
    ∀ c ∈ n, isNameChar false c = true := by
  obtain ⟨c, cs, rfl, hc, hcs⟩ := h.exists_cons
  exact List.forall_mem_cons.2 ⟨isNameChar_of_isNameStart hc, hcs⟩

/-- A character that may follow a name. -/
def EndsName (d : Char) : Prop := isNameChar false d = false ∧ d ≠ ':'

theorem IsPlainName.colon_not_mem {n : List Char} (h : IsPlainName n) : ':' ∉ n := fun hm =>
  absurd (h.isNameChar ':' hm) (by decide)

theorem name_append {n : List Char} (h : IsPlainName n) {d : Char} (hd : EndsName d)
    (rest : List Char) : name innerReading (n ++ d :: rest) = .ok (n, d :: rest) := by
  obtain ⟨c, cs, rfl, hc, hcs⟩ := h.exists_cons
  show (if isNameStart false c = true then _ else _) = _
  rw [if_pos hc]
  show Except.ok (c :: (cs ++ d :: rest).takeWhile (isNameChar false),
    (cs ++ d :: rest).dropWhile (isNameChar false)) = _
  rw [List.takeWhile_append_of_pos hcs, List.dropWhile_append_of_pos hcs,
    List.takeWhile_cons_of_neg (by simp [hd.1]), List.dropWhile_cons_of_neg (by simp [hd.1]),
    List.append_nil]

theorem qualifiedName_append {n : List Char} (h : IsPlainName n) {d : Char} (hd : EndsName d)
    (rest : List Char) : qualifiedName innerReading (n ++ d :: rest) = .ok (n, d :: rest) := by
  rw [qualifiedName, name_append h hd]
  split
  · next h => cases h
  · next h =>
    cases h
    exact absurd rfl hd.2
  · next h =>
    cases h
    rfl

/-- White space, the equals sign and the ends of tags follow a name. -/
theorem endsName_of_isSpace {d : Char} (h : isSpace d = true) : EndsName d := by
  simp only [isSpace, Bool.or_eq_true, beq_iff_eq] at h
  rcases h with ((rfl | rfl) | rfl) | rfl <;> exact ⟨by decide, by decide⟩

theorem endsName_equals : EndsName '=' := ⟨by decide, by decide⟩

theorem endsName_greater : EndsName '>' := ⟨by decide, by decide⟩

theorem endsName_slash : EndsName '/' := ⟨by decide, by decide⟩

/-- A name starts with neither white space nor a sign of the end of a tag. -/
theorem IsPlainName.head_ne {c : Char} (h : isNameStart false c = true) :
    isSpace c = false ∧ c ≠ '>' ∧ c ≠ '/' ∧ c ≠ '!' ∧ c ≠ '?' := by
  refine ⟨?_, ?_, ?_, ?_, ?_⟩
  · rw [Bool.eq_false_iff]
    intro hspace
    exact absurd (isNameChar_of_isNameStart h) (by simp [(endsName_of_isSpace hspace).1])
  all_goals
    rintro rfl
    exact absurd h (by decide)

/-! ## Values -/

/-- The names of the entities that need no declaration. -/
def predefinedNames : List (List Char) :=
  [['l', 't'], ['g', 't'], ['a', 'm', 'p'], ['q', 'u', 'o', 't'], ['a', 'p', 'o', 's']]

theorem mem_predefinedNames {n : List Char} {c : Char} (h : predefined? n = some c) :
    n ∈ predefinedNames := by
  rw [predefined?] at h
  repeat' split at h
  all_goals simp_all [predefinedNames]

theorem reference_name {n : List Char} (h : IsPlainName n) (rest : List Char) :
    reference innerReading (n ++ ';' :: rest) = .ok (.entity n, rest) := by
  have hread := name_append h (d := ';') ⟨by decide, by decide⟩ rest
  obtain ⟨d, ds, rfl, hd, -⟩ := h.exists_cons
  have hhash : d ≠ '#' := by
    rintro rfl
    exact absurd hd (by decide)
  have hother : ∀ cs, d :: ds ++ ';' :: rest ≠ '#' :: cs := fun _ he => hhash (List.cons.inj he).1
  rw [reference, hread]
  · rfl
  · exact fun _ => hother _
  · exact hother

theorem numberDigits_append {base : Nat} {digits : List Char} (hne : digits ≠ [])
    (h : ∀ d ∈ digits, (if base = 16 then isHexDigit else Char.isDigit) d = true)
    (rest : List Char) :
    numberDigits innerReading base (digits ++ ';' :: rest) = .ok (.number base digits, rest) := by
  have hend : ¬ (if base = 16 then isHexDigit else Char.isDigit) ';' = true := by
    split <;> decide
  rw [numberDigits, List.takeWhile_append_of_pos h, List.dropWhile_append_of_pos h,
    List.takeWhile_cons_of_neg hend, List.dropWhile_cons_of_neg hend, List.append_nil]
  cases digits with
  | nil => exact absurd rfl hne
  | cons d digits => rfl

namespace Reference

variable {r : Reference} {c : Char}

/-- **A reference is read** from behind its sign. -/
theorem reference_body (h : r.IsWritten) (hc : r.char? = some c) (rest : List Char) :
    reference innerReading (r.body ++ rest) = .ok (r, rest) := by
  cases r with
  | entity n =>
    have hnames : ∀ n ∈ predefinedNames, IsPlainName n := by decide
    rw [body, List.append_assoc]
    exact reference_name (hnames n (mem_predefinedNames hc)) rest
  | number base digits =>
    obtain ⟨hne, ⟨rfl, hdigits⟩ | ⟨rfl, hdigits⟩⟩ := h
    · obtain ⟨d, ds, rfl⟩ := List.exists_cons_of_ne_nil hne
      have hx : d ≠ 'x' := by
        rintro rfl
        exact absurd (hdigits 'x' List.mem_cons_self) (by decide)
      show reference innerReading ('#' :: (d :: ds ++ [';'] ++ rest)) = _
      rw [reference, List.append_assoc, List.singleton_append]
      · exact numberDigits_append hne (by simpa using hdigits) rest
      · exact fun _ he => hx (List.cons.inj he).1
    · show numberDigits innerReading 16 (digits ++ [';'] ++ rest) = _
      rw [List.append_assoc]
      exact numberDigits_append hne (by simpa using hdigits) rest

/-- No sign with a meaning of its own stands in a reference. -/
theorem ne_of_mem_body (h : r.IsWritten) (hc : r.char? = some c) {quote : Char}
    (hquote : quote = '"' ∨ quote = '\'') :
    ∀ d ∈ r.body, d ≠ quote ∧ d ≠ '<' ∧ d ≠ '&' := by
  suffices hsigns : ∀ e ∈ ['"', '\'', '<', '&'], e ∉ r.body by
    refine fun d hd => ⟨?_, ?_, ?_⟩ <;> rintro rfl
    · exact hsigns d (by rcases hquote with rfl | rfl <;> simp) hd
    · exact hsigns '<' (by simp) hd
    · exact hsigns '&' (by simp) hd
  intro e he hin
  cases r with
  | entity n =>
    have hnames : ∀ n ∈ predefinedNames, ∀ e ∈ ['"', '\'', '<', '&'], e ∉ n ++ [';'] := by
      simp [predefinedNames]
    exact hnames n (mem_predefinedNames hc) e he hin
  | number base digits =>
    have hother : ∀ e ∈ ['"', '\'', '<', '&'],
        e ∉ ['#', 'x', ';'] ∧ e.isDigit = false ∧ isHexDigit e = false := by
      simp [isHexDigit, Char.isDigit]
    obtain ⟨hmark, hdigit, hhex⟩ := hother e he
    have hdigits : e ∈ digits := by
      simp only [body, List.mem_cons, List.mem_append, List.not_mem_nil, or_false] at hin hmark
      rcases hin with hin | hin | hin | hin
      · exact absurd (.inl hin) hmark
      · split at hin
        · exact absurd (.inr (.inl (List.mem_singleton.1 hin))) hmark
        · cases hin
      · exact hin
      · exact absurd (.inr (.inr hin)) hmark
    obtain ⟨-, ⟨-, hall⟩ | ⟨-, hall⟩⟩ := h
    · exact absurd (hall e hdigits) (by simp [hdigit])
    · exact absurd (hall e hdigits) (by simp [hhex])

end Reference

/-- The signs of a value between two quotes. -/
theorem attributeValue_plain {quote : Char} {cs : List Char}
    (h : ∀ c ∈ cs, c ≠ quote ∧ c ≠ '<' ∧ c ≠ '&') (acc rest : List Char) :
    attributeValue innerReading quote acc (cs ++ rest)
      = attributeValue innerReading quote (cs.reverse ++ acc) rest := by
  induction cs generalizing acc with
  | nil => rfl
  | cons c cs ih =>
    obtain ⟨⟨hquote, hless, hamp⟩, hcs⟩ := List.forall_mem_cons.1 h
    rw [List.cons_append, attributeValue, if_neg hquote, if_neg hless, if_neg hamp, ih hcs,
      List.reverse_cons, List.append_assoc, List.singleton_append]

theorem attributeValue_sign {quote : Char} (hquote : quote = '"' ∨ quote = '\'') {s : Sign}
    (h : s.IsAllowed quote) (acc rest : List Char) :
    attributeValue innerReading quote acc (s.text ++ rest)
      = attributeValue innerReading quote (s.text.reverse ++ acc) rest := by
  cases s with
  | plain c => exact attributeValue_plain (List.forall_mem_singleton.2 h) acc rest
  | reference r c =>
    obtain ⟨hr, hc⟩ := h
    have hamp : ('&' : Char) ≠ quote := by rcases hquote with rfl | rfl <;> decide
    show attributeValue innerReading quote acc ('&' :: (r.body ++ rest)) = _
    rw [attributeValue, if_neg hamp, if_neg (by decide), if_pos rfl, r.reference_body hr hc]
    dsimp only
    rw [attributeValue_plain (r.ne_of_mem_body hr hc hquote)]
    simp [Sign.text]

/-- **A value is read up to its quote.** -/
theorem attributeValue_append {quote : Char} (hquote : quote = '"' ∨ quote = '\'')
    {signs : List Sign} (h : ∀ s ∈ signs, s.IsAllowed quote) (acc rest : List Char) :
    attributeValue innerReading quote acc (signs.flatMap Sign.text ++ quote :: rest)
      = .ok (acc.reverse ++ signs.flatMap Sign.text, quote :: rest) := by
  induction signs generalizing acc with
  | nil =>
    rw [List.flatMap_nil, List.nil_append, attributeValue, if_pos rfl, List.append_nil]
  | cons s signs ih =>
    obtain ⟨hs, hsigns⟩ := List.forall_mem_cons.1 h
    rw [List.flatMap_cons, List.append_assoc, attributeValue_sign hquote hs, ih hsigns,
      List.reverse_append, List.reverse_reverse, List.append_assoc]

/-! ## Attributes -/

/-- White space, if there is any, and then a character that ends a name: what follows a name. -/
theorem exists_cons_of_spaces {ws : List Char} (h : AreSpaces ws) {d : Char} (hd : EndsName d)
    (rest : List Char) : ∃ e es, ws ++ d :: rest = e :: es ∧ EndsName e := by
  cases ws with
  | nil => exact ⟨d, rest, rfl, hd⟩
  | cons e es => exact ⟨e, es ++ d :: rest, rfl, endsName_of_isSpace (h e List.mem_cons_self)⟩

/-- **An attribute is read from its name on.** -/
theorem rawAttribute_body {a : Attribute} (h : a.IsWellFormed) (rest : List Char) :
    rawAttribute innerReading (a.body ++ rest)
      = .ok (⟨a.name, a.body ++ rest, a.valueText, a.quote :: rest⟩, rest) := by
  obtain ⟨-, hbefore, hafter⟩ := h.spaces
  have hquote : isSpace a.quote = false := by rcases h.quote with hq | hq <;> rw [hq] <;> decide
  have hbody : a.body ++ rest = a.name ++ (a.beforeSign ++ '=' :: (a.afterSign
      ++ a.quote :: (a.value.flatMap Sign.text ++ a.quote :: rest))) := by
    simp [Attribute.body, Attribute.valueText]
  obtain ⟨e, es, he, hends⟩ := exists_cons_of_spaces hbefore endsName_equals
    (a.afterSign ++ a.quote :: (a.value.flatMap Sign.text ++ a.quote :: rest))
  have hsign := skipSpace_append hbefore (d := '=') (by decide)
    (a.afterSign ++ a.quote :: (a.value.flatMap Sign.text ++ a.quote :: rest))
  rw [he] at hsign
  rw [hbody, rawAttribute, he, qualifiedName_append h.name hends]
  simp only [hsign, skipSpace_append hafter hquote, if_pos h.quote,
    attributeValue_append h.quote h.value]
  rfl

/-- How a tag ends. -/
def tagEndText (isEmpty : Bool) : List Char := if isEmpty then ['/', '>'] else ['>']

theorem tagEnd_append (isEmpty : Bool) (rest : List Char) :
    tagEnd innerReading (tagEndText isEmpty ++ rest) = .ok (isEmpty, rest) := by
  cases isEmpty <;> rfl

theorem exists_cons_tagEndText (isEmpty : Bool) (rest : List Char) :
    ∃ d ds, tagEndText isEmpty ++ rest = d :: ds ∧ (d = '>' ∨ d = '/') ∧ EndsName d := by
  cases isEmpty with
  | false => exact ⟨'>', rest, rfl, .inl rfl, endsName_greater⟩
  | true => exact ⟨'/', '>' :: rest, rfl, .inr rfl, endsName_slash⟩

/-- White space and the end of a tag, after its attributes. -/
theorem attributes_end {ws : List Char} (h : AreSpaces ws) (fuel : Nat) (acc : List RawAttribute)
    (isEmpty : Bool) (rest : List Char) :
    attributes innerReading (fuel + 1) acc (ws ++ (tagEndText isEmpty ++ rest))
      = .ok ((acc.reverse, isEmpty), rest) := by
  have hend := tagEnd_append isEmpty rest
  obtain ⟨d, ds, hd, hmark, -⟩ := exists_cons_tagEndText isEmpty rest
  have hspace : isSpace d = false := by rcases hmark with rfl | rfl <;> decide
  rw [hd] at hend ⊢
  cases ws with
  | nil =>
    rw [List.nil_append, attributes, if_neg (by simp [hspace]), hend]
  | cons c ws =>
    obtain ⟨hc, hws⟩ := List.forall_mem_cons.1 h
    rw [List.cons_append, attributes, if_pos hc, skipSpace_append hws hspace]
    dsimp only
    rw [if_pos hmark, hend]

/-- The next attribute of a tag. -/
theorem attributes_attribute {a : Attribute} (h : a.IsWellFormed) (fuel : Nat)
    (acc : List RawAttribute) (rest : List Char) :
    ∃ raw, attributes innerReading (fuel + 1) acc (a.text ++ rest)
        = attributes innerReading fuel (raw :: acc) rest ∧
      raw.name = a.name ∧ raw.value = a.valueText := by
  refine ⟨⟨a.name, a.body ++ rest, a.valueText, a.quote :: rest⟩, ?_, rfl, rfl⟩
  have hraw := rawAttribute_body h rest
  obtain ⟨c, ws, hcws⟩ := List.exists_cons_of_ne_nil h.space_ne_nil
  obtain ⟨hc, hws⟩ := List.forall_mem_cons.1 (hcws ▸ h.spaces.1)
  obtain ⟨d, ds, hname, hstart, -⟩ := h.name.exists_cons
  obtain ⟨hspace, hgreater, hslash, -⟩ := IsPlainName.head_ne hstart
  obtain ⟨es, hbody⟩ : ∃ es, a.body ++ rest = d :: es := by
    rw [Attribute.body, hname]
    exact ⟨_, rfl⟩
  rw [Attribute.text, List.append_assoc, hcws, List.cons_append, attributes, if_pos hc]
  rw [hbody] at hraw ⊢
  rw [skipSpace_append hws hspace]
  dsimp only
  rw [if_neg (by simp [hgreater, hslash]), hraw]

/-- **The attributes of a tag are read** one after the other. -/
theorem attributes_append {as : List Attribute} (h : ∀ a ∈ as, a.IsWellFormed) {ws : List Char}
    (hws : AreSpaces ws) {fuel : Nat} (hfuel : as.length < fuel) (acc : List RawAttribute)
    (isEmpty : Bool) (rest : List Char) :
    ∃ raws, attributes innerReading fuel acc
        (as.flatMap Attribute.text ++ (ws ++ (tagEndText isEmpty ++ rest)))
          = .ok ((acc.reverse ++ raws, isEmpty), rest) ∧
      raws.map (fun r => (r.name, r.value)) = as.map fun a => (a.name, a.valueText) := by
  induction as generalizing fuel acc with
  | nil =>
    obtain ⟨fuel, rfl⟩ := Nat.exists_eq_succ_of_ne_zero (Nat.ne_of_gt (Nat.zero_lt_of_lt hfuel))
    exact ⟨[], by simpa using attributes_end hws fuel acc isEmpty rest, rfl⟩
  | cons a as ih =>
    obtain ⟨ha, has⟩ := List.forall_mem_cons.1 h
    obtain ⟨fuel, rfl⟩ := Nat.exists_eq_succ_of_ne_zero (Nat.ne_of_gt (Nat.zero_lt_of_lt hfuel))
    obtain ⟨raw, hraw, hname, hvalue⟩ := attributes_attribute ha fuel acc
      (as.flatMap Attribute.text ++ (ws ++ (tagEndText isEmpty ++ rest)))
    obtain ⟨raws, hraws, hmap⟩ := ih has (Nat.lt_of_succ_lt_succ hfuel) (raw :: acc)
    refine ⟨raw :: raws, ?_, ?_⟩
    · rw [List.flatMap_cons, List.append_assoc, hraw, hraws, List.reverse_cons, List.append_assoc,
        List.singleton_append]
    · rw [List.map_cons, List.map_cons, hmap, hname, hvalue]

/-! ## Tags -/

/-- **A tag that opens an element is read.** -/
theorem startTag_append {t : Tag} (h : t.IsWellFormed) {fuel : Nat}
    (hfuel : t.attributes.length ≤ fuel) (isEmpty : Bool) (rest : List Char) :
    ∃ raws, startTag innerReading fuel (t.text ++ (tagEndText isEmpty ++ rest))
        = .ok (⟨t.name, raws, isEmpty⟩, rest) ∧
      raws.map (fun r => (r.name, r.value)) = t.attributes.map fun a => (a.name, a.valueText) := by
  obtain ⟨raws, hraws, hmap⟩ := attributes_append h.attributes h.space (Nat.lt_succ_of_le hfuel) []
    isEmpty rest
  refine ⟨raws, ?_, hmap⟩
  have hnext : ∃ e es, t.attributes.flatMap Attribute.text
      ++ (t.space ++ (tagEndText isEmpty ++ rest)) = e :: es ∧ EndsName e := by
    cases has : t.attributes with
    | nil =>
      obtain ⟨d, ds, hd, -, hends⟩ := exists_cons_tagEndText isEmpty rest
      rw [hd]
      exact exists_cons_of_spaces h.space hends ds
    | cons a as =>
      have ha := h.attributes a (has ▸ List.mem_cons_self)
      obtain ⟨c, ws, hcws⟩ := List.exists_cons_of_ne_nil ha.space_ne_nil
      refine ⟨c, ws ++ a.body ++ as.flatMap Attribute.text
        ++ (t.space ++ (tagEndText isEmpty ++ rest)), ?_,
        endsName_of_isSpace (ha.spaces.1 c (hcws ▸ List.mem_cons_self))⟩
      rw [List.flatMap_cons, Attribute.text, hcws]
      rfl
  obtain ⟨e, es, he, hends⟩ := hnext
  rw [Tag.text, List.append_assoc, List.append_assoc, startTag, he,
    qualifiedName_append h.name hends]
  dsimp only
  rw [← he, hraws]
  rfl

/-- **So is one that closes an element.** -/
theorem endTag_append {n : List Char} (h : IsPlainName n) (rest : List Char) :
    endTag innerReading (n ++ '>' :: rest) = .ok (n, rest) := by
  have hpart : ¬ (isNameChar innerReading.latin '>' || '>' == ':') = true := by
    rw [show isNameChar innerReading.latin '>' = false from endsName_greater.1]
    decide
  have hdrop : ('>' :: rest).dropWhile (fun c => isNameChar innerReading.latin c || c == ':')
      = '>' :: rest := List.dropWhile_cons_of_neg hpart
  have htake : ('>' :: rest).takeWhile (fun c => isNameChar innerReading.latin c || c == ':')
      = [] := List.takeWhile_cons_of_neg hpart
  rw [endTag, name_append h endsName_greater]
  dsimp only
  rw [hdrop, htake, List.append_nil]
  rfl

end SchemaGen.Xml
