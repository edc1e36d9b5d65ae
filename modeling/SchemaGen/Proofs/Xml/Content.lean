import SchemaGen.Proofs.Xml.Values

/-!
# Elements are read as they are written

Inside of the root element a document is read step by step, with the elements that are open on a
stack. A step passes over the data before a sign `<` and then reads one comment or one tag. So by
induction on what stands between two tags, all of it is read in as many steps as it has comments and
tags, and its elements are put into the element around it (`readRoot_markup`).
-/

namespace SchemaGen.Xml

open Document (Content OpenElement Progress Setting readRoot readStep readMarkup addChild)

/-! ## Data and comments -/

/-- **Data is passed over** up to the next markup. -/
theorem skipData_append {cs : List Char} (h : IsData cs) (rest : List Char) :
    Document.skipData (cs ++ '<' :: rest) = '<' :: rest := by
  induction cs with
  | nil => rfl
  | cons c cs ih =>
    obtain ⟨⟨hless, hamp⟩, hcs⟩ := List.forall_mem_cons.1 h.1
    have hdata : IsData cs := ⟨hcs, fun hin => h.2 (hin.trans (List.suffix_cons c cs).isInfix)⟩
    -- the sign after the data ends no section, so an end of one would stand in the data itself
    have hsection : ∀ more, c = ']' → cs ++ '<' :: rest ≠ ']' :: '>' :: more := by
      rintro more rfl hmore
      match cs with
      | [] => cases hmore
      | [d] =>
        obtain ⟨-, hless⟩ := List.cons.inj hmore
        cases hless
      | d :: e :: ds =>
        obtain ⟨rfl, hgreater⟩ := List.cons.inj hmore
        obtain ⟨rfl, -⟩ := List.cons.inj hgreater
        exact h.2 ⟨[], ds, rfl⟩
    rw [List.cons_append, Document.skipData, if_neg (by simp [hless, hamp]), ih hdata]
    exact hsection

/-- **A comment is read** up to its end. -/
theorem commentBody_append {cs : List Char} (h : IsComment cs) (rest : List Char) :
    commentBody innerReading (cs ++ '-' :: '-' :: '>' :: rest) = .ok ((), rest) := by
  induction cs with
  | nil => rfl
  | cons c cs ih =>
    have hcomment : IsComment cs := fun hin =>
      h (hin.trans (List.suffix_cons c (cs ++ ['-'])).isInfix)
    have hdashes : ∀ more, c = '-' → cs ++ '-' :: '-' :: '>' :: rest ≠ '-' :: more := by
      rintro more rfl hmore
      cases cs with
      | nil => exact h ⟨[], [], rfl⟩
      | cons d ds =>
        obtain ⟨rfl, -⟩ := List.cons.inj hmore
        exact h ⟨[], ds ++ ['-'], rfl⟩
    rw [List.cons_append, commentBody, ih hcomment]
    · exact fun more => hdashes ('>' :: more)
    · exact hdashes []
    · exact hdashes

/-! ## Steps -/

/-- An element that was opened inside elements outside of all namespaces. -/
def AreOutermost (es : List OpenElement) : Prop := ∀ e ∈ es, e.opened.scope = Scope.outermost

section Step

variable {s : Setting} (hreading : s.reading = innerReading) (hdtd : s.dtd.rules = [])
  {es : List OpenElement}

/-- What is left when a child was put into the innermost element does not depend on what was there
before. -/
theorem addChild_eq (rest before : List Char) (inner : List OpenElement) (e : Element) :
    addChild { rest := before, elements := inner } e es rest
      = addChild { rest, elements := es } e es rest := by
  cases es <;> rfl

theorem readStep_markup {cs : List Char} (h : IsData cs) (rest : List Char) :
    readStep s { rest := cs ++ '<' :: rest, elements := es }
      = readMarkup s { rest := cs ++ '<' :: rest, elements := es } ('<' :: rest) rest := by
  rw [readStep, skipData_append h]
  rfl

include hreading in
theorem readStep_comment {before body : List Char} (h : IsData before) (hbody : IsComment body)
    (rest : List Char) :
    readStep s {
        rest := before ++ '<' :: '!' :: '-' :: '-' :: (body ++ '-' :: '-' :: '>' :: rest)
        elements := es }
      = .ok (.more { rest, elements := es }) := by
  have hcomment : comment innerReading ('-' :: (body ++ '-' :: '-' :: '>' :: rest))
      = .ok ((), rest) := commentBody_append hbody rest
  have hinner : ∀ more, (Content.reading s { rest := more, elements := es }) = innerReading :=
    fun _ => hreading
  rw [readStep_markup h, readMarkup]
  dsimp only
  rw [hinner, hcomment]

theorem readMarkup_name {c : Char} (hmark : c ≠ '!') (hquestion : c ≠ '?') (hslash : c ≠ '/')
    (k : Content) (start cs : List Char) :
    readMarkup s k start (c :: cs) = Document.readStartTag s k start (c :: cs) := by
  rw [readMarkup]
  · exact List.cons_ne_nil c cs
  · exact fun _ he => hmark (List.cons.inj he).1
  · exact fun _ he => hquestion (List.cons.inj he).1
  · exact fun _ he => hslash (List.cons.inj he).1

include hreading hdtd in
theorem readStartTag_eq {t : Tag} (ht : t.IsWellFormed) {raws : List RawAttribute}
    (hmap : raws.map (fun r => (r.name, r.value)) = t.attributes.map fun a => (a.name, a.valueText))
    {isEmpty : Bool} {cs rest : List Char}
    (hstart : startTag innerReading s.size cs = .ok (⟨t.name, raws, isEmpty⟩, rest))
    (hes : AreOutermost es) (before start : List Char) :
    Document.readStartTag s { rest := before, elements := es } start cs
      = .ok (if isEmpty then
          addChild { rest, elements := es } (OpenElement.close ⟨t.name, t.opened, []⟩) es rest
        else .more { rest, elements := ⟨t.name, t.opened, []⟩ :: es }) := by
  have hstart' : startTag s.reading s.size cs = .ok (⟨t.name, raws, isEmpty⟩, rest) := by
    rw [hreading, hstart]
  have hresolve (isTooMuch : Nat → Bool) : StartTag.resolve s.dtd isTooMuch s.reading []
      Scope.outermost 0 ⟨t.name, raws, isEmpty⟩ = .ok (t.opened, 0) := by
    rw [hreading, resolve_eq ht hmap hdtd]
  rw [Document.readStartTag]
  cases es with
  | nil =>
    simp only [Content.reading, List.isEmpty_nil, if_true, hstart', List.map_nil, hresolve]
    cases isEmpty <;> rfl
  | cons e es =>
    have he : e.opened.scope = Scope.outermost := hes e List.mem_cons_self
    simp only [Content.reading, List.isEmpty_nil, if_true, hstart', List.map_nil, he, hresolve]
    cases isEmpty <;> rfl

include hreading hdtd in
/-- A tag that opens an element puts it on the stack; that of an empty element closes it again. -/
theorem readStep_startTag {before : List Char} (h : IsData before) {t : Tag} (ht : t.IsWellFormed)
    (hsize : t.attributes.length ≤ s.size) (hes : AreOutermost es) (isEmpty : Bool)
    (rest : List Char) :
    readStep s {
        rest := before ++ '<' :: (t.text ++ (tagEndText isEmpty ++ rest))
        elements := es }
      = .ok (if isEmpty then
          addChild { rest, elements := es } (OpenElement.close ⟨t.name, t.opened, []⟩) es rest
        else .more { rest, elements := ⟨t.name, t.opened, []⟩ :: es }) := by
  obtain ⟨raws, hstart, hmap⟩ := startTag_append ht hsize isEmpty rest
  obtain ⟨c, cs, hname, hc, -⟩ := ht.name.exists_cons
  obtain ⟨-, -, hslash, hmark, hquestion⟩ := IsPlainName.head_ne hc
  obtain ⟨ds, hcs⟩ : ∃ ds, t.text ++ (tagEndText isEmpty ++ rest) = c :: ds := by
    rw [Tag.text, hname]
    exact ⟨_, rfl⟩
  rw [readStep_markup h]
  rw [hcs] at hstart ⊢
  rw [readMarkup_name hmark hquestion hslash]
  exact readStartTag_eq hreading hdtd ht hmap hstart hes _ _

include hreading in
/-- A tag that closes the innermost element puts it into the one around it. -/
theorem readStep_endTag {before : List Char} (h : IsData before) {e : OpenElement}
    (hname : IsPlainName e.name) (rest : List Char) :
    readStep s {
        rest := before ++ '<' :: '/' :: (e.name ++ '>' :: rest)
        elements := e :: es }
      = .ok (addChild { rest, elements := es } e.close es rest) := by
  have hend : endTag s.reading (e.name ++ '>' :: rest) = .ok (e.name, rest) := by
    rw [hreading, endTag_append hname]
  rw [readStep_markup h, readMarkup, Document.readEndTag]
  simp only [Content.reading, List.isEmpty_nil, if_true, hend]
  exact congrArg Except.ok (addChild_eq _ _ _ _)

end Step

/-! ## Runs -/

/-- What is left to do after a step. -/
def resume (s : Setting) (fuel : Nat) : Progress → Except Fault (Element × List Char)
  | .more c => readRoot s fuel c
  | .closed root rest => .ok (root, rest)

theorem readRoot_of_readStep {s : Setting} {c : Content} {p : Progress}
    (h : readStep s c = .ok p) (fuel : Nat) : readRoot s (fuel + 1) c = resume s fuel p := by
  rw [readRoot, h]
  cases p <;> rfl

namespace Markup

/-! The text is that of the first step with the text of the other steps after it. -/

theorem text_comment_append (before body : List Char) (more : Markup) (rest : List Char) :
    (comment before body more).text ++ rest
      = before ++ '<' :: '!' :: '-' :: '-' ::
          (body ++ '-' :: '-' :: '>' :: (more.text ++ rest)) := by
  simp [text]

theorem text_empty_append (before : List Char) (tag : Tag) (more : Markup) (rest : List Char) :
    (empty before tag more).text ++ rest
      = before ++ '<' :: (tag.text ++ (tagEndText true ++ (more.text ++ rest))) := by
  simp [text, tagEndText]

theorem text_element_append (before : List Char) (tag : Tag) (content more : Markup)
    (rest : List Char) :
    (element before tag content more).text ++ rest
      = before ++ '<' :: (tag.text ++ (tagEndText false ++
          (content.text ++ '<' :: '/' :: (tag.name ++ '>' :: (more.text ++ rest))))) := by
  simp [text, tagEndText]

/-- How many steps it takes to read what stands between two tags, and the tag that closes it. -/
def steps : Markup → Nat
  | data _ => 1
  | comment _ _ rest => rest.steps + 1
  | empty _ _ rest => rest.steps + 1
  | element _ _ content rest => content.steps + rest.steps + 1

theorem steps_le (m : Markup) : m.steps ≤ m.text.length + 1 := by
  induction m with
  | data cs => simp [steps]
  | comment before body rest ih => simp only [steps, text, List.length_append]; simp; omega
  | empty before tag rest ih => simp [steps, text]; omega
  | element before tag content rest ihc ihr => simp [steps, text]; omega

/-- The element that a tag opened, with the elements of what stands in it put into it. -/
def closes (m : Markup) (e : OpenElement) : Element :=
  OpenElement.close { e with
    children := m.elements.reverse ++ e.children }

/-- The first of the elements is put into the one around it. -/
theorem closes_of_elements {m more : Markup} {child : Element}
    (h : m.elements = child :: more.elements) (e : OpenElement) :
    m.closes e = more.closes { e with children := child :: e.children } := by
  rw [closes, closes, h, List.reverse_cons, List.append_assoc]
  rfl

/-- What stands between the tags of an element is its content. -/
theorem closes_opened (m : Markup) (t : Tag) :
    m.closes ⟨t.name, t.opened, []⟩ = t.element m.elements := by
  rw [closes, OpenElement.close, List.append_nil, List.reverse_reverse, Tag.element]
  rfl

end Markup

theorem length_attributes_le (t : Tag) :
    t.attributes.length ≤ t.text.length := by
  have hlength : ∀ as : List Attribute, as.length ≤ (as.flatMap Attribute.text).length := by
    intro as
    induction as with
    | nil => exact Nat.le_refl 0
    | cons a as ih =>
      have ha : 1 ≤ a.text.length := by simp [Attribute.text, Attribute.body]; omega
      rw [List.flatMap_cons, List.length_append, List.length_cons]
      omega
  rw [Tag.text, List.length_append, List.length_append]
  have := hlength t.attributes
  omega

theorem AreOutermost.cons {es : List OpenElement} (h : AreOutermost es) (t : Tag) :
    AreOutermost (⟨t.name, t.opened, []⟩ :: es) :=
  List.forall_mem_cons.2 ⟨rfl, h⟩

theorem AreOutermost.withChild {e : OpenElement} {es : List OpenElement}
    (h : AreOutermost (e :: es)) (child : Element) :
    AreOutermost ({ e with children := child :: e.children } :: es) :=
  List.forall_mem_cons.2 (List.forall_mem_cons.1 h)

section Run

variable {s : Setting} (hreading : s.reading = innerReading) (hdtd : s.dtd.rules = [])

include hreading hdtd in
/-- **What stands between two tags is read as it is written.** The elements in it are put into the
element around it, which is closed. -/
theorem readRoot_markup {m : Markup} (h : m.IsWellFormed) (hsize : m.text.length ≤ s.size)
    {e : OpenElement} (hname : IsPlainName e.name) {es : List OpenElement}
    (hes : AreOutermost (e :: es)) (rest : List Char) (fuel : Nat) :
    readRoot s (m.steps + fuel) {
        rest := m.text ++ '<' :: '/' :: (e.name ++ '>' :: rest)
        elements := e :: es }
      = resume s fuel (addChild { rest, elements := es } (m.closes e) es rest) := by
  -- what is left is read after the first step, with another stack and less fuel
  induction m generalizing e es rest fuel with
  | data cs =>
    rw [Markup.steps, Nat.add_comm]
    exact readRoot_of_readStep (readStep_endTag hreading h hname rest) fuel
  | comment before body more ih =>
    obtain ⟨hbefore, hbody, hmore⟩ := h
    rw [Markup.text_comment_append, Markup.steps, Nat.add_right_comm,
      readRoot_of_readStep (readStep_comment hreading hbefore hbody _)]
    exact ih hmore (by simp [Markup.text] at hsize; omega) hname hes rest fuel
  | empty before tag more ih =>
    obtain ⟨hbefore, htag, hmore⟩ := h
    simp only [Markup.text, List.length_append, List.length_cons] at hsize
    have hattributes : tag.attributes.length ≤ s.size := by
      have := length_attributes_le tag
      omega
    rw [Markup.text_empty_append, Markup.steps, Nat.add_right_comm,
      readRoot_of_readStep (readStep_startTag hreading hdtd hbefore htag hattributes hes true _),
      Markup.closes_of_elements rfl e]
    refine ih hmore (by omega) ?_ (hes.withChild (tag.element [])) rest fuel
    exact hname
  | element before tag content more ihc ihr =>
    obtain ⟨hbefore, htag, hcontent, hmore⟩ := h
    simp only [Markup.text, List.length_append, List.length_cons] at hsize
    have hattributes : tag.attributes.length ≤ s.size := by
      have := length_attributes_le tag
      omega
    have hsteps : (Markup.element before tag content more).steps + fuel
        = content.steps + (more.steps + fuel) + 1 := by
      rw [Markup.steps]
      omega
    rw [Markup.text_element_append, hsteps,
      readRoot_of_readStep (readStep_startTag hreading hdtd hbefore htag hattributes hes false _),
      Markup.closes_of_elements rfl e]
    refine (ihc hcontent (by omega) (e := ⟨tag.name, tag.opened, []⟩) htag.name
      (hes.cons tag) _ _).trans ?_
    rw [Markup.closes_opened]
    refine ihr hmore (by omega) ?_
      (hes.withChild (tag.element content.elements)) rest fuel
    exact hname

end Run

end SchemaGen.Xml
