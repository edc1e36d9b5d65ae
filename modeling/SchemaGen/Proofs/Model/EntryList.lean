import SchemaGen.Proofs.Model.Acceptance
import SchemaGen.Proofs.Model.ForeignKeyEntries
import SchemaGen.Proofs.Xml.Script
import SchemaGen.Proofs.Xml.Selection

/-!
# Column pairs in the text of a document

The column pairs of a relation pass through three readers: that of documents, which makes blanks of
the white space in a value, that of entries, and that of models. A document with one relation
(`ListsPairs`) is read into the pairs that were written where what stands between the entries is
kept by the first reader: the two characters backslash and `n`, or a line feed that is written by
its number. But of a line break that is written as such a blank is left, and all pairs are merged
into one (`outcome_read_of_listsPairs`).
-/

namespace SchemaGen.Model

open ForeignKeyText (IsSeparator IsWritable entryTexts joinEntries merged)
open Xml (Attribute Element Markup Script Sign Tag)

/-! ## Documents with one relation -/

/-- The tables of a document with pairs under one table alone. -/
def joinedTables (root : Element) (table referenced : String) (pairs : List ColumnPair) :
    List Table :=
  (tableElements root).map fun e =>
    { bareTable e with
      foreignKeys := if tableName e = table then [(referenced, pairs)] else [] }

section OneRelation

variable {root e : Element} {table referenced : String} {pairs : List ColumnPair}
  (h : relationElements root = [e]) (hreferenced : sourceOf root e = some referenced)
  (htable : destinationOf root e = some table)

include h hreferenced htable

theorem foreignKeysOf_of_relation (hne : pairsOf e ≠ []) (name : String) :
    foreignKeysOf root name = if name = table then [(referenced, pairsOf e)] else [] := by
  have hinto : relationsInto root name
      = if table = name then [(referenced, pairsOf e)] else [] := by
    rw [relationsInto, h]
    by_cases hname : table = name <;> simp [hreferenced, htable, hname]
  by_cases hname : table = name
  · rw [if_pos hname] at hinto
    rw [if_pos hname.symm, foreignKeysOf, referencedBy, hinto]
    simp [hne, List.eraseDups_cons]
  · rw [if_neg hname] at hinto
    rw [if_neg (Ne.symm hname), foreignKeysOf, referencedBy, hinto]
    rfl

/-- **A document with one relation is read** into its tables, with the pairs of the relation. -/
theorem ofElement_of_relation (htag : root.tag = "DBMODEL")
    (hnamed : ∀ e ∈ tableElements root, IsNamed e)
    (hn : ((tableElements root).map tableName).Nodup)
    (hpairs : ForeignKeyText.read ((e.attribute? "FKFields").getD "") = .ok pairs)
    (hne : pairs ≠ []) :
    (ofElement root).outcome = .ok (joinedTables root table referenced pairs) := by
  have hmodel : IsModel root := by
    refine ⟨hnamed, hn, fun e' he' => ?_⟩
    rw [h, List.mem_singleton] at he'
    subst he'
    exact ⟨⟨_, hreferenced⟩, ⟨_, htable⟩, ⟨_, hpairs⟩⟩
  have hof : pairsOf e = pairs := by rw [pairsOf, hpairs]
  have htables : joinedTables root table referenced pairs = tablesOf root := by
    refine List.map_congr_left fun e' _ => ?_
    rw [foreignKeysOf_of_relation h hreferenced htable (hof ▸ hne), hof]
  exact ofElement_eq_ok_iff.2 ⟨htag, hmodel, htables⟩

end OneRelation

/-! ## Documents as they are written -/

/-- Whether a document is given as it is written, in octets of UTF-8 or as a text. -/
def Source.Holds : Source → Script → Prop
  | octets content, d => content = Text.Utf8.encode d.text ∧ d.IsUtf8 false
  | text content, d => content = d.text

theorem Source.element_of_holds {source : Source} {d : Script} (hd : d.IsWellFormed)
    (h : source.Holds d) : source.element = .ok d.root := by
  cases source with
  | octets content =>
    obtain ⟨rfl, hutf8⟩ := h
    exact Script.read_script hd hutf8
  | text content =>
    cases h
    exact Script.read_script hd (.inl rfl)

/-- **A value that lists pairs**: their entries, written in any way, with a separator between them
and perhaps after the last. -/
def IsEntryList (sep : List Sign) (pairs : List ColumnPair) (value : List Sign) : Prop :=
  ∃ (texts : List (List Sign)) (isEnded : Bool), value = Text.glue sep texts ∧
    texts.map (List.map Sign.char) = entryTexts isEnded pairs

/-- **A document with one relation**, which lists some pairs from one table to another. -/
structure ListsPairs (d : Script) (sep : List Sign) (pairs : List ColumnPair)
    (table referenced : String) : Prop where
  isWellFormed : d.IsWellFormed
  tag_eq : d.tag.name = "DBMODEL".toList
  named : ∀ e ∈ tableElements d.root, IsNamed e
  names_nodup : ((tableElements d.root).map tableName).Nodup
  pairs_ne_nil : pairs ≠ []
  writable : ∀ pair ∈ pairs, IsWritable pair
  relation : ∃ r, d.select ["METADATA", "RELATIONS", "RELATION"] = [r] ∧
    sourceOf d.root (Markup.elementOf r) = some referenced ∧
    destinationOf d.root (Markup.elementOf r) = some table ∧
    ∃ a ∈ r.1.attributes, a.name = "FKFields".toList ∧ IsEntryList sep pairs a.value

section Value

variable {sep : List Sign} {pairs : List ColumnPair} (h : ∀ pair ∈ pairs, IsWritable pair)
  {value : List Sign} (hvalue : IsEntryList sep pairs value)

include h in
/-- The entries of a list hold nothing that is read as something else. -/
theorem areKept_of_map_char {texts : List (List Sign)} {isEnded : Bool}
    (htexts : texts.map (List.map Sign.char) = entryTexts isEnded pairs) :
    ∀ signs ∈ texts, Sign.AreKept signs := by
  intro signs hsigns s hs
  have hmem : signs.map Sign.char ∈ entryTexts isEnded pairs := htexts ▸ List.mem_map_of_mem hsigns
  refine Sign.isKept_of_char ?_
  rcases List.mem_append.1 hmem with hmem | hmem
  · obtain ⟨pair, hpair, hchars⟩ := List.mem_map.1 hmem
    refine (h pair hpair).isPart_writeEntry.whiteSpace s.char ?_
    rw [hchars]
    exact List.mem_map_of_mem hs
  · split at hmem
    · rw [List.map_eq_nil_iff.1 (List.mem_singleton.1 hmem)] at hs
      cases hs
    · cases hmem

include h hvalue

/-- A separator that is kept stands between the entries that are read. -/
theorem IsEntryList.read_of_areKept (hsep : Sign.AreKept sep) :
    ∃ isEnded, Sign.read value = joinEntries (sep.map Sign.char) isEnded pairs := by
  obtain ⟨texts, isEnded, rfl, htexts⟩ := hvalue
  refine ⟨isEnded, ?_⟩
  rw [Sign.read_glue_of_areKept hsep (areKept_of_map_char h htexts), htexts, joinEntries]

/-- Of a line break a blank is left between them. -/
theorem IsEntryList.read_of_isLineBreak (hsep : Sign.IsLineBreak sep) :
    ∃ isEnded, Sign.read value = joinEntries [' '] isEnded pairs := by
  obtain ⟨texts, isEnded, rfl, htexts⟩ := hvalue
  refine ⟨isEnded, ?_⟩
  rw [Sign.read_glue_of_isLineBreak hsep (areKept_of_map_char h htexts), htexts, joinEntries]

end Value

namespace ListsPairs

variable {d : Script} {sep : List Sign} {pairs : List ColumnPair} {table referenced : String}

/-- What is read of the document hangs on what is read of the list. -/
theorem outcome_read (h : ListsPairs d sep pairs table referenced) {source : Source}
    (hsource : source.Holds d) {read : List ColumnPair} (hne : read ≠ [])
    (hread : ∀ value, IsEntryList sep pairs value →
      ForeignKeyText.read (String.ofList (Sign.read value)) = .ok read) :
    source.read.outcome = .ok (joinedTables d.root table referenced read) := by
  obtain ⟨r, hr, hreferenced, htable, a, ha, hname, hlist⟩ := h.relation
  have helement : relationElements d.root = [Markup.elementOf r] := by
    rw [relationElements, Script.select_root, hr, List.map_singleton]
  have hwell : r.1.IsWellFormed :=
    h.isWellFormed.tag_of_mem_select (hr ▸ List.mem_singleton_self r)
  have hattribute := Tag.attribute?_element hwell ha r.2.elements
  rw [hname, String.ofList_toList] at hattribute
  have hpairs : ForeignKeyText.read (((Markup.elementOf r).attribute? "FKFields").getD "")
      = .ok read := by
    rw [Markup.elementOf, hattribute]
    exact hread a.value hlist
  have htag : d.root.tag = "DBMODEL" := by
    show String.ofList d.tag.name = _
    rw [h.tag_eq, String.ofList_toList]
  rw [outcome_read_of_element (source.element_of_holds h.isWellFormed hsource)]
  exact ofElement_of_relation helement hreferenced htable htag h.named h.names_nodup hpairs hne

/-- Pairs come back from a separator that is kept. -/
theorem outcome_read_of_areKept (h : ListsPairs d sep pairs table referenced) {source : Source}
    (hsource : source.Holds d) (hkept : Sign.AreKept sep) (hsep : IsSeparator (sep.map Sign.char)) :
    source.read.outcome = .ok (joinedTables d.root table referenced pairs) := by
  refine h.outcome_read hsource h.pairs_ne_nil fun value hvalue => ?_
  obtain ⟨isEnded, hread⟩ := hvalue.read_of_areKept h.writable hkept
  rw [hread]
  exact ForeignKeyText.read_joinEntries h.writable hsep isEnded

/-- A line break makes one pair of them. -/
theorem outcome_read_of_isLineBreak (h : ListsPairs d sep pairs table referenced) {source : Source}
    (hsource : source.Holds d) (hsep : Sign.IsLineBreak sep) :
    source.read.outcome = .ok (joinedTables d.root table referenced (merged pairs)) := by
  have hne : merged pairs ≠ [] := by
    obtain ⟨pair, pairs, rfl⟩ := List.exists_cons_of_ne_nil h.pairs_ne_nil
    exact List.cons_ne_nil _ _
  refine h.outcome_read hsource hne fun value hvalue => ?_
  obtain ⟨isEnded, hread⟩ := hvalue.read_of_isLineBreak h.writable hsep
  rw [hread]
  exact ForeignKeyText.read_joinEntries_blank h.pairs_ne_nil h.writable isEnded

end ListsPairs

/-- **Where pairs come back from a document.** The pairs that a relation lists are read as they were
written if a separator of entries stands between them that is kept in a value. If it is a line break
that is written as such, all of them are merged into one pair, which is what was written only if
there was no more than one. -/
theorem outcome_read_of_listsPairs {d : Script} {sep : List Sign} {pairs : List ColumnPair}
    {table referenced : String} (h : ListsPairs d sep pairs table referenced) {source : Source}
    (hsource : source.Holds d) :
    (Sign.AreKept sep → IsSeparator (sep.map Sign.char) →
      source.read.outcome = .ok (joinedTables d.root table referenced pairs)) ∧
    (Sign.IsLineBreak sep →
      source.read.outcome = .ok (joinedTables d.root table referenced (merged pairs))) ∧
    (merged pairs = pairs ↔ pairs.length = 1) :=
  ⟨h.outcome_read_of_areKept hsource, h.outcome_read_of_isLineBreak hsource,
    ForeignKeyText.merged_eq_self_iff h.pairs_ne_nil⟩

/-! ## A document of orders -/

/-- An attribute that is written sign by sign. -/
def plainAttribute (name value : String) : Attribute where
  name := name.toList
  value := value.toList.map .plain

/-- The relation from the parts of an order to it, with a separator between two entries. -/
def orderRelation (sep : List Sign) : Tag where
  name := "RELATION".toList
  attributes := [plainAttribute "SrcTable" "1", plainAttribute "DestTable" "2",
    { name := "FKFields".toList
      value := Text.glue sep (["id=part_id", "no=part_no"].map fun e => e.toList.map .plain) }]

/-- A document of orders and their parts. -/
def orderDocument (sep : List Sign) : Script :=
  let plainTag (name : String) : Tag := { name := name.toList }
  let tableTag (identifier name : String) : Tag :=
    { name := "TABLE".toList
      attributes := [plainAttribute "ID" identifier, plainAttribute "Tablename" name] }
  { tag := plainTag "DBMODEL"
    content := .element [] (plainTag "METADATA")
      (.element [] (plainTag "TABLES")
        (.empty [] (tableTag "1" "part") (.empty [] (tableTag "2" "order") (.data [])))
        (.element [] (plainTag "RELATIONS") (.empty [] (orderRelation sep) (.data [])) (.data [])))
      (.data []) }

def orderPairs : List ColumnPair := [⟨"id", "part_id"⟩, ⟨"no", "part_no"⟩]

/-- The two signs of the separator that needs no line break. -/
def literalBreak : List Sign := [.plain '\\', .plain 'n']

/-- A line feed that is written by its number. -/
def numberedBreak : List Sign := [.reference (.number 10 ['1', '0']) '\n']

theorem listsPairs_orderDocument {s : List Sign}
    (h : s ∈ [literalBreak, numberedBreak, [.plain '\n']]) :
    ListsPairs (orderDocument s) s orderPairs "order" "part" := by
  simp only [List.mem_cons, List.not_mem_nil, or_false] at h
  rcases h with rfl | rfl | rfl
  all_goals exact {
    isWellFormed := {
      declaration := fun _ hd => by cases hd
      before := by decide
      tag := by decide +kernel
      content := by decide +kernel
      after := by decide
      isDocument := by rw [Script.toList_text]; exact List.all_eq_true.1 (by decide +kernel) }
    tag_eq := rfl
    named := by unfold IsNamed; decide +kernel
    names_nodup := by decide +kernel
    pairs_ne_nil := by decide
    writable := by decide +kernel
    relation := by
      refine ⟨(orderRelation _, .data []), rfl, by decide +kernel, by decide +kernel, _,
        List.mem_cons_of_mem _ (List.mem_cons_of_mem _ List.mem_cons_self), rfl, _, false, rfl, ?_⟩
      decide +kernel }

/-- The tables of the document of orders, with the pairs that are read. -/
def orderTables (pairs : List ColumnPair) : List Table :=
  [{ name := "part" }, { name := "order", foreignKeys := [("part", pairs)] }]

/-- In the document of orders both pairs come back from either separator, but not from a line break
that is written as such. -/
theorem outcome_read_orderDocument :
    (Source.text (orderDocument literalBreak).text).read.outcome = .ok (orderTables orderPairs) ∧
    (Source.text (orderDocument numberedBreak).text).read.outcome = .ok (orderTables orderPairs) ∧
    (Source.text (orderDocument [.plain '\n']).text).read.outcome
      = .ok (orderTables [⟨"id", "part_id no=part_no"⟩]) := by
  have hsource (sep : List Sign) :
      (Source.text (orderDocument sep).text).Holds (orderDocument sep) := rfl
  refine ⟨?_, ?_, ?_⟩
  · have h := listsPairs_orderDocument (s := literalBreak) (by simp)
    refine ((outcome_read_of_listsPairs h (hsource _)).1 (by decide) (by decide)).trans ?_
    exact congrArg Except.ok (by decide +kernel)
  · have h := listsPairs_orderDocument (s := numberedBreak) (by simp)
    refine ((outcome_read_of_listsPairs h (hsource _)).1 (by decide) (by decide)).trans ?_
    exact congrArg Except.ok (by decide +kernel)
  · have h := listsPairs_orderDocument (s := [.plain '\n']) (by simp)
    refine ((outcome_read_of_listsPairs h (hsource _)).2.1 List.mem_cons_self).trans ?_
    exact congrArg Except.ok (by decide +kernel)

/-- **A line break loses the pairs it separates**: the two pairs of the document of orders are not
read. -/
theorem outcome_read_lineBreak_ne :
    ListsPairs (orderDocument [.plain '\n']) [.plain '\n'] orderPairs "order" "part" ∧
      (Source.text (orderDocument [.plain '\n']).text).read.outcome
        ≠ .ok (joinedTables (orderDocument [.plain '\n']).root "order" "part" orderPairs) := by
  have h := listsPairs_orderDocument (s := [.plain '\n']) (by simp)
  have hsource : (Source.text (orderDocument [.plain '\n']).text).Holds
    (orderDocument [.plain '\n']) := rfl
  rw [h.outcome_read_of_isLineBreak hsource List.mem_cons_self]
  exact ⟨h, by decide +kernel⟩

end SchemaGen.Model
