import SchemaGen.Proofs.Perl.Quoting
import SchemaGen.Proofs.Scheme

/-!
# The literals of a declaration

A declaration holds three literals: the class of the other table, the foreign column behind
`foreign.` and the local column behind `self.`. The class is quoted, but the columns are written
between quotes as they are. By the quote rule a text that is written so stands for itself only if it
is *verbatim*: it has no quote, no two backslashes in a row, and no backslash at its end
(`IsVerbatim`).

`tokens` reads a text by the quote rule, as literals and the characters outside of them. A text that
is written from tokens without an escape reads as these tokens if, and only if, its literals are
verbatim (`tokens_text_iff`): each escape that the rule finds makes what is read shorter than what
was written. So the join of a declaration reads as it is meant just where both of its columns are
verbatim (`readsJoin_of_tableClass`), and a column with a quote ends its literal early
(`tokens_joinText_quoted`).
-/

namespace SchemaGen.Perl

open Model (Table RelationSet Relations)

/-! ## Verbatim texts -/

/-- **A text that stands for itself between quotes.** -/
structure IsVerbatim (s : List Char) : Prop where
  no_quote : '\'' ∉ s
  no_escape : ¬ ['\\', '\\'] <:+: s
  no_end : s.getLast? ≠ some '\\'

instance (s : List Char) : Decidable (IsVerbatim s) :=
  decidable_of_iff ('\'' ∉ s ∧ ¬ ['\\', '\\'] <:+: s ∧ s.getLast? ≠ some '\\')
    ⟨fun ⟨hquote, hescape, hend⟩ => ⟨hquote, hescape, hend⟩,
      fun h => ⟨h.no_quote, h.no_escape, h.no_end⟩⟩

theorem isVerbatim_nil : IsVerbatim [] := by decide

/-- A character comes before a verbatim text unless it is a quote or begins an escape there. -/
theorem isVerbatim_cons_iff {c : Char} {s : List Char} :
    IsVerbatim (c :: s) ↔
      c ≠ '\'' ∧ (c = '\\' → ∃ d ∈ s.head?, d ≠ '\\') ∧ IsVerbatim s := by
  constructor
  · intro h
    obtain ⟨hc, hs⟩ := not_or.1 (mt List.mem_cons.2 h.no_quote)
    refine ⟨Ne.symm hc, ?_, hs, mt (fun hi => hi.trans (List.suffix_cons c s).isInfix) h.no_escape,
      ?_⟩
    · rintro rfl
      cases s with
      | nil => exact absurd rfl h.no_end
      | cons d s =>
        refine ⟨d, rfl, ?_⟩
        rintro rfl
        exact h.no_escape ⟨[], s, rfl⟩
    · intro hlast
      have hne : s ≠ [] := by
        rintro rfl
        cases hlast
      exact h.no_end (by rw [List.getLast?_cons, hlast]; rfl)
  · rintro ⟨hc, hnext, hs⟩
    refine ⟨fun hm => ?_, fun hi => ?_, fun hlast => ?_⟩
    · rcases List.mem_cons.1 hm with he | hm
      · exact hc he.symm
      · exact hs.no_quote hm
    · rcases List.infix_cons_iff.1 hi with hp | hi
      · obtain ⟨hback, s', rfl⟩ := List.cons_prefix_cons.1 hp
        obtain ⟨d, hd, hne⟩ := hnext hback.symm
        cases hd
        exact hne rfl
      · exact hs.no_escape hi
    · cases s with
      | nil =>
        cases hlast
        obtain ⟨d, hd, -⟩ := hnext rfl
        cases hd
      | cons d s => exact hs.no_end (by rwa [List.getLast?_cons_cons] at hlast)

/-- Plain characters in front of a text make no difference. -/
theorem isVerbatim_append_iff {pre s : List Char} (h : ∀ c ∈ pre, c ≠ '\'' ∧ c ≠ '\\') :
    IsVerbatim (pre ++ s) ↔ IsVerbatim s := by
  induction pre with
  | nil => rfl
  | cons c pre ih =>
    obtain ⟨⟨hquote, hback⟩, hpre⟩ := List.forall_mem_cons.1 h
    rw [List.cons_append, isVerbatim_cons_iff, ih hpre]
    exact ⟨fun h => h.2.2, fun h => ⟨hquote, fun he => absurd he hback, h⟩⟩

/-! ## Reading one literal -/

/-- **A verbatim text is read as it is**, up to the quote behind it. -/
theorem IsVerbatim.scanBody_append {s : List Char} (h : IsVerbatim s) (t : List Char) :
    scanBody (s ++ '\'' :: t) = some (s, t) := by
  induction s with
  | nil => rfl
  | cons c s ih =>
    obtain ⟨hquote, hnext, hs⟩ := isVerbatim_cons_iff.1 h
    have hback : c = '\\' → ∃ d ∈ (s ++ '\'' :: t).head?, d ≠ '\\' ∧ d ≠ '\'' := by
      intro hc
      obtain ⟨d, hd, hne⟩ := hnext hc
      obtain ⟨s', rfl⟩ : ∃ s', s = d :: s' := List.head?_eq_some_iff.1 hd
      exact ⟨d, rfl, hne, fun he => hs.no_quote (he ▸ List.mem_cons_self)⟩
    rw [List.cons_append, scanBody_cons hquote hback, ih hs]
    rfl

/-- **A literal that was read from a text, up to the rest.** With the quote at its end it is no
longer than what it was read from, and shorter unless it was written as it is. -/
structure IsReadFrom (s rest cs : List Char) : Prop where
  length_lt : s.length + rest.length < cs.length
  verbatim : cs.length = s.length + rest.length + 1 → cs = s ++ '\'' :: rest ∧ IsVerbatim s

/-- After an escape it is shorter, -/
theorem IsReadFrom.escape {s rest cs : List Char} (h : IsReadFrom s rest cs) (c d : Char) :
    IsReadFrom (d :: s) rest (c :: d :: cs) := by
  have hlt := h.length_lt
  constructor
  · simp only [List.length_cons]
    omega
  · intro he
    simp only [List.length_cons] at he
    omega

/-- and after any other character it is so if it was before. -/
theorem IsReadFrom.cons {s rest cs : List Char} (h : IsReadFrom s rest cs) {c : Char}
    (hquote : c ≠ '\'') (hback : c = '\\' → ∃ d ∈ cs.head?, d ≠ '\\' ∧ d ≠ '\'') :
    IsReadFrom (c :: s) rest (c :: cs) := by
  have hlt := h.length_lt
  constructor
  · simp only [List.length_cons]
    omega
  · intro he
    simp only [List.length_cons] at he
    obtain ⟨rfl, hverbatim⟩ := h.verbatim (by omega)
    refine ⟨rfl, isVerbatim_cons_iff.2 ⟨hquote, fun hc => ?_, hverbatim⟩⟩
    obtain ⟨d, hd, hne, hend⟩ := hback hc
    cases s with
    | nil => exact absurd (Option.some.inj hd).symm hend
    | cons e s => exact ⟨d, hd, hne⟩

/-- **What the quote rule reads was read from its text.** -/
theorem isReadFrom_of_scanBody {cs s rest : List Char} (h : scanBody cs = some (s, rest)) :
    IsReadFrom s rest cs := by
  induction cs using scanBody.induct generalizing s with
  | case1 => cases h
  | case2 rest' =>
    cases h
    exact ⟨by simp, fun _ => ⟨rfl, isVerbatim_nil⟩⟩
  | case3 cs ih =>
    obtain ⟨⟨s, t⟩, hs, he⟩ := Option.map_eq_some_iff.1 h
    cases he
    exact (ih hs).escape _ _
  | case4 cs ih =>
    obtain ⟨⟨s, t⟩, hs, he⟩ := Option.map_eq_some_iff.1 h
    cases he
    exact (ih hs).escape _ _
  | case5 c cs hquote hback hescaped ih =>
    rw [scanBody.eq_5 c cs hquote hback hescaped] at h
    obtain ⟨⟨s, t⟩, hs, he⟩ := Option.map_eq_some_iff.1 h
    cases he
    exact (ih hs).cons hquote (exists_head?_of_scanBody hback hescaped hs)

/-! ## Reading a text -/

/-- A part of a text by the quote rule: a literal, told by what it stands for, or a character that
is in no literal. -/
inductive Token where
  | literal (value : List Char)
  | outside (c : Char)
deriving DecidableEq, Repr

/-- **A text by the quote rule.** Nothing is read where a literal does not end. -/
def tokens (cs : List Char) : Option (List Token) :=
  match cs with
  | [] => some []
  | c :: cs =>
    if c = '\'' then
      match _ : scanBody cs with
      | some (value, rest) => (tokens rest).map (.literal value :: ·)
      | none => none
    else (tokens cs).map (.outside c :: ·)
termination_by cs.length
decreasing_by
  · have hlt := (isReadFrom_of_scanBody ‹_›).length_lt
    simp only [List.length_cons]
    omega
  · exact Nat.lt_succ_self _

theorem tokens_nil : tokens [] = some [] := by rw [tokens]

theorem tokens_cons {c : Char} (h : c ≠ '\'') (cs : List Char) :
    tokens (c :: cs) = (tokens cs).map (.outside c :: ·) := by
  rw [tokens, if_neg h]

theorem tokens_quote_cons (cs : List Char) :
    tokens ('\'' :: cs)
      = (scanBody cs).bind fun p => (tokens p.2).map (.literal p.1 :: ·) := by
  rw [tokens, if_pos rfl]
  split
  · next h => rw [h]; rfl
  · next h => rw [h]; rfl

/-- **What was quoted is read as it was**, whatever comes behind it. -/
theorem tokens_quote_append (s : String) (cs : List Char) :
    tokens ((quote s).toList ++ cs) = (tokens cs).map (.literal s.toList :: ·) := by
  rw [quote, String.toList_ofList, quoteChars, List.append_assoc, List.cons_append,
    List.singleton_append, tokens_quote_cons, scanBody_escape]
  rfl

/-! ## Texts without escapes -/

namespace Token

/-- A token as it is written without an escape. -/
def text : Token → List Char
  | literal value => '\'' :: value ++ ['\'']
  | outside c => [c]

/-- Whether a token stands for itself where it is written without an escape. -/
def IsPlain : Token → Prop
  | literal value => IsVerbatim value
  | outside c => c ≠ '\''

instance : (t : Token) → Decidable t.IsPlain
  | literal value => inferInstanceAs (Decidable (IsVerbatim value))
  | outside c => inferInstanceAs (Decidable (c ≠ '\''))

end Token

/-- A text outside of literals. -/
def outsideOf (s : String) : List Token := s.toList.map .outside

theorem text_outsideOf (s : String) : (outsideOf s).flatMap Token.text = s.toList := by
  rw [outsideOf, List.flatMap_map]
  exact List.flatMap_singleton' s.toList

theorem isPlain_outsideOf {s : String} (h : '\'' ∉ s.toList) : ∀ t ∈ outsideOf s, t.IsPlain := by
  intro t ht
  obtain ⟨c, hc, rfl⟩ := List.mem_map.1 ht
  show c ≠ '\''
  exact fun he => h (he ▸ hc)

/-- **What is written from plain tokens reads as they are**, whatever comes behind it. -/
theorem tokens_text_append {ts : List Token} (h : ∀ t ∈ ts, t.IsPlain) (cs : List Char) :
    tokens (ts.flatMap Token.text ++ cs) = (tokens cs).map (ts ++ ·) := by
  induction ts with
  | nil => exact Option.map_id'.symm
  | cons t ts ih =>
    obtain ⟨ht, hts⟩ := List.forall_mem_cons.1 h
    rw [List.flatMap_cons, List.append_assoc]
    cases t with
    | literal value =>
      have hvalue : IsVerbatim value := ht
      rw [Token.text, List.cons_append, List.cons_append, List.append_assoc,
        List.singleton_append, tokens_quote_cons, hvalue.scanBody_append]
      show (tokens (ts.flatMap Token.text ++ cs)).map _ = _
      rw [ih hts, Option.map_map]
      rfl
    | outside c =>
      rw [Token.text, List.singleton_append, tokens_cons ht, ih hts, Option.map_map]
      rfl

theorem tokens_text {ts : List Token} (h : ∀ t ∈ ts, t.IsPlain) :
    tokens (ts.flatMap Token.text) = some ts := by
  have htokens := tokens_text_append h []
  rwa [List.append_nil, tokens_nil, Option.map_some, List.append_nil] at htokens

/-- **Tokens that were read are no longer than the text** when they are written without an escape,
and shorter unless they are plain. -/
theorem length_text_le {cs : List Char} {ts : List Token} (h : tokens cs = some ts) :
    (ts.flatMap Token.text).length ≤ cs.length ∧
      ((ts.flatMap Token.text).length = cs.length → ∀ t ∈ ts, t.IsPlain) := by
  induction cs using tokens.induct generalizing ts with
  | case1 =>
    rw [tokens_nil] at h
    cases h
    exact ⟨Nat.le_refl 0, fun _ t ht => nomatch ht⟩
  | case2 cs value rest hread ih =>
    rw [tokens_quote_cons, hread] at h
    obtain ⟨ts, hts, rfl⟩ := Option.map_eq_some_iff.1 h
    obtain ⟨hle, hplain⟩ := ih hts
    have hvalue := isReadFrom_of_scanBody hread
    have hlt := hvalue.length_lt
    simp only [List.flatMap_cons, Token.text, List.length_append, List.length_cons,
      List.length_nil]
    refine ⟨by omega, fun he => List.forall_mem_cons.2 ⟨?_, hplain (by omega)⟩⟩
    exact (hvalue.verbatim (by omega)).2
  | case3 cs hread =>
    rw [tokens_quote_cons, hread] at h
    cases h
  | case4 c cs hc ih =>
    rw [tokens_cons hc] at h
    obtain ⟨ts, hts, rfl⟩ := Option.map_eq_some_iff.1 h
    obtain ⟨hle, hplain⟩ := ih hts
    simp only [List.flatMap_cons, Token.text, List.length_append, List.length_cons,
      List.length_nil]
    exact ⟨by omega, fun he => List.forall_mem_cons.2 ⟨hc, hplain (by omega)⟩⟩

/-- **A text without escapes reads as its tokens** if, and only if, they are plain. -/
theorem tokens_text_iff {ts : List Token} :
    tokens (ts.flatMap Token.text) = some ts ↔ ∀ t ∈ ts, t.IsPlain :=
  ⟨fun h => (length_text_le h).2 rfl, tokens_text⟩

/-! ## The join of a declaration -/

namespace Declaration

/-- A statement up to the arrow behind its name. -/
def opening (d : Declaration) : String :=
  "__PACKAGE__->" ++ d.kind.method ++ "(" ++ d.name ++ " =>"

/-- What comes behind the class of the other table. -/
def columnText (d : Declaration) : String := ",\n" ++ d.secondLine

/-- **The join of a declaration**: what comes behind the arrow. -/
def joinText (d : Declaration) : String := " " ++ quote d.package ++ d.columnText

theorem render_eq_joinText (d : Declaration) : d.render = d.opening ++ d.joinText := by
  have harrow : (" => " : String) = " =>" ++ " " := by simp
  have hcomma : (",\n" : String) = "," ++ "\n" := by simp
  rw [render_eq]
  unfold firstLine opening joinText columnText
  simp only [harrow, hcomma, String.append_assoc]

/-- What the columns are meant to read as. -/
def columnTokens (d : Declaration) : List Token :=
  outsideOf ",\n             \x7b " ++
    .literal ("foreign." ++ d.foreignColumn).toList ::
      (outsideOf " => " ++ .literal ("self." ++ d.localColumn).toList :: outsideOf " \x7d);")

/-- **What a join is meant to read as**: the class of the other table, the foreign column and the
local column, and nothing of them outside of these literals. -/
def joinTokens (d : Declaration) : List Token :=
  .outside ' ' :: .literal d.package.toList :: d.columnTokens

theorem text_columnTokens (d : Declaration) :
    d.columnTokens.flatMap Token.text = d.columnText.toList := by
  have hopen : ("             \x7b 'foreign." : String)
      = "             \x7b " ++ "'" ++ "foreign." := by simp
  have hmiddle : ("' => 'self." : String) = "'" ++ " => " ++ "'" ++ "self." := by simp
  have hclose : ("' \x7d);" : String) = "'" ++ " \x7d);" := by simp
  have hstart : (",\n             \x7b " : String) = ",\n" ++ "             \x7b " := by simp
  have hquote : ("'" : String).toList = ['\''] := rfl
  unfold columnTokens columnText secondLine
  simp only [hopen, hmiddle, hclose, hstart, List.flatMap_append, List.flatMap_cons,
    text_outsideOf, Token.text, String.toList_append, hquote, List.append_assoc, List.cons_append,
    List.nil_append]

/-- **The class of the other table reads as it is**, whatever its name. -/
theorem tokens_joinText (d : Declaration) :
    tokens d.joinText.toList = (tokens d.columnText.toList).map fun ts =>
      .outside ' ' :: .literal d.package.toList :: ts := by
  have hblank : (" " : String).toList = [' '] := rfl
  rw [joinText, String.toList_append, String.toList_append, hblank, List.append_assoc,
    List.singleton_append, tokens_cons (by decide), tokens_quote_append, Option.map_map]
  rfl

/-- What the columns are meant to read as is plain if they are verbatim. -/
theorem isPlain_columnTokens_iff (d : Declaration) :
    (∀ t ∈ d.columnTokens, t.IsPlain) ↔
      IsVerbatim d.foreignColumn.toList ∧ IsVerbatim d.localColumn.toList := by
  have hforeign : IsVerbatim ("foreign." ++ d.foreignColumn).toList
      ↔ IsVerbatim d.foreignColumn.toList := by
    rw [String.toList_append]
    exact isVerbatim_append_iff (by simp)
  have hself : IsVerbatim ("self." ++ d.localColumn).toList ↔ IsVerbatim d.localColumn.toList := by
    rw [String.toList_append]
    exact isVerbatim_append_iff (by simp)
  rw [← hforeign, ← hself]
  unfold columnTokens
  simp only [List.forall_mem_append, List.forall_mem_cons]
  constructor
  · rintro ⟨-, hforeign, -, hself, -⟩
    exact ⟨hforeign, hself⟩
  · rintro ⟨hforeign, hself⟩
    exact ⟨isPlain_outsideOf (by decide), hforeign, isPlain_outsideOf (by decide), hself,
      isPlain_outsideOf (by decide)⟩

/-- **A join reads as it is meant** if, and only if, both of its columns are verbatim. -/
theorem tokens_joinText_iff (d : Declaration) :
    tokens d.joinText.toList = some d.joinTokens ↔
      IsVerbatim d.foreignColumn.toList ∧ IsVerbatim d.localColumn.toList := by
  rw [tokens_joinText, ← isPlain_columnTokens_iff, ← tokens_text_iff, text_columnTokens,
    Option.map_eq_some_iff]
  constructor
  · rintro ⟨ts, hts, he⟩
    cases he
    exact hts
  · exact fun h => ⟨d.columnTokens, h, rfl⟩

end Declaration

/-! ## The joins of a class -/

/-- The statement of a declaration stands in the source of its class. -/
theorem ResultClass.render_isInfix {c : ResultClass} {d : Declaration} (hd : d ∈ c.declarations) :
    d.render.toList <:+: c.render.toList := by
  have hline : d.render ++ "\n" ∈ (c.headLines ++ c.bodyLines).map (· ++ "\n") := by
    refine List.mem_map_of_mem (List.mem_append_right _ (List.mem_append_left _ ?_))
    exact List.mem_flatMap.2 ⟨d, hd, by simp⟩
  have hinfix : (d.render ++ "\n").toList <:+: c.render.toList := by
    rw [ResultClass.render, String.toList_join]
    exact List.infix_of_mem_flatten (List.mem_map_of_mem hline)
  rw [String.toList_append] at hinfix
  exact (List.prefix_append _ _).isInfix.trans hinfix

/-- **How the join of a declaration reads** in a source. -/
structure ReadsJoin (source : String) (d : Declaration) : Prop where
  /-- The statement stands in the source, and its join behind the arrow. -/
  statement : (d.opening ++ d.joinText).toList <:+: source.toList
  /-- The class of the other table comes first, and reads as it is. -/
  package : tokens d.joinText.toList = (tokens d.columnText.toList).map fun ts =>
    .outside ' ' :: .literal d.package.toList :: ts
  /-- The columns read as they are meant just where both of them are verbatim. -/
  columns : tokens d.joinText.toList = some d.joinTokens ↔
    IsVerbatim d.foreignColumn.toList ∧ IsVerbatim d.localColumn.toList

/-- **Every declaration of a class comes from a column pair, and its join reads as it is meant if,
and only if, both columns of the pair are verbatim.** The class of the other table reads as it is in
any case. -/
theorem readsJoin_of_tableClass [Memory] {s : Settings} {t : Table} {r : RelationSet}
    {schemaName : String}
    {file : String × String} (h : (tableClass s t r schemaName).outcome = .ok file) :
    ∃ st, styleOf s = .ok st ∧ file.2 = (st.tableClass schemaName t r).render ∧
      ∀ d ∈ (st.tableClass schemaName t r).declarations,
        ((∃ p ∈ Entries.flat r.outgoing, d = .ofPair .hasMany (st.packageOf schemaName p.1) p.2) ∨
          ∃ p ∈ Entries.flat r.incoming, d = .ofPair .belongsTo (st.packageOf schemaName p.1) p.2) ∧
        ReadsJoin file.2 d := by
  obtain ⟨-, st, hst, rfl⟩ := outcome_tableClass h
  have hpair : ∀ (kind : RelationshipKind) (pairs : Model.PairsByTable),
      ∀ d ∈ Declaration.ofPairs kind (st.packageOf schemaName) pairs,
        ∃ p ∈ Entries.flat pairs, d = .ofPair kind (st.packageOf schemaName p.1) p.2 := by
    intro kind pairs d hd
    rw [ofPairs_eq] at hd
    obtain ⟨p, hp, rfl⟩ := List.mem_map.1 hd
    exact ⟨p, hp, rfl⟩
  refine ⟨st, hst, rfl, fun d hd => ⟨?_, ?_, d.tokens_joinText, d.tokens_joinText_iff⟩⟩
  · exact (List.mem_append.1 hd).imp (hpair .hasMany r.outgoing d) (hpair .belongsTo r.incoming d)
  · rw [← d.render_eq_joinText]
    exact ResultClass.render_isInfix hd

/-- The book of the sample, which refers to its author by columns that are verbatim. -/
def sampleBook : Table :=
  { name := "book", foreignKeys := [("author", [⟨"id", "writer"⟩])] }

theorem readsJoin_sampleBook : sampleBook ∈ Scheme.sampleTables ∧ ∃ file, ∃ d : Declaration,
    (tableClass {} sampleBook ((Relations.derive Scheme.sampleTables).of "book") "Schema").outcome
      = .ok file ∧
    d.kind = .belongsTo ∧ (d.opening ++ d.joinText).toList <:+: file.2.toList ∧
    tokens d.joinText.toList = some d.joinTokens := by
  obtain ⟨file, hfile⟩ : ∃ file, (tableClass {} sampleBook
      ((Relations.derive Scheme.sampleTables).of "book") "Schema").outcome = .ok file := ⟨_, rfl⟩
  obtain ⟨st, -, -, hjoins⟩ := readsJoin_of_tableClass hfile
  have hmem : Declaration.ofPair .belongsTo (st.packageOf "Schema" "author") ⟨"id", "writer"⟩
      ∈ (st.tableClass "Schema" sampleBook
        ((Relations.derive Scheme.sampleTables).of "book")).belongsTo := List.mem_singleton.2 rfl
  have hforeign : IsVerbatim "id".toList := by decide
  have hlocal : IsVerbatim "writer".toList := by decide
  obtain ⟨-, hreads⟩ := hjoins _ (List.mem_append_right _ hmem)
  exact ⟨by decide, file, _, hfile, rfl, hreads.statement, hreads.columns.2 ⟨hforeign, hlocal⟩⟩

/-- A document of two tables, one of which refers to a column of the other with a quote in its
name. -/
def quotedDocument : Model.Source :=
  .text ("<DBMODEL><METADATA><TABLES><TABLE Tablename='author'/><TABLE Tablename='book'/>" ++
    "</TABLES><RELATIONS><RELATION SrcTable='author' DestTable='book' " ++
    "FKFields=\"o'id=writer\"/></RELATIONS></METADATA></DBMODEL>")

/-- The book of this document. -/
def quotedBook : Table :=
  { name := "book", foreignKeys := [("author", [⟨"o'id", "writer"⟩])] }

theorem read_quotedDocument :
    quotedDocument.read.outcome = .ok [{ name := "author" }, quotedBook] := by
  decide +kernel

/-- What the columns of its declarations read as, up to the last quote. -/
def quotedTokens : List Token :=
  outsideOf ",\n             \x7b " ++ .literal "foreign.o".toList ::
    (outsideOf "id" ++ .literal " => ".toList :: outsideOf "self.writer")

theorem tokens_quoted (kind : RelationshipKind) (package : String) :
    tokens (Declaration.ofPair kind package ⟨"o'id", "writer"⟩).joinText.toList = none := by
  have hplain : ∀ t ∈ quotedTokens, t.IsPlain := by decide
  have htext : (Declaration.ofPair .belongsTo "" ⟨"o'id", "writer"⟩).columnText.toList
      = quotedTokens.flatMap Token.text ++ '\'' :: " \x7d);".toList := by decide +kernel
  have hend : scanBody " \x7d);".toList = none := by decide
  rw [Declaration.tokens_joinText]
  show (tokens (Declaration.ofPair .belongsTo "" ⟨"o'id", "writer"⟩).columnText.toList).map _ = _
  rw [htext, tokens_text_append hplain, tokens_quote_cons, hend]
  rfl

/-- **A column with a quote ends its literal early**, and then the last quote begins a literal that
has no end. -/
theorem tokens_joinText_quoted : ∃ tables, quotedDocument.read.outcome = .ok tables ∧
    ∃ p st schemaName, ((generator {}).generate tables).2.outcome = .ok p ∧
      Emits st schemaName tables p ∧
      ∃ t ∈ tables, ∃ d ∈ (st.classOf schemaName tables t).declarations,
        d.foreignColumn = "o'id" ∧ d.localColumn = "writer" ∧ tokens d.joinText.toList = none := by
  have hsuccess : ((generator {}).generate [{ name := "author" }, quotedBook]).2.isSuccess
      = true := by decide +kernel
  obtain ⟨p, hp⟩ := Scheme.exists_product hsuccess
  obtain ⟨st, schemaName, -, -, hemits⟩ := emits_of_generate (Settings.layoutOf_name .classes)
    (by decide) hp
  have hmem : Declaration.ofPair .belongsTo (st.packageOf schemaName "author") ⟨"o'id", "writer"⟩
      ∈ (st.classOf schemaName [{ name := "author" }, quotedBook] quotedBook).belongsTo := by
    refine (belongsTo_perm _ _ _ _).symm.subset ?_
    exact List.mem_singleton.2 rfl
  exact ⟨_, read_quotedDocument, p, st, schemaName, hp, hemits, quotedBook, by decide, _,
    List.mem_append_right _ hmem, rfl, rfl, tokens_quoted _ _⟩

end SchemaGen.Perl
