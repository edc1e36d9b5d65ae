import SchemaGen.Proofs.Perl.Lines
import Mathlib.Data.List.TakeWhile

/-!
# Reading a source back

What a generated source says is read off its text. `declarationsIn` finds the paragraph that ends
with the primary key and reads every paragraph after it as a statement, up to the last line; it
fails on anything else that stands there. `classesIn` reads the names in the list of classes that a
schema class loads, without the blanks in front of them.

Both read back what was written (`declarationsIn_render`, `classesIn_render`), for all names of one
line. The name of a statement may hold arrows and quotes: the arrow after it is the first one after
which a literal takes all the rest of the line (`splitAtArrow_append`), since scanning a literal
that starts before it ends at its quote at the latest. Once the name is known, so is the local
column, which leaves the foreign one.
-/

namespace SchemaGen.Perl

open Text (IsLine EndsVisibly IsTidyLine)

/-! ## Statements -/

/-- The literal after an arrow at the front of a text, if it takes all the rest. -/
def literalAfterArrow : List Char → Option (List Char)
  | ' ' :: '=' :: '>' :: ' ' :: rest =>
    match scan rest with
    | some (literal, []) => some literal
    | _ => none
  | _ => none

/-- What stands before the first arrow with a literal to the end, and that literal. -/
def splitAtArrow : List Char → Option (List Char × List Char)
  | [] => none
  | c :: rest =>
    match literalAfterArrow (c :: rest) with
    | some literal => some ([], literal)
    | none => (splitAtArrow rest).map fun (name, literal) => (c :: name, literal)

/-- The kind of relationship that a line declares, and what follows the bracket. -/
def readKind (line : List Char) : Option (RelationshipKind × List Char) :=
  match "__PACKAGE__->has_many(".toList.isPrefixOf? line with
  | some rest => some (.hasMany, rest)
  | none => ("__PACKAGE__->belongs_to(".toList.isPrefixOf? line).map (.belongsTo, ·)

/-- The declaration that the two lines of a statement make. -/
def readStatement : List (List Char) → Option Declaration
  | [first, second] => do
    let (kind, rest) ← readKind first
    let target ← [','].isSuffixOf? rest
    let (name, package) ← splitAtArrow target
    let columns ← "             \x7b 'foreign.".toList.isPrefixOf? second
    let foreign ← ("' => 'self.".toList ++ name ++ "' \x7d);".toList).isSuffixOf? columns
    pure ⟨kind, .ofList name, .ofList package, .ofList foreign, .ofList name⟩
  | _ => none

/-- A scan that meets a quote after a blank goes no further. -/
theorem length_le_of_scanBody {xs ws s t : List Char}
    (h : scanBody (xs ++ ' ' :: '\'' :: ws) = some (s, t)) : ws.length ≤ t.length := by
  -- every step of the scan takes one or two characters of `xs`, until the blank is met; the quote
  -- after it ends the literal
  generalize hcs : xs ++ ' ' :: '\'' :: ws = cs at h
  fun_induction scanBody cs generalizing xs s with
  | case1 => cases h
  | case2 rest =>
    cases h
    cases xs with
    | nil => cases hcs
    | cons x xs =>
      obtain ⟨-, rfl⟩ := List.cons.inj hcs
      show ws.length ≤ (xs ++ ' ' :: '\'' :: ws).length
      rw [List.length_append, List.length_cons, List.length_cons]
      omega
  | case3 rest ih | case4 rest ih =>
    obtain ⟨⟨s', t'⟩, hs, he⟩ := Option.map_eq_some_iff.1 h
    cases he
    match xs, hcs with
    | [], hcs => cases hcs
    | [x], hcs => cases hcs
    | x :: y :: xs, hcs =>
      cases hcs
      exact ih rfl hs
  | case5 c rest _ _ _ ih =>
    obtain ⟨⟨s', t'⟩, hs, he⟩ := Option.map_eq_some_iff.1 h
    cases he
    cases xs with
    | nil =>
      cases hcs
      rw [scanBody] at hs
      cases hs
      exact Nat.le_refl _
    | cons x xs =>
      cases hcs
      exact ih rfl hs

theorem exists_of_literalAfterArrow {cs literal : List Char}
    (h : literalAfterArrow cs = some literal) :
    ∃ body, cs = ' ' :: '=' :: '>' :: ' ' :: '\'' :: body ∧ scanBody body = some (literal, []) := by
  rw [literalAfterArrow.eq_def] at h
  split at h
  · next rest =>
    split at h
    · next l hscan =>
      cases h
      rw [scan.eq_def] at hscan
      split at hscan
      · next body => exact ⟨body, rfl, hscan⟩
      · cases hscan
    · cases h
  · cases h

/-- An arrow inside the name is not followed by a literal to the end: that would have to go on past
the quote of the one that is written. -/
theorem literalAfterArrow_eq_none (c : Char) (name : List Char) {ws : List Char} (hws : ws ≠ []) :
    literalAfterArrow (c :: (name ++ ' ' :: '=' :: '>' :: ' ' :: '\'' :: ws)) = none := by
  rw [Option.eq_none_iff_forall_ne_some]
  intro literal h
  obtain ⟨body, hbody, hscan⟩ := exists_of_literalAfterArrow h
  match name, hbody with
  | [], hbody => cases hbody
  | [_], hbody => cases hbody
  | [_, _], hbody => cases hbody
  | [_, _, _], hbody => cases hbody
  | _ :: _ :: _ :: _ :: name, hbody =>
    have hrest : name ++ ' ' :: '=' :: '>' :: ' ' :: '\'' :: ws = body := by
      simp only [List.cons_append, List.cons.injEq] at hbody
      exact hbody.2.2.2.2.2
    have harrow :
        scanBody ((name ++ [' ', '=', '>']) ++ ' ' :: '\'' :: ws) = some (literal, []) := by
      rw [← hscan, ← hrest]
      simp
    have hle : ws.length ≤ ([] : List Char).length := length_le_of_scanBody harrow
    exact hws (List.length_eq_zero_iff.1 (Nat.le_zero.1 hle))

/-- **The name and the literal of a line come back**, whatever they hold. -/
theorem splitAtArrow_append (name package : List Char) :
    splitAtArrow (name ++ ' ' :: '=' :: '>' :: ' ' :: quoteChars package)
      = some (name, package) := by
  induction name with
  | nil =>
    have hscan : scan (quoteChars package) = some (package, []) := scanBody_escape package []
    rw [List.nil_append, splitAtArrow, literalAfterArrow, hscan]
  | cons c name ih =>
    have hne : escape package ++ ['\''] ≠ [] := by simp
    have hnone : literalAfterArrow (c :: (name ++ ' ' :: '=' :: '>' :: ' ' :: quoteChars package))
        = none := literalAfterArrow_eq_none c name hne
    rw [List.cons_append, splitAtArrow, hnone, ih]
    rfl

theorem readKind_append (kind : RelationshipKind) (rest : List Char) :
    readKind ("__PACKAGE__->".toList ++ kind.method.toList ++ "(".toList ++ rest)
      = some (kind, rest) := by
  cases kind with
  | hasMany =>
    have hopen : "__PACKAGE__->".toList ++ RelationshipKind.hasMany.method.toList ++ "(".toList
        = "__PACKAGE__->has_many(".toList := rfl
    rw [hopen, readKind, List.isPrefixOf?_eq_some_iff_append_eq.2 rfl]
  | belongsTo =>
    have hopen : "__PACKAGE__->".toList ++ RelationshipKind.belongsTo.method.toList ++ "(".toList
        = "__PACKAGE__->belongs_to(".toList := rfl
    have hnone : "__PACKAGE__->has_many(".toList.isPrefixOf?
        ("__PACKAGE__->belongs_to(".toList ++ rest) = none := rfl
    rw [hopen, readKind, hnone]
    simp only []
    rw [List.isPrefixOf?_eq_some_iff_append_eq.2 rfl]
    rfl

theorem toList_firstLine (d : Declaration) :
    d.firstLine.toList
      = "__PACKAGE__->".toList ++ d.kind.method.toList ++ "(".toList
        ++ (d.name.toList ++ ' ' :: '=' :: '>' :: ' ' :: quoteChars d.package.toList ++ [',']) := by
  have harrow : " => ".toList = [' ', '=', '>', ' '] := rfl
  have hcomma : ",".toList = [','] := rfl
  unfold Declaration.firstLine quote
  simp only [String.toList_append]
  simp only [String.toList_ofList, List.append_assoc]
  rw [harrow, hcomma]
  simp only [List.cons_append, List.nil_append]

theorem toList_secondLine (d : Declaration) :
    d.secondLine.toList
      = "             \x7b 'foreign.".toList
        ++ (d.foreignColumn.toList
          ++ ("' => 'self.".toList ++ d.localColumn.toList ++ "' \x7d);".toList)) := by
  unfold Declaration.secondLine
  simp only [String.toList_append]
  simp only [List.append_assoc]

/-- **A statement says what it was written from.** -/
theorem readStatement_paragraph {d : Declaration} (hname : d.localColumn = d.name) :
    readStatement (d.paragraph.map String.toList) = some d := by
  have hcomma : ∀ cs : List Char, [','].isSuffixOf? (cs ++ [',']) = some cs := fun cs =>
    List.isSuffixOf?_eq_some_iff_append_eq.2 rfl
  have hcolumns : ∀ cs : List Char, "             \x7b 'foreign.".toList.isPrefixOf?
      ("             \x7b 'foreign.".toList ++ cs) = some cs := fun cs =>
    List.isPrefixOf?_eq_some_iff_append_eq.2 rfl
  have hforeign : ∀ cs tail : List Char, tail.isSuffixOf? (cs ++ tail) = some cs := fun cs tail =>
    List.isSuffixOf?_eq_some_iff_append_eq.2 rfl
  show readStatement [d.firstLine.toList, d.secondLine.toList] = some d
  rw [toList_firstLine, toList_secondLine, hname, readStatement, readKind_append]
  simp only [Option.bind_eq_bind, Option.bind_some]
  rw [hcomma, Option.bind_some, splitAtArrow_append, Option.bind_some]
  simp only []
  rw [hcolumns, Option.bind_some, hforeign, Option.bind_some]
  simp only [String.ofList_toList]
  obtain ⟨kind, name, package, foreign, loc⟩ := d
  cases hname
  rfl

/-! ## Lines and paragraphs of a source -/

section Paragraphs

variable {ps : List (List String)}

/-- The lines that a source is written from come back. -/
theorem lines_unlines_linesOf (h : ∀ p ∈ ps, ∀ s ∈ p, IsTidyLine s) :
    Text.lines (String.ofList (Text.unlines (Text.linesOf ps))) = Text.linesOf ps := by
  refine Text.lines_unlines fun l hl => ?_
  rcases Text.mem_glue hl with hl | ⟨q, hq, hl⟩
  · rw [List.mem_singleton.1 hl]
    exact List.not_mem_nil
  · obtain ⟨p, hp, rfl⟩ := List.mem_map.1 hq
    obtain ⟨s, hs, rfl⟩ := List.mem_map.1 hl
    exact (h p hp s hs).isLine

/-- The paragraphs that a source is written from come back. -/
theorem paragraphs_lines_unlines (hps : ps ≠ []) (h : ∀ p ∈ ps, ∀ s ∈ p, IsTidyLine s) :
    Text.paragraphs (Text.lines (String.ofList (Text.unlines (Text.linesOf ps))))
      = ps.map (·.map String.toList) := by
  rw [lines_unlines_linesOf h, Text.linesOf, Text.paragraphs_glue (by simpa using hps)]
  intro q hq hnil
  obtain ⟨p, hp, rfl⟩ := List.mem_map.1 hq
  obtain ⟨s, hs, he⟩ := List.mem_map.1 hnil
  obtain ⟨c, hc, -⟩ := (h p hp s hs).endsVisibly
  rw [he] at hc
  cases hc

/-- The first line of a source is that of its first paragraph. -/
theorem head?_lines_unlines {s : String} {p : List String}
    (h : ∀ q ∈ (s :: p) :: ps, ∀ t ∈ q, IsTidyLine t) :
    (Text.lines (String.ofList (Text.unlines (Text.linesOf ((s :: p) :: ps))))).head?
      = some s.toList := by
  rw [lines_unlines_linesOf h, Text.linesOf, List.map_cons, Text.head?_glue _ _ _ (by simp)]
  rfl

end Paragraphs

/-- **The source of a table class starts with the line of its package.** -/
theorem ResultClass.head?_lines_render {c : ResultClass} (h : c.IsLinewise)
    (hend : ∀ n ∈ c.columns, EndsVisibly n) :
    (Text.lines c.render).head? = some ("package " ++ c.package ++ ";").toList := by
  have hlines := isTidyLine_paragraphs h hend
  rw [render_eq]
  unfold paragraphs packageParagraph at hlines ⊢
  exact head?_lines_unlines hlines

/-- **The source of the schema class starts with the line of its package.** -/
theorem SchemaClass.head?_lines_render {c : SchemaClass} (h : c.IsLinewise)
    (hend : ∀ names ∈ c.classes, ∀ n ∈ names, EndsVisibly n) :
    (Text.lines c.render).head? = some ("package " ++ c.package ++ ";").toList := by
  have hlines := isTidyLine_paragraphs h hend
  rw [render_eq]
  unfold paragraphs at hlines ⊢
  exact head?_lines_unlines hlines

/-! ## The statements of a source -/

/-- Whether the last line of a paragraph gives the primary key. -/
def endsInPrimaryKey (p : List (List Char)) : Bool :=
  p.getLast?.any ("__PACKAGE__->set_primary_key(".toList.isPrefixOf ·)

/-- The declarations of some paragraphs, all of which are statements but the last one. -/
def readStatements : List (List (List Char)) → Option (List Declaration)
  | [] => none
  | [p] => if p = ["1;".toList] then some [] else none
  | p :: ps => do
    let d ← readStatement p
    let ds ← readStatements ps
    pure (d :: ds)

/-- **The declarations that follow the primary key** of a source, if nothing else does. -/
def declarationsIn (source : String) : Option (List Declaration) :=
  match (Text.paragraphs (Text.lines source)).dropWhile (!endsInPrimaryKey ·) with
  | [] => some []
  | _ :: ps => readStatements ps

theorem readStatements_append {ds : List Declaration} (h : ∀ d ∈ ds, d.localColumn = d.name) :
    readStatements ((ds.map Declaration.paragraph ++ [["1;"]]).map (·.map String.toList))
      = some ds := by
  induction ds with
  | nil => rfl
  | cons d ds ih =>
    have hd : readStatement (d.paragraph.map String.toList) = some d :=
      readStatement_paragraph (h d List.mem_cons_self)
    have ih := ih fun e he => h e (List.mem_cons_of_mem d he)
    obtain ⟨q, qs, hq⟩ := List.exists_cons_of_ne_nil
      (l := (ds.map Declaration.paragraph ++ [["1;"]]).map (·.map String.toList)) (by simp)
    rw [List.map_cons, List.cons_append, List.map_cons, hq]
    rw [hq] at ih
    rw [readStatements, hd, ih]
    · rfl
    · simp

theorem endsInPrimaryKey_append (p : List String) (s : String) :
    endsInPrimaryKey ((p ++ [s]).map String.toList)
      = "__PACKAGE__->set_primary_key(".toList.isPrefixOf s.toList := by
  rw [endsInPrimaryKey, List.map_append, List.map_singleton, List.getLast?_concat]
  rfl

theorem isPrefixOf_primaryKeyLine (c : ResultClass) :
    "__PACKAGE__->set_primary_key(".toList.isPrefixOf c.primaryKeyLine.toList = true := by
  have hopen : "__PACKAGE__->set_primary_key( qw/ ".toList
      = "__PACKAGE__->set_primary_key(".toList ++ " qw/ ".toList := rfl
  unfold ResultClass.primaryKeyLine
  rw [String.toList_append, String.toList_append, hopen, List.isPrefixOf_iff_prefix]
  simp only [List.append_assoc]
  exact List.prefix_append _ _

/-- The paragraph of the table is the first one that ends in the primary key. -/
theorem dropWhile_paragraphs (c : ResultClass) :
    (c.paragraphs.map (·.map String.toList)).dropWhile (!endsInPrimaryKey ·)
      = c.tableParagraph.map String.toList
        :: (c.declarations.map Declaration.paragraph ++ [["1;"]]).map (·.map String.toList) := by
  have hpackage : endsInPrimaryKey (c.packageParagraph.map String.toList) = false := by
    rw [ResultClass.packageParagraph]
    cases c.isCommented with
    | false =>
      refine (endsInPrimaryKey_append [] _).trans ?_
      rw [String.toList_append, String.toList_append]
      rfl
    | true =>
      refine (endsInPrimaryKey_append [_] _).trans ?_
      rw [String.toList_append, String.toList_append]
      rfl
  have hpragma : endsInPrimaryKey (c.pragmaParagraph.map String.toList) = false := by
    refine (endsInPrimaryKey_append [_, _] _).trans ?_
    cases c.layout <;> rfl
  have htable : endsInPrimaryKey (c.tableParagraph.map String.toList) = true := by
    rw [ResultClass.tableParagraph, List.append_cons _ "/);" [_], endsInPrimaryKey_append]
    exact isPrefixOf_primaryKeyLine c
  rw [ResultClass.paragraphs, List.append_assoc, List.map_append]
  simp only [List.map_cons, List.cons_append]
  rw [List.dropWhile_cons_of_pos (by simp [hpackage]),
    List.dropWhile_cons_of_pos (by simp [hpragma]),
    List.dropWhile_cons_of_neg (by simp [htable])]
  rfl

/-- **The statements of a table class come back from its source.** -/
theorem declarationsIn_render {c : ResultClass} (h : c.IsLinewise)
    (hend : ∀ n ∈ c.columns, EndsVisibly n) (hname : ∀ d ∈ c.declarations, d.localColumn = d.name) :
    declarationsIn c.render = some c.declarations := by
  rw [declarationsIn, ResultClass.render_eq,
    paragraphs_lines_unlines (by simp [ResultClass.paragraphs])
      (ResultClass.isTidyLine_paragraphs h hend), dropWhile_paragraphs]
  exact readStatements_append hname

/-- **The schema class makes no statements.** -/
theorem SchemaClass.declarationsIn_render {c : SchemaClass} (h : c.IsLinewise)
    (hend : ∀ names ∈ c.classes, ∀ n ∈ names, EndsVisibly n) :
    declarationsIn c.render = some [] := by
  have hpackage : endsInPrimaryKey ((["package " ++ c.package ++ ";"] ++
      if c.isCommented then ["# Generated schema class. Regenerate instead of editing."]
      else []).map String.toList) = false := by
    cases c.isCommented with
    | false =>
      refine (endsInPrimaryKey_append [] _).trans ?_
      rw [String.toList_append, String.toList_append]
      rfl
    | true => exact (endsInPrimaryKey_append [_] _).trans rfl
  have hpragma : endsInPrimaryKey (["use strict;", "use warnings;",
      "use base qw/DBIx::Class::Schema/;"].map String.toList) = false := by decide
  have hload : endsInPrimaryKey (c.loadLines.map String.toList) = false := by
    rw [loadLines]
    split
    · decide
    · exact (endsInPrimaryKey_append _ _).trans rfl
  have hlast : endsInPrimaryKey (["1;"].map String.toList) = false := by decide
  have hnone : (c.paragraphs.map (·.map String.toList)).dropWhile (!endsInPrimaryKey ·) = [] := by
    rw [List.dropWhile_eq_nil_iff]
    intro p hp
    simp only [paragraphs, List.map_cons, List.map_nil, List.mem_cons, List.not_mem_nil,
      or_false] at hp
    rcases hp with rfl | rfl | rfl | rfl
    · exact congrArg not hpackage
    · exact congrArg not hpragma
    · exact congrArg not hload
    · exact congrArg not hlast
  rw [declarationsIn, render_eq, paragraphs_lines_unlines (by simp [paragraphs])
    (isTidyLine_paragraphs h hend), hnone]

/-! ## The classes that a source loads -/

/-- The names in a list of classes to load, without the blanks in front of them. -/
def readClasses : List (List Char) → Option (List String)
  | [] => none
  | first :: rest =>
    if first = "__PACKAGE__->load_classes(qw/".toList ∧ rest.getLast? = some "/);".toList then
      some (rest.dropLast.map fun l => .ofList (l.dropWhile (· = ' ')))
    else none

/-- **The classes that a source loads by name**, if it does. -/
def classesIn (source : String) : Option (List String) :=
  (Text.paragraphs (Text.lines source)).findSome? readClasses

theorem dropWhile_indent {indent : List Char} (hindent : ∀ c ∈ indent, c = ' ') {name : List Char}
    (hname : ∀ c ∈ name.head?, c ≠ ' ') : (indent ++ name).dropWhile (· = ' ') = name := by
  rw [List.dropWhile_append_of_pos fun c hc => decide_eq_true (hindent c hc)]
  cases name with
  | nil => rfl
  | cons c name => exact List.dropWhile_cons_of_neg (by simpa using hname c rfl)

theorem readClasses_loadLines {c : SchemaClass} (hindent : ∀ ch ∈ c.indent.toList, ch = ' ')
    (hname : ∀ names ∈ c.classes, ∀ n ∈ names, ∀ ch ∈ n.toList.head?, ch ≠ ' ') :
    readClasses (c.loadLines.map String.toList) = c.classes := by
  rw [SchemaClass.loadLines]
  cases hc : c.classes with
  | none => rfl
  | some names =>
    have hnames : (names.map (c.indent ++ ·)).map String.toList
        = names.map (c.indent.toList ++ ·.toList) := by
      rw [List.map_map]
      exact List.map_congr_left fun n _ => String.toList_append
    simp only [List.map_append, List.cons_append, List.nil_append, List.map_cons, List.map_nil]
    rw [readClasses, hnames, if_pos ⟨rfl, List.getLast?_concat⟩, List.dropLast_concat, List.map_map]
    congr 1
    refine (List.map_congr_left fun n hn => ?_).trans (List.map_id names)
    show String.ofList ((c.indent.toList ++ n.toList).dropWhile (· = ' ')) = n
    rw [dropWhile_indent hindent (hname names hc n hn), String.ofList_toList]

/-- **The list of classes comes back from the source of the schema class.** -/
theorem classesIn_render {c : SchemaClass} (h : c.IsLinewise)
    (hend : ∀ names ∈ c.classes, ∀ n ∈ names, EndsVisibly n)
    (hindent : ∀ ch ∈ c.indent.toList, ch = ' ')
    (hname : ∀ names ∈ c.classes, ∀ n ∈ names, ∀ ch ∈ n.toList.head?, ch ≠ ' ') :
    classesIn c.render = c.classes := by
  have hpackage : ∀ rest, readClasses (("package " ++ c.package ++ ";").toList :: rest) = none := by
    intro rest
    refine if_neg fun hf => ?_
    have hhead := congrArg List.head? hf.1
    rw [String.toList_append, String.toList_append] at hhead
    cases hhead
  have hpragma : ∀ rest, readClasses ("use strict;".toList :: rest) = none := by
    intro rest
    rw [readClasses, if_neg fun hf => absurd hf.1 (by decide)]
  rw [classesIn, SchemaClass.render_eq, paragraphs_lines_unlines (by simp [SchemaClass.paragraphs])
    (SchemaClass.isTidyLine_paragraphs h hend), SchemaClass.paragraphs]
  rw [List.map_cons, List.map_cons, List.map_cons, List.findSome?_cons, List.singleton_append,
    List.map_cons, hpackage, List.findSome?_cons, List.map_cons, hpragma, List.map_cons,
    List.findSome?_cons, readClasses_loadLines hindent hname]
  cases c.classes <;> rfl

end SchemaGen.Perl
