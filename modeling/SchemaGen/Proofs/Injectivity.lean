import SchemaGen.Proofs.Scheme
import SchemaGen.Proofs.Text.Words

/-!
# No information is lost

The files of a generation determine the tables that it was made from, in all that a table holds but
foreign keys without a pair, which leave no trace (`tables_eq_of_files_eq`). The keys of the files
tell the name of the schema class and those of the tables. A source falls into its paragraphs: that
of the table gives the columns and the primary key, and the statements give the pairs of all foreign
keys, one after the other. From these the mapping is gathered again, since its tables come in the
order in which they were first referred to.

All of this needs names that are words and thus cannot run into each other.
-/

namespace SchemaGen

open Model (Table Link links tableNames)
open Perl (ResultClass Declaration)
open Text (IsWordText EndsVisibly)

/-! ## Tables named by words -/

/-- **Tables all of whose names are words**, and whose names and keys are those of mappings. -/
structure HaveWordNames (tables : List Table) : Prop where
  names_nodup : (tableNames tables).Nodup
  keys_nodup : ∀ t ∈ tables, t.foreignKeys.keys.Nodup
  name : ∀ t ∈ tables, IsWordText t.name
  column : ∀ t ∈ tables, ∀ c ∈ t.columns, IsWordText c
  primaryKey : ∀ t ∈ tables, ∀ c ∈ t.primaryKey, IsWordText c
  referenced : ∀ t ∈ tables, ∀ key ∈ t.foreignKeys, IsWordText key.1
  pair : ∀ t ∈ tables, ∀ key ∈ t.foreignKeys, ∀ pair ∈ key.2,
    IsWordText pair.foreignColumn ∧ IsWordText pair.localColumn

/-- Words are legible. -/
theorem HaveWordNames.areLegible {tables : List Table} (h : HaveWordNames tables) :
    Perl.AreLegible tables where
  name := fun t ht => (h.name t ht).isTidyLine
  column := fun t ht c hc => (h.column t ht c hc).isTidyLine
  primaryKey := fun t ht c hc => (h.primaryKey t ht c hc).isTidyLine.isLine
  referenced := by
    intro l hl
    obtain ⟨t, ht, -, key, hkey, hreferenced, -⟩ := Model.exists_key_of_mem_links hl
    exact hreferenced ▸ (h.referenced t ht key hkey).isTidyLine
  pair := by
    intro l hl
    obtain ⟨t, ht, -, key, hkey, -, hpair⟩ := Model.exists_key_of_mem_links hl
    obtain ⟨hforeign, hlocal⟩ := h.pair t ht key hkey l.pair hpair
    exact ⟨hforeign.isTidyLine.isLine, hlocal.isTidyLine.isLine⟩

/-- A table without the foreign keys that have no pair. -/
def Model.Table.withoutEmptyKeys (t : Table) : Table :=
  { t with foreignKeys := t.foreignKeys.filter fun key => !key.2.isEmpty }

/-! ## What a source tells -/

section Classes

variable {c d : ResultClass}

/-- **Sources that are equal have equal paragraphs.** -/
theorem Perl.ResultClass.paragraphs_eq_of_render_eq (hc : c.IsLinewise) (hd : d.IsLinewise)
    (hcend : ∀ n ∈ c.columns, EndsVisibly n) (hdend : ∀ n ∈ d.columns, EndsVisibly n)
    (h : c.render = d.render) : c.paragraphs = d.paragraphs := by
  have hne : ∀ e : ResultClass, e.paragraphs ≠ [] := fun e => by simp [ResultClass.paragraphs]
  rw [ResultClass.render_eq, ResultClass.render_eq] at h
  have hps := congrArg (fun source => Text.paragraphs (Text.lines source)) h
  rw [Perl.paragraphs_lines_unlines (hne c) (ResultClass.isTidyLine_paragraphs hc hcend),
    Perl.paragraphs_lines_unlines (hne d) (ResultClass.isTidyLine_paragraphs hd hdend)] at hps
  refine List.map_injective_iff.2 (List.map_injective_iff.2 fun _ _ => String.ext) hps

theorem Perl.ResultClass.primaryKey_eq (hc : ∀ n ∈ c.primaryKey, IsWordText n)
    (hd : ∀ n ∈ d.primaryKey, IsWordText n) (h : c.primaryKeyLine = d.primaryKeyLine) :
    c.primaryKey = d.primaryKey := by
  unfold ResultClass.primaryKeyLine at h
  exact Text.intercalate_inj hc hd
    ((String.append_right_inj _).1 ((String.append_left_inj _).1 h))

/-- **The paragraph of the table tells its columns and its primary key**, once the rest is known. -/
theorem Perl.ResultClass.columns_eq_of_tableParagraph_eq (hlayout : c.layout = d.layout)
    (hname : c.tableName = d.tableName) (hindent : c.indent = d.indent)
    (hc : ∀ n ∈ c.primaryKey, IsWordText n) (hd : ∀ n ∈ d.primaryKey, IsWordText n)
    (h : c.tableParagraph = d.tableParagraph) :
    c.columns = d.columns ∧ c.primaryKey = d.primaryKey := by
  unfold ResultClass.tableParagraph at h
  rw [hlayout, hname, hindent, List.append_assoc, List.append_assoc _ (d.columns.map _)] at h
  obtain ⟨hcolumns, hends⟩ := List.append_inj' (List.append_cancel_left h) rfl
  have hinj : Function.Injective (d.indent ++ ·) := fun _ _ => (String.append_right_inj _).1
  refine ⟨List.map_injective_iff.2 hinj hcolumns, ResultClass.primaryKey_eq hc hd ?_⟩
  exact (List.cons.inj (List.cons.inj hends).2).1

end Classes

/-! ## What a class tells of its table -/

/-- Where equal images have equal parts, lists of equal images have equal lists of parts. -/
theorem map_eq_map_of_forall {α β γ : Type} {f₁ f₂ : α → β} {g : α → γ} {as bs : List α}
    (h : as.map f₁ = bs.map f₂) (hg : ∀ a ∈ as, ∀ b ∈ bs, f₁ a = f₂ b → g a = g b) :
    as.map g = bs.map g := by
  induction as generalizing bs with
  | nil => rw [List.map_eq_nil_iff.1 h.symm]
  | cons a as ih =>
    cases bs with
    | nil => cases h
    | cons b bs =>
      obtain ⟨hhead, htail⟩ := List.cons.inj h
      rw [List.map_cons, List.map_cons, hg a List.mem_cons_self b List.mem_cons_self hhead,
        ih htail fun a ha b hb => hg a (List.mem_cons_of_mem _ ha) b (List.mem_cons_of_mem _ hb)]

section Tables

variable {st : Perl.Style} {schemaName : String} {tables : List Table} {t u : Table}

/-- The `belongs_to` of a class are the pairs of the foreign keys of its table, in their order. -/
theorem belongsTo_eq (h : HaveWordNames tables) (ht : t ∈ tables) :
    (st.classOf schemaName tables t).ofKind .belongsTo
      = (Entries.flat t.foreignKeys).map fun p =>
          .ofPair .belongsTo (st.packageOf schemaName p.1) p.2 := by
  have hincoming := Model.Relations.incoming_derive_of_mem h.names_nodup ht (h.keys_nodup t ht)
  show Declaration.ofPairs .belongsTo (st.packageOf schemaName)
    ((Model.Relations.derive tables).of t.name).incoming = _
  rw [hincoming, Perl.ofPairs_eq]

theorem packageOf_inj (hschema : schemaName ∈ Package.schemaNameCandidates) {m n : String}
    (hm : IsWordText m) (hn : IsWordText n)
    (h : st.packageOf schemaName m = st.packageOf schemaName n) : m = n :=
  Perl.tablePackage_inj (Perl.ne_empty_of_mem_candidates hschema) hm.ne_empty hn.ne_empty h

theorem isWordText_of_mem_flat (h : HaveWordNames tables) (ht : t ∈ tables)
    {p : String × Model.ColumnPair} (hp : p ∈ Entries.flat t.foreignKeys) : IsWordText p.1 := by
  obtain ⟨key, hkey, hp⟩ := List.mem_flatMap.1 hp
  obtain ⟨pair, -, rfl⟩ := List.mem_map.1 hp
  exact h.referenced t ht key hkey

variable {tables₁ tables₂ : List Table}

/-- **The statements of a class tell the foreign keys of its table.** -/
theorem foreignKeys_eq_of_declarations_eq (hschema : schemaName ∈ Package.schemaNameCandidates)
    (h₁ : HaveWordNames tables₁) (h₂ : HaveWordNames tables₂) (ht : t ∈ tables₁) (hu : u ∈ tables₂)
    (h : (st.classOf schemaName tables₁ t).declarations
      = (st.classOf schemaName tables₂ u).declarations) :
    (t.foreignKeys.filter fun key => !key.2.isEmpty)
      = u.foreignKeys.filter fun key => !key.2.isEmpty := by
  -- the foreign keys are declared once, as `belongs_to`, and in their own order there
  have hbelongs := congrArg (List.filter (·.kind = .belongsTo)) h
  rw [Perl.filter_declarations, Perl.filter_declarations, belongsTo_eq h₁ ht, belongsTo_eq h₂ hu]
    at hbelongs
  have hflat : (Entries.flat t.foreignKeys).map id = (Entries.flat u.foreignKeys).map id := by
    refine map_eq_map_of_forall hbelongs fun p hp q hq he => ?_
    obtain ⟨-, hlocal, hpackage, hforeign, -⟩ := Declaration.mk.inj he
    have hname : p.1 = q.1 := packageOf_inj hschema (isWordText_of_mem_flat h₁ ht hp)
      (isWordText_of_mem_flat h₂ hu hq) hpackage
    obtain ⟨n, foreignColumn, localColumn⟩ := p
    obtain ⟨m, foreignColumn', localColumn'⟩ := q
    cases hname
    cases hlocal
    cases hforeign
    rfl
  rw [List.map_id, List.map_id] at hflat
  exact Entries.filter_eq_of_flat_eq (h₁.keys_nodup t ht) (h₂.keys_nodup u hu) hflat

/-- **The source of a class tells its table.** -/
theorem table_eq_of_render_eq (hst : st.IsPlain)
    (hschema : schemaName ∈ Package.schemaNameCandidates) (h₁ : HaveWordNames tables₁)
    (h₂ : HaveWordNames tables₂) (ht : t ∈ tables₁) (hu : u ∈ tables₂) (hname : t.name = u.name)
    (h : (st.classOf schemaName tables₁ t).render = (st.classOf schemaName tables₂ u).render) :
    t.withoutEmptyKeys = u.withoutEmptyKeys := by
  have hdeclarations := congrArg Perl.declarationsIn h
  rw [Perl.declarationsIn_classOf hst hschema h₁.areLegible ht,
    Perl.declarationsIn_classOf hst hschema h₂.areLegible hu] at hdeclarations
  have hkeys := foreignKeys_eq_of_declarations_eq hschema h₁ h₂ ht hu
    (Option.some.inj hdeclarations)
  have hparagraphs := ResultClass.paragraphs_eq_of_render_eq
    (Perl.isLinewise_classOf hst hschema h₁.areLegible ht)
    (Perl.isLinewise_classOf hst hschema h₂.areLegible hu)
    (Perl.endsVisibly_columns h₁.areLegible ht) (Perl.endsVisibly_columns h₂.areLegible hu) h
  have htable : (st.classOf schemaName tables₁ t).tableParagraph
      = (st.classOf schemaName tables₂ u).tableParagraph :=
    (List.cons.inj (List.cons.inj (List.cons.inj hparagraphs).2).2).1
  have hlayout :
      (st.classOf schemaName tables₁ t).layout = (st.classOf schemaName tables₂ u).layout := rfl
  obtain ⟨hcolumns, hprimary⟩ := ResultClass.columns_eq_of_tableParagraph_eq hlayout hname rfl
    (h₁.primaryKey t ht) (h₂.primaryKey u hu) htable
  obtain ⟨n, columns, primaryKey, foreignKeys⟩ := t
  obtain ⟨m, columns', primaryKey', foreignKeys'⟩ := u
  cases hname
  cases hcolumns
  cases hprimary
  exact congrArg (Table.mk n columns primaryKey) hkeys

end Tables

/-! ## What the files tell of the tables -/

/-- The name of the schema class is told by its module. -/
theorem schemaName_eq {st : Perl.Style} {m n : String} {tables₁ tables₂ : List Table}
    {p₁ p₂ : Product} (h₁ : Perl.Emits st m tables₁ p₁) (h₂ : Perl.Emits st n tables₂ p₂)
    (hfiles : p₁.files = p₂.files) : m = n := by
  have hkeys := congrArg Entries.keys hfiles
  rw [h₁.keys_eq, h₂.keys_eq, h₁.schemaModule_eq, h₂.schemaModule_eq] at hkeys
  obtain ⟨-, hlast⟩ := List.append_inj' hkeys rfl
  exact Perl.schemaPackage_inj (Perl.ne_empty_of_mem_candidates h₁.schemaName_mem)
    (Perl.ne_empty_of_mem_candidates h₂.schemaName_mem) (List.cons.inj hlast).1

/-- **Generation loses no information**: with the same checked settings, lists of tables that give
the same files are the same, but for foreign keys without a pair. -/
theorem tables_eq_of_files_eq [Perl.Memory] {s : Settings} (hs : s.IsChecked)
    {tables₁ tables₂ : List Table}
    (h₁ : HaveWordNames tables₁) (h₂ : HaveWordNames tables₂) {p₁ p₂ : Product}
    (hp₁ : ((Perl.generator s).generate tables₁).2.outcome = .ok p₁)
    (hp₂ : ((Perl.generator s).generate tables₂).2.outcome = .ok p₂)
    (hfiles : p₁.files = p₂.files) :
    tables₁.map Table.withoutEmptyKeys = tables₂.map Table.withoutEmptyKeys := by
  obtain ⟨layout, hlayout⟩ := hs.exists_layout
  have hlayout := hlayout ▸ Settings.layoutOf_name layout
  obtain ⟨st, m, hst, -, hemits₁⟩ := Perl.emits_of_generate hlayout h₁.names_nodup hp₁
  obtain ⟨st', n, hst', -, hemits₂⟩ := Perl.emits_of_generate hlayout h₂.names_nodup hp₂
  obtain rfl : st = st' := Except.ok.inj (hst.symm.trans hst')
  obtain rfl : m = n := schemaName_eq hemits₁ hemits₂ hfiles
  -- the schema class stands last in both, so the classes of the tables are the same in turn
  have hplain := hs.isPlain hst
  rw [hemits₁.files_eq_render hplain h₁.areLegible, hemits₂.files_eq_render hplain h₂.areLegible]
    at hfiles
  obtain ⟨hclasses, -⟩ := List.append_inj' hfiles rfl
  refine map_eq_map_of_forall hclasses fun t ht u hu he => ?_
  obtain ⟨hpackage, hrender⟩ := Prod.mk.inj he
  have hname := packageOf_inj hemits₁.schemaName_mem (h₁.name t ht) (h₂.name u hu) hpackage
  exact table_eq_of_render_eq hplain hemits₁.schemaName_mem h₁ h₂ ht hu hname hrender

/-- The tables of the sample, and a foreign key without a pair. -/
def sampleTablesWithEmptyKey : List Table :=
  [{ name := "author", columns := ["id"], primaryKey := ["id"], foreignKeys := [("book", [])] },
   { name := "book", foreignKeys := [("author", [⟨"id", "writer"⟩])] }]

theorem tables_eq_sample : ∃ p₁ p₂,
    ((Perl.generator {}).generate Scheme.sampleTables).2.outcome = .ok p₁ ∧
    ((Perl.generator {}).generate sampleTablesWithEmptyKey).2.outcome = .ok p₂ ∧
    p₁.files = p₂.files ∧
    Scheme.sampleTables.map Table.withoutEmptyKeys
      = sampleTablesWithEmptyKey.map Table.withoutEmptyKeys := by
  have hnames₁ : HaveWordNames Scheme.sampleTables := by
    constructor <;> decide
  have hnames₂ : HaveWordNames sampleTablesWithEmptyKey := by
    constructor <;> decide
  have hsuccess₁ : ((Perl.generator {}).generate Scheme.sampleTables).2.isSuccess = true := by
    decide +kernel
  have hsuccess₂ : ((Perl.generator {}).generate sampleTablesWithEmptyKey).2.isSuccess = true := by
    decide +kernel
  obtain ⟨p₁, hp₁⟩ := Scheme.exists_product hsuccess₁
  obtain ⟨p₂, hp₂⟩ := Scheme.exists_product hsuccess₂
  have hfiles : p₁.files = p₂.files := by
    have h : ((Perl.generator {}).generate Scheme.sampleTables).2.files
        = ((Perl.generator {}).generate sampleTablesWithEmptyKey).2.files := rfl
    rwa [Generation.files, Generation.files, hp₁, hp₂] at h
  exact ⟨p₁, p₂, hp₁, hp₂, hfiles,
    tables_eq_of_files_eq ⟨{}, rfl⟩ hnames₁ hnames₂ hp₁ hp₂ hfiles⟩

end SchemaGen
