import SchemaGen.Proofs.Perl.Emission

/-!
# When a generation succeeds

A generation needs a name for the schema class and a style for all classes, and nothing more as long
as every table has a name: then there is a product (`exists_product`). Without a name of the schema
class it fails with that (`outcome_product_of_taken`), and with one it fails with what the style
fails with (`outcome_product_of_style_error`).

The only part of a style that takes room is the indentation (`indentOf_int`).
-/

namespace SchemaGen.Perl

open Model (Table Relations tableNames)

variable {s : Settings} {layout : Layout} {tables : List Table} {schemaName : String}

/-! ## Names of the schema class -/

/-- **A schema class has a name if a candidate is left.** -/
theorem exists_schemaName_iff {candidates taken : List String} :
    (∃ name, Package.chooseSchemaName candidates taken = .ok name) ↔
      ∃ name ∈ candidates, name ∉ taken := by
  simp only [chooseSchemaName_eq_ok_iff, ← Option.isSome_iff_exists, List.find?_isSome,
    decide_eq_true_eq]

/-- The order of the names that are taken does not count. -/
theorem chooseSchemaName_perm (candidates : List String) {taken taken' : List String}
    (h : taken.Perm taken') :
    Package.chooseSchemaName candidates taken = Package.chooseSchemaName candidates taken' := by
  rw [Package.chooseSchemaName, Package.chooseSchemaName]
  simp only [h.mem_iff]

/-- The name of the schema class stays until it is taken itself. -/
theorem chooseSchemaName_append {candidates taken : List String} {name new : String}
    (h : Package.chooseSchemaName candidates taken = .ok name) (hnew : new ≠ name) :
    Package.chooseSchemaName candidates (taken ++ [new]) = .ok name := by
  rw [chooseSchemaName_eq_ok_iff, List.find?_eq_some_iff_append] at h ⊢
  obtain ⟨hfree, before, after, rfl, htaken⟩ := h
  refine ⟨?_, before, after, rfl, fun c hc => ?_⟩
  · simpa [hnew.symm] using hfree
  · have hc := htaken c hc
    simp only [decide_not, Bool.not_not, decide_eq_true_eq] at hc ⊢
    exact List.mem_append_left _ hc

/-! ## All classes -/

/-- A generation with sources has a product, whose sources are these in tidy form. -/
theorem exists_product_of_sources {g : Generator} {files : Entries String String}
    (h : (g.sources tables).outcome = .ok files) :
    ∃ p, (g.product tables).outcome = .ok p ∧ p.files = Generator.tidySources files := by
  rw [Generator.product]
  exact ⟨_, Traced.outcome_bind_eq_ok_iff.2 ⟨_, rfl, Traced.outcome_bind_eq_ok_iff.2
    ⟨_, h, rfl⟩⟩, rfl⟩

/-- **With a name of the schema class, a style is all that a generation needs.** -/
theorem exists_product [Memory] {st : Style} (hst : styleOf s = .ok st)
    (hlayout : layoutOf s.layout = .ok layout)
    (hchoice : Package.chooseSchemaName Package.schemaNameCandidates (tableNames tables)
      = .ok schemaName)
    (hne : ∀ t ∈ tables, t.name ≠ "") :
    ∃ p, ((generator s).product tables).outcome = .ok p := by
  have hsources := (outcome_sources_eq_ok_iff hlayout).2 ⟨st, schemaName, hst, hchoice, hne, rfl⟩
  obtain ⟨p, hp, -⟩ := exists_product_of_sources hsources
  exact ⟨p, hp⟩

/-! ## Failures -/

/-- A generation fails with its sources. -/
theorem outcome_product_of_sources_error {g : Generator} {e : GenerationError}
    (h : (g.sources tables).outcome = .error e) : (g.product tables).outcome = .error e := by
  rw [Generator.product, Traced.outcome_bind, Traced.outcome_notes]
  show (g.sources tables >>= _).outcome = _
  rw [Traced.outcome_bind, h]
  rfl

/-- **Without a name of the schema class a generation fails**, whatever the settings are. -/
theorem outcome_product_of_taken [Memory] (s : Settings) {e : Package.NoSchemaName}
    (hchoice : Package.chooseSchemaName Package.schemaNameCandidates (tableNames tables)
      = .error e) :
    ((generator s).product tables).outcome = .error (.noSchemaName e) := by
  apply outcome_product_of_sources_error
  rw [Generator.sources, hchoice]
  rfl

/-- **A generation without a style fails with what the style fails with**, at the class of the first
table or, if there is none, at the schema class. -/
theorem outcome_product_of_style_error [Memory] {e : GenerationError} (hst : styleOf s = .error e)
    (hlayout : layoutOf s.layout = .ok layout)
    (hchoice : Package.chooseSchemaName Package.schemaNameCandidates (tableNames tables)
      = .ok schemaName)
    (hne : ∀ t ∈ tables, t.name ≠ "") :
    ((generator s).product tables).outcome = .error e := by
  apply outcome_product_of_sources_error
  rw [Generator.sources, hchoice]
  show ((generator s).tableClasses _ schemaName tables [] >>= fun files =>
    schemaClass s (tableNames tables) schemaName >>= _).outcome = _
  rw [Traced.outcome_bind]
  cases tables with
  | nil =>
    show (schemaClass s _ schemaName >>= _).outcome = _
    rw [Traced.outcome_bind, outcome_schemaClass_eq hlayout, hst]
    rfl
  | cons t tables =>
    rw [Generator.tableClasses]
    show ((tableClass s t _ schemaName >>= _).outcome).bind _ = _
    rw [Traced.outcome_bind, outcome_tableClass_eq s (hne t List.mem_cons_self), hst]
    rfl

/-! ## Indentations -/

/-- An indentation of few enough bits fails for lack of room alone. -/
theorem indentOf_int [Memory] {n : Int} (hpos : 0 ≤ n) (hn : n < wordLimit) :
    (∃ indent, indentOf (.int n) = .ok indent) ∨
      (Memory.maxIndent < n ∧ indentOf (.int n) = .error .outOfMemory) := by
  have hword : ¬ (n ≥ wordLimit ∨ n < -wordLimit) := by
    rw [wordLimit] at hn ⊢
    omega
  rw [indentOf]
  simp only [if_neg hword]
  split
  · next hroom => exact .inr ⟨hroom, rfl⟩
  · exact .inl ⟨_, rfl⟩

end SchemaGen.Perl
