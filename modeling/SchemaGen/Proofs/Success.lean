import SchemaGen.Proofs.Creation
import SchemaGen.Proofs.Perl.Success

/-!
# When a run succeeds

The tables of a document have names, and checked settings have a style. So all that can keep the
classes of a document from being generated is that its tables take every name of a schema class, or
that there is no room for the indentation (`generateTables_isSuccess_iff`).
-/

namespace SchemaGen

open Model (Table tableNames)

/-! ## Styles of checked settings -/

namespace Settings.IsChecked

variable {s : Settings}

theorem exists_layoutOf (h : s.IsChecked) : ∃ layout, Perl.layoutOf s.layout = .ok layout := by
  obtain ⟨layout, hlayout⟩ := h.exists_layout
  exact ⟨layout, hlayout ▸ layoutOf_name layout⟩

theorem exists_namespaceName (h : s.IsChecked) : ∃ name, s.namespaceName = .ok name := by
  obtain ⟨name, hname⟩ := h.exists_nameSpace
  rw [namespaceName, hname]
  split
  · exact ⟨name, rfl⟩
  · exact ⟨"", rfl⟩

/-- **Checked settings have a style** if their indentation is of few enough bits and there is room
for it. -/
theorem exists_style [Perl.Memory] (h : s.IsChecked) {n : Int} (hindent : s.indentSize = .int n)
    (hn : n < Perl.wordLimit) :
    (∃ st, Perl.styleOf s = .ok st) ∨
      (Perl.Memory.maxIndent < n ∧ Perl.styleOf s = .error .outOfMemory) := by
  obtain ⟨layout, hlayout⟩ := h.exists_layoutOf
  obtain ⟨nameSpace, hnameSpace⟩ := h.exists_namespaceName
  obtain ⟨m, hm, hpos⟩ := h.exists_indentSize
  obtain rfl : m = n := Value.int.inj (hm.symm.trans hindent)
  rcases Perl.indentOf_int hpos hn with ⟨indent, hblanks⟩ | ⟨hroom, hblanks⟩
  · exact .inl ⟨⟨nameSpace, layout, indent, s.addComments.isGiven⟩,
      Perl.styleOf_eq_ok.2 ⟨hlayout, hnameSpace, hindent ▸ hblanks, rfl⟩⟩
  · refine .inr ⟨hroom, ?_⟩
    rw [Perl.styleOf, hlayout, hnameSpace, hindent, hblanks]
    rfl

end Settings.IsChecked

namespace Scheme

variable {tables : List Table} {given s : Settings}

/-- Tables that take every name of a schema class are not generated, whatever the settings
are. -/
theorem generate_of_taken [Perl.Memory] (s : Settings)
    (htaken : ¬ ∃ c ∈ Package.schemaNameCandidates, c ∉ tableNames tables) :
    ∃ e, ((Perl.generator s).generate tables).2 = ⟨.error (.noSchemaName e), none⟩ := by
  rw [← Perl.exists_schemaName_iff] at htaken
  cases hchoice : Package.chooseSchemaName Package.schemaNameCandidates (tableNames tables) with
  | ok schemaName => exact absurd ⟨schemaName, hchoice⟩ htaken
  | error e => exact ⟨e, by rw [Perl.generate_eq, Perl.outcome_product_of_taken s hchoice]⟩

/-- Where a name of the schema class is left, checked settings give a product or need more room. -/
theorem generate_of_free [Perl.Memory] (hchecked : s.IsChecked) {n : Int}
    (hindent : s.indentSize = .int n) (hn : n < Perl.wordLimit) (hne : ∀ t ∈ tables, t.name ≠ "")
    (hfree : ∃ c ∈ Package.schemaNameCandidates, c ∉ tableNames tables) :
    (∃ p, ((Perl.generator s).generate tables).2 = ⟨.ok p, none⟩) ∨
      (Perl.Memory.maxIndent < n ∧
        ((Perl.generator s).generate tables).2 = ⟨.error .outOfMemory, none⟩) := by
  obtain ⟨layout, hlayout⟩ := hchecked.exists_layoutOf
  obtain ⟨schemaName, hchoice⟩ := Perl.exists_schemaName_iff.2 hfree
  rw [Perl.generate_eq]
  rcases hchecked.exists_style hindent hn with ⟨st, hst⟩ | ⟨hroom, hst⟩
  · obtain ⟨p, hp⟩ := Perl.exists_product hst hlayout hchoice hne
    exact .inl ⟨p, by rw [hp]⟩
  · exact .inr ⟨hroom, by rw [Perl.outcome_product_of_style_error hst hlayout hchoice hne]⟩

/-- A generation over some tables with settings that pass the check has a result. -/
theorem perform_generateTables [Perl.Memory] (hcheck : given.check = .ok s) (tables : List Table)
    (session : Session) :
    ∃ session', session.perform (generateTables tables "dbic" (.settings given))
      = (.ok ((Perl.generator s).generate tables).2, session') := by
  rw [generateTables, Session.perform_bind, Settings.perform_ofSource session hcheck]
  exact ⟨_, rfl⟩

/-- **The tables of a document are generated unless they take every name of a schema class.** With
settings that pass the check, and room for the indentation, a generation over them succeeds just if
a name is left; if none is, it has no files, no warnings and no particulars, and carries a failure
of the settings, with which creating the scheme fails too. -/
theorem generateTables_isSuccess_iff [Perl.Memory] {document : Model.Source}
    (hread : document.read.outcome = .ok tables) (hcheck : given.check = .ok s) {n : Int}
    (hindent : given.indentSize = .int n) (hn : n < Perl.wordLimit) (session : Session) :
    ∃ generation session',
      session.perform (generateTables tables "dbic" (.settings given))
        = (.ok generation, session') ∧
      (generation.outcome = .error .outOfMemory → Perl.Memory.maxIndent < n) ∧
      (generation.outcome ≠ .error .outOfMemory →
        (generation.isSuccess = true ↔
          ∃ c ∈ Package.schemaNameCandidates, c ∉ tableNames tables) ∧
        (generation.isSuccess = false →
          generation.files = [] ∧ generation.warnings = [] ∧ generation.metadata = [] ∧
          ∃ e, generation.outcome = .error e ∧ (Failure.generation e).kind = .settings ∧
            ∀ (o : Order) (source : Option String) (s₀ s₁ : Session),
              s₀.perform (generate o) = (.ok ⟨.error e, source⟩, s₁) →
              s₀.perform (create o) = (.error (.generation e), s₁))) := by
  obtain ⟨root, -, hreads⟩ := Model.readsAs_of_read hread
  have hne : ∀ t ∈ tables, t.name ≠ "" := fun t ht => (hreads.isName_name t ht).ne_empty
  have hindent' : s.indentSize = .int n := by
    obtain ⟨name, -, -, rfl⟩ := Settings.check_eq_ok hcheck
    exact hindent
  obtain ⟨session', hrun⟩ := perform_generateTables hcheck tables session
  refine ⟨_, session', hrun, ?_⟩
  by_cases hfree : ∃ c ∈ Package.schemaNameCandidates, c ∉ tableNames tables
  · rcases generate_of_free ⟨given, hcheck⟩ hindent' hn hne hfree with ⟨p, hp⟩ | ⟨hroom, he⟩
    · rw [hp]
      exact ⟨nofun, fun _ => ⟨⟨fun _ => hfree, fun _ => rfl⟩, nofun⟩⟩
    · rw [he]
      exact ⟨fun _ => hroom, fun h => absurd rfl h⟩
  · obtain ⟨e, he⟩ := generate_of_taken s hfree
    rw [he]
    refine ⟨nofun, fun _ => ⟨⟨nofun, fun h => absurd h hfree⟩,
      fun _ => ⟨rfl, rfl, rfl, .noSchemaName e, rfl, rfl, ?_⟩⟩⟩
    intro o source s₀ s₁ hgenerate
    obtain ⟨s', -, hcreate⟩ := perform_create_of_generate hgenerate
    rw [hcreate, perform_complete_error s₁ s' rfl]

/-- The sample leaves names of a schema class, so its classes are generated by default. -/
theorem generateTables_isSuccess_sample :
    ∃ generation session',
      Session.perform {} (generateTables sampleTables "dbic" (.settings {}))
        = (.ok generation, session') ∧ generation.isSuccess = true := by
  have hcheck : ({} : Settings).check = .ok {} := rfl
  obtain ⟨generation, session', hrun, hroom, h⟩ :=
    generateTables_isSuccess_iff read_sampleDocument hcheck rfl (by decide) {}
  -- the indentation by default is far from the widest there is room for
  have hmemory : generation.outcome ≠ .error .outOfMemory :=
    fun he => absurd (hroom he) (by decide)
  exact ⟨generation, session', hrun, (h hmemory).1.2 ⟨"DBIC_Scheme", by decide, by decide⟩⟩

end Scheme

end SchemaGen
