import SchemaGen.Proofs.Host.Effects
import SchemaGen.Proofs.Scheme

/-!
# Nothing is written before everything was generated

To create a scheme is to generate its classes and then to complete the generation: a product is
written, a failure becomes that of the run (`perform_create_of_generate`). Up to there a run only
reads, and writing fails in ways of its own. So a run that fails over its settings, its model, its
target or the generation leaves every file and every directory as it was, and what a run writes are
the files of the generation that the same order gives, in their order
(`create_keepsFiles_and_writes`).
-/

namespace SchemaGen.Scheme

variable {session session' middle : Session} {o : Order} {s : Settings} {g : Generation}

/-! ## Completing a generation -/

/-- What is left to do for a generation. -/
def complete {m : Type → Type} [Monad m] [Host m] (s : Settings) (g : Generation) :
    Run m (List Path) :=
  match g.outcome with
  | .error e => throw (.generation e)
  | .ok p => (destination s).writeModules p.files

theorem perform_complete_error (session : Session) (s : Settings) {e : GenerationError}
    (h : g.outcome = .error e) :
    session.perform (complete s g) = (.error (.generation e), session) := by
  rw [complete, h]
  rfl

theorem perform_complete_ok (session : Session) (s : Settings) {p : Product}
    (h : g.outcome = .ok p) :
    session.perform (complete s g) = session.perform ((destination s).writeModules p.files) := by
  rw [complete, h]

/-- A generation is completed without a failure of another stage. -/
theorem kind_of_perform_complete {e : Failure}
    (h : session.perform (complete s g) = (.error e, session')) :
    session' = session ∨ e.kind = .writing ∨ e.kind = .unexpected := by
  cases hg : g.outcome with
  | error e' =>
    rw [perform_complete_error session s hg] at h
    cases h
    exact .inl rfl
  | ok p =>
    rw [perform_complete_ok session s hg] at h
    have hfail := Destination.failsOnly_writeModules (separator_destination_ne_empty s) p.files
      session (Session.Agrees.refl session) e (by rw [h])
    rcases hfail with hkind | ⟨rfl, -⟩
    · exact .inr (.inl hkind)
    · exact .inr (.inr rfl)

/-! ## Creating a scheme -/

section Creation

variable [Perl.Memory]

/-- **To create a scheme is to generate it and to complete the generation**, with the settings of
the order. -/
theorem perform_create_of_generate (h : session.perform (generate o) = (.ok g, middle)) :
    ∃ s, (session.perform (Settings.ofSource o.settings)).1 = .ok s ∧
      session.perform (create o) = middle.perform (complete s g) := by
  obtain ⟨s, first, hs, hg⟩ := Session.perform_bind_eq_ok h
  refine ⟨s, by rw [hs], ?_⟩
  show session.perform (Settings.ofSource o.settings >>= fun s =>
    generateWith o s >>= complete s) = _
  rw [Session.perform_bind, hs]
  show first.perform (generateWith o s >>= complete s) = _
  rw [Session.perform_bind, hg]

/-- A scheme that is not generated is not created. -/
theorem perform_create_of_generate_error {e : Failure}
    (h : session.perform (generate o) = (.error e, middle)) :
    session.perform (create o) = (.error e, middle) := by
  show session.perform (Settings.ofSource o.settings >>= fun s =>
    generateWith o s >>= complete s) = _
  rw [Session.perform_bind]
  rcases Session.perform_bind_eq_error h with hs | ⟨s, first, hs, hg⟩
  · rw [hs]
  · rw [hs]
    show first.perform (generateWith o s >>= complete s) = _
    rw [Session.perform_bind, hg]

/-- Settings that were checked are generated with as they are. -/
theorem perform_generate_of_isChecked (session : Session) (ho : o.settings = .settings s)
    (hs : s.IsChecked) : session.perform (generate o) = session.perform (generateWith o s) := by
  rw [generate, Session.perform_bind, ho, Settings.perform_ofSource session hs.check_eq]

/-- Settings that were checked complete the generation as they are. -/
theorem perform_create_of_isChecked (ho : o.settings = .settings s) (hs : s.IsChecked) :
    session.perform (create o) = session.perform (generate o >>= complete s) := by
  rw [Session.perform_bind]
  cases hgenerate : session.perform (generate o) with
  | mk result middle =>
    cases result with
    | error e => exact perform_create_of_generate_error hgenerate
    | ok g =>
      obtain ⟨s', hs', hcreate⟩ := perform_create_of_generate hgenerate
      rw [ho, Settings.perform_ofSource session hs.check_eq] at hs'
      cases hs'
      exact hcreate

/-- A run that fails before anything is written leaves the files as they are. -/
theorem files_eq_of_create_error {e : Failure}
    (h : session.perform (create o) = (.error e, session'))
    (hwriting : e.kind ≠ .writing) (hexpected : e.kind ≠ .unexpected) :
    session'.files = session.files := by
  have hmiddle := (isInspecting_generate o).isReading.agrees session
  cases hgenerate : session.perform (generate o) with
  | mk result middle =>
    rw [hgenerate] at hmiddle
    cases result with
    | error e' =>
      rw [perform_create_of_generate_error hgenerate] at h
      cases h
      exact hmiddle.files_eq
    | ok g =>
      obtain ⟨s, -, hcreate⟩ := perform_create_of_generate hgenerate
      rw [hcreate] at h
      rcases kind_of_perform_complete h with rfl | hkind | hkind
      · exact hmiddle.files_eq
      · exact absurd hkind hwriting
      · exact absurd hkind hexpected

/-- **What a run writes is what it generated**: the files of the generation that the order gives,
all of them in order, to the paths of their modules. -/
theorem exists_product_of_create {paths : List Path}
    (h : session.perform (create o) = (.ok paths, session')) :
    ∃ s p source middle, (session.perform (Settings.ofSource o.settings)).1 = .ok s ∧
      session.perform (generate o) = (.ok ⟨.ok p, source⟩, middle) ∧
      middle.files = session.files ∧
      middle.perform ((destination s).writeModules p.files) = (.ok paths, session') := by
  have hmiddle := (isInspecting_generate o).isReading.agrees session
  cases hgenerate : session.perform (generate o) with
  | mk result middle =>
    rw [hgenerate] at hmiddle
    cases result with
    | error e =>
      rw [perform_create_of_generate_error hgenerate] at h
      cases h
    | ok g =>
      obtain ⟨s, hs, hcreate⟩ := perform_create_of_generate hgenerate
      obtain ⟨outcome, source⟩ := g
      rw [hcreate] at h
      cases outcome with
      | error e =>
        rw [perform_complete_error middle s rfl] at h
        cases h
      | ok p =>
        rw [perform_complete_ok middle s rfl] at h
        exact ⟨s, p, source, middle, hs, rfl, hmiddle.files_eq, h⟩

/-- **A scheme is created as a whole or not at all.** A failure over the settings, the model, the
target or the generation leaves all files and directories as they were; a run that succeeds has
written the files of the successful generation of its order, in their order. -/
theorem create_keepsFiles_and_writes (session : Session) (o : Order) :
    (∀ e session', session.perform (create o) = (.error e, session') →
      e.kind ∈ [.settings, .reading, .generation, .registry] →
      session'.files = session.files) ∧
    ∀ paths session', session.perform (create o) = (.ok paths, session') →
      ∃ s p source middle, (session.perform (Settings.ofSource o.settings)).1 = .ok s ∧
        session.perform (generate o) = (.ok ⟨.ok p, source⟩, middle) ∧
        middle.files = session.files ∧
        middle.perform ((destination s).writeModules p.files) = (.ok paths, session') ∧
        List.Forall₂ (fun file path => (destination s).pathOf file.1 = .ok path) p.files paths := by
  constructor
  · intro e session' h hkind
    refine files_eq_of_create_error h ?_ ?_
    · rintro hwriting
      rw [hwriting] at hkind
      exact absurd hkind (by decide)
    · rintro hunexpected
      rw [hunexpected] at hkind
      exact absurd hkind (by decide)
  · intro paths session' h
    obtain ⟨s, p, source, middle, hs, hgenerate, hfiles, hwrite⟩ := exists_product_of_create h
    exact ⟨s, p, source, middle, hs, hgenerate, hfiles, hwrite,
      Destination.paths_of_writeModules hwrite⟩

end Creation

/-- A session with the model of a table that has no columns. -/
def sampleSession : Session where
  files := { nodes := [(["model.xml"], .file (Text.Utf8.encode
    "<DBMODEL><METADATA><TABLES><TABLE Tablename='author'/></TABLES></METADATA></DBMODEL>"))] }

/-- An order for the model of the sample. -/
def sampleOrder : Order := { file := some "model.xml" }

theorem isOk_create_sample : (sampleSession.perform (create sampleOrder)).1.isOk = true := by
  decide +kernel

/-- The sample is created; where its model is missing, nothing is. -/
theorem create_keepsFiles_and_writes_sample :
    (∃ paths session' p source middle,
      sampleSession.perform (create sampleOrder) = (.ok paths, session') ∧
      sampleSession.perform (generate sampleOrder) = (.ok ⟨.ok p, source⟩, middle)) ∧
    ∃ e session', Session.perform {} (create sampleOrder) = (.error e, session') ∧
      e.kind = .reading ∧ session'.files = Session.files {} := by
  constructor
  · have hok := isOk_create_sample
    cases hcreate : sampleSession.perform (create sampleOrder) with
    | mk result session' =>
      rw [hcreate] at hok
      cases result with
      | error e => cases hok
      | ok paths =>
        obtain ⟨s, p, source, middle, -, hgenerate, -⟩ :=
          (create_keepsFiles_and_writes sampleSession sampleOrder).2 paths session' hcreate
        exact ⟨paths, session', p, source, middle, rfl, hgenerate⟩
  · refine ⟨_, _, rfl, rfl, ?_⟩
    exact (create_keepsFiles_and_writes {} sampleOrder).1 _ _ rfl (by decide)

end SchemaGen.Scheme
