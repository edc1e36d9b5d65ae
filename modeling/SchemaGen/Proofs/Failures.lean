import SchemaGen.Proofs.CommandLine

/-!
# Failures that nothing provides for

Most failures are expected: they belong to the settings, the model, the target, the generation or
the files, and the command reports them with an exit code. Others are not. `Unforeseen` names inputs
that bring such failures about, each at the step that meets it: what is at a path cannot be found
out, a configuration file is not UTF-8, a URL has no authority that can be right, a request cannot
even be made, a model declares an encoding in which it cannot be read. They are not all there are,
but each of them gets out of a creation and of the command (`escapes_of_unforeseen`), and so not all
failures are expected (`unexpected_of_unbalancedBrackets`).
-/

namespace SchemaGen

/-! ## Inputs -/

/-- The path of the configuration file that a form of settings names. -/
def Settings.Source.configurationPath : Source → Option String
  | .value (.text path) => some path
  | _ => none

/-- **Inputs that nothing provides for**, each with the failure that it brings about. The
configuration file is at `configuration`, the settings that are loaded are `loaded`, and the model
is that of `o`. -/
inductive Unforeseen (session : Session) (configuration : Option String) (o : Scheme.Order)
    (loaded : Except Failure Settings) : Failure → Prop where
  /-- What is at the path of the configuration file cannot be found out. -/
  | configurationStatus {path : String} {cause : Files.Cause} (hpath : configuration = some path)
      (hgiven : path ≠ "") (hnull : (Path.ofString path).hasNull = false)
      (hstatus : session.files.status (Path.ofString path) = .error cause) :
      Unforeseen session configuration o loaded (.status ⟨cause, Path.ofString path⟩)
  /-- The configuration file is not UTF-8. -/
  | octets {path : String} {content : List UInt8} {e : Text.Utf8.Error}
      (hpath : configuration = some path) (hgiven : path ≠ "")
      (hnull : (Path.ofString path).hasNull = false)
      (hsuffix : Text.lower (Path.ofString path).suffix = ".json")
      (hread : session.files.read (Path.ofString path) = .ok content)
      (hfields : SettingsFile.fields content = .error (.octets e)) :
      Unforeseen session configuration o loaded (.octets e)
  /-- What is at the path of the model cannot be found out. -/
  | modelStatus {s : Settings} {path : String} {cause : Files.Cause} (hs : loaded = .ok s)
      (hpath : Model.given? (Scheme.modelPath o.file o.url s) = some path)
      (hurl : Model.given? o.url = none) (hnull : (Path.ofString path).hasNull = false)
      (hstatus : session.files.status (Path.ofString path) = .error cause) :
      Unforeseen session configuration o loaded (.status ⟨cause, Path.ofString path⟩)
  /-- The URL of the model has no authority that can be right. -/
  | url {s : Settings} {text : String} {e : Web.UrlError} (hs : loaded = .ok s)
      (hpath : Model.given? (Scheme.modelPath o.file o.url s) = none)
      (hurl : Model.given? o.url = some text) (hparts : Web.UrlParts.read text = .error e) :
      Unforeseen session configuration o loaded (.url e)
  /-- The request for the model cannot be made. -/
  | request {s : Settings} {text : String} {parts : Web.UrlParts} {e : Web.Breakdown}
      (hs : loaded = .ok s) (hpath : Model.given? (Scheme.modelPath o.file o.url s) = none)
      (hurl : Model.given? o.url = some text) (hparts : Web.UrlParts.read text = .ok parts)
      (hcomplete : parts.isComplete = true)
      (hanswer : session.web { url := text, timeout := 30 } = .broken e) :
      Unforeseen session configuration o loaded (.request e)
  /-- The model declares an encoding in which it cannot be read. -/
  | encoding {s : Settings} {d : Model.Document} {e : Xml.ReadError} (hs : loaded = .ok s)
      (hload : (session.perform (Model.load (Scheme.modelPath o.file o.url s) o.url 30)).1 = .ok d)
      (hread : Xml.Document.readOctets d.content = .error e)
      (hencoding : ∀ fault, e ≠ .malformed fault) :
      Unforeseen session configuration o loaded (.model (.document e))

variable {session : Session} {configuration : Option String} {o : Scheme.Order}
  {loaded : Except Failure Settings} {e : Failure}

/-- None of the failures is expected. -/
theorem Unforeseen.isExpected_eq (h : Unforeseen session configuration o loaded e) :
    e.isExpected = false := by
  cases h with
  | @encoding s d x hs hload hread hencoding =>
    cases x with
    | malformed fault => exact absurd rfl (hencoding fault)
    | _ => rfl
  | _ => rfl

/-! ## The steps that meet them -/

/-- What is at a path is found out as the files tell it. -/
theorem Session.perform_status {p : Path} (hnull : p.hasNull = false) (session : Session) :
    session.perform (Run.status p) =
      match session.files.status p with
      | .ok node => (.ok (Session.statusOf node), session)
      | .error cause => (.error (.status ⟨cause, p⟩), session) := by
  have hstatus : session.perform (ExceptT.lift (Host.status p))
      = (.ok ((session.files.status p).map Session.statusOf), session) := rfl
  rw [Run.status, hnull, if_neg Bool.false_ne_true, Session.perform_bind, hstatus]
  cases session.files.status p <;> rfl

/-- A computation with its reports ends as it does without them. -/
theorem Session.fst_perform_traced {ε α : Type} (toFailure : ε → Failure) (t : Traced ε α)
    (session : Session) :
    (session.perform (Run.traced toFailure t)).1 = t.outcome.mapError toFailure := rfl

/-- There is a file where one can be read. -/
theorem Files.Tree.status_of_read {t : Tree} {p : Path} {content : List UInt8}
    (h : t.read p = .ok content) : t.status p = .ok (some (.file content)) := by
  rw [read] at h
  split at h
  · cases h
  · next place hplace =>
    split at h
    · next hnode =>
      cases h
      rw [status, hplace]
      exact congrArg Except.ok hnode
    · cases h
    · cases h

namespace Settings

theorem loadFields_of_status {p : Path} {cause : Files.Cause} (hnull : p.hasNull = false)
    (hstatus : session.files.status p = .error cause) :
    (session.perform (loadFields p)).1 = .error (.status ⟨cause, p⟩) := by
  rw [loadFields, Session.perform_bind, Session.perform_status hnull, hstatus]

theorem loadFields_of_octets {p : Path} {content : List UInt8} {e : Text.Utf8.Error}
    (hnull : p.hasNull = false) (hsuffix : Text.lower p.suffix = ".json")
    (hread : session.files.read p = .ok content)
    (hfields : SettingsFile.fields content = .error (.octets e)) :
    (session.perform (loadFields p)).1 = .error (.octets e) := by
  have hcontent : session.perform (ExceptT.lift (Host.readFile p)) = (.ok (.ok content), session) :=
    congrArg (fun r => (Except.ok r, session)) hread
  rw [loadFields, Session.perform_bind, Session.perform_status hnull,
    Files.Tree.status_of_read hread]
  dsimp only
  rw [if_neg nofun, hsuffix, if_neg (not_not_intro rfl), Session.perform_bind, hcontent]
  dsimp only
  rw [Session.perform_ofExcept, hfields]
  rfl

/-- A configuration file that cannot be used ends the loading of settings. -/
theorem load_of_loadFields {path : String} (hgiven : path ≠ "") (overrides : Value)
    (h : (session.perform (loadFields (Path.ofString path))).1 = .error e) :
    (session.perform (load (some path) overrides)).1 = .error e := by
  rw [load.eq_def]
  split
  · next hpath => cases hpath
  · next hpath => exact absurd (Option.some.inj hpath) hgiven
  · next hpath =>
    cases hpath
    exact Session.perform_bind_of_error h _

end Settings

namespace Model

theorem load_of_status {file url : Option String} {path : String} {cause : Files.Cause}
    (hpath : given? file = some path) (hurl : given? url = none)
    (hnull : (Path.ofString path).hasNull = false)
    (hstatus : session.files.status (Path.ofString path) = .error cause) (timeout : Int) :
    (session.perform (load file url timeout)).1 = .error (.status ⟨cause, Path.ofString path⟩) := by
  rw [load, hpath, hurl]
  dsimp only
  rw [loadFile, Session.perform_bind, Session.perform_note]
  refine Session.perform_bind_of_error ?_ _
  rw [Session.perform_status hnull, Session.files_report, hstatus]

theorem load_of_url {file url : Option String} {text : String} {e : Web.UrlError}
    (hpath : given? file = none) (hurl : given? url = some text)
    (hparts : Web.UrlParts.read text = .error e) (timeout : Int) :
    (session.perform (load file url timeout)).1 = .error (.url e) := by
  rw [load, hpath, hurl]
  dsimp only
  rw [loadUrl, Session.perform_bind, Session.perform_note]
  refine Session.perform_bind_of_error ?_ _
  rw [Session.perform_ofExcept, hparts]
  rfl

theorem load_of_request {file url : Option String} {text : String} {parts : Web.UrlParts}
    {e : Web.Breakdown} {timeout : Int} (hpath : given? file = none)
    (hurl : given? url = some text) (hparts : Web.UrlParts.read text = .ok parts)
    (hcomplete : parts.isComplete = true)
    (hanswer : session.web { url := text, timeout } = .broken e) :
    (session.perform (load file url timeout)).1 = .error (.request e) := by
  rw [load, hpath, hurl]
  dsimp only
  rw [loadUrl, Session.perform_bind, Session.perform_note]
  dsimp only
  rw [Session.perform_bind, Session.perform_ofExcept, hparts]
  have hnoted : (session.report
      ⟨.debug, .loader, s!"Attempting to load model from URL: {text}"⟩).web = session.web :=
    (session.agrees_report _).web_eq
  generalize session.report _ = noted at hnoted ⊢
  have hfetch : noted.perform (ExceptT.lift (Host.fetch { url := text, timeout }))
      = (.ok (.broken e),
        { noted with requests := noted.requests ++ [{ url := text, timeout }] }) := by
    rw [← hanswer, ← hnoted]
    rfl
  simp only [Except.mapError, hcomplete]
  rw [if_neg (by simp), Session.perform_bind, hfetch]
  rfl

/-- A model in an encoding that fails is no model. -/
theorem outcome_readOctets_of_document {octets : List UInt8} {x : Xml.ReadError}
    (h : Xml.Document.readOctets octets = .error x) :
    (readOctets octets).outcome = .error (.document x) := by
  rw [readOctets, Traced.outcome_bind, Traced.outcome_ofExcept, h]
  rfl

end Model

/-! ## What gets out -/

section Escapes

variable [Perl.Memory]

/-- **An input that nothing provides for** keeps the settings from being loaded, or the classes from
being generated with those that are loaded. -/
theorem Unforeseen.fails (h : Unforeseen session configuration o loaded e) :
    (∃ path, configuration = some path ∧
      ∀ overrides, (session.perform (Settings.load (some path) overrides)).1 = .error e) ∨
    ∃ s, loaded = .ok s ∧ (session.perform (Scheme.generateWith o s)).1 = .error e := by
  cases h with
  | configurationStatus hpath hgiven hnull hstatus =>
    exact .inl ⟨_, hpath, fun overrides => Settings.load_of_loadFields hgiven overrides
      (Settings.loadFields_of_status hnull hstatus)⟩
  | octets hpath hgiven hnull hsuffix hread hfields =>
    exact .inl ⟨_, hpath, fun overrides => Settings.load_of_loadFields hgiven overrides
      (Settings.loadFields_of_octets hnull hsuffix hread hfields)⟩
  | modelStatus hs hpath hurl hnull hstatus =>
    exact .inr ⟨_, hs, Session.perform_bind_of_error
      (Model.load_of_status hpath hurl hnull hstatus 30) _⟩
  | url hs hpath hurl hparts =>
    exact .inr ⟨_, hs, Session.perform_bind_of_error (Model.load_of_url hpath hurl hparts 30) _⟩
  | request hs hpath hurl hparts hcomplete hanswer =>
    exact .inr ⟨_, hs, Session.perform_bind_of_error
      (Model.load_of_request hpath hurl hparts hcomplete hanswer) _⟩
  | @encoding s d x hs hload hread hencoding =>
    refine .inr ⟨s, hs, ?_⟩
    obtain ⟨left, -, hleft⟩ :=
      (Model.isInspecting_load _ _ _).isReading.perform_bind hload fun document => do
        let tables ← Run.traced .model (Model.readOctets document.content)
        let generation ← Scheme.generateTables tables o.target (.settings s)
        pure { generation with source := some document.source }
    show (session.perform (Model.load _ _ 30 >>= _)).1 = _
    rw [hleft]
    refine Session.perform_bind_of_error ?_ _
    rw [Session.fst_perform_traced, Model.outcome_readOctets_of_document hread]
    rfl

/-- What keeps a scheme from being generated keeps it from being created. -/
theorem Scheme.create_of_unforeseen
    (h : Unforeseen session o.settings.configurationPath o
      (session.perform (Settings.ofSource o.settings)).1 e) :
    (session.perform (Scheme.create o)).1 = .error e := by
  rcases h.fails with ⟨path, hpath, hload⟩ | ⟨s, hs, hgenerate⟩
  · refine Session.perform_bind_of_error ?_ _
    unfold Settings.Source.configurationPath at hpath
    split at hpath
    · next hsource =>
      cases hpath
      rw [hsource]
      exact hload .null
    · cases hpath
  · obtain ⟨left, hleft, hcreate⟩ := (Settings.isInspecting_ofSource _).isReading.perform_bind hs
      fun s => generateWith { o with settings := .settings s } s >>= complete s
    show (session.perform (Settings.ofSource o.settings >>= fun s =>
      generateWith { o with settings := .settings s } s >>= complete s)).1 = _
    rw [hcreate]
    refine Session.perform_bind_of_error ?_ _
    exact ((isInspecting_generateWith o s).isReading.isUniform.fst_eq hleft).trans hgenerate

namespace CommandLine

variable {a : Arguments}

/-- What arguments ask for, whatever the settings are. -/
def Arguments.request (a : Arguments) : Scheme.Order := { url := a.url, target := a.target }

/-- A failure that is not expected gets out of the command. -/
theorem carryOut_of_perform (h : ((a.started session).perform (perform a)).1 = .error e)
    (he : e.isExpected = false) : (session.perform (carryOut a)).1 = .error e := by
  rw [perform_carryOut]
  cases hrun : (a.started session).perform (perform a) with
  | mk result left =>
    rw [hrun] at h
    obtain rfl : result = .error e := h
    have hreporting := reporting_report e left
    dsimp only
    generalize left.perform (report e) = reported at hreporting ⊢
    cases hreporting with
    | reported hf => exact absurd hf (by simp [he])
    | refused hf => exact absurd hf (by simp [he])
    | passed => rfl

/-- What keeps classes from being generated keeps the command from it, which names a model then. -/
theorem perform_of_generateWith {s : Settings} (hlist : a.listTargets = false)
    (hs : (session.perform (Settings.load a.config (.object a.overrides))).1 = .ok s)
    (hgenerate : (session.perform (Scheme.generateWith a.request s)).1 = .error e)
    (he : e ≠ .loading .noInput) : (session.perform (perform a)).1 = .error e := by
  have hchecked : s.IsChecked :=
    Settings.isChecked_of_load (Prod.ext hs rfl : session.perform _ = (.ok s, _))
  have hinput : hasInput a s = true := by
    by_contra hnone
    obtain ⟨failed, hload, -⟩ := perform_load_of_not_hasInput (Bool.not_eq_true _ ▸ hnone) session
    have hnoInput : (session.perform (Scheme.generateWith a.request s)).1
        = .error (.loading .noInput) :=
      Session.perform_bind_of_error (congrArg Prod.fst hload) _
    exact he (Except.error.inj (hgenerate.symm.trans hnoInput))
  obtain ⟨left, hleft, hperform⟩ := (Settings.isInspecting_load _ _).isReading.perform_bind hs
    fun s => if hasInput a s then generate a s else do
      displayAll [noInputItem]
      pure 1
  rw [perform, if_neg (by simp [hlist])]
  show (session.perform (Settings.load _ _ >>= _)).1 = _
  rw [hperform, if_pos hinput]
  refine Session.perform_bind_of_error ?_ _
  have hreading := (Scheme.isInspecting_generateWith a.request s).isReading
  rw [Scheme.perform_generate_of_isChecked left rfl hchecked]
  exact (hreading.isUniform.fst_eq hleft).trans hgenerate

/-- What nothing provides for keeps the command from an exit code. -/
theorem carryOut_of_unforeseen (hlist : a.listTargets = false)
    (h : Unforeseen session a.config a.request
      (session.perform (Settings.load a.config (.object a.overrides))).1 e) :
    (session.perform (carryOut a)).1 = .error e := by
  have he := h.isExpected_eq
  have hstarted := a.agrees_started session
  refine carryOut_of_perform ?_ he
  have hload := (Settings.isInspecting_load a.config (.object a.overrides)).isReading
    |>.isUniform.fst_eq hstarted
  rcases h.fails with ⟨path, hpath, hfails⟩ | ⟨s, hs, hgenerate⟩
  · rw [perform, if_neg (by simp [hlist])]
    refine Session.perform_bind_of_error ?_ _
    rw [hload, hpath]
    exact hfails _
  · rw [← hload] at hs
    rw [← (Scheme.isInspecting_generateWith a.request s).isReading.isUniform.fst_eq hstarted]
      at hgenerate
    refine perform_of_generateWith hlist hs hgenerate ?_
    rintro rfl
    cases he

end CommandLine

/-- **What nothing provides for gets out.** It ends a creation, and the command too, which has no
exit code then, in a failure that is not expected. -/
theorem escapes_of_unforeseen (session : Session) :
    (∀ (o : Scheme.Order) (e : Failure), Unforeseen session o.settings.configurationPath o
        (session.perform (Settings.ofSource o.settings)).1 e →
      (session.perform (Scheme.create o)).1 = .error e ∧
        e.kind ∉ [.settings, .reading, .generation, .writing, .registry]) ∧
    ∀ (a : CommandLine.Arguments) (e : Failure), a.listTargets = false →
      Unforeseen session a.config a.request
        (session.perform (Settings.load a.config (.object a.overrides))).1 e →
      (session.perform (CommandLine.carryOut a)).1 = .error e ∧
        e.kind ∉ [.settings, .reading, .generation, .writing, .registry] := by
  have hkind {configuration o loaded} {e : Failure}
      (h : Unforeseen session configuration o loaded e) :
      e.kind ∉ [.settings, .reading, .generation, .writing, .registry] := by
    rw [Failure.mem_kinds_iff, h.isExpected_eq]
    exact Bool.false_ne_true
  exact ⟨fun o e h => ⟨Scheme.create_of_unforeseen h, hkind h⟩,
    fun a e hlist h => ⟨CommandLine.carryOut_of_unforeseen hlist h, hkind h⟩⟩

end Escapes

/-- A session with a configuration file that is not UTF-8 and a model whose encoding is unknown. -/
def unreadableSession : Session where
  files := { nodes := [(["c.json"], .file [0xff]), (["model.xml"], .file (Text.Utf8.encode
    "<?xml version='1.0' encoding='bogus'?><DBMODEL/>"))] }

/-- The unknown encoding gets out of a creation, and the octets that are not UTF-8 out of the
command. -/
theorem escapes_of_unforeseen_sample :
    (unreadableSession.perform (Scheme.create { file := some "model.xml" })).1
        = .error (.model (.document (.unknownEncoding "bogus"))) ∧
      ∃ e, (unreadableSession.perform (CommandLine.carryOut { config := some "c.json" })).1
        = .error (.octets e) := by
  obtain ⟨hcreate, hcarryOut⟩ := escapes_of_unforeseen unreadableSession
  constructor
  · have hload : (unreadableSession.perform (Model.load (some "model.xml") none 30)).1.toOption
        = some ⟨"model.xml", Text.Utf8.encode
          "<?xml version='1.0' encoding='bogus'?><DBMODEL/>"⟩ := by
      decide +kernel
    have hread : (match Xml.Document.readOctets (Text.Utf8.encode
        "<?xml version='1.0' encoding='bogus'?><DBMODEL/>") with
        | .error e => some e
        | .ok _ => none) = some (.unknownEncoding "bogus") := by
      decide +kernel
    split at hread
    · next e he =>
      cases hread
      exact (hcreate { file := some "model.xml" } _
        (.encoding (s := {}) rfl (toOption_eq_some_iff.1 hload) he nofun)).1
    · cases hread
  · have hgiven : "c.json" ≠ "" := by decide
    obtain ⟨e, he⟩ : ∃ e, SettingsFile.fields [0xff] = .error (.octets e) := ⟨_, rfl⟩
    refine ⟨e, (hcarryOut { config := some "c.json" } _ rfl ?_).1⟩
    exact .octets rfl hgiven (by decide +kernel) (by decide +kernel) rfl he

/-- **Not all failures are expected**: a URL with a bracket that is not closed ends a creation, and
the command, in one that is not. -/
theorem unexpected_of_unbalancedBrackets :
    (Session.perform {} (Scheme.create { url := some "http://[::1/x" })).1
        = .error (.url .unbalancedBrackets) ∧
      (Session.perform {} (CommandLine.run ["--url", "http://[::1/x"])).1
        = .error (.url .unbalancedBrackets) ∧
      (Failure.url .unbalancedBrackets).kind ∉
        [.settings, .reading, .generation, .writing, .registry] := by
  have hread : CommandLine.Arguments.read ["--url", "http://[::1/x"]
      = .ok { url := some "http://[::1/x" } := by
    decide +kernel
  refine ⟨rfl, ?_, by decide⟩
  rw [CommandLine.perform_run hread]
  rfl

end SchemaGen
