import SchemaGen.Proofs.CommandLine

/-!
# Dry runs

A dry run of the command shows the modules that a real run would write. The switch for it may stand
in front of any line, which is read as before (`Arguments.read_dryRun_cons`). The two runs take the
same steps until the modules are at hand and whatever is doubtful about them was shown
(`IsAtModules`); only there the flag is looked at (`Parting`). If they do not come so far, they are
one and the same run, and that leaves every file as it was. If they do, the dry run shows the
modules, in their order, while the real run hands just these over to be written and ends as that
ends. The dry run then ends with exit code 0, unless the console refuses one of the modules. The
real run shows none of them, so that does not keep it from writing (`dryRun_shows_or_is_refused`).
-/

namespace SchemaGen.CommandLine

open Console (Item)

variable {a : Arguments} {s : Settings} {session left middle : Session}

/-! ## The flag -/

namespace Arguments

/-- The same arguments, for a dry run. -/
def asDryRun (a : Arguments) : Arguments := { a with dryRun := true }

theorem setFile_asDryRun (a : Arguments) (path : String) :
    a.asDryRun.setFile path = (a.setFile path).map asDryRun := by
  show (if a.url.isSome then _ else _) = _
  rw [setFile]
  split <;> rfl

theorem setFlag_asDryRun (a : Arguments) (f : Flag) :
    a.asDryRun.setFlag f = (a.setFlag f).map asDryRun := by
  cases f <;> rfl

theorem setFlags_asDryRun (a : Arguments) (flags : List Flag) :
    a.asDryRun.setFlags flags = (a.setFlags flags).map asDryRun := by
  induction flags generalizing a with
  | nil => rfl
  | cons f flags ih =>
    rw [setFlags, setFlags, setFlag_asDryRun]
    cases a.setFlag f with
    | error e => rfl
    | ok b => exact ih b

theorem setValue_asDryRun (a : Arguments) (s : Setting) (value : String) :
    a.asDryRun.setValue s value = (a.setValue s value).map asDryRun := by
  rw [setValue.eq_def, setValue.eq_def]
  split
  · rfl
  · cases s with
    | url =>
      have hfile : a.asDryRun.file = a.file := rfl
      dsimp only
      rw [hfile]
      split <;> rfl
    | _ => rfl

/-- A line that is read in part, for a dry run. -/
def Partial.asDryRun (p : Partial) : Partial := { p with arguments := p.arguments.asDryRun }

theorem passPath_asDryRun (p : Partial) (path : Option String) :
    p.asDryRun.passPath path = (p.passPath path).map Partial.asDryRun := by
  cases path with
  | none => rfl
  | some path =>
    rw [Partial.passPath, Partial.passPath]
    dsimp only [Partial.asDryRun]
    rw [setFile_asDryRun]
    cases p.arguments.setFile path <;> rfl

/-- **The flag for dry runs does not change how words are read.** -/
theorem readWords_asDryRun (p : Partial) (words : List Word) :
    readWords p.asDryRun words = (readWords p words).map Partial.asDryRun := by
  have hpassed : ∀ p : Partial, p.asDryRun.pathPassed = p.pathPassed := fun _ => rfl
  have hunplaced : ∀ p : Partial, p.asDryRun.unplaced = p.unplaced := fun _ => rfl
  have harguments : ∀ p : Partial, p.asDryRun.arguments = p.arguments.asDryRun := fun _ => rfl
  have hadd : ∀ (p : Partial) (text : String),
      p.asDryRun.addUnplaced text = (p.addUnplaced text).asDryRun := fun _ _ => rfl
  have hwith : ∀ (p : Partial) (a : Arguments),
      { p with arguments := a.asDryRun } = Partial.asDryRun { p with arguments := a } :=
    fun _ _ => rfl
  -- a step takes the same branch on both sides, and hands the flag on to the words that follow
  fun_induction readWords p words <;>
    simp_all [readWords, passPath_asDryRun, setFlags_asDryRun, setValue_asDryRun, Except.map]

/-- **The switch for dry runs in front of a line** asks for the same, in a dry run. -/
theorem read_dryRun_cons {line : List String} {a : Arguments} (h : read line = .ok a) :
    read ("--dry-run" :: line) = .ok { a with dryRun := true } := by
  have hword : Word.ofString "--dry-run" = .ok (.switch ⟨.flag .dryRun, false, .none⟩) := by
    decide +kernel
  rw [read] at h ⊢
  rw [Word.ofStrings, if_neg (by decide), hword]
  dsimp only
  cases hwords : Word.ofStrings line with
  | error e =>
    rw [hwords] at h
    cases h
  | ok words =>
    rw [hwords] at h
    dsimp only at h ⊢
    have hexpand : expand (.flag .dryRun) false .none = .ok ([.dryRun], .nothing) := by rw [expand]
    have hfirst : readWords {} (.switch ⟨.flag .dryRun, false, .none⟩ :: words)
        = (readWords {} words).map Partial.asDryRun := by
      rw [← readWords_asDryRun, readWords, hexpand]
      rfl
    rw [hfirst]
    cases hread : readWords {} words with
    | error e =>
      rw [hread] at h
      cases h
    | ok p =>
      rw [hread] at h
      dsimp only [Except.map] at h ⊢
      have hunplaced : p.asDryRun.unplaced = p.unplaced := rfl
      rw [hunplaced]
      split at h
      · next hnil =>
        cases h
        rw [if_pos hnil]
        rfl
      · cases h

end Arguments

/-! ## What is shown -/

/-- The sources that some items show, each with the title of its panel. -/
def shownSources (items : List Item) : List (String × String) :=
  items.filterMap fun
    | .panel title _ (.code source) => some (title, source)
    | _ => none

/-- The title of the panel of a module. -/
def panelTitle (module : String) : String := s!"📄 {module}"

/-- **The panels of some modules show their sources**, in their order. -/
theorem shownSources_flatMap_moduleItems (files : List (String × String)) :
    shownSources (files.flatMap moduleItems)
      = files.map fun file => (panelTitle file.1, file.2) := by
  induction files with
  | nil => rfl
  | cons file files ih =>
    rw [List.flatMap_cons, List.map_cons, ← ih]
    rfl

/-- Lines show no source. -/
theorem shownSources_map_line {α : Type} (text : α → String) (as : List α) :
    shownSources (as.map fun a => .line (text a)) = [] := by
  induction as with
  | nil => rfl
  | cons a as ih => exact ih

theorem shownSources_append (xs ys : List Item) :
    shownSources (xs ++ ys) = shownSources xs ++ shownSources ys := List.filterMap_append

/-- What shows no source does not do so in its first part. -/
theorem shownSources_eq_nil_of_append {xs ys : List Item} (h : shownSources (xs ++ ys) = []) :
    shownSources xs = [] := by
  rw [shownSources_append] at h
  exact (List.append_eq_nil_iff.1 h).1

/-- The items of a generation up to its modules: its doubts, and its particulars if asked for. -/
def leadingItems (a : Arguments) (g : Generation) : List Item :=
  g.warnings.map warningItem ++ if a.verbose then [detailsItem g] else []

theorem shownSources_leadingItems (a : Arguments) (g : Generation) :
    shownSources (leadingItems a g) = [] := by
  have hwarnings : shownSources (g.warnings.map warningItem) = [] :=
    shownSources_map_line (fun w : Model.Warning => s!"[yellow]⚠️  {w.message}[/yellow]")
      g.warnings
  rw [leadingItems, shownSources_append, hwarnings]
  split <;> rfl

/-! ## Where the runs part -/

/-- Writes the modules of a product and tells of it, as the last step of a command. -/
def finish {m : Type → Type} [Monad m] [Host m] (a : Arguments) (d : Destination) (p : Product) :
    Run m Nat := do
  let paths ← d.writeModules p.files
  displayAll (writtenItems a p paths)
  pure 0

section Steps

variable [Perl.Memory]

/-- **A run is at the modules of a product**: they are generated, and what is told of them in front
of the modules was shown. -/
structure IsAtModules (a : Arguments) (session : Session) (s : Settings) (g : Generation)
    (p : Product) (middle : Session) : Prop where
  generates : Generates a session s g
  outcome_eq : g.outcome = .ok p
  agrees : middle.Agrees session
  console_eq : middle.console = session.console ++ leadingItems a g

/-- It is the same from surroundings that agree, where no more was shown. -/
theorem IsAtModules.of_agrees {g : Generation} {p : Product} (h : IsAtModules a left s g p middle)
    (hagrees : left.Agrees session) (hconsole : left.console = session.console) :
    IsAtModules a session s g p middle where
  generates := h.generates.of_agrees hagrees
  outcome_eq := h.outcome_eq
  agrees := h.agrees.trans hagrees
  console_eq := hconsole ▸ h.console_eq

/-- **Two runs that part over their modules, if at all.** -/
inductive Parting (a : Arguments) (session : Session) (dry real : Except Failure Nat × Session) :
    Prop
  /-- They are the same, and show no module. -/
  | never (items : List Item) (same : dry = real) (agrees : dry.2.Agrees session)
    (console_eq : dry.2.console = session.console ++ items)
    (sources_eq : shownSources items = [])
    (lists : dry.1 = .ok 0 → a.listTargets = true)
  /-- They come to the modules of a product; one shows them, and the other one writes them. -/
  | atModules (s : Settings) (g : Generation) (p : Product) (middle : Session)
    (lists_eq : a.listTargets = false) (isAt : IsAtModules a session s g p middle)
    (dry_eq : dry
      = middle.perform (displayAll (p.files.flatMap moduleItems) >>= fun _ => pure 0))
    (real_eq : real = middle.perform (finish a (Scheme.destination s) p))

namespace Parting

variable {α : Type} {dry real : Except Failure Nat × Session}

/-- What went before without being shown makes no difference. -/
theorem of_agrees (h : Parting a left dry real) (hagrees : left.Agrees session)
    (hconsole : left.console = session.console) : Parting a session dry real := by
  cases h with
  | never items same agrees console_eq sources_eq lists =>
    exact .never items same (agrees.trans hagrees) (hconsole ▸ console_eq) sources_eq lists
  | atModules s g p middle lists_eq isAt dry_eq real_eq =>
    exact .atModules s g p middle lists_eq (isAt.of_agrees hagrees hconsole) dry_eq real_eq

/-- **A step that both take** and that only inspects leads them on alike. -/
theorem bind {x : Run (StateM Session) α} (hx : Run.IsInspecting x)
    {f g : α → Run (StateM Session) Nat}
    (hparting : ∀ r left, session.perform x = (.ok r, left) → left.Agrees session →
      Parting a left (left.perform (f r)) (left.perform (g r))) :
    Parting a session (session.perform (x >>= f)) (session.perform (x >>= g)) := by
  have hagrees := hx.isReading.agrees session
  have hconsole := hx.console_eq session
  rw [Session.perform_bind, Session.perform_bind]
  cases hrun : session.perform x with
  | mk result left =>
    rw [hrun] at hagrees hconsole
    cases result with
    | error e =>
      exact .never [] rfl hagrees (by rw [hconsole, List.append_nil]) rfl nofun
    | ok r => exact (hparting r left hrun hagrees).of_agrees hagrees hconsole

/-- **Both show some items that hold no source**, and go on if none is refused. -/
theorem shown {x y : Run (StateM Session) Nat} (items : List Item)
    (hitems : shownSources items = [])
    (hparting : Parting a session
      (Session.perform { session with console := session.console ++ items } x)
      (Session.perform { session with console := session.console ++ items } y)) :
    Parting a session (session.perform (displayAll items >>= fun _ => x))
      (session.perform (displayAll items >>= fun _ => y)) := by
  have hshowing := showing_displayAll items session
  rw [Session.perform_bind, Session.perform_bind]
  generalize session.perform (displayAll items) = result at hshowing ⊢
  cases hshowing with
  | all => exact hparting
  | upTo before after i e items_eq draw_eq =>
    rw [items_eq] at hitems
    exact .never before rfl ⟨rfl, rfl, rfl⟩ rfl (shownSources_eq_nil_of_append hitems) nofun

/-- Both show some items that hold no source, and end. -/
theorem ended (items : List Item) (hitems : shownSources items = []) (code : Nat)
    (hlists : code = 0 → a.listTargets = true) :
    Parting a session (session.perform (displayAll items >>= fun _ => pure code))
      (session.perform (displayAll items >>= fun _ => pure code)) :=
  .shown items hitems <|
    .never items rfl ⟨rfl, rfl, rfl⟩ rfl hitems fun h => hlists (Except.ok.inj h)

end Parting

/-- The rows of the targets are read from the registry. -/
theorem isInspecting_targetRows (targets : List String) :
    Run.IsInspecting (targetRows targets : Run (StateM Session) (List (List String))) := by
  induction targets with
  | nil => exact .pure []
  | cons target targets ih =>
    exact (Registry.isInspecting_info _ target).bind fun _ => ih.bind fun _ => .pure _

/-- **Generating parts at the modules.** -/
theorem parting_generate (hlist : a.listTargets = false)
    (hload : (session.perform (Settings.load a.config (.object a.overrides))).1 = .ok s) :
    Parting a session (session.perform (generate { a with dryRun := true } s))
      (session.perform (generate { a with dryRun := false } s)) := by
  rw [generate, generate]
  refine .bind (Scheme.isInspecting_generate (a.order s)) fun g left hrun hagrees => ?_
  have hgenerates : Generates a left s g :=
    Generates.of_agrees ⟨hload, congrArg Prod.fst hrun⟩ hagrees.symm
  cases hg : g.outcome with
  | error e => exact .ended [failedItem e] rfl 1 fun h => absurd h (by decide)
  | ok p =>
    have hfiles : g.files = p.files := by rw [Generation.files, hg]
    have hleading : generationItems { a with dryRun := false } g = leadingItems a g :=
      List.append_nil _
    have hdry : left.perform (displayAll (generationItems { a with dryRun := true } g) >>=
          fun _ => pure 0)
        = left.perform (displayAll (leadingItems a g) >>= fun _ =>
          displayAll (p.files.flatMap moduleItems) >>= fun _ => pure 0) := by
      have hshown : generationItems { a with dryRun := true } g
          = leadingItems a g ++ p.files.flatMap moduleItems := by
        rw [← hfiles]
        rfl
      rw [hshown, ← bind_assoc, Session.perform_bind, perform_displayAll_append,
        ← Session.perform_bind]
    show Parting a left
      (left.perform (displayAll (generationItems { a with dryRun := true } g) >>= fun _ => pure 0))
      (left.perform (displayAll (generationItems { a with dryRun := false } g) >>= fun _ =>
        finish a (Scheme.destination s) p))
    rw [hdry, hleading]
    exact .shown _ (shownSources_leadingItems a g) <|
      .atModules s g p { left with console := left.console ++ leadingItems a g } hlist
        ⟨hgenerates, hg, ⟨rfl, rfl, rfl⟩, rfl⟩ rfl rfl

/-- **The whole command parts at the modules**, unless it only lists the targets. -/
theorem parting_perform (a : Arguments) (session : Session) :
    Parting a session (session.perform (perform { a with dryRun := true }))
      (session.perform (perform { a with dryRun := false })) := by
  rw [perform, perform]
  by_cases hlist : a.listTargets = true
  · rw [if_pos hlist, if_pos hlist, targetItems]
    simp only [bind_assoc, pure_bind]
    exact .bind (isInspecting_targetRows _) fun rows left _ _ => .ended _ rfl 0 fun _ => hlist
  · rw [if_neg hlist, if_neg hlist]
    refine .bind (Settings.isInspecting_load _ _) fun s left hrun hagrees => ?_
    have hload : (left.perform (Settings.load a.config (.object a.overrides))).1 = .ok s := by
      rw [(Settings.isInspecting_load _ _).isReading.isUniform.fst_eq hagrees]
      exact congrArg Prod.fst hrun
    -- the flag is no part of what tells whether there is a model
    show Parting a left
      (left.perform (if hasInput a s then generate { a with dryRun := true } s else _))
      (left.perform (if hasInput a s then generate { a with dryRun := false } s else _))
    split
    · exact parting_generate (Bool.not_eq_true _ ▸ hlist) hload
    · exact .ended [noInputItem] rfl 1 fun h => absurd h (by decide)

end Steps

/-! ## The end of both -/

/-- What a run of the command makes of an exit code or a failure in the end. -/
def conclude {m : Type → Type} [Monad m] [Host m] (x : Run m Nat) : Run m Ending := do
  let code ← tryCatch x report
  pure (.exit code)

/-- To run the command is to conclude what its arguments ask for. -/
theorem perform_run_eq_conclude [Perl.Memory] {line : List String}
    (hread : Arguments.read line = .ok a) (session : Session) :
    session.perform (run line)
      = (a.started session).perform (conclude (perform a)) := by
  rw [run, hread]
  rfl

/-- A failure is concluded by its report. -/
theorem perform_conclude (x : Run (StateM Session) Nat) (session : Session) :
    session.perform (conclude x) =
      match session.perform x with
      | (.ok code, left) => (.ok (.exit code), left)
      | (.error f, left) =>
        ((left.perform (report f)).1.map .exit, (left.perform (report f)).2) := by
  rw [conclude, Session.perform_bind, Session.perform_tryCatch]
  cases session.perform x with
  | mk result left =>
    cases result with
    | ok code => rfl
    | error f =>
      dsimp only
      cases left.perform (report f) with
      | mk result left => cases result <;> rfl

/-- Runs that come to the same are concluded in the same way. -/
theorem perform_conclude_congr {x y : Run (StateM Session) Nat}
    (h : session.perform x = left.perform y) :
    session.perform (conclude x) = left.perform (conclude y) := by
  rw [perform_conclude, perform_conclude, h]

/-- **A run that changes no file and shows no source** is concluded without either, and with exit
code 0 only if that is its own. -/
theorem conclude_of_ended {x : Run (StateM Session) Nat} {items : List Item}
    (hagrees : (session.perform x).2.Agrees session)
    (hconsole : (session.perform x).2.console = session.console ++ items)
    (hitems : shownSources items = []) :
    (session.perform (conclude x)).2.files = session.files ∧
      ((session.perform (conclude x)).1 = .ok (.exit 0) → (session.perform x).1 = .ok 0) ∧
      ∃ items, (session.perform (conclude x)).2.console = session.console ++ items ∧
        shownSources items = [] := by
  rw [perform_conclude]
  cases hrun : session.perform x with
  | mk result left =>
    rw [hrun] at hagrees hconsole
    cases result with
    | ok code =>
      refine ⟨hagrees.files_eq, fun h => ?_, items, hconsole, hitems⟩
      cases h
      rfl
    | error f =>
      have hreporting := reporting_report f left
      dsimp only
      generalize left.perform (report f) = reported at hreporting ⊢
      cases hreporting with
      | reported hf agrees console_eq =>
        refine ⟨(agrees.trans hagrees).files_eq, nofun, items ++ [failureItem f], ?_, ?_⟩
        · rw [console_eq, hconsole, List.append_assoc]
        · rw [shownSources_append, hitems]
          rfl
      | refused hf draw_eq agrees console_eq =>
        exact ⟨(agrees.trans hagrees).files_eq, nofun, items, console_eq.trans hconsole, hitems⟩
      | passed hf => exact ⟨hagrees.files_eq, nofun, items, hconsole, hitems⟩

/-- **A dry run shows what a real run writes, unless the console refuses that.** It changes no file.
If it ends with exit code 0 and does not list the targets, it has shown the sources of the
generation behind the doubts on them, in their order, each under the name of its module; and the
real run, from the same surroundings and behind the same doubts, goes on by writing just these and
ends as that ends. In all other cases the real run is the same as the dry run, unless an item of a
module is refused: the dry run ends in that, and the real run goes on as before. -/
theorem dryRun_shows_or_is_refused [Perl.Memory] {dry real : List String}
    (hdry : Arguments.read dry = .ok { a with dryRun := true })
    (hreal : Arguments.read real = .ok { a with dryRun := false }) (session : Session) :
    (session.perform (run dry)).2.files = session.files ∧
    ((session.perform (run dry)).1 = .ok (.exit 0) → a.listTargets = false →
      ∃ (s : Settings) (g : Generation) (p : Product) (middle : Session),
        IsAtModules a session s g p middle ∧
        (session.perform (run dry)).2.console = middle.console ++ p.files.flatMap moduleItems ∧
        shownSources (leadingItems a g ++ p.files.flatMap moduleItems)
          = p.files.map (fun file => (panelTitle file.1, file.2)) ∧
        session.perform (run real)
          = middle.perform (conclude (finish a (Scheme.destination s) p))) ∧
    ((session.perform (run dry)).1 ≠ .ok (.exit 0) ∨ a.listTargets = true →
      (session.perform (run real) = session.perform (run dry) ∧
        ∃ items, (session.perform (run dry)).2.console = session.console ++ items ∧
          shownSources items = []) ∨
      ∃ (s : Settings) (g : Generation) (p : Product) (middle : Session) (i : Item)
        (e : Console.Refusal),
        IsAtModules a session s g p middle ∧
        i ∈ p.files.flatMap moduleItems ∧ session.draw i = .error e ∧
        (session.perform (run dry)).1 = .error (.unshown e) ∧
        session.perform (run real)
          = middle.perform (conclude (finish a (Scheme.destination s) p))) := by
  have hdry : session.perform (run dry)
      = (a.started session).perform (conclude (perform { a with dryRun := true })) :=
    perform_run_eq_conclude hdry session
  have hreal : session.perform (run real)
      = (a.started session).perform (conclude (perform { a with dryRun := false })) :=
    perform_run_eq_conclude hreal session
  rw [hdry, hreal]
  cases parting_perform a (a.started session) with
  | never items same agrees console_eq sources_eq lists =>
    obtain ⟨hfiles, hexit, hshown⟩ := conclude_of_ended agrees console_eq sources_eq
    refine ⟨hfiles, fun hzero hlist => ?_,
      fun _ => .inl ⟨(perform_conclude_congr same).symm, hshown⟩⟩
    rw [lists (hexit hzero)] at hlist
    cases hlist
  | atModules s g p middle lists_eq isAt dry_eq real_eq =>
    have hat : IsAtModules a session s g p middle := isAt.of_agrees (a.agrees_started session) rfl
    have hshowing := showing_displayAll (p.files.flatMap moduleItems) middle
    rw [perform_conclude_congr real_eq, perform_conclude_congr dry_eq, perform_conclude,
      Session.perform_bind]
    generalize middle.perform (displayAll (p.files.flatMap moduleItems)) = result at hshowing ⊢
    cases hshowing with
    | all =>
      refine ⟨hat.agrees.files_eq, fun _ _ => ⟨s, g, p, middle, hat, rfl, ?_, rfl⟩, fun h => ?_⟩
      · rw [shownSources_append, shownSources_leadingItems, shownSources_flatMap_moduleItems]
        rfl
      · rcases h with h | h
        · exact absurd rfl h
        · rw [lists_eq] at h
          cases h
    | upTo before after i e items_eq draw_eq =>
      have hi : i ∈ p.files.flatMap moduleItems := by simp [items_eq]
      have hdraw : session.draw i = .error e := by rw [← hat.agrees.draw_eq, draw_eq]
      exact ⟨hat.agrees.files_eq, nofun, fun _ => .inr ⟨s, g, p, middle, i, e, hat, hi, hdraw, rfl,
        rfl⟩⟩

/-- The sample is shown by a dry run and written by a real one; where its model is missing, both end
alike. -/
theorem dryRun_shows_or_is_refused_sample :
    (Scheme.sampleSession.perform (run ["--dry-run", "model.xml"])).1 = .ok (.exit 0) ∧
      (∃ (s : Settings) (p : Product) (middle : Session),
        (Scheme.sampleSession.perform (run ["--dry-run", "model.xml"])).2.console
          = middle.console ++ p.files.flatMap moduleItems ∧
        Scheme.sampleSession.perform (run ["model.xml"]) = middle.perform
          (conclude (finish { file := some "model.xml" } (Scheme.destination s) p))) ∧
      Session.perform {} (run ["model.xml"]) = Session.perform {} (run ["--dry-run", "model.xml"])
        := by
  have hreal : Arguments.read ["model.xml"] = .ok { file := some "model.xml" } := by
    decide +kernel
  have hdry := Arguments.read_dryRun_cons hreal
  have hexit : (Scheme.sampleSession.perform (run ["--dry-run", "model.xml"])).1
      = .ok (.exit 0) := by
    have hcode : (Scheme.sampleSession.perform (run ["--dry-run", "model.xml"])).1.toOption
        = some (.exit 0) := by
      decide +kernel
    exact toOption_eq_some_iff.1 hcode
  have hmissing : (Session.perform {} (run ["--dry-run", "model.xml"])).1.toOption
      = some (.exit 1) := by
    decide +kernel
  have hmissing := toOption_eq_some_iff.1 hmissing
  obtain ⟨s, g, p, middle, -, hconsole, -, hrun⟩ :=
    (dryRun_shows_or_is_refused hdry hreal Scheme.sampleSession).2.1 hexit rfl
  refine ⟨hexit, ⟨s, p, middle, hconsole, hrun⟩, ?_⟩
  have hcases := (dryRun_shows_or_is_refused hdry hreal {}).2.2
    (.inl fun h => by cases hmissing.symm.trans h)
  rcases hcases with ⟨hsame, -⟩ | ⟨-, -, -, -, -, e, -, -, -, he, -⟩
  · exact hsame
  · cases hmissing.symm.trans he

/-- A session with the model of a table that has a tag for its name, and a console that takes the
tag in the title of its module for the end of a part that does not begin. -/
def taggedSession : Session where
  files := { nodes := [(["model.xml"], .file (Text.Utf8.encode
    ("<DBMODEL><METADATA><TABLES><TABLE Tablename='[/b]'><COLUMNS>" ++
      "<COLUMN ColName='id' PrimaryKey='1'/></COLUMNS></TABLE></TABLES></METADATA></DBMODEL>")))] }
  draw i :=
    match i with
    | .panel "📄 DBIC_Scheme::[/b]" _ _ =>
      .error ⟨"closing tag '[/b]' at position 15 doesn't match any open tag"⟩
    | _ => .ok ()

/-- **A dry run may fail where the real run writes**: the console refuses the module of a table, and
only the dry run shows it. -/
theorem dryRun_refused_and_written :
    (taggedSession.perform (run ["--dry-run", "model.xml"])).1
        = .error (.unshown ⟨"closing tag '[/b]' at position 15 doesn't match any open tag"⟩) ∧
      (taggedSession.perform (run ["model.xml"])).1 = .ok (.exit 0) ∧
      (taggedSession.perform (run ["model.xml"])).2.files ≠ taggedSession.files := by
  have hdry : (match (taggedSession.perform (run ["--dry-run", "model.xml"])).1 with
      | .error (.unshown e) => some e
      | _ => none) = some ⟨"closing tag '[/b]' at position 15 doesn't match any open tag"⟩ := by
    decide +kernel
  have hreal : ((taggedSession.perform (run ["model.xml"])).1.toOption,
      (taggedSession.perform (run ["model.xml"])).2.files.nodes.map Prod.fst)
        = (some (.exit 0), [["model.xml"], ["DBIC_Scheme"], ["DBIC_Scheme", "["],
          ["DBIC_Scheme", "[", "b].pm"], ["DBIC_Scheme.pm"]]) := by
    decide +kernel
  obtain ⟨hexit, hfiles⟩ := Prod.mk.inj hreal
  refine ⟨?_, toOption_eq_some_iff.1 hexit, fun h => ?_⟩
  · split at hdry
    · next e he => rw [he, Option.some.inj hdry]
    · cases hdry
  · rw [h] at hfiles
    cases hfiles

end SchemaGen.CommandLine
