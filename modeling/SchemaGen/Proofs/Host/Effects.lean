import SchemaGen.Proofs.Host.Surroundings
import SchemaGen.Proofs.Outcome
import SchemaGen.Scheme

/-!
# What the parts of a run read and write

Loading settings, loading a model and generating its classes look at files and at the web, report
what they see, and do nothing else (`Run.IsInspecting`, `Scheme.isInspecting_generate`): they leave
the surroundings of a run as they are, and show nothing. Only writing the modules changes the files,
and what it makes of them depends on nothing but the files (`Destination.isUniform_writeModules`).
-/

namespace SchemaGen

open Run (IsInspecting IsReading IsUniform)

/-! ## Settings -/

namespace Settings

theorem isInspecting_loadFields (p : Path) : IsInspecting (loadFields p) := by
  unfold loadFields
  refine (IsInspecting.status p).bind fun status => ?_
  refine .ite (.throw _) fun _ => .ite (.throw _) fun _ => ?_
  refine (IsInspecting.lift (.readFile p)).bind fun content => ?_
  cases content with
  | error cause => exact .throw _
  | ok content => exact .ofExcept _ _

theorem isInspecting_load (file : Option String) (overrides : Value) :
    IsInspecting (load file overrides) := by
  have hrest : ∀ fields, IsInspecting (do
      let overrides ← Run.ofExcept .notOverrides (overridesOf overrides)
      Run.ofExcept .setting (resolve fields overrides)) := fun fields =>
    (IsInspecting.ofExcept _ _).bind fun overrides => .ofExcept _ _
  rw [load.eq_def]
  split
  · exact (IsInspecting.pure _).bind hrest
  · exact (IsInspecting.pure _).bind hrest
  · exact (isInspecting_loadFields _).bind hrest

theorem isInspecting_ofSource (source : Source) : IsInspecting (ofSource source) := by
  rw [ofSource.eq_def]
  split
  · exact .ofExcept _ _
  · exact isInspecting_load _ _
  · exact isInspecting_load _ _

end Settings

/-! ## The model -/

namespace Model

theorem isInspecting_failLoading (record : String) (e : LoadError) :
    IsInspecting (failLoading record e : Run (StateM Session) α) :=
  (IsInspecting.note _ _ _).bind fun _ => .throw _

theorem isInspecting_loadFile (p : Path) : IsInspecting (loadFile p) := by
  unfold loadFile
  refine (IsInspecting.note _ _ _).bind fun _ => (IsInspecting.status p).bind fun status => ?_
  refine .ite (isInspecting_failLoading _ _) fun _ => .ite (.note _ _ _) fun _ => ?_
  refine (IsInspecting.lift (.readFile p)).bind fun content => ?_
  cases content with
  | error cause => exact isInspecting_failLoading _ _
  | ok content => exact (IsInspecting.note _ _ _).bind fun _ => .pure _

theorem isInspecting_loadUrl (url : String) (timeout : Int) :
    IsInspecting (loadUrl url timeout) := by
  unfold loadUrl
  refine (IsInspecting.note _ _ _).bind fun _ => (IsInspecting.ofExcept _ _).bind fun parts => ?_
  refine .ite (isInspecting_failLoading _ _) fun _ => ?_
  refine (IsInspecting.lift (.fetch _)).bind fun answer => ?_
  cases answer with
  | timedOut => exact isInspecting_failLoading _ _
  | noConnection text => exact isInspecting_failLoading _ _
  | failed text => exact isInspecting_failLoading _ _
  | broken e => exact .throw _
  | response r =>
    refine .ite (isInspecting_failLoading _ _) fun _ => .ite (.note _ _ _) fun _ => ?_
    exact (IsInspecting.note _ _ _).bind fun _ => .pure _

theorem isInspecting_load (file url : Option String) (timeout : Int) :
    IsInspecting (load file url timeout) := by
  unfold load
  split
  · exact isInspecting_failLoading _ _
  · exact isInspecting_failLoading _ _
  · exact isInspecting_loadFile _
  · exact isInspecting_loadUrl _ _

end Model

/-! ## The generation -/

namespace Registry

variable {κ : Type} [GeneratorFamily κ]

theorem isInspecting_settingsOf (source : Settings.Source) : IsInspecting (settingsOf source) := by
  unfold settingsOf
  split
  · exact .pure _
  · exact Settings.isInspecting_ofSource _
  · exact Settings.isInspecting_ofSource _
  · exact Settings.isInspecting_ofSource _
  · exact .throw _

theorem isInspecting_create (r : Registry κ) (target : String) (source : Settings.Source) :
    IsInspecting (r.create target source) :=
  (IsInspecting.ofExcept _ _).bind fun _ => (isInspecting_settingsOf source).bind fun _ =>
    .ofExcept _ _

theorem isInspecting_info [DecidableEq κ] (r : Registry κ) (target : String) :
    IsInspecting (r.info target : Run (StateM Session) TargetInfo) :=
  (IsInspecting.ofExcept _ _).bind fun _ => (IsInspecting.ofExcept _ _).bind fun _ => .pure _

end Registry

namespace Scheme

variable [Perl.Memory]

theorem isInspecting_generateTables (tables : List Model.Table) (target : String)
    (source : Settings.Source) : IsInspecting (generateTables tables target source) :=
  (Settings.isInspecting_ofSource source).bind fun s =>
    (Registry.isInspecting_create _ target (.settings s)).bind fun _ =>
      (IsInspecting.lift (Session.isInspecting_noteAll _)).bind fun _ => .pure _

theorem isInspecting_generateWith (o : Order) (s : Settings) : IsInspecting (generateWith o s) :=
  (Model.isInspecting_load _ _ _).bind fun _ => (IsInspecting.traced _ _).bind fun _ =>
    (isInspecting_generateTables _ _ _).bind fun _ => .pure _

/-- **A run up to the generation leaves its surroundings as they are.** -/
theorem isInspecting_generate (o : Order) : IsInspecting (generate o) :=
  (Settings.isInspecting_ofSource _).bind fun s => isInspecting_generateWith o s

end Scheme

/-! ## Writing -/

namespace Files

theorem isUniform_settleDirectory (p : Path) (cause : Cause) :
    Session.IsUniform (settleDirectory p cause) := by
  refine (Session.isReading_status p).isUniform.bind fun status => ?_
  split <;> exact (Session.IsReading.pure _).isUniform

theorem isUniform_makeDirectories (p : Path) : Session.IsUniform (makeDirectories p) := by
  have hpure : ∀ result : Except Error Unit, Session.IsUniform (pure result) :=
    fun result => (Session.IsReading.pure result).isUniform
  -- the directories on the way are made first, so the induction is on how many there are
  fun_induction makeDirectories (m := StateM Session) p with
  | case1 p ih =>
    refine (Session.isUniform_makeDirectory p).bind fun first => ?_
    split
    · exact hpure _
    · split
      · exact hpure _
      · next h =>
        refine Session.IsUniform.bind (ih h) fun parents => ?_
        split
        · exact hpure _
        · refine (Session.isUniform_makeDirectory p).bind fun second => ?_
          split
          · exact hpure _
          · exact hpure _
          · exact isUniform_settleDirectory p _
    · exact isUniform_settleDirectory p _

end Files

namespace Destination

theorem isUniform_failWriting {α : Type} (p : Path) (e : Files.Error) :
    IsUniform (failWriting p e : Run (StateM Session) α) :=
  ((IsReading.note _ _ _).bind fun _ => .throw _).isUniform

theorem isUniform_writeText (p : Path) (text : String) : IsUniform (writeText p text) := by
  unfold writeText
  refine .ite (IsReading.throw _).isUniform fun _ => ?_
  refine (IsUniform.lift (Files.isUniform_makeDirectories _)).bind fun made => ?_
  cases made with
  | error e => exact isUniform_failWriting _ _
  | ok _ =>
    refine .ite (IsReading.throw _).isUniform fun _ => ?_
    refine (IsUniform.lift (Session.isUniform_writeFile _ _)).bind fun written => ?_
    cases written with
    | error cause => exact isUniform_failWriting _ _
    | ok _ => exact (IsReading.note _ _ _).isUniform

theorem isUniform_writeModule (d : Destination) (module source : String) :
    IsUniform (d.writeModule module source) :=
  (IsReading.ofExcept _ _).isUniform.bind fun p =>
    (isUniform_writeText p source).bind fun _ => (IsReading.pure _).isUniform

theorem isUniform_writeEach (d : Destination) (files : List (String × String)) :
    IsUniform (d.writeEach files) := by
  induction files with
  | nil => exact (IsReading.pure _).isUniform
  | cons file files ih =>
    exact (isUniform_writeModule d file.1 file.2).bind fun _ =>
      ih.bind fun _ => (IsReading.pure _).isUniform

/-- **What writing does to the files depends on the files alone.** -/
theorem isUniform_writeModules (d : Destination) (files : Entries String String) :
    IsUniform (d.writeModules files) :=
  (isUniform_writeEach d files).bind fun _ =>
    ((IsReading.note _ _ _).bind fun _ => .pure _).isUniform

/-! ## What writing fails with -/

/-- **A failure of writing**: of its kind, or because a path holds a null character. -/
def IsFailure (hasNull : Prop) (e : Failure) : Prop :=
  e.kind = .writing ∨ e = .nullInPath ∧ hasNull

theorem hasNull_of_hasNull_parent {p : Path} (h : p.parent.hasNull = true) : p.hasNull = true := by
  obtain ⟨c, hc, hnull⟩ := List.any_eq_true.1 h
  exact List.any_eq_true.2 ⟨c, (List.dropLast_sublist _).subset hc, hnull⟩

theorem failsOnly_failWriting (p : Path) (e : Files.Error) (null : Prop) (s : Session) :
    s.FailsOnly (failWriting p e : Run (StateM Session) Unit) (IsFailure null) :=
  .bind (.note _ _ _) (.note _ _ _) fun _ _ => .throw (.inl rfl)

theorem failsOnly_writeText (p : Path) (text : String) (s : Session) :
    s.FailsOnly (writeText p text) (IsFailure (p.hasNull = true)) := by
  unfold writeText
  refine .ite (.throw _) (fun h => .throw (.inr ⟨rfl, hasNull_of_hasNull_parent h⟩)) fun _ => ?_
  refine .bind_of_forall (fun s => .lift _) (fun made s => ?_) s
  cases made with
  | error e => exact failsOnly_failWriting _ _ _ s
  | ok _ =>
    refine .ite (.throw _) (fun h => .throw (.inr ⟨rfl, h⟩)) fun _ => ?_
    refine .bind_of_forall (fun s => .lift _) (fun written s => ?_) s
    cases written with
    | error cause => exact failsOnly_failWriting _ _ _ s
    | ok _ => exact .note _ _ _

/-- The path of a module holds a null character. -/
def LeadsToNull (d : Destination) (module : String) : Prop :=
  ∃ p, d.pathOf module = .ok p ∧ p.hasNull = true

/-- Only an empty separator keeps a name from being taken apart. -/
theorem pathOf_ne_emptySeparator {d : Destination} (hd : d.separator ≠ "") (module : String)
    (e : ModuleName.EmptySeparator) : d.pathOf module ≠ .error (.emptySeparator e) := by
  intro h
  rw [pathOf, ModuleName.segments?, if_neg hd] at h
  simp only [] at h
  split at h <;> cases h

theorem failsOnly_writeModule {d : Destination} (hd : d.separator ≠ "") (module source : String)
    (s : Session) :
    s.FailsOnly (d.writeModule module source) (IsFailure (d.LeadsToNull module)) := by
  refine .bind (.ofExcept _ _) (.ofExcept fun e he => ?_) fun p hp => ?_
  · cases e with
    | noSegments module => exact .inl rfl
    | emptySeparator e => exact absurd he (pathOf_ne_emptySeparator hd module e)
  · rw [Session.perform_ofExcept, mapError_eq_ok_iff] at hp
    refine .bind_of_forall (fun s => ?_) (fun _ s => .pure p) s
    exact (failsOnly_writeText p source s).mono fun e he => he.imp_right fun h => ⟨h.1, p, hp, h.2⟩

theorem failsOnly_writeEach {d : Destination} (hd : d.separator ≠ "")
    (files : List (String × String)) (s : Session) :
    s.FailsOnly (d.writeEach files) (IsFailure (∃ file ∈ files, d.LeadsToNull file.1)) := by
  induction files generalizing s with
  | nil => exact .pure _
  | cons file files ih =>
    refine .bind_of_forall (fun s => ?_) (fun p s => ?_) s
    · exact (failsOnly_writeModule hd file.1 file.2 s).mono fun e he =>
        he.imp_right fun h => ⟨h.1, file, List.mem_cons_self, h.2⟩
    · refine .bind_of_forall (fun s => ?_) (fun paths s => .pure _) s
      exact (ih s).mono fun e he => he.imp_right fun ⟨h, f, hf, hnull⟩ =>
        ⟨h, f, List.mem_cons_of_mem file hf, hnull⟩

/-- **Writing modules fails as writing does**, unless the path of one holds a null character. -/
theorem failsOnly_writeModules {d : Destination} (hd : d.separator ≠ "")
    (files : Entries String String) (s : Session) :
    s.FailsOnly (d.writeModules files) (IsFailure (∃ file ∈ files, d.LeadsToNull file.1)) :=
  .bind_of_forall (failsOnly_writeEach hd files)
    (fun _ => .bind_of_forall (fun _ => .note _ _ _) fun _ _ => .pure _) s

/-! ## What is written -/

theorem paths_of_writeEach {d : Destination} {files : List (String × String)} {s s' : Session}
    {paths : List Path} (h : s.perform (d.writeEach files) = (.ok paths, s')) :
    List.Forall₂ (fun file path => d.pathOf file.1 = .ok path) files paths := by
  induction files generalizing s s' paths with
  | nil =>
    cases h
    exact .nil
  | cons file files ih =>
    obtain ⟨p, _, hp, h⟩ := Session.perform_bind_eq_ok h
    obtain ⟨rest, _, hrest, h⟩ := Session.perform_bind_eq_ok h
    obtain ⟨path, _, hpath, hp⟩ := Session.perform_bind_eq_ok hp
    obtain ⟨_, _, -, hp⟩ := Session.perform_bind_eq_ok hp
    cases h
    cases hp
    exact .cons (Session.perform_ofExcept_eq_ok hpath).1 (ih hrest)

/-- **Modules that were written have their paths in order.** -/
theorem paths_of_writeModules {d : Destination} {files : Entries String String} {s s' : Session}
    {paths : List Path} (h : s.perform (d.writeModules files) = (.ok paths, s')) :
    List.Forall₂ (fun file path => d.pathOf file.1 = .ok path) files paths := by
  obtain ⟨written, _, hwritten, h⟩ := Session.perform_bind_eq_ok h
  obtain ⟨_, _, -, h⟩ := Session.perform_bind_eq_ok h
  cases h
  exact paths_of_writeEach hwritten

end Destination

end SchemaGen
