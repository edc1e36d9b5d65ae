import SchemaGen.CommandLine.Command
import SchemaGen.Proofs.Creation

/-!
# The command and the library

The command does what a caller of the library does who loads settings with the overrides of the
arguments and creates the scheme with them (`Arguments.create`), but takes the steps on its own: it
looks for a model before it generates, it tells of a generation that failed, and it writes the files
itself. For all that it comes to the same (`AgreesWith`): what is a result for one is exit code 0
for the other, an expected failure is exit code 1, any other failure is the same for both, and so
are the files.

What sets the command apart is that it shows what it does. The texts of its items come from outside,
from the names of a model or the path of a file that is missing, and the console may refuse one of
them. Then the command ends in that, which is no failure of a creation; and this is the only case in
which the two do not agree (`run_agreesWith_create_iff`).

The steps of both are taken side by side, from sessions that agree to sessions that agree
(`EndsAs`).
-/

namespace SchemaGen

namespace Failure

/-- The kinds of failures that are expected. -/
theorem mem_kinds_iff {f : Failure} :
    f.kind ∈ [.settings, .reading, .generation, .writing, .registry] ↔ f.isExpected = true := by
  rw [isExpected]
  cases f.kind <;> decide

/-- A failure that a generation carries is expected. -/
theorem isExpected_generation (e : GenerationError) : (generation e).isExpected = true := by
  cases e <;> rfl

end Failure

namespace Scheme

variable {session : Session} {g : Generation}

theorem complete_ne_unshown (s : Settings) (g : Generation) (session : Session)
    (e : Console.Refusal) : (session.perform (complete s g)).1 ≠ .error (.unshown e) := by
  intro h
  cases hg : g.outcome with
  | error e' =>
    rw [perform_complete_error session s hg] at h
    cases h
  | ok p =>
    rw [perform_complete_ok session s hg] at h
    rcases Destination.failsOnly_writeModules (separator_destination_ne_empty s) p.files session
      (.refl session) _ h with hkind | ⟨hnull, -⟩
    · cases hkind
    · cases hnull

/-- **A creation shows nothing**, so the console refuses nothing of it. -/
theorem create_ne_unshown [Perl.Memory] (o : Order) (session : Session) (e : Console.Refusal) :
    (session.perform (create o)).1 ≠ .error (.unshown e) := by
  intro h
  cases hgenerate : session.perform (generate o) with
  | mk result middle =>
    cases result with
    | error e' =>
      rw [perform_create_of_generate_error hgenerate] at h
      cases h
      exact (isInspecting_generate o).ne_unshown session e (congrArg Prod.fst hgenerate)
    | ok g =>
      obtain ⟨s, -, hcreate⟩ := perform_create_of_generate hgenerate
      rw [hcreate] at h
      exact complete_ne_unshown s g middle e h

end Scheme

namespace CommandLine

open Console (Item)

variable {a : Arguments} {s : Settings} {session other origin left : Session}

/-- What a caller of the library does for the same arguments. -/
def Arguments.create [Perl.Memory] {m : Type → Type} [Monad m] [Host m] (a : Arguments) :
    Run m (List Path) := do
  let s ← Settings.load a.config (.object a.overrides)
  Scheme.create (a.order s)

/-- The session in which arguments are carried out: it takes the records that they ask for. -/
def Arguments.started (a : Arguments) (session : Session) : Session :=
  { session with threshold := a.threshold }

theorem Arguments.agrees_started (a : Arguments) (session : Session) :
    (a.started session).Agrees session := ⟨rfl, rfl, rfl⟩

/-! ## Showing items -/

/-- A run shows items as its host does, and fails where that does not. -/
theorem perform_displayAll (items : List Item) (session : Session) :
    session.perform (displayAll items) =
      match (Host.displayAll items : StateM Session _).run session with
      | (.ok (), shown) => (.ok (), shown)
      | (.error e, shown) => (.error (.unshown e), shown) := by
  show session.perform (ExceptT.lift (Host.displayAll items) >>= _) = _
  rw [Session.perform_bind, Session.perform_lift]
  rcases (Host.displayAll items : StateM Session _).run session with ⟨_ | _, shown⟩ <;> rfl

/-- What the console makes of the first item decides on the others. -/
theorem perform_displayAll_cons (i : Item) (items : List Item) (session : Session) :
    session.perform (displayAll (i :: items)) =
      match session.draw i with
      | .ok () => Session.perform { session with console := session.console ++ [i] }
          (displayAll items)
      | .error e => (.error (.unshown e), session) := by
  have hhost : (Host.displayAll (i :: items) : StateM Session _).run session =
      match session.display i with
      | (.ok (), shown) => (Host.displayAll items : StateM Session _).run shown
      | (.error e, shown) => (.error e, shown) := by
    show ((match (session.display i).1 with
      | .ok () => Host.displayAll items
      | .error e => pure (.error e)) : StateM Session _).run (session.display i).2 = _
    rcases session.display i with ⟨_ | _, shown⟩ <;> rfl
  rw [perform_displayAll, hhost, Session.display]
  cases session.draw i with
  | ok _ => exact (perform_displayAll _ _).symm
  | error e => rfl

/-- Items in two parts are shown part by part. -/
theorem perform_displayAll_append (xs ys : List Item) (session : Session) :
    session.perform (displayAll (xs ++ ys))
      = session.perform (displayAll xs >>= fun _ => displayAll ys) := by
  induction xs generalizing session with
  | nil => rfl
  | cons i xs ih =>
    rw [List.cons_append, Session.perform_bind, perform_displayAll_cons, perform_displayAll_cons]
    cases session.draw i with
    | ok _ =>
      dsimp only
      rw [ih, Session.perform_bind]
    | error e => rfl

/-- **How it ends to show some items**: all of them are shown, or those in front of the first that
is refused. -/
inductive Showing (session : Session) (items : List Item) : Except Failure Unit × Session → Prop
  | all : Showing session items (.ok (), { session with console := session.console ++ items })
  | upTo (before after : List Item) (i : Item) (e : Console.Refusal)
    (items_eq : items = before ++ i :: after) (draw_eq : session.draw i = .error e) :
    Showing session items
      (.error (.unshown e), { session with console := session.console ++ before })

/-- An item in front is shown before the others. -/
theorem Showing.cons {i : Item} {items : List Item} {result : Except Failure Unit × Session}
    (h : Showing { session with console := session.console ++ [i] } items result) :
    Showing session (i :: items) result := by
  cases h with
  | all =>
    rw [List.append_assoc]
    exact .all
  | upTo before after j e items_eq draw_eq =>
    rw [List.append_assoc]
    exact .upTo (i :: before) after j e (congrArg (i :: ·) items_eq) draw_eq

theorem showing_displayAll (items : List Item) (session : Session) :
    Showing session items (session.perform (displayAll items)) := by
  induction items generalizing session with
  | nil =>
    have h : Showing session [] _ := .all
    rwa [List.append_nil] at h
  | cons i items ih =>
    rw [perform_displayAll_cons]
    cases hi : session.draw i with
    | ok _ => exact (ih _).cons
    | error e =>
      have h := Showing.upTo [] items i e rfl hi
      rwa [List.append_nil] at h

/-! ## Reporting failures -/

/-- **What becomes of a failure in the end**: an expected one is reported, if the console does not
refuse that, and any other goes on. -/
inductive Reporting (session : Session) (f : Failure) : Except Failure Nat × Session → Prop
  | reported {left : Session} (hf : f.isExpected = true) (agrees : left.Agrees session)
    (console_eq : left.console = session.console ++ [failureItem f]) :
    Reporting session f (.ok 1, left)
  | refused {left : Session} {e : Console.Refusal} (hf : f.isExpected = true)
    (draw_eq : session.draw (failureItem f) = .error e) (agrees : left.Agrees session)
    (console_eq : left.console = session.console) :
    Reporting session f (.error (.unshown e), left)
  | passed (hf : f.isExpected = false) : Reporting session f (.error f, session)

theorem reporting_report (f : Failure) (session : Session) :
    Reporting session f (session.perform (report f)) := by
  rw [report]
  split
  · next hf =>
    let noted := session.report ⟨.debug, .commandLine, "Run failed"⟩
    have hagrees : noted.Agrees session := session.agrees_report _
    have hconsole : noted.console = session.console :=
      (Run.IsInspecting.note .debug .commandLine "Run failed").console_eq session
    rw [Session.perform_bind, Session.perform_note]
    show Reporting session f (noted.perform (displayAll [failureItem f] >>= fun _ => pure 1))
    rw [Session.perform_bind, perform_displayAll_cons, hagrees.draw_eq]
    cases hdraw : session.draw (failureItem f) with
    | ok _ =>
      exact .reported hf ⟨hagrees.files_eq, hagrees.web_eq, rfl⟩
        (congrArg (· ++ [failureItem f]) hconsole)
    | error e => exact .refused hf hdraw hagrees hconsole
  · next hf => exact .passed (Bool.not_eq_true _ ▸ hf)

/-! ## What is told -/

section Telling

variable [Perl.Memory]

/-- **What arguments ask for is generated**, with the settings that they load. -/
structure Generates (a : Arguments) (session : Session) (s : Settings) (g : Generation) :
    Prop where
  load_eq : (session.perform (Settings.load a.config (.object a.overrides))).1 = .ok s
  generate_eq : (session.perform (Scheme.generate (a.order s))).1 = .ok g

/-- It is the same in surroundings that agree. -/
theorem Generates.of_agrees {g : Generation} (h : Generates a left s g)
    (hagrees : left.Agrees session) : Generates a session s g where
  load_eq := by
    rw [← (Settings.isInspecting_load _ _).isReading.isUniform.fst_eq hagrees, h.load_eq]
  generate_eq := by
    rw [← (Scheme.isInspecting_generate _).isReading.isUniform.fst_eq hagrees, h.generate_eq]

/-- **The items that tell what becomes of arguments**, given what a creation with them comes to. -/
inductive Tells (a : Arguments) (session : Session) (result : Except Failure (List Path)) :
    Item → Prop where
  /-- There is no model. -/
  | noInput (h : result = .error (.loading .noInput)) : Tells a session result noInputItem
  /-- The generation failed. -/
  | notGenerated {e : GenerationError} (h : result = .error (.generation e)) :
    Tells a session result (failedItem e)
  /-- The doubts about a generation, and its particulars. -/
  | generated {s : Settings} {g : Generation} {i : Item} (h : Generates a session s g)
    (hi : i ∈ generationItems a g) : Tells a session result i
  /-- The files were written. -/
  | written {s : Settings} {g : Generation} {p : Product} {paths : List Path} {i : Item}
    (h : Generates a session s g) (hp : g.outcome = .ok p) (hpaths : result = .ok paths)
    (hi : i ∈ writtenItems a p paths) : Tells a session result i
  /-- The run failed in another way that is expected. -/
  | failed {f : Failure} (h : result = .error f) (hf : f.isExpected = true) :
    Tells a session result (failureItem f)

theorem Arguments.create_ne_unshown (a : Arguments) (session : Session) (e : Console.Refusal) :
    (session.perform a.create).1 ≠ .error (.unshown e) := by
  intro h
  have hrun : session.perform a.create = (.error (.unshown e), (session.perform a.create).2) :=
    Prod.ext h rfl
  rcases Session.perform_bind_eq_error hrun with hload | ⟨s, left, -, hcreate⟩
  · exact (Settings.isInspecting_load _ _).ne_unshown session e (congrArg Prod.fst hload)
  · exact Scheme.create_ne_unshown _ left e (congrArg Prod.fst hcreate)

end Telling

/-! ## Ending alike -/

/-- **A command ends as a creation does**, in surroundings that agree, unless an item is refused
that the command shows for such a result (`T`). By then it has written nothing or all. -/
inductive EndsAs (T : Except Failure (List Path) → Item → Prop) (session : Session) :
    Except Failure Nat × Session → Except Failure (List Path) × Session → Prop
  | done {left right : Session} {paths : List Path} (h : left.Agrees right) :
    EndsAs T session (.ok 0, left) (.ok paths, right)
  | told {left right : Session} {f : Failure} (hf : f.isExpected = true) (h : left.Agrees right) :
    EndsAs T session (.ok 1, left) (.error f, right)
  | failed {left right : Session} {f : Failure} (h : left.Agrees right)
    (hdraw : left.draw = session.draw) : EndsAs T session (.error f, left) (.error f, right)
  | refused {left : Session} {creation : Except Failure (List Path) × Session} {i : Item}
    {e : Console.Refusal} (hi : T creation.1 i) (hdraw : session.draw i = .error e)
    (hfiles : left.files = session.files ∨ left.files = creation.2.files) :
    EndsAs T session (.error (.unshown e), left) creation

namespace EndsAs

variable {T : Except Failure (List Path) → Item → Prop} {α : Type}
  {command : Except Failure Nat × Session} {creation : Except Failure (List Path) × Session}

/-- It is the same for surroundings that agree. -/
theorem of_agrees (h : EndsAs T left command creation) (hagrees : left.Agrees session) :
    EndsAs T session command creation := by
  cases h with
  | done h => exact .done h
  | told hf h => exact .told hf h
  | failed h hdraw => exact .failed h (hdraw.trans hagrees.draw_eq)
  | refused hi hdraw hfiles =>
    exact .refused hi (hagrees.draw_eq ▸ hdraw) (hagrees.files_eq ▸ hfiles)

/-- **A step that both take** and that only reads leads to the same result, or to the same failure,
in surroundings that agree. -/
theorem bind {y : Run (StateM Session) α} (hy : Run.IsReading y)
    {f : α → Run (StateM Session) Nat} {g : α → Run (StateM Session) (List Path)}
    (h : session.Agrees other)
    (hf : ∀ (r : α) (left right : Session), other.perform y = (.ok r, right) → left.Agrees right →
      right.Agrees other → EndsAs T left (left.perform (f r)) (right.perform (g r))) :
    EndsAs T session (session.perform (y >>= f)) (other.perform (y >>= g)) := by
  obtain ⟨result, left, right, hrun, hrun', hagrees, hdraw⟩ := hy.isUniform.exists_perform h
  have hleft := hy.agrees session
  have hright := hy.agrees other
  rw [hrun] at hleft
  rw [hrun'] at hright
  rw [Session.perform_bind, Session.perform_bind, hrun, hrun']
  cases result with
  | error e => exact .failed hagrees hdraw
  | ok r => exact (hf r left right hrun' hagrees hright).of_agrees hleft

/-- **Items that the command shows on its way** make no difference, unless one is refused. -/
theorem shown {x : Run (StateM Session) Nat} (items : List Item)
    (hitems : ∀ i ∈ items, T creation.1 i)
    (hx : ∀ shown : Session, shown.Agrees session → EndsAs T shown (shown.perform x) creation) :
    EndsAs T session (session.perform (displayAll items >>= fun _ => x)) creation := by
  have hshowing := showing_displayAll items session
  rw [Session.perform_bind]
  generalize session.perform (displayAll items) = result at hshowing ⊢
  cases hshowing with
  | all =>
    have hagrees : Session.Agrees { session with console := session.console ++ items } session :=
      ⟨rfl, rfl, rfl⟩
    exact (hx _ hagrees).of_agrees hagrees
  | upTo before after i e items_eq draw_eq =>
    exact .refused (hitems i (by simp [items_eq])) draw_eq (.inl rfl)

/-- **A last step of a creation** that the command takes too, and tells of. -/
theorem last {y : Run (StateM Session) (List Path)} (hy : Run.IsUniform y)
    (items : List Path → List Item) (h : session.Agrees other)
    (hitems : ∀ paths, (other.perform y).1 = .ok paths → ∀ i ∈ items paths, T (.ok paths) i) :
    EndsAs T session
      (session.perform (y >>= fun paths => displayAll (items paths) >>= fun _ => pure 0))
      (other.perform y) := by
  obtain ⟨result, left, right, hrun, hrun', hagrees, hdraw⟩ := hy.exists_perform h
  rw [Session.perform_bind, hrun, hrun']
  cases result with
  | error e => exact .failed hagrees hdraw
  | ok paths =>
    have hshowing := showing_displayAll (items paths) left
    dsimp only
    rw [Session.perform_bind]
    generalize left.perform (displayAll (items paths)) = shown at hshowing ⊢
    cases hshowing with
    | all => exact .done ⟨hagrees.files_eq, hagrees.web_eq, hagrees.draw_eq⟩
    | upTo before after i e items_eq draw_eq =>
      have hi : T (.ok paths) i := hitems paths (congrArg Prod.fst hrun') i (by simp [items_eq])
      have hdraw : session.draw i = .error e := (congrFun hdraw i).symm.trans draw_eq
      exact .refused hi hdraw (.inr hagrees.files_eq)

end EndsAs

/-! ## The agreement -/

/-- **A command agrees with a creation**: it ends with exit code 0 just if that has a result, with
exit code 1 just if that ends in an expected failure, and in any other failure just if that does;
and it leaves the same files. -/
structure AgreesWith (command : Except Failure Ending × Session)
    (creation : Except Failure (List Path) × Session) : Prop where
  exit_zero_iff : command.1 = .ok (.exit 0) ↔ ∃ paths, creation.1 = .ok paths
  exit_one_iff : command.1 = .ok (.exit 1) ↔
    ∃ f, creation.1 = .error f ∧
      f.kind ∈ [.settings, .reading, .generation, .writing, .registry]
  error_iff (f : Failure) : command.1 = .error f ↔
    creation.1 = .error f ∧ f.kind ∉ [.settings, .reading, .generation, .writing, .registry]
  files_eq : command.2.files = creation.2.files

/-- A command that ends as a creation, with nothing refused and expected failures reported, agrees
with it. -/
theorem EndsAs.agreesWith {T : Except Failure (List Path) → Item → Prop}
    {command : Except Failure Nat × Session} {creation : Except Failure (List Path) × Session}
    (h : EndsAs T session command creation)
    (hexpected : ∀ f, command.1 = .error f → f.isExpected = false)
    (hshown : ∀ e, command.1 ≠ .error (.unshown e)) :
    AgreesWith (command.1.map Ending.exit, command.2) creation := by
  cases h with
  | @done left right paths hagrees =>
    exact {
      exit_zero_iff := iff_of_true rfl ⟨paths, rfl⟩
      exit_one_iff := iff_of_false nofun nofun
      error_iff := fun f => iff_of_false nofun nofun
      files_eq := hagrees.files_eq }
  | @told left right f hf hagrees =>
    have hkind := Failure.mem_kinds_iff.2 hf
    refine ⟨iff_of_false nofun nofun, iff_of_true rfl ⟨f, rfl, hkind⟩, fun f' => ?_,
      hagrees.files_eq⟩
    refine iff_of_false nofun ?_
    rintro ⟨⟨⟩, hkind'⟩
    exact hkind' hkind
  | @failed left right f hagrees =>
    have hkind : f.kind ∉ [.settings, .reading, .generation, .writing, .registry] := by
      rw [Failure.mem_kinds_iff, hexpected f rfl]
      exact Bool.false_ne_true
    refine ⟨iff_of_false nofun nofun, iff_of_false nofun ?_, fun f' => ⟨?_, ?_⟩, hagrees.files_eq⟩
    · rintro ⟨f', ⟨⟩, hkind'⟩
      exact hkind hkind'
    · rintro ⟨⟩
      exact ⟨rfl, hkind⟩
    · rintro ⟨⟨⟩, -⟩
      rfl
  | refused => exact absurd rfl (hshown _)

/-! ## Without a model -/

/-- A path that counts as not given is none. -/
theorem given?_text?_eq_none {v : Value} (h : v.isGiven = false) :
    Model.given? v.text? = none := by
  cases v with
  | text path => exact if_pos (by simpa [Value.isGiven] using h)
  | _ => rfl

/-- Where neither settings nor arguments name a model, none is loaded. -/
theorem perform_load_of_not_hasInput (h : hasInput a s = false) (session : Session) :
    ∃ failed : Session, session.perform (Model.load (Scheme.modelPath none a.url s) a.url 30)
      = (.error (.loading .noInput), failed) ∧ failed.Agrees session := by
  obtain ⟨hfile, hurl⟩ := Bool.or_eq_false_iff.1 h
  have hurl : Model.given? a.url = none := by simpa using hurl
  have hpath : Model.given? (Scheme.modelPath none a.url s) = none := by
    rw [Scheme.modelPath]
    split
    · exact given?_text?_eq_none hfile
    · rfl
  rw [Model.load, hpath, hurl]
  exact ⟨_, rfl, Session.agrees_report session _⟩

section Steps

variable [Perl.Memory]

/-- **A creation without a model fails**, and a command without one tells so. -/
theorem endsAs_of_not_hasInput (hs : s.IsChecked) (hinput : hasInput a s = false)
    (h : session.Agrees other) :
    EndsAs (Tells a origin) session
      (session.perform (displayAll [noInputItem] >>= fun _ => pure 1))
      (other.perform (Scheme.create (a.order s))) := by
  obtain ⟨failed, hload, hagrees⟩ := perform_load_of_not_hasInput hinput other
  have hgenerate : other.perform (Scheme.generate (a.order s))
      = (.error (.loading .noInput), failed) := by
    rw [Scheme.perform_generate_of_isChecked (o := a.order s) other rfl hs]
    show other.perform (Model.load (Scheme.modelPath none a.url s) a.url 30 >>= _) = _
    rw [Session.perform_bind, hload]
  rw [Scheme.perform_create_of_generate_error hgenerate]
  refine .shown _ (fun i hi => ?_) fun shown hshown =>
    .told rfl ((hshown.trans h).trans hagrees.symm)
  obtain rfl := List.mem_singleton.1 hi
  exact .noInput rfl

/-! ## With a model -/

/-- **Generating and writing ends as creating the scheme.** -/
theorem endsAs_generate (hs : s.IsChecked) (hdry : a.dryRun = false)
    (hload : (origin.perform (Settings.load a.config (.object a.overrides))).1 = .ok s)
    (h : session.Agrees other) (horigin : other.Agrees origin) :
    EndsAs (Tells a origin) session (session.perform (generate a s))
      (other.perform (Scheme.create (a.order s))) := by
  have hreading := (Scheme.isInspecting_generate (a.order s)).isReading
  rw [Scheme.perform_create_of_isChecked (o := a.order s) rfl hs, generate]
  refine .bind hreading h fun g left right hrun h _ => ?_
  have hgenerates : Generates a origin s g :=
    ⟨hload, by rw [← hreading.isUniform.fst_eq horigin, hrun]⟩
  cases hg : g.outcome with
  | error e =>
    rw [Scheme.perform_complete_error right s hg]
    refine .shown _ (fun i hi => ?_) fun shown hshown =>
      .told (Failure.isExpected_generation e) (hshown.trans h)
    obtain rfl := List.mem_singleton.1 hi
    exact .notGenerated rfl
  | ok p =>
    rw [Scheme.perform_complete_ok right s hg]
    refine .shown _ (fun i hi => .generated hgenerates hi) fun shown hshown => ?_
    rw [hdry]
    exact .last (Destination.isUniform_writeModules _ _) _ (hshown.trans h) fun paths _ i hi =>
      .written hgenerates hg rfl hi

/-! ## The whole command -/

/-- **A command ends as a creation with the settings of its arguments**, before a failure is
reported. -/
theorem endsAs_perform (hdry : a.dryRun = false) (hlist : a.listTargets = false)
    (h : session.Agrees other) :
    EndsAs (Tells a other) session (session.perform (perform a)) (other.perform a.create) := by
  rw [perform, hlist, Arguments.create]
  refine .bind (Settings.isInspecting_load _ _).isReading h fun s left right hload h horigin => ?_
  have hs := Settings.isChecked_of_load hload
  split
  · exact endsAs_generate hs hdry (congrArg Prod.fst hload) h horigin
  · next hinput => exact endsAs_of_not_hasInput hs (Bool.not_eq_true _ ▸ hinput) h

/-- To carry arguments out is to do what they ask for, and to report a failure of that. -/
theorem perform_carryOut (a : Arguments) (session : Session) :
    session.perform (carryOut a) =
      match (a.started session).perform (perform a) with
      | (.ok code, left) => (.ok code, left)
      | (.error f, left) => left.perform (report f) := by
  show (a.started session).perform (tryCatch (perform a) report) = _
  rw [Session.perform_tryCatch]
  cases (a.started session).perform (perform a) with
  | mk result left => cases result <;> rfl

/-- Carrying arguments out ends in no failure that is expected. -/
theorem isExpected_of_carryOut_error {f : Failure}
    (h : (session.perform (carryOut a)).1 = .error f) : f.isExpected = false := by
  rw [perform_carryOut] at h
  split at h
  · cases h
  · next f' left _ =>
    have hreporting := reporting_report f' left
    cases hreport : left.perform (report f') with
    | mk result _ =>
      rw [hreport] at h hreporting
      cases h
      cases hreporting with
      | refused => rfl
      | passed hf => exact hf

/-- **A command ends as a creation with the settings of its arguments.** -/
theorem endsAs_carryOut (hdry : a.dryRun = false) (hlist : a.listTargets = false)
    (session : Session) :
    EndsAs (Tells a session) session (session.perform (carryOut a))
      (session.perform a.create) := by
  have hends := endsAs_perform hdry hlist (a.agrees_started session)
  rw [perform_carryOut]
  generalize (a.started session).perform (perform a) = command at hends ⊢
  generalize session.perform a.create = creation at hends ⊢
  cases hends with
  | done h => exact .done h
  | told hf h => exact .told hf h
  | refused hi hdraw hfiles => exact .refused hi hdraw hfiles
  | @failed left right f h hleft =>
    dsimp only
    have hreporting := reporting_report f left
    generalize left.perform (report f) = reported at hreporting ⊢
    cases hreporting with
    | reported hf agrees => exact .told hf (agrees.trans h)
    | refused hf draw_eq agrees =>
      exact .refused (.failed rfl hf) (hleft ▸ draw_eq) (.inr (agrees.trans h).files_eq)
    | passed => exact .failed h hleft

/-- What a run of the command gives for arguments that were read. -/
theorem perform_run {line : List String} (hread : Arguments.read line = .ok a)
    (session : Session) :
    session.perform (run line) =
      ((session.perform (carryOut a)).1.map Ending.exit, (session.perform (carryOut a)).2) := by
  rw [run, hread]
  show session.perform (carryOut a >>= fun code => pure (Ending.exit code)) = _
  rw [Session.perform_bind]
  cases session.perform (carryOut a) with
  | mk result left => cases result <;> rfl

/-- **The command agrees with the library just if nothing that it shows is refused.** If an item is
refused, it is one that tells what becomes of the arguments, and the command has left the files as
they were or as a creation leaves them. -/
theorem run_agreesWith_create_iff {line : List String} (hread : Arguments.read line = .ok a)
    (hdry : a.dryRun = false) (hlist : a.listTargets = false) (session : Session) :
    (AgreesWith (session.perform (run line)) (session.perform a.create) ↔
      ∀ e, (session.perform (run line)).1 ≠ .error (.unshown e)) ∧
    ∀ e, (session.perform (run line)).1 = .error (.unshown e) →
      ∃ i, Tells a session (session.perform a.create).1 i ∧ session.draw i = .error e ∧
        ((session.perform (run line)).2.files = session.files ∨
          (session.perform (run line)).2.files = (session.perform a.create).2.files) := by
  have hends := endsAs_carryOut hdry hlist session
  have hcreate := a.create_ne_unshown session
  have hrefused : ∀ e, (session.perform (run line)).1 = .error (.unshown e) ↔
      (session.perform (carryOut a)).1 = .error (.unshown e) := by
    intro e
    rw [perform_run hread]
    cases (session.perform (carryOut a)).1 <;> simp [Except.map]
  refine ⟨⟨fun h e he => hcreate e ((h.error_iff _).1 he).1, fun h => ?_⟩, fun e he => ?_⟩
  · rw [perform_run hread]
    exact hends.agreesWith (fun f => isExpected_of_carryOut_error) fun e he =>
      h e ((hrefused e).2 he)
  · have he := (hrefused e).1 he
    rw [perform_run hread]
    generalize session.perform (carryOut a) = command at hends he ⊢
    generalize session.perform a.create = creation at hends hcreate ⊢
    cases hends with
    | done => cases he
    | told => cases he
    | failed =>
      cases he
      exact absurd rfl (hcreate e)
    | refused hi hdraw hfiles =>
      cases he
      exact ⟨_, hi, hdraw, hfiles⟩

end Steps

/-- The command agrees with the library on the sample and where its model is missing, since the
console refuses nothing: it ends with exit code 0 and with exit code 1. -/
theorem run_agreesWith_create_sample :
    Arguments.read ["model.xml"] = .ok { file := some "model.xml" } ∧
      (Scheme.sampleSession.perform (run ["model.xml"])).1 = .ok (.exit 0) ∧
      AgreesWith (Scheme.sampleSession.perform (run ["model.xml"]))
        (Scheme.sampleSession.perform (Arguments.create { file := some "model.xml" })) ∧
      (Session.perform {} (run ["model.xml"])).1 = .ok (.exit 1) ∧
      AgreesWith (Session.perform {} (run ["model.xml"]))
        (Session.perform {} (Arguments.create { file := some "model.xml" })) := by
  have hread : Arguments.read ["model.xml"] = .ok { file := some "model.xml" } := by
    decide +kernel
  have hsample : (Scheme.sampleSession.perform (run ["model.xml"])).1 = .ok (.exit 0) := by
    have hcode : (Scheme.sampleSession.perform (run ["model.xml"])).1.toOption
        = some (.exit 0) := by
      decide +kernel
    exact toOption_eq_some_iff.1 hcode
  have hmissing : (Session.perform {} (run ["model.xml"])).1 = .ok (.exit 1) := by
    have hcode : (Session.perform {} (run ["model.xml"])).1.toOption = some (.exit 1) := by
      decide +kernel
    exact toOption_eq_some_iff.1 hcode
  refine ⟨hread, hsample, ?_, hmissing, ?_⟩
  · refine (run_agreesWith_create_iff hread rfl rfl _).1.2 fun e he => ?_
    cases hsample.symm.trans he
  · refine (run_agreesWith_create_iff hread rfl rfl _).1.2 fun e he => ?_
    cases hmissing.symm.trans he

/-- A session without files, with a console that takes the tag of one line for the end of a part
that does not begin. -/
def strictSession : Session where
  draw i :=
    if i = .line "[red]✗ Error:[/red] File not found: [/x].xml" then
      .error ⟨"closing tag '[/x]' at position 36 doesn't match any open tag"⟩
    else .ok ()

/-- **The command does not agree with the library in all sessions**: where the name of the missing
file is refused, it ends in that and without an exit code, and a creation in an expected failure. -/
theorem not_agreesWith_create_of_refused :
    Arguments.read ["[/x].xml"] = .ok { file := some "[/x].xml" } ∧
      (strictSession.perform (run ["[/x].xml"])).1
        = .error (.unshown ⟨"closing tag '[/x]' at position 36 doesn't match any open tag"⟩) ∧
      (strictSession.perform (Arguments.create { file := some "[/x].xml" })).1
        = .error (.loading (.fileNotFound (Path.ofString "[/x].xml"))) ∧
      ¬ AgreesWith (strictSession.perform (run ["[/x].xml"]))
        (strictSession.perform (Arguments.create { file := some "[/x].xml" })) := by
  have hread : Arguments.read ["[/x].xml"] = .ok { file := some "[/x].xml" } := by
    decide +kernel
  have hcommand : (strictSession.perform (run ["[/x].xml"])).1
      = .error (.unshown ⟨"closing tag '[/x]' at position 36 doesn't match any open tag"⟩) := by
    rw [perform_run hread]
    rfl
  have hcreate : (strictSession.perform (Arguments.create { file := some "[/x].xml" })).1
      = .error (.loading (.fileNotFound (Path.ofString "[/x].xml"))) := rfl
  refine ⟨hread, hcommand, hcreate, fun h => ?_⟩
  cases hcreate.symm.trans ((h.error_iff _).1 hcommand).1

end CommandLine

end SchemaGen
