import SchemaGen.Host.Session
import SchemaGen.Proofs.Outcome

/-!
# Runs and their surroundings

Of a session only the files, the web and what the console refuses can make a difference to a run;
what was asked, reported and shown so far, and what is taken of it, cannot. Sessions that agree on
the first three (`Session.Agrees`) are told apart by no run: it ends in the same way on both, and
leaves sessions that agree again, with the console as it was (`Run.IsUniform`). Most parts of a run
write nothing at all, so that the session they leave agrees with the one they met
(`Run.IsReading`).

Both notions pass from the steps of a run to the whole (`Run.IsUniform.bind`, `Run.IsReading.bind`),
and so does what a run may fail with, given its surroundings (`Session.FailsOnly`). A run that is
made of looks at the surroundings and of records alone (`Run.IsInspecting`) reads, and shows
nothing, so that the console has nothing to refuse.
-/

namespace SchemaGen

variable {α β ε : Type}

/-! ## Runs in steps -/

theorem Session.perform_bind_eq_ok {s s' : Session} {x : Run (StateM Session) α}
    {f : α → Run (StateM Session) β} {b : β} (h : s.perform (x >>= f) = (.ok b, s')) :
    ∃ a s₁, s.perform x = (.ok a, s₁) ∧ s₁.perform (f a) = (.ok b, s') := by
  rw [Session.perform_bind] at h
  split at h
  · next a s₁ hx => exact ⟨a, s₁, hx, h⟩
  · cases h

/-- A run fails in its first part or after it. -/
theorem Session.perform_bind_eq_error {s s' : Session} {x : Run (StateM Session) α}
    {f : α → Run (StateM Session) β} {e : Failure} (h : s.perform (x >>= f) = (.error e, s')) :
    s.perform x = (.error e, s') ∨
      ∃ a s₁, s.perform x = (.ok a, s₁) ∧ s₁.perform (f a) = (.error e, s') := by
  rw [Session.perform_bind] at h
  split at h
  · next a s₁ hx => exact .inr ⟨a, s₁, hx, h⟩
  · next hx =>
    cases h
    exact .inl hx

/-- What fails in its first part fails as a whole. -/
theorem Session.perform_bind_of_error {s : Session} {x : Run (StateM Session) α} {e : Failure}
    (h : (s.perform x).1 = .error e) (f : α → Run (StateM Session) β) :
    (s.perform (x >>= f)).1 = .error e := by
  rw [perform_bind]
  cases hx : s.perform x with
  | mk result s' =>
    rw [hx] at h
    obtain rfl : result = .error e := h
    rfl

theorem Session.perform_ofExcept_eq_ok {s s' : Session} {toFailure : ε → Failure}
    {x : Except ε α} {a : α} (h : s.perform (Run.ofExcept toFailure x) = (.ok a, s')) :
    x = .ok a ∧ s = s' := by
  rw [Session.perform_ofExcept] at h
  obtain ⟨hx, hs⟩ := Prod.mk.inj h
  exact ⟨mapError_eq_ok_iff.1 hx, hs⟩

/-- A step outside of a run does not fail it. -/
theorem Session.perform_lift (s : Session) (y : StateM Session α) :
    s.perform (ExceptT.lift y) = (.ok (y.run s).1, (y.run s).2) := rfl

/-- A failure that is caught leaves its session to what is done about it. -/
theorem Session.perform_tryCatch (s : Session) (x : Run (StateM Session) α)
    (handle : Failure → Run (StateM Session) α) :
    s.perform (tryCatch x handle) =
      match s.perform x with
      | (.ok a, s') => (.ok a, s')
      | (.error e, s') => s'.perform (handle e) := by
  show StateT.run (ExceptT.run (tryCatch x handle)) s = _
  rw [ExceptT.run_tryCatch, StateT.run_bind]
  unfold perform
  show (match StateT.run (ExceptT.run x) s with | (r, s') => _) = _
  cases StateT.run (ExceptT.run x) s with
  | mk r s' => cases r <;> rfl

namespace Session

/-- **Sessions with the same surroundings.** -/
structure Agrees (s t : Session) : Prop where
  files_eq : s.files = t.files
  web_eq : s.web = t.web
  draw_eq : s.draw = t.draw

namespace Agrees

variable {s t u : Session}

theorem refl (s : Session) : s.Agrees s := ⟨rfl, rfl, rfl⟩

theorem symm (h : s.Agrees t) : t.Agrees s := ⟨h.files_eq.symm, h.web_eq.symm, h.draw_eq.symm⟩

theorem trans (h : s.Agrees t) (h' : t.Agrees u) : s.Agrees u :=
  ⟨h.files_eq.trans h'.files_eq, h.web_eq.trans h'.web_eq, h.draw_eq.trans h'.draw_eq⟩

end Agrees

/-! ## Steps -/

/-- **A step that depends on its surroundings alone**: on sessions that agree it has the same
result, and leaves sessions that agree. What the console refuses is not up to it. -/
structure IsUniform (x : StateM Session α) : Prop where
  alike : ∀ ⦃s t : Session⦄, s.Agrees t →
    (x.run s).1 = (x.run t).1 ∧ (x.run s).2.Agrees (x.run t).2
  draw_eq : ∀ s, (x.run s).2.draw = s.draw

/-- **A step that reads its surroundings and leaves them as they are.** -/
structure IsReading (x : StateM Session α) : Prop where
  isUniform : IsUniform x
  agrees : ∀ s, (x.run s).2.Agrees s

theorem IsUniform.bind {x : StateM Session α} {f : α → StateM Session β} (hx : IsUniform x)
    (hf : ∀ a, IsUniform (f a)) : IsUniform (x >>= f) where
  alike s t h := by
    obtain ⟨hresult, hagrees⟩ := hx.alike h
    show ((f (x.run s).1).run (x.run s).2).1 = ((f (x.run t).1).run (x.run t).2).1 ∧
      ((f (x.run s).1).run (x.run s).2).2.Agrees ((f (x.run t).1).run (x.run t).2).2
    rw [hresult]
    exact (hf _).alike hagrees
  draw_eq s := ((hf (x.run s).1).draw_eq (x.run s).2).trans (hx.draw_eq s)

theorem IsReading.bind {x : StateM Session α} {f : α → StateM Session β} (hx : IsReading x)
    (hf : ∀ a, IsReading (f a)) : IsReading (x >>= f) where
  isUniform := hx.isUniform.bind fun a => (hf a).isUniform
  agrees s := ((hf (x.run s).1).agrees (x.run s).2).trans (hx.agrees s)

/-- A step reads at most its surroundings if they settle its result and it leaves them. -/
theorem isReading_of_run_eq {x : StateM Session α} {result : Session → α}
    {rest : Session → Session} (hrun : ∀ s, x.run s = (result s, rest s))
    (hresult : ∀ ⦃s t⦄, s.Agrees t → result s = result t) (hrest : ∀ s, (rest s).Agrees s) :
    IsReading x where
  isUniform.alike s t h := by
    rw [hrun, hrun]
    exact ⟨hresult h, (hrest s).trans (h.trans (hrest t).symm)⟩
  isUniform.draw_eq s := by
    rw [hrun]
    exact (hrest s).draw_eq
  agrees s := by
    rw [hrun]
    exact hrest s

theorem IsReading.pure (a : α) : IsReading (Pure.pure a) :=
  isReading_of_run_eq (fun _ => rfl) (fun _ _ _ => rfl) Agrees.refl

/-! ## The operations of a host -/

theorem agrees_report (s : Session) (e : Log.Entry) : (s.report e).Agrees s := by
  unfold report
  split <;> exact ⟨rfl, rfl, rfl⟩

theorem isReading_report (e : Log.Entry) : IsReading (Host.report e) :=
  isReading_of_run_eq (fun _ => rfl) (fun _ _ _ => rfl) (agrees_report · e)

theorem isReading_status (p : Path) : IsReading (Host.status p) :=
  isReading_of_run_eq (fun _ => rfl) (fun _ _ h => by rw [h.files_eq]) Agrees.refl

theorem isReading_readFile (p : Path) : IsReading (Host.readFile p) :=
  isReading_of_run_eq (fun _ => rfl) (fun _ _ h => by rw [h.files_eq]) Agrees.refl

theorem isReading_fetch (r : Web.Request) : IsReading (Host.fetch r) :=
  isReading_of_run_eq (fun _ => rfl) (fun _ _ h => by rw [h.web_eq]) fun _ => ⟨rfl, rfl, rfl⟩

/-- What becomes of the files depends on the files alone. -/
theorem isUniform_putFiles {x : StateM Session (Except Files.Cause Unit)}
    (change : Files.Tree → Except Files.Cause Files.Tree)
    (hrun : ∀ s, x.run s = s.putFiles (change s.files)) : IsUniform x where
  alike s t h := by
    rw [hrun, hrun, h.files_eq]
    cases change t.files with
    | error e => exact ⟨rfl, h⟩
    | ok files => exact ⟨rfl, rfl, h.web_eq, h.draw_eq⟩
  draw_eq s := by
    rw [hrun]
    cases change s.files <;> rfl

theorem isUniform_writeFile (p : Path) (content : List UInt8) :
    IsUniform (Host.writeFile p content) :=
  isUniform_putFiles (·.write p content) fun _ => rfl

theorem isUniform_makeDirectory (p : Path) : IsUniform (Host.makeDirectory p) :=
  isUniform_putFiles (·.makeDirectory p) fun _ => rfl

end Session

/-! ## Runs -/

namespace Run

variable {x : Run (StateM Session) α} {f : α → Run (StateM Session) β}

/-- **A run that depends on its surroundings alone**, in how it ends and in what it leaves. -/
def IsUniform (x : Run (StateM Session) α) : Prop := Session.IsUniform (ExceptT.run x)

/-- **A run that reads its surroundings and leaves them as they are**, also where it fails. -/
def IsReading (x : Run (StateM Session) α) : Prop := Session.IsReading (ExceptT.run x)

theorem IsReading.isUniform (h : IsReading x) : IsUniform x := Session.IsReading.isUniform h

theorem IsReading.agrees (h : IsReading x) (s : Session) : (s.perform x).2.Agrees s :=
  Session.IsReading.agrees h s

theorem IsUniform.fst_eq (h : IsUniform x) {s t : Session} (hst : s.Agrees t) :
    (s.perform x).1 = (t.perform x).1 := (Session.IsUniform.alike h hst).1

theorem IsUniform.agrees (h : IsUniform x) {s t : Session} (hst : s.Agrees t) :
    (s.perform x).2.Agrees (t.perform x).2 := (Session.IsUniform.alike h hst).2

theorem IsUniform.draw_eq (h : IsUniform x) (s : Session) : (s.perform x).2.draw = s.draw :=
  Session.IsUniform.draw_eq h s

/-- On sessions that agree a run ends in one result, and leaves two sessions that agree. -/
theorem IsUniform.exists_perform (h : IsUniform x) {s t : Session} (hst : s.Agrees t) :
    ∃ (result : Except Failure α) (s' t' : Session), s.perform x = (result, s') ∧
      t.perform x = (result, t') ∧ s'.Agrees t' ∧ s'.draw = s.draw :=
  ⟨(s.perform x).1, (s.perform x).2, (t.perform x).2, rfl, Prod.ext (h.fst_eq hst).symm rfl,
    h.agrees hst, h.draw_eq s⟩

theorem IsReading.pure (a : α) : IsReading (Pure.pure a) := Session.IsReading.pure _

theorem IsReading.throw (e : Failure) : IsReading (throw e : Run (StateM Session) α) :=
  Session.IsReading.pure _

theorem IsReading.ofExcept (toFailure : ε → Failure) (y : Except ε α) :
    IsReading (Run.ofExcept toFailure y) := Session.IsReading.pure _

theorem IsReading.bind (hx : IsReading x) (hf : ∀ a, IsReading (f a)) : IsReading (x >>= f) := by
  show Session.IsReading (ExceptT.run (x >>= f))
  rw [ExceptT.run_bind]
  refine Session.IsReading.bind hx fun r => ?_
  cases r with
  | ok a => exact hf a
  | error e => exact .pure _

/-- What follows a run that reads meets the surroundings that the run met. -/
theorem IsReading.perform_bind (hx : IsReading x) {s : Session} {a : α}
    (h : (s.perform x).1 = .ok a) (f : α → Run (StateM Session) β) :
    ∃ left : Session, left.Agrees s ∧ s.perform (x >>= f) = left.perform (f a) := by
  refine ⟨(s.perform x).2, hx.agrees s, ?_⟩
  rw [Session.perform_bind]
  cases hrun : s.perform x with
  | mk result s' =>
    rw [hrun] at h
    obtain rfl : result = .ok a := h
    rfl

theorem IsUniform.bind (hx : IsUniform x) (hf : ∀ a, IsUniform (f a)) : IsUniform (x >>= f) := by
  show Session.IsUniform (ExceptT.run (x >>= f))
  rw [ExceptT.run_bind]
  refine Session.IsUniform.bind hx fun r => ?_
  cases r with
  | ok a => exact hf a
  | error e => exact (Session.IsReading.pure _).isUniform

/-- A step that is taken only in one case, before the run goes on. -/
theorem IsUniform.ite {c : Prop} [Decidable c] {f : Unit → Run (StateM Session) β}
    {x : Run (StateM Session) Unit} (hx : IsUniform x) (hf : ∀ u, IsUniform (f u)) :
    IsUniform (if c then x >>= f else f ()) := by
  split
  · exact hx.bind hf
  · exact hf ()

theorem IsReading.lift {y : StateM Session α} (h : Session.IsReading y) :
    IsReading (ExceptT.lift y) := by
  show Session.IsReading (y >>= fun a => Pure.pure (Except.ok a))
  exact h.bind fun a => .pure _

theorem IsUniform.lift {y : StateM Session α} (h : Session.IsUniform y) :
    IsUniform (ExceptT.lift y) := by
  show Session.IsUniform (y >>= fun a => pure (Except.ok a))
  exact h.bind fun a => (Session.IsReading.pure _).isUniform

theorem IsReading.note (level : Log.Level) (source : Log.Source) (message : String) :
    IsReading (Run.note level source message) :=
  .lift (Session.isReading_report _)

end Run

/-! ## Inspection -/

namespace Session

/-- **A step that looks at its surroundings and reports**, in any number of steps. -/
inductive IsInspecting : {α : Type} → StateM Session α → Prop
  | pure {α : Type} (a : α) : IsInspecting (Pure.pure a)
  | bind {α β : Type} {x : StateM Session α} {f : α → StateM Session β} (hx : IsInspecting x)
    (hf : ∀ a, IsInspecting (f a)) : IsInspecting (x >>= f)
  | report (e : Log.Entry) : IsInspecting (Host.report e)
  | status (p : Path) : IsInspecting (Host.status p)
  | readFile (p : Path) : IsInspecting (Host.readFile p)
  | fetch (r : Web.Request) : IsInspecting (Host.fetch r)

theorem IsInspecting.isReading {x : StateM Session α} (h : IsInspecting x) : IsReading x := by
  induction h with
  | pure a => exact .pure a
  | bind _ _ ihx ihf => exact ihx.bind ihf
  | report e => exact isReading_report e
  | status p => exact isReading_status p
  | readFile p => exact isReading_readFile p
  | fetch r => exact isReading_fetch r

/-- What is inspected is not shown. -/
theorem IsInspecting.console_eq {x : StateM Session α} (h : IsInspecting x) (s : Session) :
    (x.run s).2.console = s.console := by
  induction h generalizing s with
  | pure a => rfl
  | @bind α β x f _ _ ihx ihf => exact (ihf (x.run s).1 (x.run s).2).trans (ihx s)
  | report e =>
    show (s.report e).console = s.console
    unfold Session.report
    split <;> rfl
  | _ => rfl

theorem isInspecting_noteAll (es : List Log.Entry) : IsInspecting (Host.noteAll es) := by
  induction es with
  | nil => exact .pure ()
  | cons e es ih => exact (IsInspecting.report e).bind fun _ => ih

end Session

namespace Run

/-- **A run that looks at its surroundings and reports**, and ends in a result or in a failure that
is not of the console. -/
structure IsInspecting (x : Run (StateM Session) α) : Prop where
  steps : Session.IsInspecting (ExceptT.run x)
  ne_unshown : ∀ (s : Session) (e : Console.Refusal), (s.perform x).1 ≠ .error (.unshown e)

namespace IsInspecting

variable {x : Run (StateM Session) α} {f : α → Run (StateM Session) β}

/-- It leaves its surroundings as they are, -/
theorem isReading (h : IsInspecting x) : IsReading x := Session.IsInspecting.isReading h.steps

/-- and the console. -/
theorem console_eq (h : IsInspecting x) (s : Session) : (s.perform x).2.console = s.console :=
  Session.IsInspecting.console_eq h.steps s

theorem pure (a : α) : IsInspecting (Pure.pure a) := ⟨Session.IsInspecting.pure _, nofun⟩

theorem throw (e : Failure) (he : ∀ r, e ≠ .unshown r := by nofun) :
    IsInspecting (throw e : Run (StateM Session) α) :=
  ⟨Session.IsInspecting.pure _, fun _ r h => he r (Except.error.inj h)⟩

theorem ofExcept (toFailure : ε → Failure) (y : Except ε α)
    (he : ∀ e r, toFailure e ≠ .unshown r := by nofun) :
    IsInspecting (Run.ofExcept toFailure y) := by
  refine ⟨Session.IsInspecting.pure _, fun s r h => ?_⟩
  rw [Session.perform_ofExcept] at h
  cases y with
  | ok a => cases h
  | error e => exact he e r (Except.error.inj h)

theorem bind (hx : IsInspecting x) (hf : ∀ a, IsInspecting (f a)) : IsInspecting (x >>= f) where
  steps := by
    rw [ExceptT.run_bind]
    refine Session.IsInspecting.bind hx.steps fun r => ?_
    cases r with
    | ok a => exact (hf a).steps
    | error e => exact .pure _
  ne_unshown s r h := by
    have hrun : s.perform (x >>= f) = (.error (.unshown r), (s.perform (x >>= f)).2) :=
      Prod.ext h rfl
    rcases Session.perform_bind_eq_error hrun with hx' | ⟨a, t, -, hf'⟩
    · exact hx.ne_unshown s r (congrArg Prod.fst hx')
    · exact (hf a).ne_unshown t r (congrArg Prod.fst hf')

/-- A step that is taken only in one case, before the run goes on. -/
theorem ite {c : Prop} [Decidable c] {f : Unit → Run (StateM Session) β}
    {x : Run (StateM Session) Unit} (hx : IsInspecting x) (hf : ∀ u, IsInspecting (f u)) :
    IsInspecting (if c then x >>= f else f ()) := by
  split
  · exact hx.bind hf
  · exact hf ()

theorem lift {y : StateM Session α} (h : Session.IsInspecting y) :
    IsInspecting (ExceptT.lift y) :=
  ⟨h.bind fun a => .pure (Except.ok a), nofun⟩

theorem note (level : Log.Level) (source : Log.Source) (message : String) :
    IsInspecting (Run.note level source message) :=
  .lift (Session.IsInspecting.report _)

theorem traced (toFailure : ε → Failure) (t : Traced ε α)
    (he : ∀ e r, toFailure e ≠ .unshown r := by nofun) : IsInspecting (Run.traced toFailure t) :=
  (IsInspecting.lift ((Session.isInspecting_noteAll t.log).bind fun _ => .pure _)).bind fun y =>
    .ofExcept toFailure y he

theorem status (p : Path) : IsInspecting (Run.status p) := by
  unfold Run.status
  split
  · exact .pure _
  · refine (IsInspecting.lift (.status p)).bind fun r => ?_
    cases r with
    | ok s => exact .pure s
    | error cause => exact .throw _

end IsInspecting

end Run

/-! ## What a run may fail with -/

/-- **A run fails only in some ways** in the surroundings of a session. -/
def Session.FailsOnly (s : Session) (x : Run (StateM Session) α) (P : Failure → Prop) : Prop :=
  ∀ ⦃t : Session⦄, t.Agrees s → ∀ e, (t.perform x).1 = .error e → P e

namespace Session.FailsOnly

variable {s : Session} {x : Run (StateM Session) α} {f : α → Run (StateM Session) β}
  {P Q : Failure → Prop}

theorem mono (h : s.FailsOnly x P) (hPQ : ∀ e, P e → Q e) : s.FailsOnly x Q :=
  fun _ ht e he => hPQ e (h ht e he)

theorem pure (a : α) : s.FailsOnly (Pure.pure a) P := by
  intro t _ e he
  cases he

theorem throw {e : Failure} (h : P e) : s.FailsOnly (throw e : Run (StateM Session) α) P := by
  intro t _ e' he
  cases he
  exact h

theorem ofExcept {toFailure : ε → Failure} {y : Except ε α}
    (h : ∀ e, y = .error e → P (toFailure e)) : s.FailsOnly (Run.ofExcept toFailure y) P := by
  intro t _ e' he
  cases y with
  | ok a => cases he
  | error e =>
    cases he
    exact h e rfl

/-- A step outside of a run does not fail it. -/
theorem lift (y : StateM Session α) : s.FailsOnly (ExceptT.lift y) P := by
  intro t _ e he
  cases he

theorem note (level : Log.Level) (source : Log.Source) (message : String) :
    s.FailsOnly (Run.note level source message) P := lift _

/-- **The failures of a run are those of its steps.** What comes after a step that reads meets the
surroundings that the step met. -/
theorem bind (hread : Run.IsReading x) (hx : s.FailsOnly x P)
    (hf : ∀ a, (s.perform x).1 = .ok a → s.FailsOnly (f a) P) : s.FailsOnly (x >>= f) P := by
  intro t ht e he
  rw [perform_bind] at he
  split at he
  · next a t' hxt =>
    have hagrees : t'.Agrees s := by
      have h := hread.agrees t
      rw [hxt] at h
      exact h.trans ht
    have hresult : (s.perform x).1 = .ok a := by
      rw [← hread.isUniform.fst_eq ht, hxt]
    exact hf a hresult hagrees e he
  · next _ _ hxt =>
    cases he
    exact hx ht _ (congrArg Prod.fst hxt)

/-- Where a step may change the surroundings, what comes after it is taken in all of them. -/
theorem bind_of_forall (hx : ∀ s : Session, s.FailsOnly x P)
    (hf : ∀ a, ∀ s : Session, s.FailsOnly (f a) P) (s : Session) : s.FailsOnly (x >>= f) P := by
  intro t _ e he
  rw [perform_bind] at he
  split at he
  · next a t' _ => exact hf a t' (Agrees.refl t') e he
  · next _ _ hxt =>
    cases he
    exact hx t (Agrees.refl t) _ (congrArg Prod.fst hxt)

/-- A step that is taken only in one case, before the run goes on. -/
theorem ite {c : Prop} [Decidable c] {f : Unit → Run (StateM Session) β}
    {x : Run (StateM Session) Unit} (hread : Run.IsReading x) (hx : c → s.FailsOnly x P)
    (hf : ∀ u, s.FailsOnly (f u) P) : s.FailsOnly (if c then x >>= f else f ()) P := by
  split
  · next hc => exact bind hread (hx hc) fun u _ => hf u
  · exact hf ()

end Session.FailsOnly

end SchemaGen
