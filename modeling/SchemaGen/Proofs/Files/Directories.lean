import SchemaGen.Files.Writing
import SchemaGen.Host.Session
import SchemaGen.Proofs.Files.Tree

/-!
# Directories on the way

Making the directory at a path makes those on the way to it first, one after the other, and it may
stop at any of them. Whatever happens, files stay what they are, and so do directories: all that can
be new are directories on the way (`Tree.Adds`). In the end there are directories all the way to the
path (`Tree.LeadsTo`); where it fails, the way was blocked from the beginning, by a file or by a
name that is too long (`Tree.IsOpen`).

That holds of one directory by a look at the tree, and of a path by induction on how many names it
has (`run_makeDirectories`): what stops on the way stops at the parent.
-/

namespace SchemaGen

open Files (Place Node Tree Cause)

/-- A step after another one starts from the session that is left. -/
theorem Session.run_bind {α β : Type} (x : StateM Session α) (f : α → StateM Session β)
    (s : Session) : (x >>= f).run s = (f (x.run s).1).run (x.run s).2 := rfl

namespace Files.Tree

variable {t t' t'' : Tree} {p : Path}

/-! ## What is on the way -/

/-- **A place on the way to a path**, its own place included. -/
def IsOnWay (t : Tree) (p : Path) (place : Place) : Prop :=
  ∃ front, front <+: p.components ∧ place = t.working ++ front

/-- **There are directories all the way to a path.** -/
structure LeadsTo (t : Tree) (p : Path) : Prop where
  isShort : p.IsShort
  node_eq : ∀ place, t.IsOnWay p place → t.node? place = some .directory

/-- **Nothing blocks the way to a path**: no file, and no name that is too long. -/
structure IsOpen (t : Tree) (p : Path) : Prop where
  isShort : p.IsShort
  node_ne : ∀ place, t.IsOnWay p place → ∀ content, t.node? place ≠ some (.file content)

/-- **At a place everything stays**, but there may be a directory where there was nothing. -/
def Keeps (t t' : Tree) (isNew : Place → Prop) (place : Place) : Prop :=
  t'.node? place = t.node? place ∨
    t.node? place = none ∧ t'.node? place = some .directory ∧ isNew place

/-- **One tree has more directories than another**, at some of the given places, and is the same
otherwise. -/
structure Adds (t t' : Tree) (isNew : Place → Prop) : Prop where
  working_eq : t'.working = t.working
  keeps : ∀ place, t.Keeps t' isNew place

theorem isOnWay_self (t : Tree) (p : Path) : t.IsOnWay p (t.placeOf p) :=
  ⟨p.components, List.prefix_rfl, rfl⟩

/-- What is on the way to the parent is on the way. -/
theorem IsOnWay.of_parent {place : Place} (h : t.IsOnWay p.parent place) : t.IsOnWay p place := by
  obtain ⟨front, hfront, rfl⟩ := h
  exact ⟨front, hfront.trans (List.dropLast_prefix _), rfl⟩

/-- What is on the way is the place itself, or on the way to the parent. -/
theorem IsOnWay.eq_or_parent {place : Place} (h : t.IsOnWay p place) :
    place = t.placeOf p ∨ t.IsOnWay p.parent place := by
  obtain ⟨front, hfront, rfl⟩ := h
  rcases List.eq_nil_or_concat' p.components with hnil | ⟨init, last, hp⟩
  · rw [hnil, List.prefix_nil] at hfront
    exact .inl (by rw [placeOf, hnil, hfront])
  rw [hp, List.prefix_concat_iff] at hfront
  rcases hfront with rfl | hfront
  · exact .inl (by rw [placeOf, hp])
  · refine .inr ⟨front, ?_, rfl⟩
    rwa [Path.parent, hp, List.dropLast_concat]

/-- A place is not on the way to the parent of its path, if it has any. -/
theorem not_isOnWay_parent (hne : p.components ≠ []) : ¬ t.IsOnWay p.parent (t.placeOf p) := by
  rintro ⟨front, hfront, he⟩
  obtain rfl : p.components = front := List.append_cancel_left he
  have hle := hfront.length_le
  have hpos := List.length_pos_iff.2 hne
  rw [Path.parent, List.length_dropLast] at hle
  omega

theorem LeadsTo.isOpen (h : t.LeadsTo p) : t.IsOpen p where
  isShort := h.isShort
  node_ne place hplace content hfile := by
    rw [h.node_eq place hplace] at hfile
    cases hfile

theorem IsOpen.parent (hp : p.IsPlain) (h : t.IsOpen p) : t.IsOpen p.parent where
  isShort := h.isShort.parent hp
  node_ne place hplace := h.node_ne place hplace.of_parent

/-- **A short path with directories to its parent** leads to its place. -/
theorem LeadsTo.locate_eq_of_parent (hp : p.IsPlain) (h : t.LeadsTo p.parent) (hshort : p.IsShort) :
    t.locate p = .ok (t.placeOf p) := by
  refine (locate_eq_ok_iff hp).2 ⟨rfl, hshort, fun front hfront hne => ?_⟩
  rcases IsOnWay.eq_or_parent ⟨front, hfront, rfl⟩ with he | hparent
  · exact absurd (List.append_cancel_left he) hne
  · exact h.node_eq _ hparent

/-- A path with directories all the way leads to its place, -/
theorem LeadsTo.locate_eq (hp : p.IsPlain) (h : t.LeadsTo p) : t.locate p = .ok (t.placeOf p) :=
  (locate_eq_ok_iff hp).2
    ⟨rfl, h.isShort, fun front hfront _ => h.node_eq _ ⟨front, hfront, rfl⟩⟩

/-- and there are directories all the way if it leads to one. -/
theorem leadsTo_of_locate (hp : p.IsPlain) {place : Place} (h : t.locate p = .ok place)
    (hnode : t.node? place = some .directory) : t.LeadsTo p := by
  obtain ⟨rfl, hshort, hfronts⟩ := (locate_eq_ok_iff hp).1 h
  refine ⟨hshort, ?_⟩
  rintro place ⟨front, hfront, rfl⟩
  by_cases he : front = p.components
  · rwa [he]
  · exact hfronts front hfront he

/-- A path that leads to a place has directories all the way to its parent. -/
theorem leadsTo_parent_of_locate (hp : p.IsPlain) (hne : p.components ≠ []) {place : Place}
    (h : t.locate p = .ok place) : t.LeadsTo p.parent := by
  obtain ⟨rfl, hshort, hfronts⟩ := (locate_eq_ok_iff hp).1 h
  refine ⟨hshort.parent hp, fun place hplace => ?_⟩
  obtain ⟨front, hfront, rfl⟩ := hplace.of_parent
  refine hfronts front hfront fun he => not_isOnWay_parent (t := t) hne ?_
  rwa [placeOf, ← he]

/-- **There is a directory at a path** just if there are directories all the way. -/
theorem status_eq_directory_iff (hp : p.IsPlain) :
    t.status p = .ok (some .directory) ↔ t.LeadsTo p := by
  rw [status]
  constructor
  · intro h
    split at h
    · next place hplace => exact leadsTo_of_locate hp hplace (Except.ok.inj h)
    · cases h
    · cases h
    · cases h
  · intro h
    rw [h.locate_eq hp]
    exact congrArg _ (h.node_eq _ (t.isOnWay_self p))

/-- The working directory settles what is on the way, -/
theorem isOnWay_iff_of_working_eq (h : t'.working = t.working) {place : Place} :
    t'.IsOnWay p place ↔ t.IsOnWay p place := by
  unfold IsOnWay
  rw [h]

/-- and the place of a path. -/
theorem placeOf_eq_of_working_eq (h : t'.working = t.working) (p : Path) :
    t'.placeOf p = t.placeOf p := by
  rw [placeOf, placeOf, h]

/-! ## New directories -/

section Keeps

variable {isNew isNew' : Place → Prop} {place : Place}

/-- No file is new, and none is gone. -/
theorem Keeps.node_eq_file_iff (h : t.Keeps t' isNew place) {content : List UInt8} :
    t'.node? place = some (.file content) ↔ t.node? place = some (.file content) := by
  rcases h with he | ⟨hnone, hnode, -⟩
  · rw [he]
  · rw [hnone, hnode]
    exact ⟨nofun, nofun⟩

/-- No directory is gone. -/
theorem Keeps.node_eq_directory (h : t.Keeps t' isNew place)
    (hnode : t.node? place = some .directory) : t'.node? place = some .directory := by
  rcases h with he | ⟨-, hnew, -⟩
  · rw [he, hnode]
  · exact hnew

theorem Keeps.mono (h : t.Keeps t' isNew place) (himp : isNew place → isNew' place) :
    t.Keeps t' isNew' place :=
  h.imp_right fun ⟨hnone, hnode, hnew⟩ => ⟨hnone, hnode, himp hnew⟩

theorem Keeps.trans (h : t.Keeps t' isNew place) (h' : t'.Keeps t'' isNew place) :
    t.Keeps t'' isNew place := by
  rcases h' with he' | ⟨hnone, hnode, hnew⟩
  · rw [Keeps, he']
    exact h
  rcases h with he | ⟨-, hnode', -⟩
  · exact .inr ⟨he ▸ hnone, hnode, hnew⟩
  · cases hnone.symm.trans hnode'

theorem Adds.refl (t : Tree) : t.Adds t isNew := ⟨rfl, fun _ => .inl rfl⟩

theorem Adds.mono (h : t.Adds t' isNew) (himp : ∀ place, isNew place → isNew' place) :
    t.Adds t' isNew' :=
  ⟨h.working_eq, fun place => (h.keeps place).mono (himp place)⟩

theorem Adds.trans (h : t.Adds t' isNew) (h' : t'.Adds t'' isNew) : t.Adds t'' isNew :=
  ⟨h'.working_eq.trans h.working_eq, fun place => (h.keeps place).trans (h'.keeps place)⟩

/-- New directories block no way. -/
theorem Adds.isOpen_iff (h : t.Adds t' isNew) : t'.IsOpen p ↔ t.IsOpen p := by
  have hway : ∀ {place}, t'.IsOnWay p place ↔ t.IsOnWay p place :=
    isOnWay_iff_of_working_eq h.working_eq
  constructor
  · intro ho
    exact ⟨ho.isShort, fun place hplace content hfile =>
      ho.node_ne place (hway.2 hplace) content ((h.keeps place).node_eq_file_iff.2 hfile)⟩
  · intro ho
    exact ⟨ho.isShort, fun place hplace content hfile =>
      ho.node_ne place (hway.1 hplace) content ((h.keeps place).node_eq_file_iff.1 hfile)⟩

end Keeps

/-! ## One directory -/

/-- **A directory that is made** is the one new node, and ends a way of directories. -/
theorem of_makeDirectory_eq_ok (hp : p.IsPlain) (h : t.makeDirectory p = .ok t') :
    t.Adds t' (t.IsOnWay p) ∧ t'.LeadsTo p := by
  rw [makeDirectory] at h
  split at h
  · cases h
  next place hplace =>
  split at h
  · cases h
  next hnone =>
  cases h
  obtain ⟨rfl, hshort, hfronts⟩ := (locate_eq_ok_iff hp).1 hplace
  have hnone : t.node? (t.placeOf p) = none := by
    simpa only [Option.isSome_iff_ne_none, ne_eq, not_not] using hnone
  have hne : t.placeOf p ≠ [] := by
    intro he
    rw [he, node?, if_pos rfl] at hnone
    cases hnone
  refine ⟨⟨rfl, fun place => ?_⟩, hshort, ?_⟩
  · by_cases he : t.placeOf p = place
    · subst he
      exact .inr ⟨hnone, node?_put_self t _ hne, t.isOnWay_self p⟩
    · exact .inl (node?_put_of_ne t _ he)
  · rintro place ⟨front, hfront, rfl⟩
    show (t.put (t.placeOf p) .directory).node? (t.working ++ front) = _
    by_cases he : front = p.components
    · rw [he]
      exact node?_put_self t _ hne
    · have hne' : t.placeOf p ≠ t.working ++ front := fun hplaces =>
        he (List.append_cancel_left hplaces).symm
      rw [node?_put_of_ne t _ hne']
      exact hfronts front hfront he

/-- **On an open way** a directory is only not made where one is missing before it, or where it is
already. -/
theorem IsOpen.of_makeDirectory_eq_error (hp : p.IsPlain) (ho : t.IsOpen p) {cause : Cause}
    (h : t.makeDirectory p = .error cause) :
    cause = .notFound ∧ p.components ≠ [] ∨ t.LeadsTo p := by
  rw [makeDirectory] at h
  split at h
  · next cause' hcause =>
    cases h
    refine .inl (cause_of_locate hp ho.isShort (fun front hfront => ?_) hcause)
    exact ho.node_ne _ ⟨front, hfront, rfl⟩
  next place hplace =>
  split at h
  · next hsome =>
    cases h
    obtain ⟨rfl, -⟩ := (locate_eq_ok_iff hp).1 hplace
    obtain ⟨node, hnode⟩ := Option.isSome_iff_exists.1 hsome
    cases node with
    | file content => exact absurd hnode (ho.node_ne _ (t.isOnWay_self p) content)
    | directory => exact .inr (leadsTo_of_locate hp hplace hnode)
  · cases h

/-- Where a place is reached, nothing is missing before it. -/
theorem makeDirectory_ne_of_locate {place : Place} (h : t.locate p = .ok place) :
    t.makeDirectory p ≠ .error .notFound := by
  rw [makeDirectory, h]
  dsimp only
  split
  · exact nofun
  · exact nofun

end Files.Tree

/-! ## All directories on the way -/

namespace Files

variable {p : Path}

/-- What making directories does to a session, step by step. -/
theorem run_makeDirectories (p : Path) (s : Session) :
    (makeDirectories p : StateM Session (Except Error Unit)).run s =
      match s.files.makeDirectory p with
      | .ok files => (.ok (), { s with files })
      | .error .notFound =>
        if p.components = [] then (.error ⟨.notFound, p⟩, s)
        else
          match (makeDirectories p.parent : StateM Session (Except Error Unit)).run s with
          | (.error e, s') => (.error e, s')
          | (.ok (), s') =>
            match s'.files.makeDirectory p with
            | .ok files => (.ok (), { s' with files })
            | .error .notFound => (.error ⟨.notFound, p⟩, s')
            | .error cause => (settleDirectory p cause : StateM Session _).run s'
      | .error cause => (settleDirectory p cause : StateM Session _).run s := by
  have hmake : ∀ s : Session, (Host.makeDirectory p : StateM Session _).run s
      = s.putFiles (s.files.makeDirectory p) := fun s => rfl
  rw [makeDirectories, Session.run_bind, hmake]
  cases s.files.makeDirectory p with
  | ok files => rfl
  | error cause =>
    cases cause with
    | notFound =>
      dsimp only [Session.putFiles]
      split
      · rfl
      · rw [Session.run_bind]
        cases (makeDirectories p.parent : StateM Session (Except Error Unit)).run s with
        | mk result s' =>
          cases result with
          | error e => rfl
          | ok u =>
            dsimp only
            rw [Session.run_bind, hmake]
            cases s'.files.makeDirectory p with
            | ok files => rfl
            | error cause => cases cause <;> rfl
    | _ => rfl

/-- Settling a cause looks for a directory at the path, and does nothing else. -/
theorem run_settleDirectory (hp : p.IsPlain) (cause : Cause) (s : Session) :
    ∃ result, (settleDirectory p cause : StateM Session (Except Error Unit)).run s = (result, s) ∧
      (result = .ok () ↔ s.files.LeadsTo p) := by
  have hstatus : (Host.status p : StateM Session _).run s
      = ((s.files.status p).map Session.statusOf, s) := rfl
  rw [settleDirectory, Session.run_bind, hstatus, ← Tree.status_eq_directory_iff hp]
  cases s.files.status p with
  | error e => exact ⟨_, rfl, by simp⟩
  | ok node =>
    rcases node with - | - | -
    · exact ⟨_, rfl, by simp⟩
    · exact ⟨_, rfl, by simp⟩
    · exact ⟨_, rfl, by simp⟩

/-- Where there are directories all the way, none is made. -/
theorem run_makeDirectories_of_leadsTo (hp : p.IsPlain) {s : Session} (h : s.files.LeadsTo p) :
    (makeDirectories p : StateM Session (Except Error Unit)).run s = (.ok (), s) := by
  have hmake : s.files.makeDirectory p = .error .alreadyExists := by
    rw [Tree.makeDirectory, h.locate_eq hp]
    dsimp only
    rw [h.node_eq _ (s.files.isOnWay_self p)]
    rfl
  obtain ⟨result, hrun, hok⟩ := run_settleDirectory hp .alreadyExists s
  rw [run_makeDirectories, hmake]
  dsimp only
  rw [hrun, hok.2 h]

/-- **What making directories comes to**: there may be new directories on the way, all of them if it
succeeds; and it fails only if the way was blocked. -/
structure MakesWay (p : Path) (t : Tree) (result : Except Error Unit) (t' : Tree) : Prop where
  adds : t.Adds t' (t.IsOnWay p)
  leadsTo : result = .ok () → t'.LeadsTo p
  ok_of_isOpen : t.IsOpen p → result = .ok ()

namespace MakesWay

variable {t t₁ t₂ : Tree} {result : Except Error Unit}

/-- The directory at the path is made after those on the way to its parent. -/
theorem after_parent (h : MakesWay p.parent t (.ok ()) t₁) (h' : MakesWay p t₁ result t₂) :
    MakesWay p t result t₂ where
  adds := (h.adds.mono fun _ => Tree.IsOnWay.of_parent).trans
    (h'.adds.mono fun _ => (Tree.isOnWay_iff_of_working_eq h.adds.working_eq).1)
  leadsTo := h'.leadsTo
  ok_of_isOpen hopen := h'.ok_of_isOpen (h.adds.isOpen_iff.2 hopen)

/-- Directories that cannot be made all the way to the parent are not made all the way. -/
theorem of_parent (hp : p.IsPlain) {e : Error} (h : MakesWay p.parent t (.error e) t₁) :
    MakesWay p t (.error e) t₁ where
  adds := h.adds.mono fun _ => Tree.IsOnWay.of_parent
  leadsTo := nofun
  ok_of_isOpen hopen := nomatch h.ok_of_isOpen (hopen.parent hp)

/-- One directory is made. -/
theorem of_makeDirectory_eq_ok (hp : p.IsPlain) (h : t.makeDirectory p = .ok t₁) :
    MakesWay p t (.ok ()) t₁ where
  adds := (Tree.of_makeDirectory_eq_ok hp h).1
  leadsTo _ := (Tree.of_makeDirectory_eq_ok hp h).2
  ok_of_isOpen _ := rfl

/-- Nothing is made on a way that is blocked. -/
theorem of_not_isOpen {e : Error} (h : ¬ t.IsOpen p) : MakesWay p t (.error e) t where
  adds := .refl _
  leadsTo := nofun
  ok_of_isOpen hopen := absurd hopen h

/-- A cause is settled by a look at what is there. -/
theorem settle (hp : p.IsPlain) {s : Session} {cause : Cause}
    (h : s.files.makeDirectory p = .error cause) (hcause : cause ≠ .notFound) :
    MakesWay p s.files ((settleDirectory p cause : StateM Session (Except Error Unit)).run s).1
      ((settleDirectory p cause : StateM Session (Except Error Unit)).run s).2.files := by
  obtain ⟨result, hrun, hok⟩ := run_settleDirectory hp cause s
  rw [hrun]
  refine ⟨.refl _, hok.1, fun hopen => ?_⟩
  rcases hopen.of_makeDirectory_eq_error hp h with ⟨he, -⟩ | hleads
  · exact absurd he hcause
  · exact hok.2 hleads

end MakesWay

/-- **Directories are made on the way and nowhere else**, and all of them unless the way is
blocked. -/
theorem makesWay_makeDirectories {p : Path} (hp : p.IsPlain) (s : Session) :
    MakesWay p s.files ((makeDirectories p : StateM Session (Except Error Unit)).run s).1
      ((makeDirectories p : StateM Session (Except Error Unit)).run s).2.files := by
  rw [run_makeDirectories]
  split
  · next files hfiles => exact .of_makeDirectory_eq_ok hp hfiles
  · next hmissing =>
    split
    · next hnil =>
      refine .of_not_isOpen fun hopen => ?_
      rcases hopen.of_makeDirectory_eq_error hp hmissing with ⟨-, hne⟩ | hleads
      · exact hne hnil
      · exact Tree.makeDirectory_ne_of_locate (hleads.locate_eq hp) hmissing
    next hne =>
    have hshorter : p.parent.components.length < p.components.length := by
      have hpos := List.length_pos_iff.2 hne
      rw [Path.parent, List.length_dropLast]
      omega
    have hparent := makesWay_makeDirectories hp.parent s
    split
    · next e s₁ hrun =>
      rw [hrun] at hparent
      exact hparent.of_parent hp
    next s₁ hrun =>
    rw [hrun] at hparent
    split
    · next files hfiles => exact hparent.after_parent (.of_makeDirectory_eq_ok hp hfiles)
    · next hmissing =>
      -- the parent is there, so what stops it can only be the length of the path
      refine hparent.after_parent (.of_not_isOpen fun hopen => ?_)
      have hplace := (hparent.leadsTo rfl).locate_eq_of_parent hp hopen.isShort
      exact Tree.makeDirectory_ne_of_locate hplace hmissing
    · next cause hother hcause => exact hparent.after_parent (.settle hp hcause hother)
  · next cause hother hcause => exact .settle hp hcause hother
termination_by p.components.length

end Files

end SchemaGen
