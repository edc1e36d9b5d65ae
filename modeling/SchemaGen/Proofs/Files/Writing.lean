import SchemaGen.Proofs.Files.Directories
import SchemaGen.Proofs.Host.Surroundings

/-!
# Files that are written

Writing a text makes the directories on the way to its file and then the file. It succeeds just if
the tree admits it (`Tree.Admits`), and otherwise it fails with a record on the path; either way
nothing changes but the file and the directories on its way (`Tree.Writes`).

Modules are written one after the other, so what a whole run leaves is put together from what its
steps leave: a text that was written stays, since the places of different paths are different
(`Tree.Writes.append`). A run ends after all of them, or at the first one that the tree, as it is
then, does not admit (`Destination.writesAll_or_stopsBefore`). After a run that ends well all
directories are there, and writing the same again changes nothing.
-/

namespace SchemaGen

open Files (Place Node Tree Cause)

namespace Files

/-- **A text for the file at a path.** -/
structure Draft where
  path : Path
  text : String
deriving DecidableEq, Repr

/-- What the file is to hold. -/
def Draft.content (x : Draft) : List UInt8 := Text.Utf8.encode x.text

namespace Tree

variable {t t₁ t₂ : Tree} {p : Path} {x : Draft}

/-- **A file can be written at a path**: the way to it is open, and it is not the way to somewhere
else. -/
structure Admits (t : Tree) (p : Path) : Prop where
  components_ne : p.components ≠ []
  isShort : p.IsShort
  isOpen : t.IsOpen p.parent
  node_ne : t.node? (t.placeOf p) ≠ some .directory

/-- A place on the way to one of the drafts. -/
def IsOnWayToAny (t : Tree) (drafts : List Draft) (place : Place) : Prop :=
  ∃ x ∈ drafts, t.IsOnWay x.path.parent place

/-- **Some drafts are written**: their files hold them, and everything else stays, but there may be
new directories on the way to the drafts that were attempted. -/
structure Writes (t t' : Tree) (written attempted : List Draft) : Prop where
  working_eq : t'.working = t.working
  read_eq : ∀ x ∈ written, t'.read x.path = .ok x.content
  keeps : ∀ place, (∀ x ∈ written, t.placeOf x.path ≠ place) →
    t.Keeps t' (t.IsOnWayToAny attempted) place
  directory_kept : ∀ place, t.node? place = some .directory → t'.node? place = some .directory

/-- **A place has the same file in two trees**, or none in both. -/
def HasSameFile (t t' : Tree) (place : Place) : Prop :=
  ∀ content, t.node? place = some (.file content) ↔ t'.node? place = some (.file content)

/-- A place where there is something, but no directory, is not the root. -/
theorem ne_nil_of_node?_ne {place : Place} (h : t.node? place ≠ some .directory) : place ≠ [] := by
  rintro rfl
  exact h (if_pos rfl)

namespace Writes

variable {written written' attempted attempted' : List Draft}

theorem refl (t : Tree) (attempted : List Draft) : t.Writes t [] attempted where
  working_eq := rfl
  read_eq := nofun
  keeps _ _ := .inl rfl
  directory_kept _ h := h

/-- Directories on the way are all that an attempt makes. -/
theorem of_adds (h : t.Adds t₁ (t.IsOnWay x.path.parent)) : t.Writes t₁ [] [x] where
  working_eq := h.working_eq
  read_eq := nofun
  keeps place _ := (h.keeps place).mono fun hway => ⟨x, List.mem_singleton_self x, hway⟩
  directory_kept place := (h.keeps place).node_eq_directory

/-- Where nothing is written, no file is new and none is gone. -/
theorem hasSameFile (h : t.Writes t₁ written attempted) {place : Place}
    (hne : ∀ x ∈ written, t.placeOf x.path ≠ place) : t₁.HasSameFile t place :=
  fun _ => (h.keeps place hne).node_eq_file_iff

/-- **A file stays what it is** if nothing is written at its path. -/
theorem read_eq_of_read (h : t.Writes t₁ written attempted) (hp : p.IsPlain)
    (hne : ∀ x ∈ written, t.placeOf x.path ≠ t.placeOf p) {content : List UInt8}
    (hread : t.read p = .ok content) : t₁.read p = .ok content := by
  obtain ⟨hplace, hnode⟩ := (read_eq_ok_iff hp).1 hread
  obtain ⟨-, hshort, hfronts⟩ := (locate_eq_ok_iff hp).1 hplace
  refine (read_eq_ok_iff hp).2 ⟨(locate_eq_ok_iff hp).2 ⟨rfl, hshort, ?_⟩, ?_⟩
  · intro front hfront hproper
    rw [h.working_eq]
    exact h.directory_kept _ (hfronts front hfront hproper)
  · rw [placeOf_eq_of_working_eq h.working_eq]
    exact (h.hasSameFile hne content).2 hnode

/-- **What is written one after the other** is written together, if it is written to different
places. -/
theorem append (h : t.Writes t₁ written attempted) (h' : t₁.Writes t₂ written' attempted')
    (hplain : ∀ x ∈ written, x.path.IsPlain)
    (hne : ∀ x ∈ written, ∀ y ∈ written', t.placeOf y.path ≠ t.placeOf x.path) :
    t.Writes t₂ (written ++ written') (attempted ++ attempted') where
  working_eq := h'.working_eq.trans h.working_eq
  read_eq x hx := by
    rcases List.mem_append.1 hx with hx | hx
    · refine h'.read_eq_of_read (hplain x hx) (fun y hy => ?_) (h.read_eq x hx)
      rw [placeOf_eq_of_working_eq h.working_eq, placeOf_eq_of_working_eq h.working_eq]
      exact hne x hx y hy
    · exact h'.read_eq x hx
  keeps place hplace := by
    have hfirst := h.keeps place fun x hx => hplace x (List.mem_append_left _ hx)
    have hthen := h'.keeps place fun x hx => by
      rw [placeOf_eq_of_working_eq h.working_eq]
      exact hplace x (List.mem_append_right _ hx)
    refine (hfirst.mono ?_).trans (hthen.mono ?_)
    · rintro ⟨x, hx, hway⟩
      exact ⟨x, List.mem_append_left _ hx, hway⟩
    · rintro ⟨x, hx, hway⟩
      exact ⟨x, List.mem_append_right _ hx, (isOnWay_iff_of_working_eq h.working_eq).1 hway⟩
  directory_kept place hnode := h'.directory_kept place (h.directory_kept place hnode)

end Writes

/-! ## One file -/

/-- **A file that is written** behind new directories. -/
theorem writes_of_write (hp : x.path.IsPlain) (hadds : t.Adds t₁ (t.IsOnWay x.path.parent))
    (hleads : t₁.LeadsTo x.path.parent) (h : t₁.write x.path x.content = .ok t₂) :
    t.Admits x.path ∧ t.Writes t₂ [x] [x] := by
  rw [write] at h
  split at h
  · cases h
  next place hplace =>
  split at h
  · cases h
  next hnode =>
  cases h
  obtain ⟨rfl, hshort, hfronts⟩ := (locate_eq_ok_iff hp).1 hplace
  have hne := ne_nil_of_node?_ne hnode
  have hself : (t₁.put (t₁.placeOf x.path) (.file x.content)).node? (t₁.placeOf x.path) =
      some (.file x.content) := node?_put_self t₁ _ hne
  have hsame : t₁.placeOf x.path = t.placeOf x.path := placeOf_eq_of_working_eq hadds.working_eq _
  have hother : ∀ place, place ≠ t₁.placeOf x.path →
      (t₁.put (t₁.placeOf x.path) (.file x.content)).node? place = t₁.node? place :=
    fun place he => node?_put_of_ne t₁ _ (Ne.symm he)
  refine ⟨⟨fun hnil => ?_, hshort, hadds.isOpen_iff.1 hleads.isOpen, fun hdirectory => ?_⟩,
    ⟨hadds.working_eq, ?_, ?_, ?_⟩⟩
  · -- a path without names is its own parent
    refine hnode (hleads.node_eq _ ⟨[], List.nil_prefix, ?_⟩)
    rw [placeOf, hnil]
  · exact hnode (hsame ▸ (hadds.keeps _).node_eq_directory hdirectory)
  · intro y hy
    rw [List.mem_singleton.1 hy]
    refine (read_eq_ok_iff hp).2 ⟨(locate_eq_ok_iff hp).2 ⟨rfl, hshort, ?_⟩, hself⟩
    intro front hfront hproper
    rw [hother]
    · exact hfronts front hfront hproper
    · exact fun he => hproper (List.append_cancel_left he)
  · intro place hplace
    have hplace : place ≠ t₁.placeOf x.path := by
      rw [hsame]
      exact (hplace x (List.mem_singleton_self x)).symm
    rw [Keeps, hother place hplace]
    exact (hadds.keeps place).mono fun hway => ⟨x, List.mem_singleton_self x, hway⟩
  · intro place hdirectory
    have hdirectory := (hadds.keeps place).node_eq_directory hdirectory
    rw [hother place fun he => hnode (he ▸ hdirectory), hdirectory]

/-- A file that cannot be written behind new directories could not be from the beginning. -/
theorem not_admits_of_write (hp : p.IsPlain) (hadds : t.Adds t₁ (t.IsOnWay p.parent))
    (hleads : t₁.LeadsTo p.parent) {content : List UInt8} {cause : Cause}
    (h : t₁.write p content = .error cause) : ¬ t.Admits p := by
  intro hadmits
  rw [write, hleads.locate_eq_of_parent hp hadmits.isShort] at h
  dsimp only at h
  split at h
  · next hdirectory =>
    rw [placeOf_eq_of_working_eq hadds.working_eq] at hdirectory
    rcases hadds.keeps (t.placeOf p) with he | ⟨-, -, hway⟩
    · exact hadmits.node_ne (he ▸ hdirectory)
    · exact not_isOnWay_parent hadmits.components_ne hway
  · cases h

end Tree

end Files

open Files (Draft)

namespace Destination

variable {x : Draft}

/-- Writing a text, in its two steps. -/
theorem perform_writeText_eq {p : Path} (hp : p.IsPlain) (text : String) (s : Session) :
    s.perform (writeText p text) =
      match (Files.makeDirectories p.parent : StateM Session (Except Files.Error Unit)).run s with
      | (.error e, s₁) => s₁.perform (failWriting p e)
      | (.ok (), s₁) =>
        match s₁.files.write p (Text.Utf8.encode text) with
        | .error cause => s₁.perform (failWriting p ⟨cause, p⟩)
        | .ok files =>
          { s₁ with files }.perform (Run.note .debug .fileWriter s!"Wrote {p.toString}") := by
  have hlift : ∀ {α : Type} (y : StateM Session α) (s : Session),
      s.perform (ExceptT.lift y) = (.ok (y.run s).1, (y.run s).2) := fun _ _ => rfl
  rw [writeText, hp.parent.not_hasNull, hp.not_hasNull]
  simp only [Bool.false_eq_true, if_false]
  rw [Session.perform_bind, hlift]
  cases (Files.makeDirectories p.parent : StateM Session (Except Files.Error Unit)).run s with
  | mk made s₁ =>
    cases made with
    | error e => rfl
    | ok u =>
      dsimp only
      rw [Session.perform_bind, hlift]
      have hwrite : (Host.writeFile p (Text.Utf8.encode text) : StateM Session _).run s₁
          = s₁.putFiles (s₁.files.write p (Text.Utf8.encode text)) := rfl
      rw [hwrite]
      cases s₁.files.write p (Text.Utf8.encode text) <;> rfl

/-- A failure to write leaves the files as they are. -/
theorem perform_failWriting (p : Path) (e : Files.Error) (s : Session) :
    ∃ s', s.perform (failWriting p e : Run (StateM Session) Unit) = (.error (.unwritable p e), s') ∧
      s'.files = s.files := by
  rw [failWriting, Session.perform_bind, Session.perform_note]
  exact ⟨_, rfl, Session.files_report _ _⟩

/-- **What writing a text comes to**: the file is written if the tree admits it, and else the run
fails on its path. -/
theorem perform_writeText (hp : x.path.IsPlain) (s : Session) :
    (∃ s', s.perform (writeText x.path x.text) = (.ok (), s') ∧ s.files.Admits x.path ∧
        s.files.Writes s'.files [x] [x]) ∨
      ∃ e s', s.perform (writeText x.path x.text) = (.error (.unwritable x.path e), s') ∧
        ¬ s.files.Admits x.path ∧ s.files.Writes s'.files [] [x] := by
  have hway := Files.makesWay_makeDirectories hp.parent s
  rw [perform_writeText_eq hp]
  cases hmade : (Files.makeDirectories x.path.parent :
      StateM Session (Except Files.Error Unit)).run s with
  | mk made s₁ =>
    rw [hmade] at hway
    have hadds := hway.adds
    cases made with
    | error e =>
      obtain ⟨s', hfail, hfiles⟩ := perform_failWriting x.path e s₁
      refine .inr ⟨e, s', hfail, fun hadmits => ?_, hfiles ▸ .of_adds hadds⟩
      cases hway.ok_of_isOpen hadmits.isOpen
    | ok u =>
      have hleads := hway.leadsTo rfl
      dsimp only
      cases hwrite : s₁.files.write x.path (Text.Utf8.encode x.text) with
      | error cause =>
        obtain ⟨s', hfail, hfiles⟩ := perform_failWriting x.path ⟨cause, x.path⟩ s₁
        exact .inr ⟨_, s', hfail, Tree.not_admits_of_write hp hadds hleads hwrite,
          hfiles ▸ .of_adds hadds⟩
      | ok files =>
        obtain ⟨hadmits, hwrites⟩ := Tree.writes_of_write hp hadds hleads hwrite
        refine .inl ⟨_, rfl, hadmits, ?_⟩
        rwa [Session.files_report]

/-- **A text that is there already** is written without a change. -/
theorem perform_writeText_of_read (hp : x.path.IsPlain) (hne : x.path.components ≠ [])
    {s : Session} (h : s.files.read x.path = .ok x.content) :
    ∃ s', s.perform (writeText x.path x.text) = (.ok (), s') ∧ s'.files = s.files := by
  obtain ⟨hplace, hnode⟩ := (Tree.read_eq_ok_iff hp).1 h
  have hleads := Tree.leadsTo_parent_of_locate hp hne hplace
  have hfile : s.files.node? (s.files.placeOf x.path) ≠ some .directory := by
    rw [hnode]
    exact nofun
  have hwrite : s.files.write x.path (Text.Utf8.encode x.text) = .ok s.files := by
    rw [Tree.write, hplace]
    dsimp only
    rw [if_neg hfile]
    exact congrArg _ (Tree.put_eq_self (Tree.ne_nil_of_node?_ne hfile) hnode)
  rw [perform_writeText_eq hp, Files.run_makeDirectories_of_leadsTo hp.parent hleads]
  dsimp only
  rw [hwrite]
  exact ⟨_, rfl, Session.files_report _ _⟩

/-! ## One file after the other -/

/-- The draft of a module: its source, at its path. -/
def draftOf (d : Destination) (file : String × String) : Except PathError Draft :=
  (d.pathOf file.1).map (Draft.mk · file.2)

/-- **The drafts of modules**, in their order. -/
def draftsOf (d : Destination) (files : Entries String String) : Except PathError (List Draft) :=
  files.mapM d.draftOf

variable {d : Destination} {files : Entries String String} {drafts : List Draft}

/-- A module is written by writing its draft, and then what follows it. -/
theorem perform_writeEach_cons {file : String × String} (h : d.draftOf file = .ok x)
    (files : Entries String String) (s : Session) :
    s.perform (d.writeEach (file :: files)) =
      match s.perform (writeText x.path x.text) with
      | (.error e, s₁) => (.error e, s₁)
      | (.ok (), s₁) =>
        match s₁.perform (d.writeEach files) with
        | (.error e, s₂) => (.error e, s₂)
        | (.ok paths, s₂) => (.ok (x.path :: paths), s₂) := by
  obtain ⟨p, hp, rfl⟩ := map_eq_ok_iff.1 h
  rw [writeEach, Session.perform_bind, writeModule, Session.perform_bind,
    Session.perform_ofExcept, hp]
  dsimp only [Except.mapError]
  rw [Session.perform_bind]
  cases s.perform (writeText p file.2) with
  | mk result s₁ =>
    cases result with
    | error e => rfl
    | ok u =>
      dsimp only [Session.perform_pure]
      rw [Session.perform_bind]
      cases s₁.perform (d.writeEach files) with
      | mk result s₂ => cases result <;> rfl

/-- **Writing modules one after the other** ends after all of them, or at the first one that the
tree, as it is then, does not admit. -/
theorem perform_writeEach (hdrafts : d.draftsOf files = .ok drafts)
    (hplain : ∀ x ∈ drafts, x.path.IsPlain) (hnodup : (drafts.map Draft.path).Nodup)
    (s : Session) :
    (∃ s', s.perform (d.writeEach files) = (.ok (drafts.map Draft.path), s') ∧
        (∀ x ∈ drafts, x.path.components ≠ []) ∧ s.files.Writes s'.files drafts drafts) ∨
      ∃ done x rest, drafts = done ++ x :: rest ∧
        (∃ e s', s.perform (d.writeEach files) = (.error (.unwritable x.path e), s') ∧
          s.files.Writes s'.files done (done ++ [x])) ∧
        ∃ s₁, s.perform (d.writeEach (files.take done.length)) =
          (.ok (done.map Draft.path), s₁) ∧ ¬ s₁.files.Admits x.path := by
  have hall : List.Forall₂ (fun file x => d.draftOf file = .ok x) files drafts :=
    mapM_eq_ok_iff.1 hdrafts
  clear hdrafts
  induction hall generalizing s with
  | nil => exact .inl ⟨s, rfl, nofun, .refl _ _⟩
  | @cons file x files drafts hx _ ih =>
    rw [List.map_cons, List.nodup_cons] at hnodup
    obtain ⟨hfirst, hnodup⟩ := hnodup
    obtain ⟨hxplain, hplain⟩ := List.forall_mem_cons.1 hplain
    -- what is written later is written elsewhere
    have hplaces : ∀ t : Tree, ∀ y ∈ drafts, t.placeOf y.path ≠ t.placeOf x.path :=
      fun t y hy he => hfirst (List.mem_map.2 ⟨y, hy, Tree.placeOf_inj (hplain y hy) hxplain he⟩)
    have happend : ∀ {t t₁ t₂ : Tree} {written attempted : List Draft},
        t.Writes t₁ [x] [x] → written ⊆ drafts → t₁.Writes t₂ written attempted →
        t.Writes t₂ (x :: written) (x :: attempted) := fun h hsub h' =>
      h.append h' (List.forall_mem_singleton.2 hxplain)
        (List.forall_mem_singleton.2 fun y hy => hplaces _ y (hsub hy))
    have hcons := perform_writeEach_cons hx files s
    rcases perform_writeText hxplain s with
      ⟨s₁, hwrite, hadmits, hwrites⟩ | ⟨e, s₁, hwrite, hadmits, hwrites⟩
    · rw [hwrite] at hcons
      dsimp only at hcons
      rcases ih hplain hnodup s₁ with ⟨s', hrun, hne, hrest⟩ |
        ⟨done, y, rest, hsplit, ⟨e, s', hrun, hrest⟩, s₂, hdone, hstop⟩
      · rw [hrun] at hcons
        exact .inl ⟨s', hcons, List.forall_mem_cons.2 ⟨hadmits.components_ne, hne⟩,
          happend hwrites (List.Subset.refl _) hrest⟩
      · rw [hrun] at hcons
        refine .inr ⟨x :: done, y, rest, congrArg (x :: ·) hsplit, ⟨e, s', hcons, ?_⟩, s₂, ?_,
          hstop⟩
        · exact happend hwrites (hsplit ▸ List.subset_append_left _ _) hrest
        · rw [List.length_cons, List.take_succ_cons, perform_writeEach_cons hx, hwrite]
          dsimp only
          rw [hdone]
          rfl
    · rw [hwrite] at hcons
      exact .inr ⟨[], x, drafts, rfl, ⟨e, s₁, hcons, hwrites⟩, s, rfl, hadmits⟩

/-- **Modules that are there already** are written without a change. -/
theorem perform_writeEach_of_read (hdrafts : d.draftsOf files = .ok drafts)
    (hplain : ∀ x ∈ drafts, x.path.IsPlain) (hne : ∀ x ∈ drafts, x.path.components ≠ [])
    {s : Session} (hread : ∀ x ∈ drafts, s.files.read x.path = .ok x.content) :
    ∃ s', s.perform (d.writeEach files) = (.ok (drafts.map Draft.path), s') ∧
      s'.files = s.files := by
  have hall : List.Forall₂ (fun file x => d.draftOf file = .ok x) files drafts :=
    mapM_eq_ok_iff.1 hdrafts
  clear hdrafts
  induction hall generalizing s with
  | nil => exact ⟨s, rfl, rfl⟩
  | @cons file x files drafts hx _ ih =>
    obtain ⟨hxplain, hplain⟩ := List.forall_mem_cons.1 hplain
    obtain ⟨hxne, hne⟩ := List.forall_mem_cons.1 hne
    obtain ⟨hxread, hread⟩ := List.forall_mem_cons.1 hread
    obtain ⟨s₁, hwrite, hfiles⟩ := perform_writeText_of_read hxplain hxne hxread
    obtain ⟨s', hrun, hfiles'⟩ := ih hplain hne (s := s₁) (hfiles ▸ hread)
    refine ⟨s', ?_, hfiles'.trans hfiles⟩
    rw [perform_writeEach_cons hx, hwrite]
    dsimp only
    rw [hrun]
    rfl

/-- Writing all modules adds a record to writing each of them. -/
theorem perform_writeModules (d : Destination) (files : Entries String String) (s : Session) :
    s.perform (d.writeModules files) =
      match s.perform (d.writeEach files) with
      | (.error e, s') => (.error e, s')
      | (.ok paths, s') =>
        (.ok paths, s'.report ⟨.info, .fileWriter, s!"Wrote {paths.length} files"⟩) := by
  rw [writeModules, Session.perform_bind]
  cases s.perform (d.writeEach files) with
  | mk result s' => cases result <;> rfl

/-- After writing all modules the files are those after writing each of them. -/
theorem exists_perform_writeModules {s s' : Session} {result : Except Failure (List Path)}
    (h : s.perform (d.writeEach files) = (result, s')) :
    ∃ s'', s.perform (d.writeModules files) = (result, s'') ∧ s''.files = s'.files := by
  rw [perform_writeModules, h]
  cases result with
  | error e => exact ⟨s', rfl, rfl⟩
  | ok paths => exact ⟨_, rfl, Session.files_report _ _⟩

/-- **All modules are written**: the run gives their paths, each file holds its draft, and the same
run again changes no file. -/
def WritesAll (d : Destination) (files : Entries String String) (drafts : List Draft)
    (s : Session) : Prop :=
  ∃ s', s.perform (d.writeModules files) = (.ok (drafts.map Draft.path), s') ∧
    s.files.Writes s'.files drafts drafts ∧
    ∃ s'', s'.perform (d.writeModules files) = (.ok (drafts.map Draft.path), s'') ∧
      s''.files = s'.files

/-- **Only what stands before some module is written**: the run fails on the path of that module,
nothing is written of it and of what follows it, and a run up to it leaves a tree that does not
admit it. -/
def StopsBefore (d : Destination) (files : Entries String String) (drafts : List Draft)
    (s : Session) : Prop :=
  ∃ done x rest, drafts = done ++ x :: rest ∧
    (∃ e s', s.perform (d.writeModules files) = (.error (.unwritable x.path e), s') ∧
      s.files.Writes s'.files done (done ++ [x]) ∧
      ∀ y ∈ x :: rest, s'.files.HasSameFile s.files (s.files.placeOf y.path)) ∧
    ∃ s₁, s.perform (d.writeModules (files.take done.length)) = (.ok (done.map Draft.path), s₁) ∧
      ¬ s₁.files.Admits x.path

/-- **Modules are written all in their order, or up to the first one that cannot be written.** -/
theorem writesAll_or_stopsBefore (hdrafts : d.draftsOf files = .ok drafts)
    (hplain : ∀ x ∈ drafts, x.path.IsPlain) (hnodup : (drafts.map Draft.path).Nodup)
    (s : Session) : d.WritesAll files drafts s ∨ d.StopsBefore files drafts s := by
  rcases perform_writeEach hdrafts hplain hnodup s with ⟨s₁, hrun, hne, hwrites⟩ |
    ⟨done, x, rest, hsplit, ⟨e, s₁, hrun, hwrites⟩, s₂, hdone, hstop⟩
  · obtain ⟨s', hrun', hfiles'⟩ := exists_perform_writeModules hrun
    have hwrites' : s.files.Writes s'.files drafts drafts := hfiles' ▸ hwrites
    obtain ⟨s₂, hagain, hfiles₂⟩ := perform_writeEach_of_read hdrafts hplain hne hwrites'.read_eq
    obtain ⟨s'', hagain', hfiles''⟩ := exists_perform_writeModules hagain
    exact .inl ⟨s', hrun', hwrites', s'', hagain', hfiles''.trans hfiles₂⟩
  · obtain ⟨s', hrun', hfiles'⟩ := exists_perform_writeModules hrun
    obtain ⟨s₂', hdone', hfiles₂⟩ := exists_perform_writeModules hdone
    have hwrites' : s.files.Writes s'.files done (done ++ [x]) := hfiles' ▸ hwrites
    refine .inr ⟨done, x, rest, hsplit, ⟨e, s', hrun', hwrites', fun y hy => ?_⟩, s₂', hdone',
      hfiles₂ ▸ hstop⟩
    refine hwrites'.hasSameFile fun z hz he => ?_
    -- the paths of what was written and of what was not are different
    have hpaths := Tree.placeOf_inj (hplain z (hsplit ▸ List.mem_append_left _ hz))
      (hplain y (hsplit ▸ List.mem_append_right _ hy)) he
    rw [hsplit, List.map_append, List.nodup_append] at hnodup
    exact hnodup.2.2 _ (List.mem_map_of_mem hz) _ (List.mem_map_of_mem hy) hpaths

/-- A destination below the working directory. -/
def libDestination : Destination := { directory := some (Path.ofString "lib") }

/-- A module, and one below it. -/
def libFiles : Entries String String :=
  [("App::Schema", "package App::Schema;\n"),
    ("App::Schema::Result::Author", "package App::Schema::Result::Author;\n")]

/-- The drafts of both. -/
def libDrafts : List Draft :=
  [⟨⟨.working, ["lib", "App", "Schema.pm"]⟩, "package App::Schema;\n"⟩,
    ⟨⟨.working, ["lib", "App", "Schema", "Result", "Author.pm"]⟩,
      "package App::Schema::Result::Author;\n"⟩]

/-- A session where a file stands in the way of the second module. -/
def blockedSession : Session where
  files := {
    nodes := [(["home"], .directory), (["home", "lib"], .directory),
      (["home", "lib", "App"], .directory), (["home", "lib", "App", "Schema"], .file [])]
    working := ["home"] }

/-- In an empty tree both modules are written; where a file blocks the second, only the first is. -/
theorem writesAll_and_stopsBefore_lib :
    libDestination.draftsOf libFiles = .ok libDrafts ∧
      libDestination.WritesAll libFiles libDrafts {} ∧
      libDestination.StopsBefore libFiles libDrafts blockedSession := by
  have hdrafts : libDestination.draftsOf libFiles = .ok libDrafts := by decide +kernel
  have hplain : ∀ x ∈ libDrafts, x.path.IsPlain := by decide
  have hnodup : (libDrafts.map Draft.path).Nodup := by decide
  refine ⟨hdrafts, ?_, ?_⟩
  · rcases writesAll_or_stopsBefore hdrafts hplain hnodup {} with hall |
      ⟨_, _, _, _, ⟨_, _, hrun, _⟩, _⟩
    · exact hall
    · have hok : (Session.perform {} (libDestination.writeModules libFiles)).1.isOk = true := by
        decide +kernel
      rw [hrun] at hok
      cases hok
  · rcases writesAll_or_stopsBefore hdrafts hplain hnodup blockedSession with ⟨_, hrun, _⟩ | hstops
    · have hfails : (blockedSession.perform (libDestination.writeModules libFiles)).1.isOk =
          false := by
        decide +kernel
      rw [hrun] at hfails
      cases hfails
    · exact hstops

end Destination

end SchemaGen
