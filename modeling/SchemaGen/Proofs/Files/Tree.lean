import SchemaGen.Files.Tree
import SchemaGen.Proofs.Entries.Gathering
import SchemaGen.Proofs.Text.Lines
import Mathlib.Data.List.Infix

/-!
# Paths in a file tree

A plain path starts at the working directory and never leads up, so the place that it stands for is
known without a look at the tree: the names of the path behind the working directory
(`Tree.placeOf`). Whether the place can be reached is another matter. It can just if no name and no
path is too long and all that stands before it are directories (`Tree.locate_eq_ok_iff`), and
otherwise one of these is what it fails with (`Tree.cause_of_locate`).

So a file is read at a plain path just if it stands there at the end of directories
(`Tree.read_eq_ok_iff`).
-/

namespace SchemaGen

open Files (Place Node Tree Cause)

/-! ## Plain paths -/

/-- **A path that starts at the working directory and does not lead up.** -/
structure Path.IsPlain (p : Path) : Prop where
  root_eq : p.root = .working
  up_not_mem : ".." ∉ p.components
  not_hasNull : p.hasNull = false

instance (p : Path) : Decidable p.IsPlain :=
  decidable_of_iff (p.root = .working ∧ ".." ∉ p.components ∧ p.hasNull = false)
    ⟨fun ⟨hroot, hup, hnull⟩ => ⟨hroot, hup, hnull⟩, fun h => ⟨h.1, h.2, h.3⟩⟩

theorem Path.IsPlain.parent {p : Path} (h : p.IsPlain) : p.parent.IsPlain where
  root_eq := h.root_eq
  up_not_mem := fun hm => h.up_not_mem ((List.dropLast_sublist _).subset hm)
  not_hasNull := by
    have hnull : ∀ c ∈ p.components, ¬ c.toList.contains '\x00' = true := by
      have h := h.not_hasNull
      rwa [Path.hasNull, List.any_eq_false] at h
    rw [Path.hasNull, List.any_eq_false]
    exact fun c hc => hnull c ((List.dropLast_sublist _).subset hc)

/-- **No name of a path is too long, and neither is its text.** -/
structure Path.IsShort (p : Path) : Prop where
  text_le : p.toString.utf8ByteSize ≤ Tree.maxPath
  name_le : ∀ name ∈ p.components, name.utf8ByteSize ≤ Tree.maxName

/-- The text of a list of names gets shorter without the last one. -/
theorem Text.utf8ByteSize_join_dropLast_le (sep : String) (names : List String) :
    (Text.join sep names.dropLast).utf8ByteSize ≤ (Text.join sep names).utf8ByteSize := by
  rcases List.eq_nil_or_concat names with rfl | ⟨front, last, rfl⟩
  · exact le_rfl
  rw [List.concat_eq_append, List.dropLast_concat]
  by_cases hfront : front = []
  · rw [hfront]
    exact Nat.zero_le _
  rw [Text.join, Text.join, List.map_append, List.map_singleton,
    Text.glue_append_singleton _ (by simpa using hfront), List.append_assoc, String.ofList_append,
    String.utf8ByteSize_append]
  exact Nat.le_add_right _ _

theorem Path.IsShort.parent {p : Path} (hp : p.IsPlain) (h : p.IsShort) : p.parent.IsShort where
  text_le := by
    have hjoin := Text.utf8ByteSize_join_dropLast_le "/" p.components
    have htext := h.text_le
    have hroot : p.parent.root = .working := hp.root_eq
    rw [Path.toString, hp.root_eq, Path.Root.toString, String.empty_append] at htext
    rw [Path.toString, hroot, Path.Root.toString, String.empty_append]
    split
    · decide
    · split at htext
      · next hempty =>
        rw [hempty] at hjoin
        exact hjoin.trans (Nat.zero_le _)
      · exact hjoin.trans htext
  name_le := fun name hname => h.name_le name ((List.dropLast_sublist _).subset hname)

namespace Files.Tree

variable {t : Tree} {p : Path}

/-! ## Following names -/

/-- **Names that do not lead up are followed to the place behind them**, if they are short and
directories stand all the way to it. -/
theorem follow_eq_ok_iff {names : List String} (hup : ".." ∉ names) {here place : Place} :
    t.follow here names = .ok place ↔ place = here ++ names ∧
      (∀ name ∈ names, name.utf8ByteSize ≤ maxName) ∧
      ∀ front, front <+: names → front ≠ names → t.node? (here ++ front) = some .directory := by
  induction names generalizing here with
  | nil =>
    rw [follow, List.append_nil]
    constructor
    · intro h
      cases h
      exact ⟨rfl, List.forall_mem_nil _, fun front hfront hne =>
        absurd (List.prefix_nil.1 hfront) hne⟩
    · rintro ⟨rfl, -, -⟩
      rfl
  | cons name names ih =>
    obtain ⟨hname, hup⟩ := not_or.1 (List.mem_cons.not.1 hup)
    have hstep : here ++ name :: names = (here ++ [name]) ++ names := by
      rw [List.append_assoc, List.singleton_append]
    rw [follow]
    constructor
    · intro h
      split at h
      · cases h
      · cases h
      next hhere =>
      split at h
      · cases h
      next hshort =>
      rw [if_neg (Ne.symm hname)] at h
      obtain ⟨rfl, hshorts, hfronts⟩ := (ih hup).1 h
      refine ⟨hstep.symm, List.forall_mem_cons.2 ⟨Nat.not_lt.1 hshort, hshorts⟩, ?_⟩
      intro front hfront hne
      cases front with
      | nil => rwa [List.append_nil]
      | cons c front =>
        obtain ⟨rfl, hrest⟩ := List.cons_prefix_cons.1 hfront
        have h := hfronts front hrest fun he => hne (he ▸ rfl)
        rwa [List.append_assoc, List.singleton_append] at h
    · rintro ⟨rfl, hshorts, hfronts⟩
      obtain ⟨hshort, hshorts⟩ := List.forall_mem_cons.1 hshorts
      have hhere := hfronts [] (List.nil_prefix) (List.cons_ne_nil _ _).symm
      rw [List.append_nil] at hhere
      rw [hhere]
      dsimp only
      rw [if_neg (Nat.not_lt.2 hshort), if_neg (Ne.symm hname)]
      refine (ih hup).2 ⟨hstep, hshorts, fun front hfront hne => ?_⟩
      have h := hfronts (name :: front) (List.cons_prefix_cons.2 ⟨rfl, hfront⟩) fun he =>
        hne (List.cons_inj_right name |>.1 he)
      rwa [List.append_assoc, List.singleton_append]

/-- **What following names fails with** tells what is on the way. -/
theorem cause_of_follow {names : List String} (hup : ".." ∉ names) {here : Place} {e : Cause}
    (h : t.follow here names = .error e) :
    e = .notFound ∧ names ≠ [] ∨
      (∃ front, front <+: names ∧ ∃ content, t.node? (here ++ front) = some (.file content)) ∨
      ∃ name ∈ names, maxName < name.utf8ByteSize := by
  induction names generalizing here with
  | nil => cases h
  | cons name names ih =>
    obtain ⟨hname, hup⟩ := not_or.1 (List.mem_cons.not.1 hup)
    rw [follow] at h
    split at h
    · cases h
      exact .inl ⟨rfl, List.cons_ne_nil _ _⟩
    · next content hhere =>
      exact .inr (.inl ⟨[], List.nil_prefix, content, (List.append_nil here).symm ▸ hhere⟩)
    split at h
    · next hlong => exact .inr (.inr ⟨name, List.mem_cons_self, hlong⟩)
    rw [if_neg (Ne.symm hname)] at h
    rcases ih hup h with ⟨rfl, -⟩ | ⟨front, hfront, content, hfile⟩ | ⟨long, hmem, hlong⟩
    · exact .inl ⟨rfl, List.cons_ne_nil _ _⟩
    · refine .inr (.inl ⟨name :: front, List.cons_prefix_cons.2 ⟨rfl, hfront⟩, content, ?_⟩)
      rwa [List.append_assoc, List.singleton_append] at hfile
    · exact .inr (.inr ⟨long, List.mem_cons_of_mem _ hmem, hlong⟩)

/-! ## The place of a plain path -/

/-- **The place that a plain path stands for.** -/
def placeOf (t : Tree) (p : Path) : Place := t.working ++ p.components

/-- Plain paths that differ stand for different places. -/
theorem placeOf_inj {p q : Path} (hp : p.IsPlain) (hq : q.IsPlain)
    (h : t.placeOf p = t.placeOf q) : p = q := by
  have hcomponents : p.components = q.components := List.append_cancel_left h
  cases p
  cases q
  obtain rfl : _ = _ := hcomponents
  obtain rfl : _ = _ := hp.root_eq
  obtain rfl : _ = _ := hq.root_eq
  rfl

/-- What is to be followed for a plain path. -/
theorem locate_eq (hp : p.IsPlain) :
    t.locate p = if maxPath < p.toString.utf8ByteSize then .error .nameTooLong
      else t.follow t.working p.components := by
  rw [locate, hp.root_eq, if_pos rfl]

/-- **A plain path leads to its place** if it is short and there are directories all the way. -/
theorem locate_eq_ok_iff (hp : p.IsPlain) {place : Place} :
    t.locate p = .ok place ↔ place = t.placeOf p ∧ p.IsShort ∧
      ∀ front, front <+: p.components → front ≠ p.components →
        t.node? (t.working ++ front) = some .directory := by
  rw [locate_eq hp]
  constructor
  · intro h
    split at h
    · cases h
    next hlong =>
    obtain ⟨hplace, hnames, hfronts⟩ := (follow_eq_ok_iff hp.up_not_mem).1 h
    exact ⟨hplace, ⟨Nat.not_lt.1 hlong, hnames⟩, hfronts⟩
  · rintro ⟨hplace, hshort, hfronts⟩
    rw [if_neg (Nat.not_lt.2 hshort.text_le)]
    exact (follow_eq_ok_iff hp.up_not_mem).2 ⟨hplace, hshort.name_le, hfronts⟩

/-- **A short path through no file** is only missed where something is not there. -/
theorem cause_of_locate (hp : p.IsPlain) (hshort : p.IsShort)
    (hfiles : ∀ front, front <+: p.components → ∀ content,
      t.node? (t.working ++ front) ≠ some (.file content))
    {e : Cause} (h : t.locate p = .error e) : e = .notFound ∧ p.components ≠ [] := by
  rw [locate_eq hp, if_neg (Nat.not_lt.2 hshort.text_le)] at h
  rcases cause_of_follow hp.up_not_mem h with he | ⟨front, hfront, content, hfile⟩ |
    ⟨name, hname, hlong⟩
  · exact he
  · exact absurd hfile (hfiles front hfront content)
  · exact absurd (hshort.name_le name hname) (Nat.not_le.2 hlong)

/-- **A file is read at the end of directories.** -/
theorem read_eq_ok_iff (hp : p.IsPlain) {content : List UInt8} :
    t.read p = .ok content ↔ t.locate p = .ok (t.placeOf p) ∧
      t.node? (t.placeOf p) = some (.file content) := by
  rw [read]
  constructor
  · intro h
    split at h
    · cases h
    next place hplace =>
    obtain ⟨rfl, -⟩ := (locate_eq_ok_iff hp).1 hplace
    split at h
    · next hnode =>
      cases h
      exact ⟨hplace, hnode⟩
    · cases h
    · cases h
  · rintro ⟨hplace, hnode⟩
    rw [hplace]
    dsimp only
    rw [hnode]

/-! ## Nodes put again -/

/-- A node that is put where it is already changes nothing. -/
theorem put_eq_self {place : Place} {n : Node} (hne : place ≠ []) (h : t.node? place = some n) :
    t.put place n = t := by
  rw [node?, if_neg hne] at h
  have hset : Entries.set t.nodes place n = t.nodes := Entries.set_eq_self h
  rw [put, hset]

end Files.Tree

end SchemaGen
