import SchemaGen.Proofs.Entries.Gathering
import SchemaGen.Target.Registration
import SchemaGen.Target.Shipped

/-!
# What registrations leave

A registration either is refused, and then leaves the registry as it was, or enters its family and
all its aliases (`Registration.run_cases`). For no alias is stored before all of them were checked.

So a registry is told by the registrations that it accepted: a target has the family of the last of
them (`get?_families_registerAll`), an alias leads to the target of the first
(`get?_aliases_registerAll`). Hence an alias leads to a target that there is, and to the same one
for ever (`keepsAliases_ofRegistrations`).

A target can lose its own name to an alias, since an alias is checked against aliases alone and is
looked up first. What is found under a name is the family of the owner of the name
(`find_of_lastFamily`), and this need not be the target of that name (`find_ne_of_takenName`).
-/

namespace SchemaGen

variable {κ : Type}

/-! ## Step by step -/

namespace Registering

theorem get_apply (r : Registry κ) : (get : Registering κ (Registry κ)) r = (.ok r, r) := rfl

theorem bind_apply {α β : Type} (x : Registering κ α) (f : α → Registering κ β) (r : Registry κ) :
    (x >>= f) r = match x r with
      | (.ok a, r') => f a r'
      | (.error e, r') => (.error e, r') := by
  show (match x r with | (a, r') => ExceptT.bindCont f a r') = _
  rcases x r with ⟨_ | _, r'⟩ <;> rfl

end Registering

namespace Registration

/-- A check fails at an alias that is taken, and changes nothing. -/
theorem checkAlias_apply (target name : String) (r : Registry κ) :
    checkAlias target name r
      = ((r.aliases.get? (Text.lower name)).elim (.ok ()) fun owner =>
          if owner = target then .ok () else .error (.aliasTaken name owner), r) := by
  rw [checkAlias, Registering.bind_apply, Registering.get_apply]
  dsimp only
  cases r.aliases.get? (Text.lower name) with
  | none => rfl
  | some owner =>
    by_cases ho : owner = target
    · simp only [Option.elim, if_pos ho]
      rfl
    · simp only [Option.elim, if_neg ho]
      rfl

/-- The checks stop at the first alias that is taken. -/
theorem forM_checkAlias (target : String) (names : List String) (r : Registry κ) :
    (names.forM (checkAlias target)) r
      = (match r.takenAlias? target names with
          | some (a, owner) => .error (.aliasTaken a owner)
          | none => .ok (), r) := by
  induction names with
  | nil => rfl
  | cons name names ih =>
    show (checkAlias target name >>= fun _ => names.forM (checkAlias target)) r = _
    rw [Registering.bind_apply, checkAlias_apply, Registry.takenAlias?, List.findSome?_cons]
    cases r.aliases.get? (Text.lower name) with
    | none => exact ih
    | some owner =>
      by_cases ho : owner = target
      · simp only [Option.elim, if_pos ho]
        exact ih
      · simp only [Option.elim, if_neg ho]

/-- Pointing some aliases to a target sets them one after the other. -/
theorem forM_pointAlias (target : String) (names : List String) (r : Registry κ) :
    (names.forM (pointAlias target)) r = (.ok (), { r with
      aliases := names.foldl (fun acc a => Entries.set acc (Text.lower a) target) r.aliases }) := by
  induction names generalizing r with
  | nil => rfl
  | cons name names ih =>
    show (pointAlias target name >>= fun _ => names.forM (pointAlias target)) r = _
    rw [Registering.bind_apply]
    exact ih _

/-! ## One registration -/

/-- The aliases as they are entered. -/
def names (c : Registration κ) : List String := c.aliases.map Text.lower

theorem takenAlias?_eq_none_iff {r : Registry κ} {target : String} {names : List String} :
    r.takenAlias? target names = none ↔
      ∀ a ∈ names, ∀ owner, r.aliases.get? (Text.lower a) = some owner → owner = target := by
  rw [Registry.takenAlias?, List.findSome?_eq_none_iff]
  refine forall₂_congr fun a _ => ?_
  cases r.aliases.get? (Text.lower a) with
  | none => exact ⟨fun _ _ => nofun, fun _ => rfl⟩
  | some owner => simp

/-- Names that are set lead to their target, and all others where they led before. -/
theorem get?_foldl_set (target : String) (names : List String) (es : Entries String String)
    (a : String) :
    (names.foldl (fun acc n => Entries.set acc (Text.lower n) target) es).get? a
      = if a ∈ names.map Text.lower then some target else es.get? a := by
  induction names generalizing es with
  | nil => rfl
  | cons n names ih =>
    rw [List.foldl_cons, ih, List.map_cons]
    by_cases hn : Text.lower n = a
    · subst hn
      simp
    · simp [Entries.get?_set_of_ne _ _ hn, Ne.symm hn]

theorem nodup_keys_foldl_set (target : String) (names : List String) {es : Entries String String}
    (h : es.keys.Nodup) :
    (names.foldl (fun acc n => Entries.set acc (Text.lower n) target) es).keys.Nodup := by
  induction names generalizing es with
  | nil => exact h
  | cons n names ih => exact ih (Entries.nodup_keys_alter h _ _)

variable [GeneratorFamily κ]

/-- **What a registry refuses**: what is no family of generators, and an alias that points to
another target. -/
def IsRefused (c : Registration κ) (r : Registry κ) : Prop :=
  GeneratorFamily.isGenerator c.family = false ∨
    ∃ name ∈ c.names, ∃ owner, r.aliases.get? name = some owner ∧ owner ≠ c.key

/-- **What a registration changes**: the family of its target, and the owners of its aliases. -/
structure Enters (c : Registration κ) (r r' : Registry κ) : Prop where
  not_isRefused : ¬ c.IsRefused r
  get?_families : ∀ t, r'.families.get? t = if c.key = t then some c.family else r.families.get? t
  get?_aliases : ∀ a, r'.aliases.get? a = if a ∈ c.names then some c.key else r.aliases.get? a
  aliases_nodup : r.aliases.keys.Nodup → r'.aliases.keys.Nodup

/-- Step by step a registration comes to the same as `Registry.register`, and where that fails, the
registry is as it was. -/
theorem run_eq (c : Registration κ) (r : Registry κ) :
    c.run r = match r.register c.target c.family c.aliases with
      | .ok r' => (.ok (), r')
      | .error e => (.error e, r) := by
  have hkey : Text.lower c.target = c.key := rfl
  rw [run, perform, Registry.register]
  simp only [hkey]
  split
  · rfl
  · show (c.aliases.forM (checkAlias c.key) >>= _) r = _
    rw [Registering.bind_apply, forM_checkAlias]
    cases r.takenAlias? c.key c.aliases with
    | some taken => rfl
    | none => exact forM_pointAlias c.key c.aliases _

/-- **A registration is refused and changes nothing, or it enters all that it gives.** -/
theorem run_cases (c : Registration κ) (r : Registry κ) :
    (c.IsRefused r ∧ ∃ e, c.run r = (.error e, r)) ∨
      ∃ r', c.run r = (.ok (), r') ∧ c.Enters r r' := by
  have hkey : Text.lower c.target = c.key := rfl
  rw [run_eq, Registry.register]
  simp only [hkey]
  by_cases hfamily : GeneratorFamily.isGenerator c.family = false
  · rw [if_pos hfamily]
    exact .inl ⟨.inl hfamily, _, rfl⟩
  rw [if_neg hfamily]
  have hfree : r.takenAlias? c.key c.aliases = none ↔ _ := takenAlias?_eq_none_iff
  cases htaken : r.takenAlias? c.key c.aliases with
  | some taken =>
    refine .inl ⟨.inr ?_, _, rfl⟩
    rw [htaken] at hfree
    simp only [reduceCtorEq, false_iff, not_forall] at hfree
    obtain ⟨a, ha, owner, howner, hne⟩ := hfree
    exact ⟨_, List.mem_map_of_mem ha, owner, howner, hne⟩
  | none =>
    refine .inr ⟨_, rfl, ?_, ?_, get?_foldl_set c.key c.aliases r.aliases,
      nodup_keys_foldl_set c.key c.aliases⟩
    · rintro (hfamily' | ⟨_, hname, owner, howner, hne⟩)
      · exact hfamily hfamily'
      · obtain ⟨a, ha, rfl⟩ := List.mem_map.1 hname
        exact hne (hfree.1 htaken a ha owner howner)
    · intro t
      split
      · next ht => rw [← ht, Entries.get?_set_self]
      · next ht => rw [Entries.get?_set_of_ne _ _ ht]

end Registration

/-! ## One after the other -/

namespace Registry

/-- The family that the last of some registrations gave a target. -/
def lastFamily (cs : List (Registration κ)) (target : String) : Option κ :=
  (cs.filter (·.key = target)).getLast?.map Registration.family

/-- The target to which the first of some registrations pointed an alias. -/
def firstOwner (cs : List (Registration κ)) (name : String) : Option String :=
  (cs.find? (name ∈ ·.names)).map Registration.key

theorem lastFamily_cons (c : Registration κ) (cs : List (Registration κ)) (target : String) :
    lastFamily (c :: cs) target
      = (lastFamily cs target).or (if c.key = target then some c.family else none) := by
  rw [lastFamily, lastFamily]
  by_cases h : c.key = target
  · rw [List.filter_cons_of_pos (by simpa using h), List.getLast?_cons, if_pos h]
    cases (cs.filter (·.key = target)).getLast? <;> rfl
  · rw [List.filter_cons_of_neg (by simpa using h), if_neg h, Option.or_none]

theorem firstOwner_cons (c : Registration κ) (cs : List (Registration κ)) (name : String) :
    firstOwner (c :: cs) name = if name ∈ c.names then some c.key else firstOwner cs name := by
  rw [firstOwner, firstOwner, List.find?_cons]
  by_cases h : name ∈ c.names <;> simp [h]

variable [GeneratorFamily κ]

/-- The registrations that a registry accepts, in order. -/
def accepted (r : Registry κ) : List (Registration κ) → List (Registration κ)
  | [] => []
  | c :: cs =>
    match c.run r with
    | (.ok _, r') => c :: accepted r' cs
    | (.error _, r') => accepted r' cs

/-- **A target has the family of its last registration.** -/
theorem get?_families_registerAll (r : Registry κ) (cs : List (Registration κ)) (target : String) :
    (r.registerAll cs).families.get? target
      = (lastFamily (r.accepted cs) target).or (r.families.get? target) := by
  induction cs generalizing r with
  | nil => rfl
  | cons c cs ih =>
    rw [registerAll, List.foldl_cons, accepted]
    rcases c.run_cases r with ⟨-, e, hrun⟩ | ⟨r', hrun, henters⟩
    · rw [hrun]
      exact ih r
    · rw [hrun]
      refine (ih r').trans ?_
      rw [lastFamily_cons, henters.get?_families, Option.or_assoc]
      congr 1
      split <;> rfl

/-- **An alias leads where the first registration pointed it.** -/
theorem get?_aliases_registerAll (r : Registry κ) (cs : List (Registration κ)) (name : String) :
    (r.registerAll cs).aliases.get? name
      = (r.aliases.get? name).or (firstOwner (r.accepted cs) name) := by
  induction cs generalizing r with
  | nil => exact (Option.or_none).symm
  | cons c cs ih =>
    rw [registerAll, List.foldl_cons, accepted]
    rcases c.run_cases r with ⟨-, e, hrun⟩ | ⟨r', hrun, henters⟩
    · rw [hrun]
      exact ih r
    · rw [hrun]
      refine (ih r').trans ?_
      rw [firstOwner_cons, henters.get?_aliases]
      split
      · next hname =>
        -- an alias that was known already belongs to the target that gives it once more
        cases howner : r.aliases.get? name with
        | none => rfl
        | some owner =>
          by_cases hne : owner = c.key
          · rw [hne]
            rfl
          · exact absurd (.inr ⟨name, hname, owner, howner, hne⟩) henters.not_isRefused
      · rfl

/-! ## From an empty registry -/

/-- The registrations that succeed when they are made one after the other, from an empty registry
on. -/
def successful (cs : List (Registration κ)) : List (Registration κ) := accepted {} cs

theorem get?_families_ofRegistrations (cs : List (Registration κ)) (target : String) :
    (ofRegistrations cs).families.get? target = lastFamily (successful cs) target :=
  (get?_families_registerAll {} cs target).trans Option.or_none

theorem get?_aliases_ofRegistrations (cs : List (Registration κ)) (name : String) :
    (ofRegistrations cs).aliases.get? name = firstOwner (successful cs) name :=
  get?_aliases_registerAll {} cs name

/-- An alias that a registration was accepted with leads to its target at the end. -/
theorem get?_aliases_of_mem_accepted {r : Registry κ} {cs : List (Registration κ)}
    {c : Registration κ} (hc : c ∈ r.accepted cs) {name : String} (hname : name ∈ c.names) :
    (r.registerAll cs).aliases.get? name = some c.key := by
  induction cs generalizing r with
  | nil => cases hc
  | cons d cs ih =>
    rw [accepted] at hc
    rw [registerAll, List.foldl_cons]
    rcases d.run_cases r with ⟨-, e, hrun⟩ | ⟨r', hrun, henters⟩
    · rw [hrun] at hc ⊢
      exact ih hc
    · rw [hrun] at hc ⊢
      rcases List.mem_cons.1 hc with rfl | hc
      · refine (get?_aliases_registerAll r' cs name).trans ?_
        rw [henters.get?_aliases, if_pos hname]
        rfl
      · exact ih hc

theorem registerAll_append (r : Registry κ) (cs later : List (Registration κ)) :
    r.registerAll (cs ++ later) = (r.registerAll cs).registerAll later :=
  List.foldl_append

/-- No alias is stored twice. -/
theorem nodup_keys_aliases_registerAll {r : Registry κ} (h : r.aliases.keys.Nodup)
    (cs : List (Registration κ)) : (r.registerAll cs).aliases.keys.Nodup := by
  induction cs generalizing r with
  | nil => exact h
  | cons c cs ih =>
    rw [registerAll, List.foldl_cons]
    rcases c.run_cases r with ⟨-, e, hrun⟩ | ⟨r', hrun, henters⟩
    · rw [hrun]
      exact ih h
    · rw [hrun]
      exact ih (henters.aliases_nodup h)

omit [GeneratorFamily κ] in
/-- A target that was registered has a family. -/
theorem exists_lastFamily {cs : List (Registration κ)} {c : Registration κ} (hc : c ∈ cs) :
    ∃ family, lastFamily cs c.key = some family := by
  have hne : cs.filter (·.key = c.key) ≠ [] :=
    List.ne_nil_of_mem (List.mem_filter.2 ⟨hc, decide_eq_true rfl⟩)
  exact ⟨_, by rw [lastFamily, List.getLast?_eq_some_getLast hne]; rfl⟩

omit [GeneratorFamily κ] in
/-- So has the owner of an alias. -/
theorem exists_lastFamily_of_firstOwner {cs : List (Registration κ)} {name owner : String}
    (h : firstOwner cs name = some owner) : ∃ family, lastFamily cs owner = some family := by
  obtain ⟨c, hc, rfl⟩ := Option.map_eq_some_iff.1 h
  exact exists_lastFamily (List.mem_of_find?_eq_some hc)

/-- **The family of the owner of a name is what is found under it**; a name that is no alias is its
own owner. -/
theorem find_ofRegistrations {cs : List (Registration κ)} {name : String} {family : κ}
    (h : lastFamily (successful cs)
      ((firstOwner (successful cs) (Text.lower name)).getD (Text.lower name)) = some family) :
    (ofRegistrations cs).find name = .ok family := by
  rw [find, get?_aliases_ofRegistrations, get?_families_ofRegistrations, h]

/-- **A target is found under its name unless the name is an alias of another target.** In any case
something is found there: the family last registered for the owner of the name. -/
theorem find_of_lastFamily (cs : List (Registration κ)) {name : String} {family : κ}
    (h : lastFamily (successful cs) (Text.lower name) = some family) :
    ∃ found, (ofRegistrations cs).find name = .ok found ∧
      lastFamily (successful cs)
        ((firstOwner (successful cs) (Text.lower name)).getD (Text.lower name)) = some found ∧
      ((∀ c ∈ successful cs, Text.lower name ∈ c.names → c.key = Text.lower name) →
        found = family) := by
  cases howner : firstOwner (successful cs) (Text.lower name) with
  | none =>
    refine ⟨family, find_ofRegistrations ?_, h, fun _ => rfl⟩
    rw [howner]
    exact h
  | some owner =>
    obtain ⟨found, hfound⟩ := exists_lastFamily_of_firstOwner howner
    refine ⟨found, find_ofRegistrations ?_, hfound, fun hown => ?_⟩
    · rw [howner]
      exact hfound
    · -- the registration that made the alias is one of the target itself
      obtain ⟨c, hc, rfl⟩ := Option.map_eq_some_iff.1 howner
      have hkey := hown c (List.mem_of_find?_eq_some hc) (by simpa using List.find?_some hc)
      rw [hkey] at hfound
      exact Option.some.inj (hfound.symm.trans h)

end Registry

/-- Families for the samples. -/
inductive SampleFamily where
  | classes
  | otherClasses
  | noGenerator
deriving DecidableEq

instance : GeneratorFamily SampleFamily where
  name
    | .classes => "Classes"
    | .otherClasses => "OtherClasses"
    | .noGenerator => "Text"
  module _ := Log.Source.classWriter.name
  isGenerator f := f ≠ .noGenerator
  missing _ := []
  make _ := Perl.generator

/-- Three registrations, the last two of which try to take a name that is known already: one an
alias, which is refused, and one the name of a target, which is not. -/
def takenName : List (Registration SampleFamily) :=
  [{ target := "dbic", family := .classes, aliases := ["perl"] },
   { target := "other", family := .otherClasses, aliases := ["new", "Perl"] },
   { target := "Other", family := .otherClasses, aliases := ["new", "DBIC"] }]

namespace Registry

theorem find_takenName : ∃ found, lastFamily (successful takenName) (Text.lower "OTHER")
      = some .otherClasses ∧
    (ofRegistrations takenName).find "OTHER" = .ok found ∧ found = .otherClasses := by
  have h : lastFamily (successful takenName) (Text.lower "OTHER") = some .otherClasses := by
    decide +kernel
  have hown : ∀ c ∈ successful takenName, Text.lower "OTHER" ∈ c.names →
      c.key = Text.lower "OTHER" := by decide +kernel
  obtain ⟨found, hfind, -, hfound⟩ := find_of_lastFamily takenName h
  exact ⟨found, h, hfind, hfound hown⟩

/-- **A target need not be found under its own name**: the family of another target is, once its
registration took the name for an alias. -/
theorem find_ne_of_takenName :
    lastFamily (successful takenName) (Text.lower "dbic") = some .classes ∧
      (ofRegistrations takenName).find "dbic" = .ok .otherClasses := by
  decide +kernel

variable [GeneratorFamily κ]

/-- **The aliases of a registry that can be relied on**, where the registry is what some
registrations leave. -/
structure KeepsAliases (cs : List (Registration κ)) : Prop where
  /-- Every alias points to a target that has a family. -/
  owner_mem : ∀ a ∈ (ofRegistrations cs).aliases,
    ∃ family, (ofRegistrations cs).families.get? a.2 = some family
  /-- Under an alias the family last registered for its owner is found. -/
  find_alias : ∀ name owner, (ofRegistrations cs).aliases.get? (Text.lower name) = some owner →
    ∃ family, lastFamily (successful cs) owner = some family ∧
      (ofRegistrations cs).find name = .ok family
  /-- An alias that was accepted stays with its target, whatever registrations follow. -/
  owner_eq : ∀ c ∈ successful cs, ∀ a ∈ c.aliases, ∀ later,
    (ofRegistrations (cs ++ later)).aliases.get? (Text.lower a) = some c.key
  /-- Just what has to be refused is refused, and it changes nothing. -/
  refused : ∀ c : Registration κ, (c.IsRefused (ofRegistrations cs) ↔
      ∃ e, (c.run (ofRegistrations cs)).1 = .error e) ∧
    ∀ e, (c.run (ofRegistrations cs)).1 = .error e →
      (c.run (ofRegistrations cs)).2 = ofRegistrations cs

/-- **The aliases of every registry can be relied on**, whatever was registered, and in whatever
order. -/
theorem keepsAliases_ofRegistrations (cs : List (Registration κ)) : KeepsAliases cs where
  owner_mem := by
    intro a ha
    have hnodup : (ofRegistrations cs).aliases.keys.Nodup :=
      nodup_keys_aliases_registerAll (r := {}) List.nodup_nil cs
    have howner := Entries.get?_eq_some_of_mem hnodup ha
    rw [get?_aliases_ofRegistrations] at howner
    rw [get?_families_ofRegistrations]
    exact exists_lastFamily_of_firstOwner howner
  find_alias := by
    intro name owner howner
    rw [get?_aliases_ofRegistrations] at howner
    obtain ⟨family, hfamily⟩ := exists_lastFamily_of_firstOwner howner
    refine ⟨family, hfamily, find_ofRegistrations ?_⟩
    rw [howner]
    exact hfamily
  owner_eq := by
    intro c hc a ha later
    rw [ofRegistrations, registerAll_append, get?_aliases_registerAll,
      get?_aliases_of_mem_accepted hc (List.mem_map_of_mem ha)]
    rfl
  refused := by
    intro c
    rcases c.run_cases (ofRegistrations cs) with ⟨hrefused, e, hrun⟩ | ⟨r', hrun, henters⟩
    · rw [hrun]
      exact ⟨⟨fun _ => ⟨e, rfl⟩, fun _ => hrefused⟩, fun _ _ => rfl⟩
    · rw [hrun]
      exact ⟨⟨fun hrefused => absurd hrefused henters.not_isRefused, nofun⟩, nofun⟩

/-- A free alias in front of one that is taken is not stored either. -/
example : Registration.run
      { target := "other", family := .otherClasses, aliases := ["new", "Perl"] }
      (ofRegistrations (takenName.take 1))
    = (.error (.aliasTaken "Perl" "dbic"), ofRegistrations (takenName.take 1)) := by
  decide +kernel

end Registry

end SchemaGen
