import SchemaGen.Proofs.Host.Surroundings
import SchemaGen.Proofs.Target.Registration
import SchemaGen.Target.Making

/-!
# The aliases that are told of a target

What is told of a target goes by its family: the aliases are those of all targets that have the
family now (`mem_aliasesOf_iff`), each once and in the order of their characters
(`pairwise_aliasesOf`). It does not matter which family a target had when its alias was registered,
and no alias is forgotten when a target is registered anew.

As long as a family stands behind one target with aliases only, these are the aliases of the target
that was asked for. Targets that share a family are told the aliases of one another
(`listsAliases_of_lastFamily`, `aliases_sharedFamily`).
-/

namespace SchemaGen.Registry

/-! ## Sorted names -/

theorem mem_sorted {names : List String} {name : String} : name ∈ sorted names ↔ name ∈ names :=
  List.mem_mergeSort

/-- Names that differ are in strict order when they are sorted. -/
theorem pairwise_sorted {names : List String} (h : names.Nodup) :
    (sorted names).Pairwise (· < ·) := by
  have hle : (sorted names).Pairwise fun a b => decide (a ≤ b) = true := by
    refine List.pairwise_mergeSort (fun a b c hab hbc => ?_) (fun a b => ?_) names
    · exact decide_eq_true (String.le_trans (of_decide_eq_true hab) (of_decide_eq_true hbc))
    · simpa using String.le_total a b
  have hne : (sorted names).Pairwise (· ≠ ·) := (List.mergeSort_perm names _).nodup_iff.2 h
  exact (hle.and hne).imp fun hab => Std.lt_of_le_of_ne (of_decide_eq_true hab.1) hab.2

/-! ## Aliases of a family -/

variable {κ : Type} [GeneratorFamily κ]

theorem nodup_keys_aliases (cs : List (Registration κ)) : (ofRegistrations cs).aliases.keys.Nodup :=
  nodup_keys_aliases_registerAll (r := {}) Entries.nodup_keys_nil cs

variable [DecidableEq κ]

/-- **An alias is listed with a family** just if a registration gave it to a target that has the
family in the end. -/
theorem mem_aliasesOf_iff (cs : List (Registration κ)) (family : κ) (name : String) :
    name ∈ (ofRegistrations cs).aliasesOf family ↔
      ∃ c ∈ successful cs, name ∈ c.names ∧
        lastFamily (successful cs) c.key = some family := by
  rw [aliasesOf, mem_sorted, List.mem_map]
  constructor
  · rintro ⟨⟨name, owner⟩, hmem, rfl⟩
    obtain ⟨halias, hfamily⟩ := List.mem_filter.1 hmem
    have howner := Entries.get?_eq_some_of_mem (nodup_keys_aliases cs) halias
    rw [get?_aliases_ofRegistrations] at howner
    obtain ⟨c, hc, rfl⟩ := Option.map_eq_some_iff.1 howner
    rw [decide_eq_true_eq, get?_families_ofRegistrations] at hfamily
    exact ⟨c, List.mem_of_find?_eq_some hc, by simpa using List.find?_some hc, hfamily⟩
  · rintro ⟨c, hc, hname, hfamily⟩
    have howner : (ofRegistrations cs).aliases.get? name = some c.key :=
      get?_aliases_of_mem_accepted hc hname
    refine ⟨(name, c.key), List.mem_filter.2 ⟨Entries.mem_of_get?_eq_some howner, ?_⟩, rfl⟩
    rw [decide_eq_true_eq, get?_families_ofRegistrations]
    exact hfamily

/-- **The aliases of a family are listed once each, in order.** -/
theorem pairwise_aliasesOf (cs : List (Registration κ)) (family : κ) :
    ((ofRegistrations cs).aliasesOf family).Pairwise (· < ·) :=
  pairwise_sorted ((nodup_keys_aliases cs).sublist (List.filter_sublist.map _))

/-! ## What is told of a target -/

omit [GeneratorFamily κ] [DecidableEq κ] in
/-- A name that no other target took for an alias is its own owner. -/
theorem getD_firstOwner {cs : List (Registration κ)} {name : String}
    (h : ∀ c ∈ cs, name ∈ c.names → c.key = name) : (firstOwner cs name).getD name = name := by
  cases howner : firstOwner cs name with
  | none => rfl
  | some owner =>
    obtain ⟨c, hc, rfl⟩ := Option.map_eq_some_iff.1 howner
    exact h c (List.mem_of_find?_eq_some hc) (by simpa using List.find?_some hc)

/-- What is told of a target is what is told of its family, if that leaves nothing open. -/
theorem perform_info {r : Registry κ} {target : String} {family : κ}
    (h : r.find target = .ok family) (hmissing : GeneratorFamily.missing family = [])
    (session : Session) :
    session.perform (r.info target) = (.ok (r.infoOf family), session) := by
  rw [info, Session.perform_bind, h]
  show session.perform (Run.ofExcept .incompleteFamily (makeGenerator family {}) >>= _) = _
  rw [makeGenerator, hmissing]
  rfl

/-- **A target whose name was taken by no other target is told of**, with the aliases that were
registered for it and for all other targets of its family, each once and in order. If no other
target with aliases has the family, these are its own. -/
theorem listsAliases_of_lastFamily (cs : List (Registration κ)) {target : String} {family : κ}
    (h : lastFamily (successful cs) (Text.lower target) = some family)
    (hown : ∀ c ∈ successful cs, Text.lower target ∈ c.names → c.key = Text.lower target)
    (hmissing : GeneratorFamily.missing family = []) (session : Session) :
    ∃ i, session.perform ((ofRegistrations cs).info target) = (.ok i, session) ∧
      i.aliases.Pairwise (· < ·) ∧
      (∀ name, name ∈ i.aliases ↔ ∃ c ∈ successful cs, name ∈ c.names ∧
        lastFamily (successful cs) c.key = some family) ∧
      ((∀ c ∈ successful cs, c.names ≠ [] → lastFamily (successful cs) c.key = some family →
          c.key = Text.lower target) →
        ∀ name, name ∈ i.aliases ↔ ∃ c ∈ successful cs, name ∈ c.names ∧
          c.key = Text.lower target) := by
  have hfind : (ofRegistrations cs).find target = .ok family :=
    find_ofRegistrations (by rw [getD_firstOwner hown, h])
  refine ⟨_, perform_info hfind hmissing session, pairwise_aliasesOf cs family,
    mem_aliasesOf_iff cs family, fun halone name => ?_⟩
  refine (mem_aliasesOf_iff cs family name).trans ⟨?_, ?_⟩
  · rintro ⟨c, hc, hname, hfamily⟩
    exact ⟨c, hc, hname, halone c hc (List.ne_nil_of_mem hname) hfamily⟩
  · rintro ⟨c, hc, hname, hkey⟩
    exact ⟨c, hc, hname, hkey ▸ h⟩

/-- A target that is registered once more with another family, after a target that has the first
one still. -/
def renewed : List (Registration SampleFamily) :=
  [{ target := "Perl5", family := .classes, aliases := ["perl", "P5"] },
   { target := "other", family := .classes, aliases := ["alt"] },
   { target := "PERL5", family := .otherClasses, aliases := ["five"] }]

/-- It is told the aliases of both of its registrations and no others. -/
theorem listsAliases_renewed :
    ∃ i, Session.perform {} ((ofRegistrations renewed).info "perl5") = (.ok i, {}) ∧
      i.aliases.Pairwise (· < ·) ∧
      ∀ name, name ∈ i.aliases ↔ ∃ c ∈ successful renewed, name ∈ c.names ∧ c.key = "perl5" := by
  have h : lastFamily (successful renewed) (Text.lower "perl5") = some .otherClasses := by
    decide +kernel
  have hown : ∀ c ∈ successful renewed, Text.lower "perl5" ∈ c.names →
      c.key = Text.lower "perl5" := by decide +kernel
  have halone : ∀ c ∈ successful renewed, c.names ≠ [] →
      lastFamily (successful renewed) c.key = some .otherClasses →
        c.key = Text.lower "perl5" := by decide +kernel
  obtain ⟨i, hi, horder, -, hnames⟩ := listsAliases_of_lastFamily renewed h hown rfl {}
  have hlower : Text.lower "perl5" = "perl5" := by decide +kernel
  rw [hlower] at hnames halone
  exact ⟨i, hi, horder, hnames halone⟩

/-- Two targets with one family. -/
def sharedFamily : List (Registration SampleFamily) :=
  [{ target := "a", family := .classes, aliases := ["x"] },
   { target := "b", family := .classes, aliases := ["Y"] }]

/-- **A target may be told an alias that was never registered for it**, but for another target of
its family. -/
theorem aliases_sharedFamily :
    (∃ i, Session.perform {} ((ofRegistrations sharedFamily).info "a") = (.ok i, {}) ∧
      i.aliases = ["x", "y"]) ∧
    (∀ c ∈ successful sharedFamily, ∀ name ∈ c.names, ∀ d ∈ successful sharedFamily,
      d.key ≠ name) ∧
    ∀ c ∈ successful sharedFamily, c.key = Text.lower "a" → "y" ∉ c.names := by
  have hfind : (ofRegistrations sharedFamily).find "a" = .ok .classes := by decide +kernel
  refine ⟨⟨_, perform_info hfind rfl {}, ?_⟩, by decide +kernel, by decide +kernel⟩
  have hnames : ((ofRegistrations sharedFamily).aliases.filter fun a =>
      (ofRegistrations sharedFamily).families.get? a.2 = some .classes).map Prod.fst
        = ["x", "y"] := by decide +kernel
  show sorted _ = _
  rw [hnames, sorted]
  exact List.mergeSort_of_pairwise (by decide +kernel)

end SchemaGen.Registry
