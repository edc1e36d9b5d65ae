import SchemaGen.Perl.Factory
import SchemaGen.Proofs.Settings.Precedence

/-!
# Generators from overrides

A generator may be made from settings and some overrides. For this the settings become fields, the
overrides are laid over them, and what comes out is resolved like the overrides of any caller, the
defaults below it. That the defaults come in again does no harm: only a null is not given among
overrides, and settings that pass the check have a null only where that is the default anyway, or
where it stands for the default (`get?_toFields_or_default`). So the settings are kept but for what
the overrides replace, and the whole is checked (`override_eq`). The custom settings stay among
themselves in this: a field of theirs under the name of a setting is not taken for one.
-/

namespace SchemaGen

namespace Settings

variable {given s t : Settings} {overrides own fields : Entries String Value} {name : String}

/-! ## Settings among the layers -/

theorem nodup_keys_toFields (s : Settings) : s.toFields.keys.Nodup := by
  show fieldNames.Nodup
  decide

theorem unknownFields_toFields (s : Settings) : unknownFields s.toFields = [] := rfl

theorem isNull_of_ne {v : Value} (h : v ≠ .null) : v.isNull = false := by
  cases v with
  | null => exact absurd rfl h
  | _ => rfl

/-- A value that is given again stands; null makes room for the default. -/
theorem filter_or_eq_settled {v default : Value} (h : v = .null → default = settled name .null) :
    ((some v).filter (!·.isNull)).or (some default) = some (settled name v) := by
  by_cases hv : v = .null
  · subst hv
    rw [← h rfl]
    rfl
  · have hsettled : settled name v = v := if_neg fun hn => hv hn.2
    rw [hsettled, Option.filter_some, isNull_of_ne hv]
    rfl

/-- **Settings that pass the check stand up to being given again**: where they are null, a default
takes their place, and that is what the check makes of them. -/
theorem get?_toFields_or_default (h : given.check = .ok s) (hname : name ∈ fieldNames) :
    ((given.toFields.get? name).filter (!·.isNull)).or ((toFields {}).get? name)
      = s.toFields.get? name := by
  rw [get?_toFields_of_check h hname]
  obtain ⟨checked, -, hlayout, hextension, hindent, hcomments, -, -, hcustom, -⟩ :=
    check_eq_ok_iff.1 h
  rcases mem_fieldNames hname with rfl | rfl | rfl | rfl | rfl | rfl | rfl | rfl
  · exact filter_or_eq_settled fun _ => rfl
  · exact filter_or_eq_settled fun _ => rfl
  · exact filter_or_eq_settled fun _ => rfl
  · exact filter_or_eq_settled fun hnull => by rw [hnull] at hextension; cases hextension
  · exact filter_or_eq_settled fun hnull => by rw [hnull] at hlayout; cases hlayout
  · exact filter_or_eq_settled fun hnull => by rw [hnull] at hindent; cases hindent
  · exact filter_or_eq_settled fun hnull => by rw [hnull] at hcomments; cases hcomments
  · exact filter_or_eq_settled fun hnull => by rw [hnull] at hcustom; cases hcustom

/-! ## Overriding -/

/-- **What is read through all layers**: an override, or else what was there. -/
theorem get?_layers_override (h : given.check = .ok s) (hkeys : overrides.keys.Nodup)
    (hgiven : ∀ f ∈ overrides, f.2 ≠ .null) (hname : name ∈ fieldNames) :
    (layers [] (given.toFields.merge overrides)).get? name
      = (overrides.get? name).or (s.toFields.get? name) := by
  have hmerge := Entries.nodup_keys_merge (nodup_keys_toFields given) overrides
  rw [get?_layers Entries.nodup_keys_nil hmerge, inEffect, Entries.get?_merge _ hkeys]
  cases hget : overrides.get? name with
  | none => exact (congrArg (Option.or · _) Option.or_none).trans (get?_toFields_or_default h hname)
  | some v =>
    have hv : v ≠ .null := hgiven _ (Entries.mem_of_get?_eq_some hget)
    rw [Option.some_or, Option.filter_some, isNull_of_ne hv]
    rfl

theorem givenFields_eq_self (h : ∀ f ∈ fields, f.2 ≠ .null) : givenFields fields = fields :=
  List.filter_eq_self.2 fun f hf => by rw [isNull_of_ne (h f hf), Bool.not_false]

/-- Only the overrides have fields that are no settings. -/
theorem unknownFields_layers_override (given : Settings) (hkeys : overrides.keys.Nodup)
    (hgiven : ∀ f ∈ overrides, f.2 ≠ .null) :
    unknownFields (layers [] (given.toFields.merge overrides)) = unknownFields overrides := by
  have hfresh : Entries.ofList (unknownFields overrides) = unknownFields overrides :=
    Entries.merge_of_fresh (nodup_keys_unknownFields hkeys) fun _ _ => List.not_mem_nil
  have hunknown : unknownFields (given.toFields.merge overrides) = unknownFields overrides := by
    rw [unknownFields_merge, unknownFields_toFields]
    exact hfresh
  have hcomm : unknownFields (givenFields (given.toFields.merge overrides))
      = givenFields (unknownFields (given.toFields.merge overrides)) :=
    List.filter_comm _ _ _
  have hgivenUnknown : ∀ f ∈ unknownFields overrides, f.2 ≠ .null := fun f hf =>
    hgiven f (List.mem_filter.1 hf).1
  rw [unknownFields_layers, hcomm, hunknown, givenFields_eq_self hgivenUnknown]
  exact hfresh

/-- **Overriding is replacing and checking.** -/
theorem override_eq (h : given.check = .ok s) (hkeys : overrides.keys.Nodup)
    (hgiven : ∀ f ∈ overrides, f.2 ≠ .null)
    (hown : (overrides.get? "custom").getD s.custom = .object own) :
    given.override overrides = (s.replaced own overrides).check := by
  have hmerge := Entries.nodup_keys_merge (nodup_keys_toFields given) overrides
  have hunknown := unknownFields_layers_override given hkeys hgiven
  have hcustom : (withFields {} (layers [] (given.toFields.merge overrides))).custom
      = .object own := by
    show ((layers [] (given.toFields.merge overrides)).get? "custom").getD _ = _
    rw [get?_layers_override h hkeys hgiven (by decide), ← hown]
    cases overrides.get? "custom" <;> rfl
  have hreplaced : replaced {} own (layers [] (given.toFields.merge overrides))
      = s.replaced own overrides := by
    refine replaced_congr own (fun name hname _ => ?_) hunknown
    -- the default is there already, below what was given
    rw [← get?_layers_override h hkeys hgiven hname, get?_layers Entries.nodup_keys_nil hmerge,
      Option.or_assoc, Option.or_self]
  rw [override, resolve_eq, ofFields_of_object hcustom, hreplaced]
  rfl

/-- **Settings with some overrides**, where `own` are the custom settings before anything is put
over them: those of the overrides, or else those that were there. -/
structure IsOverridden (s : Settings) (overrides own : Entries String Value) (t : Settings) :
    Prop where
  /-- A setting is the override under its name, or what it was. -/
  get?_toFields : ∀ name ∈ fieldNames, name ≠ "custom" →
    t.toFields.get? name = (overrides.get? name).or (s.toFields.get? name)
  /-- Overrides that are no settings are put over the custom settings. -/
  custom_eq : t.custom = .object (own.merge (unknownFields overrides))
  /-- So all else in there stays as it is, also under the name of a setting. -/
  get?_custom : ∀ custom, t.custom = .object custom → ∀ key, Entries.get? custom key
    = if key ∈ fieldNames then own.get? key else (overrides.get? key).or (own.get? key)

/-- A check that finds a namespace changes nothing. -/
theorem eq_of_check (h : given.check = .ok t) (hne : given.nameSpace ≠ .null) : t = given := by
  obtain ⟨checked, hchecked, -, rfl⟩ := check_eq_ok h
  rw [text_of_checkNamespace hchecked, settled, if_neg fun hnull => hne hnull.2]

/-- A namespace that was checked is replaced by none that is null. -/
theorem nameSpace_replaced_ne_null (hs : s.IsChecked) (own : Entries String Value)
    (hgiven : ∀ f ∈ overrides, f.2 ≠ .null) : (s.replaced own overrides).nameSpace ≠ .null := by
  show (overrides.get? "namespace").getD s.nameSpace ≠ .null
  cases hget : overrides.get? "namespace" with
  | none =>
    obtain ⟨checked, hchecked⟩ := hs.exists_nameSpace
    rw [hchecked]
    exact Value.noConfusion
  | some v => exact hgiven _ (Entries.mem_of_get?_eq_some hget)

theorem isOverridden_replaced (s : Settings) (own : Entries String Value)
    (hkeys : overrides.keys.Nodup) : s.IsOverridden overrides own (s.replaced own overrides) where
  get?_toFields name hname hne := get?_toFields_replaced s own overrides hname hne
  custom_eq := rfl
  get?_custom := by
    rintro custom ⟨⟩ key
    rw [Entries.get?_merge _ (nodup_keys_unknownFields hkeys), get?_unknownFields]
    by_cases hkey : key ∈ fieldNames
    · rw [if_pos hkey, if_pos hkey]
      rfl
    · rw [if_neg hkey, if_neg hkey]

end Settings

/-! ## Generators -/

namespace Perl

open Settings

/-- **A generator from overrides has the settings it was given, overridden**, and without overrides
just those. -/
theorem isOverridden_of_ofSettings [Memory] {given s : Settings}
    {overrides own : Entries String Value} (h : given.check = .ok s) (hkeys : overrides.keys.Nodup)
    (hgiven : ∀ f ∈ overrides, f.2 ≠ .null)
    (hown : (overrides.get? "custom").getD s.custom = .object own) :
    (∀ g, ofSettings given overrides = .ok g →
      g = generator g.settings ∧ s.IsOverridden overrides own g.settings) ∧
    ofSettings given [] = .ok (generator s) := by
  have hchecked : s.IsChecked := ⟨given, h⟩
  constructor
  · intro g hg
    obtain ⟨t, ht, rfl⟩ := map_eq_ok_iff.1 hg
    rw [override_eq h hkeys hgiven hown] at ht
    have heq : t = s.replaced own overrides :=
      eq_of_check ht (nameSpace_replaced_ne_null hchecked own hgiven)
    refine ⟨rfl, ?_⟩
    show s.IsOverridden overrides own t
    rw [heq]
    exact isOverridden_replaced s own hkeys
  · obtain ⟨custom, hcustom⟩ := hchecked.exists_custom
    have hs : s.replaced custom [] = s := by
      show ({ s with custom := .object custom } : Settings) = s
      rw [← hcustom]
    have hoverride : given.override [] = .ok s := by
      rw [override_eq h Entries.nodup_keys_nil nofun hcustom, hs, hchecked.check_eq]
    rw [ofSettings, hoverride]
    rfl

/-- Settings whose custom settings hold a field under the name of a setting. -/
def namedSettings : Settings :=
  { nameSpace := .null
    layout := .text "namespaces"
    custom := .object [("layout", .int 1), ("author", .text "me")] }

/-- The layout is overridden, and a field is put over the custom settings. -/
theorem isOverridden_namedSettings :
    let overrides : Entries String Value :=
      [("author", .text "you"), ("layout", .text "classes"), ("note", .bool true)]
    ∃ s g, namedSettings.check = .ok s ∧ ofSettings namedSettings overrides = .ok g ∧
      s.IsOverridden overrides [("layout", .int 1), ("author", .text "me")] g.settings := by
  intro overrides
  have hcheck : namedSettings.check = .ok { namedSettings with nameSpace := .text "" } := rfl
  have hsettings : ofSettings namedSettings overrides = .ok (generator
      { custom := .object [("layout", .int 1), ("author", .text "you"), ("note", .bool true)] }) :=
    rfl
  refine ⟨_, _, hcheck, hsettings, ?_⟩
  exact ((isOverridden_of_ofSettings hcheck (by decide) (by decide) rfl).1 _ hsettings).2

end Perl

end SchemaGen
