import SchemaGen.Proofs.Settings.Precedence

/-!
# Custom settings that are no object

Custom settings are an object, and the check of settings refuses any other value. But before the
check comes to see it, a value that is empty of its kind – null, false, a zero, an empty text or
list – is put aside wherever a source holds a field that is no setting, as if no custom settings had
been given. So such a value is refused or not, depending on what stands beside it
(`perform_load_of_not_object`): alone it ends the run, and next to an unknown field it goes unseen
(`perform_load_emptyList`). A value that is not empty is always refused.
-/

namespace SchemaGen.Settings

variable {file overrides fields : Entries String Value} {v : Value}

/-! ## Fields that are no settings -/

/-- Only a setting has a default. -/
theorem get?_toFields_of_not_mem (s : Settings) {name : String} (h : name ∉ fieldNames) :
    s.toFields.get? name = none :=
  Entries.get?_eq_none h

/-- Some source has a field that is no setting just if a value is in effect under such a name. -/
theorem unknownFields_layers_eq_nil_iff (hfile : file.keys.Nodup)
    (hoverrides : overrides.keys.Nodup) :
    unknownFields (layers file overrides) = []
      ↔ ∀ name ∉ fieldNames, inEffect file overrides name = none := by
  have hget : ∀ name ∉ fieldNames,
      (unknownFields (layers file overrides)).get? name = inEffect file overrides name := by
    intro name hname
    rw [get?_unknownFields, if_neg hname, get?_layers hfile hoverrides,
      get?_toFields_of_not_mem _ hname, Option.or_none]
  constructor
  · intro h name hname
    rw [← hget name hname, h]
    rfl
  · intro h
    rw [List.eq_nil_iff_forall_not_mem]
    rintro ⟨name, value⟩ hmem
    have hname : name ∉ fieldNames := by simpa using (List.mem_filter.1 hmem).2
    have hkey : name ∈ (unknownFields (layers file overrides)).keys := List.mem_map_of_mem hmem
    rw [Entries.mem_keys_iff, hget name hname, h name hname] at hkey
    cases hkey

/-! ## The check -/

/-- The check refuses custom settings that are no object. -/
theorem exists_check_eq_error {s : Settings} (h : s.custom.object? = none) :
    ∃ e, s.check = .error e := by
  cases hcheck : s.check with
  | error e => exact ⟨e, rfl⟩
  | ok checked =>
    obtain ⟨-, -, -, -, -, -, -, -, hcustom, -⟩ := check_eq_ok_iff.1 hcheck
    obtain ⟨fields, hfields⟩ := exists_of_checkCustom hcustom
    rw [hfields] at h
    cases h

/-! ## Settings from fields -/

theorem ofFields_of_unknownFields_eq_nil (h : unknownFields fields = []) :
    ofFields fields = .ok (withFields {} fields) := by
  rw [ofFields]
  exact if_pos (List.isEmpty_iff.2 h)

/-- Next to a field that is no setting, a value that is no object is refused at once if it is not
empty. -/
theorem ofFields_of_isGiven (hunknown : unknownFields fields ≠ [])
    (hcustom : (withFields {} fields).custom = v) (hobject : v.object? = none)
    (hgiven : v.isGiven = true) : ofFields fields = .error (.custom v) := by
  unfold ofFields
  dsimp only
  rw [if_neg (by simpa using hunknown), hcustom, if_pos hgiven]
  cases v with
  | object fields => cases hobject
  | _ => rfl

/-- An empty value does not count there. -/
theorem ofFields_of_not_isGiven (hunknown : unknownFields fields ≠ [])
    (hcustom : (withFields {} fields).custom = v) (hgiven : v.isGiven = false) :
    ofFields fields = .ok (replaced {} [] fields) := by
  unfold ofFields
  dsimp only
  rw [if_neg (by simpa using hunknown), hcustom, if_neg (by simpa using hgiven)]
  rfl

/-! ## Sources without custom settings -/

/-- The fields but for the custom settings. -/
def withoutCustom (fields : Entries String Value) : Entries String Value :=
  fields.filter fun f => f.1 ≠ "custom"

theorem get?_withoutCustom (fields : Entries String Value) (name : String) :
    (withoutCustom fields).get? name = if name = "custom" then none else fields.get? name := by
  refine (Entries.get?_filter_key (fun key => decide (key ≠ "custom")) fields name).trans ?_
  by_cases h : name = "custom"
  · rw [if_pos h, if_neg (by simpa using h)]
  · rw [if_neg h, if_pos (by simpa using h)]

theorem nodup_keys_withoutCustom (h : fields.keys.Nodup) : (withoutCustom fields).keys.Nodup :=
  h.sublist (List.filter_sublist.map _)

/-- Without custom settings all else is in effect as before. -/
theorem inEffect_withoutCustom (file overrides : Entries String Value) (name : String) :
    inEffect (withoutCustom file) (withoutCustom overrides) name
      = if name = "custom" then none else inEffect file overrides name := by
  rw [inEffect, get?_withoutCustom, get?_withoutCustom]
  by_cases h : name = "custom"
  · rw [if_pos h, if_pos h, if_pos h]
    rfl
  · rw [if_neg h, if_neg h, if_neg h, inEffect]

theorem unknownFields_withoutCustom (fields : Entries String Value) :
    unknownFields (withoutCustom fields) = unknownFields fields := by
  rw [unknownFields, withoutCustom, List.filter_filter]
  refine List.filter_congr fun f _ => ?_
  by_cases h : f.1 = "custom"
  · rw [h]
    rfl
  · simp [h]

theorem givenFields_withoutCustom (fields : Entries String Value) :
    givenFields (withoutCustom fields) = withoutCustom (givenFields fields) :=
  List.filter_comm _ _ _

theorem unknownFields_layers_withoutCustom (file overrides : Entries String Value) :
    unknownFields (layers (withoutCustom file) (withoutCustom overrides))
      = unknownFields (layers file overrides) := by
  rw [unknownFields_layers, unknownFields_layers, givenFields_withoutCustom,
    unknownFields_withoutCustom, unknownFields_withoutCustom]

/-- **An empty value next to a field that is no setting** comes to the same as none. -/
theorem resolve_eq_of_not_isGiven (hfile : file.keys.Nodup) (hoverrides : overrides.keys.Nodup)
    (hunknown : unknownFields (layers file overrides) ≠ [])
    (hv : inEffect file overrides "custom" = some v) (hgiven : v.isGiven = false) :
    resolve file overrides = resolve (withoutCustom file) (withoutCustom overrides) := by
  have hfile' := nodup_keys_withoutCustom hfile
  have hoverrides' := nodup_keys_withoutCustom hoverrides
  have hcustom : (withFields {} (layers file overrides)).custom = v := by
    rw [custom_withFields_layers hfile hoverrides, hv]
    rfl
  have hnone : (withFields {} (layers (withoutCustom file) (withoutCustom overrides))).custom
      = .object [] := by
    rw [custom_withFields_layers hfile' hoverrides', inEffect_withoutCustom, if_pos rfl]
    rfl
  have hreplaced : replaced {} [] (layers file overrides)
      = replaced {} [] (layers (withoutCustom file) (withoutCustom overrides)) := by
    refine replaced_congr [] (fun name _ hne => ?_)
      (unknownFields_layers_withoutCustom file overrides).symm
    rw [get?_layers hfile hoverrides, get?_layers hfile' hoverrides', inEffect_withoutCustom,
      if_neg hne]
  rw [resolve_eq, resolve_eq, ofFields_of_not_isGiven hunknown hcustom hgiven,
    ofFields_of_object hnone, hreplaced]

/-! ## Settings that a run loads -/

variable {session : Session} {path : Option String} {caller : Value}

/-- **Custom settings that are no object** are refused unless they are empty of their kind and some
source holds a field that is no setting; then the settings are those of the sources without them. -/
theorem perform_load_of_not_object (hfile : (session.perform (fileFields path)).1 = .ok file)
    (hcaller : overridesOf caller = .ok overrides) (hoverrides : overrides.keys.Nodup)
    (hv : inEffect file overrides "custom" = some v) (hobject : v.object? = none) :
    (v.isGiven = true ∨ (∀ name ∉ fieldNames, inEffect file overrides name = none) →
      ∃ e, (session.perform (load path caller)).1 = .error (.setting e)) ∧
    (v.isGiven = false → (∃ name ∉ fieldNames, inEffect file overrides name ≠ none) →
      (session.perform (load path caller)).1
        = (resolve (withoutCustom file) (withoutCustom overrides)).mapError .setting) := by
  have hkeys := nodup_keys_of_fileFields hfile
  have hunknown := unknownFields_layers_eq_nil_iff hkeys hoverrides
  have hcustom : (withFields {} (layers file overrides)).custom = v := by
    rw [custom_withFields_layers hkeys hoverrides, hv]
    rfl
  rw [perform_load hfile hcaller]
  constructor
  · intro hrefused
    suffices ∃ e, resolve file overrides = .error e by
      obtain ⟨e, he⟩ := this
      exact ⟨e, by rw [he]; rfl⟩
    rw [resolve_eq]
    by_cases hnil : unknownFields (layers file overrides) = []
    · -- nothing is put over the value, so that the check comes to see it
      rw [ofFields_of_unknownFields_eq_nil hnil]
      exact exists_check_eq_error (by rw [hcustom]; exact hobject)
    · have hgiven := hrefused.resolve_right fun h => hnil (hunknown.2 h)
      exact ⟨.custom v, by rw [ofFields_of_isGiven hnil hcustom hobject hgiven]; rfl⟩
  · rintro hgiven ⟨name, hname, hne⟩
    have hsome : unknownFields (layers file overrides) ≠ [] := fun h =>
      hne (hunknown.1 h name hname)
    rw [resolve_eq_of_not_isGiven hkeys hoverrides hsome hv hgiven]

/-- A file in which the custom settings are an empty list, alone and next to an author. -/
theorem fileFields_emptyList :
    ((configured "\x7b\"custom\": []\x7d").perform (fileFields (some "c.json"))).1
        = .ok [("custom", .list [])] ∧
      ((configured "\x7b\"custom\": [], \"author\": \"me\"\x7d").perform
          (fileFields (some "c.json"))).1
        = .ok [("custom", .list []), ("author", .text "me")] :=
  ⟨toOption_eq_some_iff.1 (by decide +kernel), toOption_eq_some_iff.1 (by decide +kernel)⟩

/-- The empty list is refused where it stands alone, and goes unseen next to an author; custom
settings that are true are refused next to an author, too. -/
theorem perform_load_of_not_object_samples :
    (∃ e, ((configured "\x7b\"custom\": []\x7d").perform (load (some "c.json") .null)).1
      = .error (.setting e)) ∧
    ((configured "\x7b\"custom\": [], \"author\": \"me\"\x7d").perform
        (load (some "c.json") .null)).1
      = (resolve [("author", .text "me")] []).mapError .setting ∧
    ∃ e, (Session.perform {} (load none
        (.object [("custom", .bool true), ("author", .text "me")]))).1
      = .error (.setting e) := by
  obtain ⟨halone, hbeside⟩ := fileFields_emptyList
  refine ⟨?_, ?_, ?_⟩
  · refine (perform_load_of_not_object halone rfl Entries.nodup_keys_nil rfl rfl).1
      (.inr fun name hname => ?_)
    have hne : "custom" ≠ name := fun h => hname (h ▸ by decide)
    rw [inEffect, Entries.get?, Entries.get?, if_neg hne]
    rfl
  · exact (perform_load_of_not_object hbeside rfl Entries.nodup_keys_nil rfl rfl).2 rfl
      ⟨"author", by decide, by decide⟩
  · exact (perform_load_of_not_object rfl rfl (by decide) rfl rfl).1 (.inl rfl)

/-- **Custom settings that are no object need not be refused**: an empty list is not, next to an
author. -/
theorem perform_load_emptyList :
    ((configured "\x7b\"custom\": [], \"author\": \"me\"\x7d").perform
        (fileFields (some "c.json"))).1 = .ok [("custom", .list []), ("author", .text "me")] ∧
      inEffect [("custom", .list []), ("author", .text "me")] [] "custom" = some (.list []) ∧
      (Value.list []).object? = none ∧
      ((configured "\x7b\"custom\": [], \"author\": \"me\"\x7d").perform
          (load (some "c.json") .null)).1
        = .ok { custom := .object [("author", .text "me")] } := by
  have hfile := fileFields_emptyList.2
  refine ⟨hfile, rfl, rfl, ?_⟩
  rw [perform_load hfile rfl]
  rfl

end SchemaGen.Settings
