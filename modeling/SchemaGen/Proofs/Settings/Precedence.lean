import SchemaGen.Proofs.Host.Surroundings
import SchemaGen.Proofs.Json.Objects
import SchemaGen.Proofs.Settings.Checked
import SchemaGen.Settings.Loading

/-!
# Which value counts

A configuration file and a caller both give values for settings, and what they do not give has a
default. The value **in effect** under a name is that of the caller, unless it is missing or null,
and else that of the file (`Settings.inEffect`). Null is a value in a file, and no value among the
overrides of a caller.

The three sources are laid over one another before any value is looked at, so a setting has the
value in effect under its name (`get?_layers`). What is no setting of its own is put over the custom
settings in effect, that of the file first (`merge_unknownFields_layers`). `KeepsGiven` says both of
some settings, and that they pass the check as they are; all settings that a run loads are of this
kind as long as the custom settings in effect are an object (`keepsGiven_of_load`).
-/

namespace SchemaGen.Settings

variable {file overrides own fields : Entries String Value} {s t given : Settings} {name : String}

/-! ## Fields -/

theorem get?_unknownFields (fields : Entries String Value) (name : String) :
    (unknownFields fields).get? name = if name ∈ fieldNames then none else fields.get? name := by
  refine (Entries.get?_filter_key (fun key => decide (key ∉ fieldNames)) fields name).trans ?_
  by_cases h : name ∈ fieldNames
  · rw [if_pos h, if_neg (by simpa using h)]
  · rw [if_neg h, if_pos (by simpa using h)]

theorem nodup_keys_unknownFields (h : fields.keys.Nodup) : (unknownFields fields).keys.Nodup :=
  h.sublist (List.filter_sublist.map _)

/-- What is no setting can be told before fields are merged or after it. -/
theorem unknownFields_merge (fields news : Entries String Value) :
    unknownFields (fields.merge news) = (unknownFields fields).merge (unknownFields news) :=
  Entries.filter_merge (fun key => decide (key ∉ fieldNames)) fields news

theorem get?_givenFields (h : fields.keys.Nodup) (name : String) :
    (givenFields fields).get? name = (fields.get? name).filter (!·.isNull) :=
  Entries.get?_filter_value (fun v : Value => !v.isNull) h name

theorem nodup_keys_givenFields (h : fields.keys.Nodup) : (givenFields fields).keys.Nodup :=
  h.sublist (List.filter_sublist.map _)

/-- The settings, one by one. -/
theorem mem_fieldNames (h : name ∈ fieldNames) :
    name = "namespace" ∨ name = "input_file" ∨ name = "output_path" ∨ name = "file_extension" ∨
      name = "layout" ∨ name = "indent_size" ∨ name = "add_comments" ∨ name = "custom" := by
  simpa [fieldNames] using h

/-- Settings are told by their fields. -/
theorem eq_of_get?_toFields (h : ∀ name ∈ fieldNames, s.toFields.get? name = t.toFields.get? name) :
    s = t := by
  cases s
  cases t
  congr 1
  · exact Option.some.inj (h "namespace" (by decide))
  · exact Option.some.inj (h "input_file" (by decide))
  · exact Option.some.inj (h "output_path" (by decide))
  · exact Option.some.inj (h "file_extension" (by decide))
  · exact Option.some.inj (h "layout" (by decide))
  · exact Option.some.inj (h "indent_size" (by decide))
  · exact Option.some.inj (h "add_comments" (by decide))
  · exact Option.some.inj (h "custom" (by decide))

/-- Fields are put in the place of settings. -/
theorem get?_toFields_withFields (s : Settings) (fields : Entries String Value)
    (h : name ∈ fieldNames) :
    (withFields s fields).toFields.get? name = (fields.get? name).or (s.toFields.get? name) := by
  rcases mem_fieldNames h with rfl | rfl | rfl | rfl | rfl | rfl | rfl | rfl
  all_goals
    show some (Option.getD _ _) = _
    cases fields.get? _ <;> rfl

/-! ## Values in effect -/

/-- **The value in effect under a name**: that of the overrides unless it is missing or null, else
that of the file. -/
def inEffect (file overrides : Entries String Value) (name : String) : Option Value :=
  ((overrides.get? name).filter (!·.isNull)).or (file.get? name)

/-- The fields of all sources, laid over one another. -/
def layers (file overrides : Entries String Value) : Entries String Value :=
  ((toFields {}).merge file).merge (givenFields overrides)

theorem resolve_eq (file overrides : Entries String Value) :
    resolve file overrides = ofFields (layers file overrides) >>= check := rfl

/-- **Of all sources the value in effect is read**, and a default if there is none. -/
theorem get?_layers (hfile : file.keys.Nodup) (hoverrides : overrides.keys.Nodup) (name : String) :
    (layers file overrides).get? name
      = (inEffect file overrides name).or ((toFields {}).get? name) := by
  rw [layers, Entries.get?_merge _ (nodup_keys_givenFields hoverrides),
    get?_givenFields hoverrides, Entries.get?_merge _ hfile, inEffect, Option.or_assoc]

theorem unknownFields_layers (file overrides : Entries String Value) :
    unknownFields (layers file overrides)
      = (Entries.ofList (unknownFields file)).merge (unknownFields (givenFields overrides)) := by
  rw [layers, unknownFields_merge, unknownFields_merge]
  rfl

/-- **What is no setting is put over the custom settings source by source.** -/
theorem merge_unknownFields_layers (own file overrides : Entries String Value) :
    own.merge (unknownFields (layers file overrides))
      = (own.merge (unknownFields file)).merge (unknownFields (givenFields overrides)) := by
  have hfile : own.merge (Entries.ofList (unknownFields file)) = own.merge (unknownFields file) :=
    Entries.merge_merge own Entries.nodup_keys_nil _
  rw [unknownFields_layers, Entries.merge_merge own (Entries.nodup_keys_ofList _), hfile]

/-! ## Settings from fields -/

/-- Settings with some fields in the place of their own, where what is no setting is put over the
custom settings `own`. -/
def replaced (s : Settings) (own fields : Entries String Value) : Settings :=
  { withFields s fields with custom := .object (own.merge (unknownFields fields)) }

/-- A setting does not hang on the custom settings. -/
theorem get?_toFields_of_ne (s : Settings) (v : Value) (hname : name ∈ fieldNames)
    (hne : name ≠ "custom") :
    ({ s with custom := v } : Settings).toFields.get? name = s.toFields.get? name := by
  rcases mem_fieldNames hname with rfl | rfl | rfl | rfl | rfl | rfl | rfl | rfl
  on_goal 8 => exact absurd rfl hne
  all_goals rfl

theorem get?_toFields_replaced (s : Settings) (own fields : Entries String Value)
    (hname : name ∈ fieldNames) (hne : name ≠ "custom") :
    (s.replaced own fields).toFields.get? name
      = (fields.get? name).or (s.toFields.get? name) :=
  (get?_toFields_of_ne _ _ hname hne).trans (get?_toFields_withFields s fields hname)

/-- Settings take from fields what is read under their names, and what is no setting. -/
theorem replaced_congr {news : Entries String Value} (own : Entries String Value)
    (h : ∀ name ∈ fieldNames, name ≠ "custom" → (fields.get? name).or (s.toFields.get? name)
      = (news.get? name).or (t.toFields.get? name))
    (hunknown : unknownFields fields = unknownFields news) :
    s.replaced own fields = t.replaced own news := by
  refine eq_of_get?_toFields fun name hname => ?_
  by_cases hne : name = "custom"
  · subst hne
    exact congrArg (fun unknown => some (Value.object (own.merge unknown))) hunknown
  · rw [get?_toFields_replaced _ _ _ hname hne, get?_toFields_replaced _ _ _ hname hne,
      h name hname hne]

/-- **An object of custom settings takes up what is no setting.** -/
theorem ofFields_of_object (h : (withFields {} fields).custom = .object own) :
    ofFields fields = .ok (replaced {} own fields) := by
  unfold ofFields replaced
  dsimp only
  split
  · next hunknown =>
    rw [List.isEmpty_iff.1 hunknown, Entries.merge, List.foldl_nil, ← h]
  · split
    · rw [h]
    · next hown =>
      rw [h, Value.isGiven] at hown
      have hnil : own = [] := by simpa using hown
      rw [hnil]
      rfl

/-! ## Settings after the check -/

/-- A missing namespace is an empty one; any other value stands as it is. -/
def settled (name : String) (v : Value) : Value :=
  if name = "namespace" ∧ v = .null then .text "" else v

theorem text_of_checkNamespace {v : Value} {checked : String}
    (h : checkNamespace v = .ok checked) : .text checked = settled "namespace" v := by
  rw [checkNamespace.eq_def] at h
  split at h
  · cases h
    rfl
  · split at h
    · cases h
      rfl
    · cases h
  · cases h

theorem settled_of_ne {v : Value} (h : name ≠ "namespace") : settled name v = v :=
  if_neg fun hv => h hv.1

/-- **A check changes a missing namespace and nothing else.** -/
theorem get?_toFields_of_check (h : given.check = .ok s) (hname : name ∈ fieldNames) :
    s.toFields.get? name = (given.toFields.get? name).map (settled name) := by
  obtain ⟨checked, hchecked, -, -, -, -, -, -, -, rfl⟩ := check_eq_ok_iff.1 h
  rcases mem_fieldNames hname with rfl | rfl | rfl | rfl | rfl | rfl | rfl | rfl
  · exact congrArg some (text_of_checkNamespace hchecked)
  all_goals exact congrArg some (settled_of_ne (by decide)).symm

/-! ## What is kept of what was given -/

/-- **Settings that keep all that was given**, by a file and by a caller, where `own` are the custom
settings in effect. -/
structure KeepsGiven (file overrides own : Entries String Value) (s : Settings) : Prop where
  /-- A setting has the value in effect under its name, or its default; a null namespace is empty.
  -/
  get?_toFields : ∀ name ∈ fieldNames, name ≠ "custom" → s.toFields.get? name
    = ((inEffect file overrides name).or ((toFields {}).get? name)).map (settled name)
  /-- The custom settings are those in effect, with what is no setting put over them: that of the
  file first, and then that of the caller. -/
  custom_eq : s.custom
    = .object ((own.merge (unknownFields file)).merge (unknownFields (givenFields overrides)))
  /-- So what is no setting stands among them with its value in effect, and no setting gets there.
  -/
  get?_custom : ∀ custom, s.custom = .object custom → ∀ key, Entries.get? custom key
    = if key ∈ fieldNames then own.get? key else (inEffect file overrides key).or (own.get? key)
  /-- They pass the check as they are. -/
  check_eq : s.check = .ok s

/-- What is put over the custom settings, name by name. -/
theorem get?_merge_unknownFields (hfile : file.keys.Nodup) (hoverrides : overrides.keys.Nodup)
    (own : Entries String Value) (key : String) :
    ((own.merge (unknownFields file)).merge (unknownFields (givenFields overrides))).get? key
      = if key ∈ fieldNames then own.get? key
        else (inEffect file overrides key).or (own.get? key) := by
  have hgiven := nodup_keys_givenFields hoverrides
  rw [Entries.get?_merge _ (nodup_keys_unknownFields hgiven),
    Entries.get?_merge _ (nodup_keys_unknownFields hfile), get?_unknownFields,
    get?_unknownFields, get?_givenFields hoverrides, inEffect]
  by_cases hkey : key ∈ fieldNames
  · rw [if_pos hkey, if_pos hkey, if_pos hkey]
    rfl
  · rw [if_neg hkey, if_neg hkey, if_neg hkey, Option.or_assoc]

/-- The custom settings in effect are those of the fields of all sources. -/
theorem custom_withFields_layers (hfile : file.keys.Nodup) (hoverrides : overrides.keys.Nodup) :
    (withFields {} (layers file overrides)).custom
      = (inEffect file overrides "custom").getD (.object []) := by
  show ((layers file overrides).get? "custom").getD (.object []) = _
  rw [get?_layers hfile hoverrides]
  cases inEffect file overrides "custom" <;> rfl

/-- **Settings that were put together keep all that was given.** -/
theorem keepsGiven_of_resolve (hfile : file.keys.Nodup) (hoverrides : overrides.keys.Nodup)
    (hown : (inEffect file overrides "custom").getD (.object []) = .object own)
    (h : resolve file overrides = .ok s) : KeepsGiven file overrides own s := by
  have hcustom := (custom_withFields_layers hfile hoverrides).trans hown
  rw [resolve_eq, ofFields_of_object hcustom] at h
  have hcheck : (replaced {} own (layers file overrides)).check = .ok s := h
  have hs : s.custom
      = .object ((own.merge (unknownFields file)).merge
          (unknownFields (givenFields overrides))) := by
    rw [← merge_unknownFields_layers]
    obtain ⟨_, -, -, rfl⟩ := check_eq_ok hcheck
    rfl
  refine ⟨fun name hname hne => ?_, hs, fun custom heq key => ?_, IsChecked.check_eq ⟨_, hcheck⟩⟩
  · rw [get?_toFields_of_check hcheck hname, get?_toFields_replaced _ _ _ hname hne,
      get?_layers hfile hoverrides, Option.or_assoc, Option.or_self]
  · cases hs.symm.trans heq
    exact get?_merge_unknownFields hfile hoverrides own key

/-! ## Settings that a run loads -/

/-- The fields of a configuration file; none for a missing or empty path. -/
def fileFields : Option String → Run (StateM Session) (Entries String Value)
  | none => pure []
  | some "" => pure []
  | some path => loadFields (Path.ofString path)

variable {session : Session} {path : Option String} {caller : Value}

theorem load_eq (path : Option String) (caller : Value) :
    load path caller = (do
      let fields ← fileFields path
      let overrides ← Run.ofExcept .notOverrides (overridesOf caller)
      Run.ofExcept .setting (resolve fields overrides)) := by
  rw [load.eq_def]
  split
  · rfl
  · rfl
  · next path hpath =>
    rw [fileFields]
    exact hpath

/-- **A run that loads settings resolves what a file and a caller gave.** -/
theorem perform_load (hfile : (session.perform (fileFields path)).1 = .ok file)
    (hcaller : overridesOf caller = .ok overrides) :
    (session.perform (load path caller)).1 = (resolve file overrides).mapError .setting := by
  rw [load_eq, Session.perform_bind]
  cases hperform : session.perform (fileFields path) with
  | mk result session' =>
    rw [hperform] at hfile
    cases hfile
    show (session'.perform (Run.ofExcept .notOverrides (overridesOf caller) >>= _)).1 = _
    rw [hcaller, Session.perform_bind]
    rfl

/-- The fields of a configuration file are those of its content. -/
theorem fields_of_loadFields {session' : Session} {p : Path}
    (h : session.perform (loadFields p) = (.ok file, session')) :
    ∃ content, SettingsFile.fields content = .ok file := by
  unfold loadFields at h
  obtain ⟨status, _, -, h⟩ := Session.perform_bind_eq_ok h
  dsimp only at h
  split at h
  · cases h
  split at h
  · cases h
  obtain ⟨result, _, -, h⟩ := Session.perform_bind_eq_ok h
  cases result with
  | error cause => cases h
  | ok content => exact ⟨content, (Session.perform_ofExcept_eq_ok h).1⟩

/-- Each field of a configuration file is there once. -/
theorem nodup_keys_of_fileFields (h : (session.perform (fileFields path)).1 = .ok file) :
    file.keys.Nodup := by
  rw [fileFields.eq_def] at h
  split at h
  · cases h
    exact Entries.nodup_keys_nil
  · cases h
    exact Entries.nodup_keys_nil
  · next path _ =>
    obtain ⟨content, hcontent⟩ := fields_of_loadFields (Prod.ext h rfl)
    exact SettingsFile.nodup_keys_fields hcontent

/-- **What a run loads keeps all that was given**, as long as the custom settings in effect are an
object. -/
theorem keepsGiven_of_load (hfile : (session.perform (fileFields path)).1 = .ok file)
    (hcaller : overridesOf caller = .ok overrides) (hoverrides : overrides.keys.Nodup)
    (hown : (inEffect file overrides "custom").getD (.object []) = .object own)
    (h : (session.perform (load path caller)).1 = .ok s) : KeepsGiven file overrides own s := by
  rw [perform_load hfile hcaller] at h
  exact keepsGiven_of_resolve (nodup_keys_of_fileFields hfile) hoverrides hown
    (mapError_eq_ok_iff.1 h)

/-- A session with a configuration file. -/
def configured (content : String) : Session where
  files := { nodes := [(["c.json"], .file (Text.Utf8.encode content))] }

/-- A file with null for a setting, custom settings under the name of a setting, and a field that is
no setting. -/
def layeredFile : String :=
  "\x7b\"namespace\":null,\"custom\":\x7b\"layout\":1\x7d,\"note\":2\x7d"

/-- Over this a caller gives a layout, null for the note of the file, and a field of its own. -/
theorem keepsGiven_layered :
    let caller : Entries String Value :=
      [("layout", .text "namespaces"), ("note", .null), ("author", .text "me")]
    ∃ file s, ((configured layeredFile).perform (fileFields (some "c.json"))).1 = .ok file ∧
      ((configured layeredFile).perform (load (some "c.json") (.object caller))).1 = .ok s ∧
      KeepsGiven file caller [("layout", .int 1)] s := by
  intro caller
  have hfile : ((configured layeredFile).perform (fileFields (some "c.json"))).1
      = .ok [("namespace", .null), ("custom", .object [("layout", .int 1)]), ("note", .int 2)] :=
    toOption_eq_some_iff.1 (by decide +kernel)
  have hload : ((configured layeredFile).perform (load (some "c.json") (.object caller))).1
      = .ok { layout := .text "namespaces", custom := .object [("layout", .int 1), ("note", .int 2),
        ("author", .text "me")] } := by
    rw [perform_load hfile rfl]
    rfl
  exact ⟨_, _, hfile, hload, keepsGiven_of_load hfile rfl (by decide) rfl hload⟩

end SchemaGen.Settings
