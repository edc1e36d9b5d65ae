import SchemaGen.Proofs.Containment

/-!
# One file for each module

A package is put together from segments and taken apart again to find its file. Where the name of a
table holds neither a slash nor the separator of packages it comes back as one segment, even if a
single colon stands at an end of it next to the separator: the separator is found from the left, and
what stands before the name consists of words. With an extension that has no slash either, the name
and the extension are one component of the path, behind the components of the output directory and
of the other segments.

So the path of a module tells its segments, and no two modules of a generation have the same one
(`haveOwnFiles_of_generate`).
-/

namespace SchemaGen

open Model (Table tableNames)
open ModuleName (separator segments AreWords)
open SchemaGen.Path (IsComponentText)

/-! ## Names of tables that name files -/

/-- **A name of a table that can name its file.** A single colon does not keep it from that. -/
structure IsFileName (name : String) : Prop where
  ne_empty : name ≠ ""
  slash_not_mem : '/' ∉ name.toList
  separator_not_infix : ¬ separator.toList <:+: name.toList

instance (name : String) : Decidable (IsFileName name) :=
  decidable_of_iff (name ≠ "" ∧ '/' ∉ name.toList ∧ ¬ separator.toList <:+: name.toList)
    ⟨fun ⟨hne, hslash, hinfix⟩ => ⟨hne, hslash, hinfix⟩, fun h => ⟨h.1, h.2, h.3⟩⟩

/-- It is a segment of its own, -/
theorem IsFileName.segments_eq {name : String} (h : IsFileName name) :
    segments separator name = [name] := by
  rw [segments, Text.split, Text.pieces_eq_singleton h.separator_not_infix, List.map_singleton,
    String.ofList_toList, List.filter_cons_of_pos (by simpa using h.ne_empty), List.filter_nil]

/-- and a component of its own with an extension behind it. -/
theorem IsFileName.isComponentText_append {name extension : String} (h : IsFileName name)
    (hne : extension ≠ "") (hslash : '/' ∉ extension.toList) :
    IsComponentText (name ++ extension) where
  slash_not_mem := by
    rw [String.toList_append, List.mem_append]
    exact fun hm => hm.elim h.slash_not_mem hslash
  counts := by
    have hlength : ∀ s : String, s ≠ "" → 0 < s.toList.length := fun s hs =>
      List.length_pos_iff.2 fun he => hs (String.toList_eq_nil_iff.1 he)
    have hname := hlength name h.ne_empty
    have hextension := hlength extension hne
    have hlong : 2 ≤ (name ++ extension).toList.length := by
      rw [String.toList_append, List.length_append]
      omega
    simp only [Path.isComponent, Bool.and_eq_true, decide_eq_true_eq]
    constructor
    all_goals
      intro he
      rw [he] at hlong
      exact absurd hlong (by decide)

/-- A word names a file. -/
theorem isFileName_of_isWordText {name : String} (h : Text.IsWordText name) : IsFileName name where
  ne_empty := h.ne_empty
  slash_not_mem := fun hm => absurd (h.isWord '/' hm) (by decide)
  separator_not_infix := fun hfound =>
    absurd (h.isWord ':' (hfound.subset List.mem_cons_self)) (by decide)

/-! ## The path of a module -/

/-- **The path of a file** by the directories that lead to it from a destination, and its name. -/
def Destination.fileAt (d : Destination) (directories : List String) (name : String) : Path :=
  { d.directory.getD {} with
    components := (d.directory.getD {}).components ++ directories ++ [name ++ d.fileExtension] }

/-- A destination and directories tell the files of different names apart. -/
theorem Destination.fileAt_inj {d : Destination} {directories : List String} {m n : String}
    (h : d.fileAt directories m = d.fileAt directories n) : m = n := by
  have hlast := List.append_cancel_left (congrArg Path.components h)
  exact (String.append_left_inj _).1 (List.singleton_inj.1 hlast)

/-- **The path of a module is told by its segments**, if the directories are words. -/
theorem Destination.pathOf_eq_fileAt {d : Destination} (hsep : d.separator ≠ "") {module : String}
    {directories : List String} {name : String}
    (hsegments : segments d.separator module = directories ++ [name])
    (hdirectories : ∀ s ∈ directories, IsComponentText s)
    (hname : IsComponentText (name ++ d.fileExtension)) :
    d.pathOf module = .ok (d.fileAt directories name) := by
  have hne : segments d.separator module ≠ [] := by
    rw [hsegments]
    exact List.append_ne_nil_of_right_ne_nil _ (List.cons_ne_nil _ _)
  have hsteps : d.steps (directories ++ [name]) = directories ++ [name ++ d.fileExtension] :=
    d.steps_append directories (List.cons_ne_nil _ _)
  have hall : ∀ s ∈ directories ++ [name ++ d.fileExtension], IsComponentText s := by
    intro s hs
    rcases List.mem_append.1 hs with hs | hs
    · exact hdirectories s hs
    · exact List.mem_singleton.1 hs ▸ hname
  rw [Destination.pathOf_eq_ok hsep hne, hsegments, hsteps, Path.joinAll_of_isComponentText hall,
    ← List.append_assoc]
  rfl

/-! ## The files of a generation -/

/-- The segments in front of the name of a table. -/
def Perl.Layout.tableDirectories (layout : Perl.Layout) (nameSpace schemaName : String) :
    List String :=
  segments separator nameSpace ++ schemaName :: layout.tableSegment.toList

/-- These are words, whatever the layout is. -/
theorem isComponentText_of_mem_tableDirectories {nameSpace schemaName : String}
    (hwords : AreWords nameSpace) (hschema : Text.IsWordText schemaName) (layout : Perl.Layout) :
    ∀ s ∈ layout.tableDirectories nameSpace schemaName, IsComponentText s := by
  intro s hs
  refine Path.isComponentText_of_isWordText ?_
  rcases List.mem_append.1 hs with hs | hs
  · exact hwords.isWordText hs
  rcases List.mem_cons.1 hs with rfl | hs
  · exact hschema
  cases layout with
  | classes => cases hs
  | namespaces =>
    rw [List.mem_singleton.1 hs]
    decide +kernel

/-- **Every module has a file of its own**, at the path that its names tell. -/
structure HaveOwnFiles (d : Destination) (tables : List Table) (p : Product) (layout : Perl.Layout)
    (nameSpace schemaName : String) : Prop where
  keys_eq : p.files.keys = (tableNames tables).map (Perl.tablePackage nameSpace layout schemaName)
    ++ [Perl.schemaPackage nameSpace schemaName]
  table : ∀ t ∈ tables, d.pathOf (Perl.tablePackage nameSpace layout schemaName t.name)
    = .ok (d.fileAt (layout.tableDirectories nameSpace schemaName) t.name)
  schema : d.pathOf (Perl.schemaPackage nameSpace schemaName)
    = .ok (d.fileAt (segments separator nameSpace) schemaName)
  nodup : (p.files.keys.map d.pathOf).Nodup

/-- The file of the schema class is that of no table, since a table's has one more directory. -/
theorem fileAt_tableDirectories_ne (d : Destination) (layout : Perl.Layout)
    (nameSpace schemaName table : String) :
    d.fileAt (layout.tableDirectories nameSpace schemaName) table
      ≠ d.fileAt (segments separator nameSpace) schemaName := by
  intro h
  have hlength := congrArg (fun p => p.components.length) h
  simp only [Destination.fileAt, Perl.Layout.tableDirectories, List.length_append, List.length_cons,
    List.length_nil] at hlength
  omega

/-- Paths that are told by the names differ where the names do. -/
theorem nodup_paths {d : Destination} {tables : List Table} {layout : Perl.Layout}
    {nameSpace schemaName : String} (hn : (tableNames tables).Nodup)
    (htable : ∀ t ∈ tables, d.pathOf (Perl.tablePackage nameSpace layout schemaName t.name)
      = .ok (d.fileAt (layout.tableDirectories nameSpace schemaName) t.name))
    (hschema : d.pathOf (Perl.schemaPackage nameSpace schemaName)
      = .ok (d.fileAt (segments separator nameSpace) schemaName)) :
    (((tableNames tables).map (Perl.tablePackage nameSpace layout schemaName)
      ++ [Perl.schemaPackage nameSpace schemaName]).map d.pathOf).Nodup := by
  have hname : ∀ name ∈ tableNames tables,
      d.pathOf (Perl.tablePackage nameSpace layout schemaName name)
        = .ok (d.fileAt (layout.tableDirectories nameSpace schemaName) name) := by
    intro name hm
    obtain ⟨t, ht, rfl⟩ := List.mem_map.1 hm
    exact htable t ht
  rw [List.map_append, List.map_map, List.map_singleton, ← List.concat_eq_append]
  refine List.Nodup.concat (fun hm => ?_) (List.Nodup.map_on (fun m hm n hn' he => ?_) hn)
  · obtain ⟨name, hm, he⟩ := List.mem_map.1 hm
    have hpath := ((hname name hm).symm.trans he).trans hschema
    exact fileAt_tableDirectories_ne d layout nameSpace schemaName name (Except.ok.inj hpath)
  · have hpath := ((hname m hm).symm.trans he).trans (hname n hn')
    exact Destination.fileAt_inj (Except.ok.inj hpath)

namespace Settings.IsChecked

variable {s : Settings}

/-- The extension of checked settings starts with a point. -/
theorem fileExtension_ne_empty (h : s.IsChecked) {extension : String}
    (hextension : s.fileExtension = .text extension) : extension ≠ "" := by
  obtain ⟨-, -, -, hcheck, -⟩ := check_eq_ok_iff.1 h.check_eq
  rw [hextension, checkFileExtension] at hcheck
  rintro rfl
  exact absurd hcheck (by decide)

/-- The namespace of checked settings is the one they are generated with. -/
theorem nameSpace_eq_text (h : s.IsChecked) {nameSpace : String}
    (hname : s.namespaceName = .ok nameSpace) : s.nameSpace = .text nameSpace := by
  obtain ⟨name, hs⟩ := h.exists_nameSpace
  rw [namespaceName, hs] at hname
  rw [hs]
  split at hname
  · exact congrArg Value.text (Except.ok.inj hname)
  · next hgiven =>
    cases hname
    exact congrArg Value.text (by simpa [Value.isGiven] using hgiven)

end Settings.IsChecked

/-- **A generation gives every module a file of its own**, if the names of its tables name files and
the extension has no slash. -/
theorem haveOwnFiles_of_generate [Perl.Memory] {s : Settings} (hs : s.IsChecked)
    {extension : String}
    (hextension : s.fileExtension = .text extension) (hslash : '/' ∉ extension.toList)
    {tables : List Table} (hn : (tableNames tables).Nodup)
    (hnames : ∀ t ∈ tables, IsFileName t.name) {p : Product}
    (h : ((Perl.generator s).generate tables).2.outcome = .ok p) :
    ∃ layout nameSpace schemaName, s.layout = .text layout.name ∧ s.nameSpace = .text nameSpace ∧
      Package.chooseSchemaName Package.schemaNameCandidates (tableNames tables) = .ok schemaName ∧
      HaveOwnFiles (Scheme.destination s) tables p layout nameSpace schemaName := by
  obtain ⟨layout, hlayout⟩ := hs.exists_layout
  obtain ⟨st, schemaName, hst, hchoice, hemits⟩ := Perl.emits_of_generate
    (hlayout ▸ Settings.layoutOf_name layout) hn h
  obtain ⟨hstLayout, hnameSpace, -⟩ := Perl.styleOf_eq_ok.1 hst
  have hwords := hs.areWords_nameSpace hnameSpace
  have hschema := hemits.schemaName_mem
  have hd : (Scheme.destination s).fileExtension = extension := by
    rw [Scheme.destination, hextension]
    rfl
  have hne := hs.fileExtension_ne_empty hextension
  obtain ⟨hschemaWords, hschemaSegments⟩ := Package.areWords_of_mem_candidates hschema
  have hschemaWord : Text.IsWordText schemaName :=
    hschemaWords.isWordText (hschemaSegments ▸ List.mem_cons_self)
  have hcomponent : ∀ name, IsFileName name →
      IsComponentText (name ++ (Scheme.destination s).fileExtension) :=
    fun name hname => hd ▸ hname.isComponentText_append hne hslash
  have htable : ∀ t ∈ tables, (Scheme.destination s).pathOf
      (Perl.tablePackage st.nameSpace st.layout schemaName t.name)
      = .ok ((Scheme.destination s).fileAt (st.layout.tableDirectories st.nameSpace schemaName)
          t.name) := by
    intro t ht
    refine Destination.pathOf_eq_fileAt (Scheme.separator_destination_ne_empty s) ?_
      (isComponentText_of_mem_tableDirectories hwords hschemaWord st.layout)
      (hcomponent t.name (hnames t ht))
    refine (Perl.segments_tablePackage hwords st.layout hschema (hnames t ht).ne_empty).trans ?_
    rw [(hnames t ht).segments_eq]
    rfl
  have hschemaPath : (Scheme.destination s).pathOf (Perl.schemaPackage st.nameSpace schemaName)
      = .ok ((Scheme.destination s).fileAt (segments separator st.nameSpace) schemaName) :=
    Destination.pathOf_eq_fileAt (Scheme.separator_destination_ne_empty s)
      (Perl.segments_schemaPackage hwords hschema)
      (fun name hname => Path.isComponentText_of_isWordText (hwords.isWordText hname))
      (hcomponent schemaName (isFileName_of_isWordText hschemaWord))
  have hkeys : p.files.keys
      = (tableNames tables).map (Perl.tablePackage st.nameSpace st.layout schemaName)
        ++ [Perl.schemaPackage st.nameSpace schemaName] := by
    rw [hemits.keys_eq, hemits.schemaModule_eq]
    rfl
  exact ⟨st.layout, st.nameSpace, schemaName, Perl.layoutOf_eq_ok hstLayout,
    hs.nameSpace_eq_text hnameSpace, hchoice, {
      keys_eq := hkeys
      table := htable
      schema := hschemaPath
      nodup := hkeys ▸ nodup_paths hn htable hschemaPath }⟩

/-- Settings with a namespace, an output directory and the layout of namespaces. -/
def shopSettings : Settings where
  nameSpace := .text "My::Shop"
  outputPath := .text "./lib//perl"
  layout := .text "namespaces"

/-- Tables with names that hold colons and points, and one that is named as the schema class. -/
def shopTables : List Table :=
  [{ name := ":item" }, { name := "item:" }, { name := "." }, { name := "DBIC_Scheme" }]

theorem haveOwnFiles_shop : ∃ p,
    ((Perl.generator shopSettings).generate shopTables).2.outcome = .ok p ∧
    HaveOwnFiles (Scheme.destination shopSettings) shopTables p .namespaces "My::Shop" "Database" ∧
    (Scheme.destination shopSettings).pathOf "My::Shop::Database::Result:::item"
      = .ok ⟨.working, ["lib", "perl", "My", "Shop", "Database", "Result", ":item.pm"]⟩ := by
  have hsuccess : ((Perl.generator shopSettings).generate shopTables).2.isSuccess = true := by
    decide +kernel
  obtain ⟨p, hp⟩ := Scheme.exists_product hsuccess
  obtain ⟨layout, nameSpace, schemaName, hlayout, hnameSpace, hchoice, hown⟩ :=
    haveOwnFiles_of_generate ⟨shopSettings, rfl⟩ rfl (by decide) (by decide) (by decide +kernel) hp
  have hchosen : Package.chooseSchemaName Package.schemaNameCandidates (tableNames shopTables)
      = .ok "Database" := by decide +kernel
  cases layout with
  | classes => exact absurd hlayout (by decide)
  | namespaces =>
    obtain rfl := Value.text.inj hnameSpace
    obtain rfl := Except.ok.inj (hchosen.symm.trans hchoice)
    exact ⟨p, hp, hown, by decide +kernel⟩

end SchemaGen
