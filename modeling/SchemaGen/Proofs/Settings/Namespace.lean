import SchemaGen.Failure
import SchemaGen.Proofs.Package.Segments
import SchemaGen.Settings.Basic

/-!
# Texts given as a namespace

A text that is given as the namespace is taken as it is or refused. It is taken if it is empty or
all that stands between its separators are segments, which is to say that the pattern of namespaces
matches it; and a namespace that is taken is one that names of modules can be built on: it is put
together again from its own segments, and a name joined to it is one more segment behind them.
`IsNamespaceRule` says this of one text, and it holds of all (`isNamespaceRule_checkNamespace`).
-/

namespace SchemaGen.Settings

open ModuleName (separator segments joinSegments)

/-- **How a text is taken as a namespace**, where `outcome` is what comes of it. -/
structure IsNamespaceRule (s : String) (outcome : Except SettingError String) : Prop where
  /-- It is taken as it is if it is empty or every part between separators is a segment. -/
  taken_iff : outcome = .ok s ↔
    s = "" ∨ ∀ part ∈ Text.split separator s, Package.IsSegment part.toList
  /-- These are the texts that the pattern matches, and the empty one. -/
  matched_iff : outcome = .ok s ↔ s = "" ∨ s.toList ∈ Package.namespacePattern
  /-- Any other text is refused, with the text itself in a failure of the settings. -/
  refused : outcome ≠ .ok s →
    outcome = .error (.nameSpace s) ∧ (Failure.setting (.nameSpace s)).kind = .settings
  /-- A namespace is put together again from its segments. -/
  joined : outcome = .ok s → joinSegments separator ((segments separator s).map some) = s
  /-- A name without a separator becomes one more segment behind those of a namespace. -/
  extended : outcome = .ok s → ∀ name : String, name ≠ "" →
    ¬ separator.toList <:+: name.toList →
    segments separator (joinSegments separator [some s, some name])
      = segments separator s ++ [name]

theorem checkNamespace_text_eq_ok_iff (s : String) :
    checkNamespace (.text s) = .ok s ↔ Package.isNamespace s = true := by
  rw [checkNamespace]
  split
  · next h => exact iff_of_true rfl h
  · next h => exact iff_of_false (fun he => nomatch he) h

/-- The parts between separators are the pieces of the text. -/
theorem forall_mem_split_iff {sep s : String} {P : List Char → Prop} :
    (∀ part ∈ Text.split sep s, P part.toList) ↔ ∀ p ∈ Text.pieces sep.toList s.toList, P p := by
  rw [Text.split, List.forall_mem_map]
  simp only [String.toList_ofList]

/-- **Every text is taken as a namespace by this rule.** -/
theorem isNamespaceRule_checkNamespace (s : String) :
    IsNamespaceRule s (checkNamespace (.text s)) where
  taken_iff := by
    rw [checkNamespace_text_eq_ok_iff, Package.isNamespace_iff_pieces, forall_mem_split_iff]
  matched_iff := by
    rw [checkNamespace_text_eq_ok_iff, Package.isNamespace_iff_pattern]
  refused := by
    intro h
    rw [Ne, checkNamespace_text_eq_ok_iff] at h
    exact ⟨if_neg h, rfl⟩
  joined := by
    intro h
    rw [checkNamespace_text_eq_ok_iff, Package.isNamespace_iff_pieces] at h
    rcases h with rfl | h
    · rfl
    · refine ModuleName.joinSegments_segments (by decide) fun part hpart hempty => ?_
      -- no segment is empty
      exact absurd (forall_mem_split_iff.2 h part hpart) (by rw [hempty]; exact id)
  extended := by
    intro h name hname hsep
    rw [checkNamespace_text_eq_ok_iff] at h
    rw [ModuleName.segments_joinSegments_pair (Package.areWords_of_isNamespace h) hname,
      ModuleName.segments_eq_singleton hname hsep]

/-- A namespace of two segments is taken, and a name that starts with a colon stays a segment of its
own behind them. -/
theorem isNamespaceRule_myApp :
    checkNamespace (.text "MyApp::DB") = .ok "MyApp::DB" ∧
    joinSegments separator ((segments separator "MyApp::DB").map some) = "MyApp::DB" ∧
    segments separator (joinSegments separator [some "MyApp::DB", some ":Book"])
      = segments separator "MyApp::DB" ++ [":Book"] := by
  have hrule := isNamespaceRule_checkNamespace "MyApp::DB"
  have htaken : checkNamespace (.text "MyApp::DB") = .ok "MyApp::DB" := by decide +kernel
  exact ⟨htaken, hrule.joined htaken, hrule.extended htaken ":Book" (by decide) (by decide)⟩

end SchemaGen.Settings
