import SchemaGen.Proofs.Outcome
import SchemaGen.Settings.Basic

/-!
# Checked settings

A check asks of every setting that it is of its own kind, and changes nothing but a namespace that
is missing (`Settings.check_eq_ok_iff`). So settings that were checked pass another check as they
are (`Settings.IsChecked.check_eq`).
-/

namespace SchemaGen.Settings

/-- **Settings that were checked.** -/
def IsChecked (s : Settings) : Prop := ∃ given : Settings, given.check = .ok s

/-- **What a check asks for**, setting by setting. -/
theorem check_eq_ok_iff {given s : Settings} :
    given.check = .ok s ↔ ∃ name, checkNamespace given.nameSpace = .ok name ∧
      checkLayout given.layout = .ok () ∧ checkFileExtension given.fileExtension = .ok () ∧
      checkIndentSize given.indentSize = .ok () ∧ checkAddComments given.addComments = .ok () ∧
      checkPath "input_file" given.inputFile = .ok () ∧
      checkPath "output_path" given.outputPath = .ok () ∧ checkCustom given.custom = .ok () ∧
      s = { given with nameSpace := .text name } := by
  rw [check]
  constructor
  · intro h
    obtain ⟨name, hname, h⟩ := bind_eq_ok_iff.1 h
    obtain ⟨_, hlayout, h⟩ := bind_eq_ok_iff.1 h
    obtain ⟨_, hextension, h⟩ := bind_eq_ok_iff.1 h
    obtain ⟨_, hindent, h⟩ := bind_eq_ok_iff.1 h
    obtain ⟨_, hcomments, h⟩ := bind_eq_ok_iff.1 h
    obtain ⟨_, hinput, h⟩ := bind_eq_ok_iff.1 h
    obtain ⟨_, houtput, h⟩ := bind_eq_ok_iff.1 h
    obtain ⟨_, hcustom, h⟩ := bind_eq_ok_iff.1 h
    cases h
    exact ⟨name, hname, hlayout, hextension, hindent, hcomments, hinput, houtput, hcustom, rfl⟩
  · rintro ⟨name, hname, hlayout, hextension, hindent, hcomments, hinput, houtput, hcustom, rfl⟩
    refine bind_eq_ok_iff.2 ⟨name, hname, ?_⟩
    rw [hlayout, hextension, hindent, hcomments, hinput, houtput, hcustom]
    rfl

theorem check_eq_ok {given s : Settings} (h : given.check = .ok s) :
    ∃ name, checkNamespace given.nameSpace = .ok name ∧ checkLayout given.layout = .ok () ∧
      s = { given with nameSpace := .text name } := by
  obtain ⟨name, hname, hlayout, -, -, -, -, -, -, hs⟩ := check_eq_ok_iff.1 h
  exact ⟨name, hname, hlayout, hs⟩

/-- A namespace that was accepted is accepted again. -/
theorem checkNamespace_text {v : Value} {name : String} (h : checkNamespace v = .ok name) :
    checkNamespace (.text name) = .ok name := by
  rw [checkNamespace.eq_def] at h
  split at h
  · cases h
    rfl
  · split at h
    · next hname =>
      cases h
      exact if_pos hname
    · cases h
  · cases h

/-- Custom settings that were accepted are an object. -/
theorem exists_of_checkCustom {v : Value} (h : checkCustom v = .ok ()) :
    ∃ fields, v = .object fields := by
  rw [checkCustom.eq_def] at h
  split at h
  · exact ⟨_, rfl⟩
  · cases h

/-- **Checked settings pass another check as they are.** -/
theorem IsChecked.check_eq {s : Settings} (h : s.IsChecked) : s.check = .ok s := by
  obtain ⟨given, h⟩ := h
  obtain ⟨name, hname, hrest⟩ := check_eq_ok_iff.1 h
  obtain ⟨hlayout, hextension, hindent, hcomments, hinput, houtput, hcustom, rfl⟩ := hrest
  exact check_eq_ok_iff.2 ⟨name, checkNamespace_text hname, hlayout, hextension, hindent,
    hcomments, hinput, houtput, hcustom, rfl⟩

/-- The namespace of checked settings is a text. -/
theorem IsChecked.exists_nameSpace {s : Settings} (h : s.IsChecked) :
    ∃ name, s.nameSpace = .text name := by
  obtain ⟨given, h⟩ := h
  obtain ⟨name, -, -, rfl⟩ := check_eq_ok h
  exact ⟨name, rfl⟩

/-- The indentation of checked settings is a number that is not below zero. -/
theorem IsChecked.exists_indentSize {s : Settings} (h : s.IsChecked) :
    ∃ n : Int, s.indentSize = .int n ∧ 0 ≤ n := by
  obtain ⟨-, -, -, -, hindent, -⟩ := check_eq_ok_iff.1 h.check_eq
  rw [checkIndentSize.eq_def] at hindent
  split at hindent
  · next n hn =>
    split at hindent
    · cases hindent
    · next hlt => exact ⟨n, hn, Int.not_lt.1 hlt⟩
  · cases hindent

/-- The custom settings of checked settings are an object. -/
theorem IsChecked.exists_custom {s : Settings} (h : s.IsChecked) :
    ∃ fields, s.custom = .object fields := by
  obtain ⟨-, -, -, -, -, -, -, -, hcustom, -⟩ := check_eq_ok_iff.1 h.check_eq
  exact exists_of_checkCustom hcustom

end SchemaGen.Settings
