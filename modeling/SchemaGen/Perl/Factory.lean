import SchemaGen.Perl.Generator
import SchemaGen.Settings.Merge

/-!
# Generators from overrides

A generator of Perl classes whose settings are overrides of given settings or of the defaults.
-/

namespace SchemaGen.Perl

variable [Memory]

/-- A generator with the default settings, overridden. -/
def ofOverrides (overrides : Entries String Value) : Except SettingError Generator :=
  (Settings.resolve [] overrides).map generator

/-- A generator with some settings, overridden. -/
def ofSettings (s : Settings) (overrides : Entries String Value) : Except SettingError Generator :=
  (s.override overrides).map generator

/-- Why there is no generator with the layout of namespaces. -/
inductive NamespacesError where
  | setting (e : SettingError)
  /-- The overrides have a layout of their own. -/
  | twoLayouts
deriving DecidableEq, Repr

def NamespacesError.message : NamespacesError → String
  | setting e => e.message
  | twoLayouts =>
    Log.Source.classWriter.name ++ ".create_dbic_generator() " ++
      "got multiple values for keyword argument 'layout'"

/-- A generator with the layout of namespaces. -/
def withNamespaces (overrides : Entries String Value) : Except NamespacesError Generator :=
  if (Entries.get? overrides "layout").isSome then .error .twoLayouts
  else
    (ofOverrides (Entries.set overrides "layout" (.text Layout.namespaces.name))).mapError .setting

end SchemaGen.Perl
