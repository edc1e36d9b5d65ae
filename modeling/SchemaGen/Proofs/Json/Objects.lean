import SchemaGen.Json.Reader
import SchemaGen.Proofs.Entries.Merging
import SchemaGen.Settings.Source

/-!
# Objects that are read

An object may be written with one name several times. When it is read each name is entered as any
other key is, so that the object that comes out has it once (`Json.hasOwnNames_of_read`). This holds
of the fields of a configuration file above all (`SettingsFile.nodup_keys_fields`): its content is a
mapping, however it is written.
-/

namespace SchemaGen

namespace Json

/-- **The fields of an object have names of their own**; other values have no fields. -/
def HasOwnNames (v : Value) : Prop := ∀ fields, v = .object fields → (Entries.keys fields).Nodup

theorem hasOwnNames_of_object?_eq_none {v : Value} (h : v.object? = none) : HasOwnNames v := by
  rintro fields rfl
  cases h

/-! ## Values without fields -/

theorem object?_of_word? {cs rest : List Char} {v : Value} (h : word? cs = some (v, rest)) :
    v.object? = none := by
  obtain ⟨⟨word, u⟩, hmem, hword⟩ := List.exists_of_findSome?_eq_some h
  obtain ⟨_, -, hv⟩ := Option.map_eq_some_iff.1 hword
  cases hv
  have hwords : ∀ p ∈ words, p.2.object? = none := by
    simp [words, Value.object?]
  exact hwords _ hmem

theorem object?_of_readNumber {start rest : List Char} {v : Value}
    (h : readNumber start = .ok (v, rest)) : v.object? = none := by
  unfold readNumber at h
  dsimp only at h
  repeat' split at h
  all_goals cases h
  all_goals rfl

theorem object?_of_readItems {size fuel depth : Nat} {acc : List Value} {cs rest : List Char}
    {v : Value} (h : readItems size fuel depth acc cs = .ok (v, rest)) : v.object? = none := by
  induction fuel generalizing acc cs with
  | zero =>
    rw [readItems] at h
    cases h
  | succ fuel ih =>
    rw [readItems] at h
    split at h
    · cases h
    · split at h
      · cases h
        rfl
      · exact ih h
      · cases h

/-! ## Objects -/

/-- A member is entered under its name, whether the name is new or not. -/
theorem hasOwnNames_of_readMembers {size fuel depth : Nat} {acc : Entries String Value}
    {cs rest : List Char} {v : Value} (hacc : acc.keys.Nodup)
    (h : readMembers size fuel depth acc cs = .ok (v, rest)) : HasOwnNames v := by
  induction fuel generalizing acc cs with
  | zero =>
    rw [readMembers] at h
    cases h
  | succ fuel ih =>
    rw [readMembers.eq_def] at h
    dsimp only at h
    split at h
    · split at h
      · cases h
      · next key _ _ =>
        split at h
        · split at h
          · cases h
          · next value _ _ =>
            have hset : (acc.set key value).keys.Nodup := Entries.nodup_keys_alter hacc key _
            split at h
            · cases h
              rintro fields ⟨⟩
              exact hset
            · exact ih hset h
            · cases h
        · cases h
    · cases h

theorem hasOwnNames_of_readValue {size fuel depth : Nat} {cs rest : List Char} {v : Value}
    (h : readValue size fuel depth cs = .ok (v, rest)) : HasOwnNames v := by
  cases fuel with
  | zero =>
    rw [readValue] at h
    cases h
  | succ fuel =>
    rw [readValue.eq_def] at h
    dsimp only at h
    split at h
    · split at h
      · cases h
        exact hasOwnNames_of_object?_eq_none rfl
      · cases h
    · split at h
      · cases h
      · split at h
        · cases h
          exact hasOwnNames_of_object?_eq_none rfl
        · exact hasOwnNames_of_object?_eq_none (object?_of_readItems h)
    · split at h
      · cases h
      · split at h
        · cases h
          rintro fields ⟨⟩
          exact Entries.nodup_keys_nil
        · exact hasOwnNames_of_readMembers Entries.nodup_keys_nil h
    · split at h
      · next hword =>
        cases h
        exact hasOwnNames_of_object?_eq_none (object?_of_word? hword)
      · exact hasOwnNames_of_object?_eq_none (object?_of_readNumber h)

/-- **An object that is read has each name once.** -/
theorem hasOwnNames_of_read {s : String} {v : Value} (h : read s = .ok v) : HasOwnNames v := by
  unfold read at h
  dsimp only at h
  split at h
  · cases h
  · split at h
    · cases h
    · next hvalue =>
      split at h
      · split at h
        · cases h
        · cases h
          exact hasOwnNames_of_readValue hvalue
      · cases h

end Json

/-- **The fields of a configuration file have names of their own.** -/
theorem SettingsFile.nodup_keys_fields {content : List UInt8} {fields : Entries String Value}
    (h : SettingsFile.fields content = .ok fields) : fields.keys.Nodup := by
  unfold SettingsFile.fields at h
  split at h
  · cases h
  · split at h
    · cases h
    · next hread =>
      cases h
      exact Json.hasOwnNames_of_read hread _ rfl
    · cases h

end SchemaGen
