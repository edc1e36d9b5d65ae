/-!
# Entries in the order of their first insertion

A mapping whose order can be seen in an answer is a list of pairs. `get?` reads the value of a key,
`set` gives a key a value: a new key goes to the end, a known one keeps its place. The lemmas say
what each of the two does to the keys and to the values read back.
-/

namespace SchemaGen

/-- Keys with their values, in the order in which the keys were first inserted. -/
abbrev Entries (α β : Type) := List (α × β)

namespace Entries

variable {α β γ : Type}

/-- The keys in order. -/
def keys (es : Entries α β) : List α := es.map Prod.fst

/-- The values in order. -/
def values (es : Entries α β) : List β := es.map Prod.snd

variable [DecidableEq α]

/-- The value of the first entry with the given key. -/
def get? : Entries α β → α → Option β
  | [], _ => none
  | (k, v) :: es, key => if k = key then some v else get? es key

/-- Gives `key` the value that `f` makes of the one it has, if it has one. -/
def alter (es : Entries α β) (key : α) (f : Option β → β) : Entries α β :=
  match es with
  | [] => [(key, f none)]
  | (k, v) :: rest => if k = key then (k, f (some v)) :: rest else (k, v) :: alter rest key f

/-- Gives `key` the value `value`. -/
def set (es : Entries α β) (key : α) (value : β) : Entries α β :=
  es.alter key (fun _ => value)

/-- Sets every entry of `news` in turn. -/
def merge (es news : Entries α β) : Entries α β :=
  news.foldl (fun acc e => set acc e.1 e.2) es

/-- The entries that result from setting the given ones in turn. -/
def ofList (news : List (α × β)) : Entries α β :=
  merge [] news

theorem get?_alter_self (es : Entries α β) (key : α) (f : Option β → β) :
    (es.alter key f).get? key = some (f (es.get? key)) := by
  induction es with
  | nil => simp [alter, get?]
  | cons e es ih =>
    obtain ⟨k, v⟩ := e
    by_cases h : k = key <;> simp_all [alter, get?]

theorem get?_alter_of_ne (es : Entries α β) {key other : α} (f : Option β → β) (h : key ≠ other) :
    (es.alter key f).get? other = es.get? other := by
  induction es with
  | nil => simp [alter, get?, h]
  | cons e es ih =>
    obtain ⟨k, v⟩ := e
    by_cases hk : k = key
    · subst hk; simp [alter, get?, h]
    · by_cases ho : k = other <;> simp_all [alter, get?]

theorem mem_keys_iff (es : Entries α β) (key : α) : key ∈ es.keys ↔ (es.get? key).isSome := by
  induction es with
  | nil => simp [keys, get?]
  | cons e es ih =>
    obtain ⟨k, v⟩ := e
    by_cases h : k = key
    · simp [keys, get?, h]
    · simp only [keys, List.map_cons, List.mem_cons, get?, h, if_false]
      rw [← ih]
      constructor
      · rintro (rfl | h')
        · exact absurd rfl h
        · exact h'
      · exact Or.inr

/-- A known key keeps its place, a new one goes to the end. -/
theorem keys_alter (es : Entries α β) (key : α) (f : Option β → β) :
    (es.alter key f).keys = if key ∈ es.keys then es.keys else es.keys ++ [key] := by
  induction es with
  | nil => simp [alter, keys]
  | cons e es ih =>
    obtain ⟨k, v⟩ := e
    by_cases h : k = key
    · simp [alter, keys, h]
    · have h' : key ≠ k := fun e => h e.symm
      simp only [keys] at ih
      by_cases hm : key ∈ es.map Prod.fst <;> simp_all [alter, keys]

@[simp] theorem get?_set_self (es : Entries α β) (key : α) (value : β) :
    (es.set key value).get? key = some value := get?_alter_self es key _

theorem get?_set_of_ne (es : Entries α β) {key other : α} (value : β) (h : key ≠ other) :
    (es.set key value).get? other = es.get? other := get?_alter_of_ne es _ h

end Entries

end SchemaGen
