import SchemaGen.Proofs.Entries.Gathering

/-!
# Entries set one after the other

`Entries.merge` sets some entries one after the other. If their keys are all new and differ, they
are appended (`merge_of_fresh`). In any case nothing is entered but what was given (`mem_ofList`),
and each key that was given is there once (`nodup_keys_ofList`), at the place where it was given
first (`keys_ofList`) and with the value that it was given last (`get?_ofList`). A change of the
values can be made before or after (`mapValues_ofList`), since only the keys decide on the places,
and so can a choice among the keys (`filter_merge`).

What is merged later stands over what was there (`get?_merge`), and of three layers it does not
matter which two are merged first (`merge_merge`).
-/

namespace SchemaGen.Entries

variable {α β γ : Type}

/-- Applies a function to all values. -/
def mapValues (f : β → γ) (es : Entries α β) : Entries α γ := es.map fun e => (e.1, f e.2)

theorem keys_mapValues (f : β → γ) (es : Entries α β) : (es.mapValues f).keys = es.keys := by
  rw [keys, keys, mapValues, List.map_map]
  rfl

variable [DecidableEq α]

theorem get?_mapValues (f : β → γ) (es : Entries α β) (key : α) :
    (es.mapValues f).get? key = (es.get? key).map f := by
  induction es with
  | nil => rfl
  | cons e es ih =>
    show get? ((e.1, f e.2) :: mapValues f es) key = _
    rw [get?, get?, ih]
    split <;> rfl

theorem merge_append (es xs ys : Entries α β) : es.merge (xs ++ ys) = (es.merge xs).merge ys :=
  List.foldl_append

/-- **New entries are appended.** -/
theorem merge_of_fresh {es news : Entries α β} (hn : news.keys.Nodup)
    (hfresh : ∀ k ∈ news.keys, k ∉ es.keys) : es.merge news = es ++ news := by
  induction news generalizing es with
  | nil => exact (List.append_nil _).symm
  | cons e news ih =>
    obtain ⟨he, hn⟩ := List.nodup_cons.1 hn
    rw [merge, List.foldl_cons, set_of_not_mem es (hfresh e.1 List.mem_cons_self)]
    refine (ih hn fun k hk hm => ?_).trans (List.append_assoc es [e] news)
    rw [keys, List.map_append, List.mem_append] at hm
    rcases hm with hm | hm
    · exact hfresh k (List.mem_cons_of_mem _ hk) hm
    · exact he (List.mem_singleton.1 hm ▸ hk)

theorem mem_set {es : Entries α β} {key : α} {value : β} {e : α × β} (h : e ∈ es.set key value) :
    e ∈ es ∨ e = (key, value) := by
  induction es with
  | nil => exact .inr (List.mem_singleton.1 h)
  | cons d es ih =>
    obtain ⟨k, v⟩ := d
    rw [set, alter] at h
    split at h
    · next hk =>
      subst hk
      exact (List.mem_cons.1 h).symm.imp_left (List.mem_cons_of_mem _)
    · rcases List.mem_cons.1 h with rfl | h
      · exact .inl List.mem_cons_self
      · exact (ih h).imp_left (List.mem_cons_of_mem _)

theorem mem_merge {es news : Entries α β} {e : α × β} (h : e ∈ es.merge news) :
    e ∈ es ∨ e ∈ news := by
  induction news generalizing es with
  | nil => exact .inl h
  | cons d news ih =>
    rcases ih h with h | h
    · rcases mem_set h with h | rfl
      · exact .inl h
      · exact .inr List.mem_cons_self
    · exact .inr (List.mem_cons_of_mem _ h)

/-- Nothing is entered but what was given. -/
theorem mem_ofList {news : List (α × β)} {e : α × β} (h : e ∈ ofList news) : e ∈ news :=
  (mem_merge h).resolve_left List.not_mem_nil

theorem nodup_keys_merge {es : Entries α β} (h : es.keys.Nodup) (news : Entries α β) :
    (es.merge news).keys.Nodup := by
  induction news generalizing es with
  | nil => exact h
  | cons e news ih => exact ih (nodup_keys_alter h e.1 _)

/-- Each key is there once. -/
theorem nodup_keys_ofList (news : List (α × β)) : (ofList news).keys.Nodup :=
  nodup_keys_merge nodup_keys_nil news

/-- **The keys stand in the order in which they were first given.** -/
theorem keys_ofList (news : List (α × β)) : (ofList news).keys = (keys news).eraseDups := by
  suffices hacc : ∀ (es : Entries α β) (ks : List α), es.keys = ks.eraseDups →
      (es.merge news).keys = (ks ++ keys news).eraseDups from hacc [] [] rfl
  induction news with
  | nil => exact fun es ks h => h.trans (congrArg List.eraseDups (List.append_nil ks).symm)
  | cons e news ih =>
    intro es ks h
    refine (ih _ _ (keys_alter_eq_eraseDups h e.1 _)).trans ?_
    rw [List.append_assoc]
    rfl

/-- So first occurrences do not repeat. -/
theorem nodup_eraseDups (xs : List α) : xs.eraseDups.Nodup := by
  have hkeys : keys (xs.map fun x => (x, ())) = xs := by
    rw [keys, List.map_map]
    exact List.map_id' xs
  have hnodup := nodup_keys_ofList (xs.map fun x => (x, ()))
  rwa [keys_ofList, hkeys] at hnodup

/-- **The last value that was given counts.** -/
theorem get?_ofList (news : List (α × β)) (key : α) :
    (ofList news).get? key = (news.filter (·.1 = key)).getLast?.map Prod.snd := by
  suffices hacc : ∀ es : Entries α β, (es.merge news).get? key
      = ((news.filter (·.1 = key)).getLast?.map Prod.snd).or (es.get? key) from
    (hacc []).trans (Option.or_none)
  induction news with
  | nil => exact fun _ => rfl
  | cons e news ih =>
    intro es
    refine (ih (es.set e.1 e.2)).trans ?_
    by_cases he : e.1 = key
    · subst he
      rw [get?_set_self, List.filter_cons_of_pos (by simp), List.getLast?_cons]
      cases (news.filter (·.1 = e.1)).getLast? <;> rfl
    · rw [get?_set_of_ne es e.2 he, List.filter_cons_of_neg (by simpa using he)]

theorem mapValues_set (f : β → γ) (es : Entries α β) (key : α) (value : β) :
    (es.set key value).mapValues f = (es.mapValues f).set key (f value) := by
  induction es with
  | nil => rfl
  | cons d es ih =>
    obtain ⟨k, v⟩ := d
    show (alter ((k, v) :: es) key _).mapValues f = alter ((k, f v) :: mapValues f es) key _
    rw [alter, alter]
    split
    · rfl
    · exact congrArg ((k, f v) :: ·) ih

theorem mapValues_merge (f : β → γ) (es news : Entries α β) :
    (es.merge news).mapValues f = (es.mapValues f).merge (news.mapValues f) := by
  induction news generalizing es with
  | nil => rfl
  | cons e news ih => exact (ih _).trans (by rw [mapValues_set]; rfl)

/-- **Values can be changed before they are entered or after it.** -/
theorem mapValues_ofList (f : β → γ) (news : List (α × β)) :
    (ofList news).mapValues f = ofList (mapValues f news) :=
  mapValues_merge f [] news

/-! ## What is read after a merge, and after a choice -/

theorem get?_eq_none {es : Entries α β} {key : α} (h : key ∉ es.keys) : es.get? key = none := by
  rw [← Option.not_isSome_iff_eq_none, ← mem_keys_iff]
  exact h

/-- Of entries with distinct keys that are merged, each has its value, and other keys keep theirs.
-/
theorem get?_merge (es : Entries α β) {news : Entries α β} (h : news.keys.Nodup) (key : α) :
    (es.merge news).get? key = (news.get? key).or (es.get? key) := by
  induction news generalizing es with
  | nil => rfl
  | cons e news ih =>
    obtain ⟨he, hn⟩ := List.nodup_cons.1 h
    refine (ih (es.set e.1 e.2) hn).trans ?_
    by_cases hkey : e.1 = key
    · subst hkey
      rw [get?_eq_none he, get?_set_self, get?, if_pos rfl]
      rfl
    · rw [get?_set_of_ne es e.2 hkey, get?, if_neg hkey]

/-- Entries chosen by their keys have the values that they had. -/
theorem get?_filter_key (p : α → Bool) (es : Entries α β) (key : α) :
    get? (es.filter fun e => p e.1) key = if p key = true then es.get? key else none := by
  induction es with
  | nil => exact (ite_self none).symm
  | cons e es ih =>
    rw [List.filter_cons]
    by_cases he : p e.1 = true
    · rw [if_pos he, get?, get?, ih]
      by_cases hkey : e.1 = key
      · rw [if_pos hkey, if_pos hkey, if_pos (hkey ▸ he)]
      · rw [if_neg hkey, if_neg hkey]
    · rw [if_neg he, ih, get?]
      by_cases hkey : e.1 = key
      · rw [if_neg (hkey ▸ he), if_neg (hkey ▸ he)]
      · rw [if_neg hkey]

/-- Of distinct keys those are left whose value was chosen. -/
theorem get?_filter_value (p : β → Bool) {es : Entries α β} (h : es.keys.Nodup) (key : α) :
    get? (es.filter fun e => p e.2) key = (es.get? key).filter p := by
  induction es with
  | nil => rfl
  | cons e es ih =>
    obtain ⟨he, hn⟩ := List.nodup_cons.1 h
    rw [List.filter_cons, get?]
    by_cases hp : p e.2 = true
    · rw [if_pos hp, get?, ih hn]
      by_cases hkey : e.1 = key
      · rw [if_pos hkey, if_pos hkey, Option.filter_some, if_pos hp]
      · rw [if_neg hkey, if_neg hkey]
    · rw [if_neg hp, ih hn]
      by_cases hkey : e.1 = key
      · subst hkey
        rw [if_pos rfl, get?_eq_none he, Option.filter_some, if_neg hp, Option.filter_none]
      · rw [if_neg hkey]

theorem filter_set (p : α → Bool) (es : Entries α β) (key : α) (value : β) :
    (es.set key value).filter (fun e => p e.1)
      = if p key = true then set (es.filter fun e => p e.1) key value
        else es.filter fun e => p e.1 := by
  induction es with
  | nil => by_cases hp : p key = true <;> simp [set, alter, hp]
  | cons e es ih =>
    obtain ⟨k, v⟩ := e
    simp only [set] at ih
    by_cases hk : k = key
    · subst hk
      by_cases hp : p k = true <;> simp [set, alter, hp]
    · by_cases hp : p k = true <;> by_cases hq : p key = true <;> simp_all [set, alter]

/-- **Entries can be chosen by their keys before they are merged or after it.** -/
theorem filter_merge (p : α → Bool) (es news : Entries α β) :
    (es.merge news).filter (fun e => p e.1)
      = merge (es.filter fun e => p e.1) (news.filter fun e => p e.1) := by
  induction news generalizing es with
  | nil => rfl
  | cons e news ih =>
    refine (ih (es.set e.1 e.2)).trans ?_
    rw [filter_set, List.filter_cons]
    by_cases he : p e.1 = true
    · rw [if_pos he, if_pos he]
      rfl
    · rw [if_neg he, if_neg he]

/-! ## One merge after the other -/

/-- The value that is set last counts. -/
theorem set_set (es : Entries α β) (key : α) (v w : β) :
    (es.set key v).set key w = es.set key w := by
  induction es with
  | nil => simp [set, alter]
  | cons e es ih =>
    obtain ⟨k, u⟩ := e
    simp only [set] at ih
    by_cases hk : k = key <;> simp [set, alter, hk, ih]

/-- A key that is known can be set before another one or after it. -/
theorem set_comm {es : Entries α β} {key other : α} (hkey : key ∈ es.keys) (hne : key ≠ other)
    (v w : β) : (es.set other w).set key v = (es.set key v).set other w := by
  induction es with
  | nil => cases hkey
  | cons e es ih =>
    obtain ⟨k, u⟩ := e
    by_cases hk : k = key
    · subst hk
      simp [set, alter, hne]
    · have hmem : key ∈ keys es := (List.mem_cons.1 hkey).resolve_left (Ne.symm hk)
      have ih := ih hmem
      simp only [set] at ih
      by_cases ho : k = other <;> simp [set, alter, hk, ho, ih, Ne.symm hne]

theorem mem_keys_set {es : Entries α β} {key : α} (value : β) : key ∈ (es.set key value).keys :=
  (mem_keys_alter es key _).2 (.inr rfl)

theorem set_merge_of_mem {es news : Entries α β} {key : α} (hkey : key ∈ es.keys)
    (hnews : key ∉ news.keys) (value : β) :
    (es.merge news).set key value = (es.set key value).merge news := by
  induction news generalizing es with
  | nil => rfl
  | cons e news ih =>
    obtain ⟨hne, hnews⟩ := List.ne_and_not_mem_of_not_mem_cons hnews
    have hknown : key ∈ (es.set e.1 e.2).keys := (mem_keys_alter es e.1 _).2 (.inl hkey)
    refine (ih hknown hnews).trans ?_
    rw [set_comm hkey hne]
    rfl

theorem merge_set (es : Entries α β) {news : Entries α β} (h : news.keys.Nodup) (key : α)
    (value : β) : es.merge (news.set key value) = (es.merge news).set key value := by
  induction news generalizing es with
  | nil => rfl
  | cons e news ih =>
    obtain ⟨k, v⟩ := e
    obtain ⟨hk, hn⟩ := List.nodup_cons.1 h
    by_cases hkey : k = key
    · subst hkey
      have hset : set ((k, v) :: news) k value = (k, value) :: news := by
        rw [set, alter, if_pos rfl]
      rw [hset]
      show (es.set k value).merge news = ((es.set k v).merge news).set k value
      rw [set_merge_of_mem (mem_keys_set v) hk, set_set]
    · have hset : set ((k, v) :: news) key value = (k, v) :: set news key value := by
        rw [set, alter, if_neg hkey]
        rfl
      rw [hset]
      exact ih (es.set k v) hn

/-- **Merging one by one** comes to the same as merging what was merged. -/
theorem merge_merge (es : Entries α β) {news : Entries α β} (h : news.keys.Nodup)
    (later : Entries α β) : es.merge (news.merge later) = (es.merge news).merge later := by
  induction later generalizing news with
  | nil => rfl
  | cons e later ih =>
    show es.merge ((news.set e.1 e.2).merge later) = ((es.merge news).set e.1 e.2).merge later
    have hset : (news.set e.1 e.2).keys.Nodup := nodup_keys_alter h e.1 _
    rw [ih hset, merge_set es h]

end SchemaGen.Entries
