import SchemaGen.Entries
import Mathlib.Data.List.Nodup
import Mathlib.Data.List.Perm.Basic

/-!
# Values gathered under their keys

Column pairs reach a mapping in portions, each under the name of a table, and the mapping keeps one
list a name: a portion goes to the end of the list of its name (`Entries.extend`), and
`Entries.gather` is what a run of portions leaves. `Entries.flat` lists the single values again,
each with its key.

Gathering loses no value and makes none up, whatever the keys: what it leaves has the values of the
portions, up to their order (`flat_gather`). Portions under distinct keys are left as they are
(`gather_of_nodup`), those under other keys than the ones before are gathered apart
(`gather_append`), and those under one key keep their order (`flat_gather_of_key_eq`). Key by key,
each list is made of the portions under its key (`gather_eq`). And where the keys are distinct, the
flat list tells the mapping but for its empty lists (`filter_eq_of_flat_eq`): gathering the values
one by one builds it up again.
-/

namespace SchemaGen.Entries

variable {α β : Type}

/-- The values one by one, each with its key. -/
def flat (es : Entries α (List β)) : List (α × β) :=
  es.flatMap fun e => e.2.map (Prod.mk e.1)

@[simp] theorem flat_nil : flat ([] : Entries α (List β)) = [] := rfl

@[simp] theorem flat_cons (e : α × List β) (es : Entries α (List β)) :
    flat (e :: es) = e.2.map (Prod.mk e.1) ++ flat es := rfl

@[simp] theorem flat_append (es fs : Entries α (List β)) : flat (es ++ fs) = flat es ++ flat fs :=
  List.flatMap_append

/-- The values are counted list by list. -/
theorem foldl_length (es : Entries α (List β)) (n : Nat) :
    es.foldl (fun count e => count + e.2.length) n = n + (flat es).length := by
  induction es generalizing n with
  | nil => rfl
  | cons e es ih =>
    rw [List.foldl_cons, ih, flat_cons, List.length_append, List.length_map, Nat.add_assoc]

variable [DecidableEq α]

/-! ## New keys -/

theorem alter_of_not_mem (es : Entries α β) {key : α} (h : key ∉ es.keys) (f : Option β → β) :
    es.alter key f = es ++ [(key, f none)] := by
  induction es with
  | nil => rfl
  | cons e es ih =>
    obtain ⟨k, v⟩ := e
    have hk : k ≠ key := fun hk => h (hk ▸ List.mem_cons_self)
    rw [alter, if_neg hk, ih (fun hm => h (List.mem_cons_of_mem k hm))]
    rfl

/-- A new key goes to the end. -/
theorem set_of_not_mem (es : Entries α β) {key : α} (h : key ∉ es.keys) (value : β) :
    es.set key value = es ++ [(key, value)] :=
  alter_of_not_mem es h _

/-- A value that is set again changes nothing. -/
theorem set_eq_self {es : Entries α β} {key : α} {value : β} (h : es.get? key = some value) :
    es.set key value = es := by
  induction es with
  | nil => cases h
  | cons e es ih =>
    obtain ⟨k, v⟩ := e
    rw [get?] at h
    rw [set, alter]
    split at h
    · next hk => rw [if_pos hk, Option.some.inj h]
    · next hk =>
      rw [if_neg hk]
      exact congrArg (List.cons _) (ih h)

theorem mem_keys_alter (es : Entries α β) (key : α) (f : Option β → β) {k : α} :
    k ∈ (es.alter key f).keys ↔ k ∈ es.keys ∨ k = key := by
  rw [keys_alter]
  split
  · next h => exact ⟨.inl, fun hk => hk.elim id fun he => he ▸ h⟩
  · rw [List.mem_append, List.mem_singleton]

/-! ## Distinct keys -/

omit [DecidableEq α] in
theorem nodup_keys_nil : (keys ([] : Entries α β)).Nodup := List.nodup_nil

theorem nodup_keys_alter {es : Entries α β} (h : es.keys.Nodup) (key : α) (f : Option β → β) :
    (es.alter key f).keys.Nodup := by
  rw [keys_alter]
  split
  · exact h
  · next hkey =>
    rw [← List.concat_eq_append]
    exact h.concat hkey

/-- The value that is read for a key is that of an entry. -/
theorem mem_of_get?_eq_some {es : Entries α β} {key : α} {value : β}
    (h : es.get? key = some value) : (key, value) ∈ es := by
  induction es with
  | nil => cases h
  | cons e es ih =>
    rw [get?] at h
    split at h
    · next hkey =>
      cases h
      rw [← hkey]
      exact List.mem_cons_self
    · exact List.mem_cons_of_mem e (ih h)

/-- Among distinct keys every entry is the one that is read. -/
theorem get?_eq_some_of_mem {es : Entries α β} (h : es.keys.Nodup) {e : α × β} (he : e ∈ es) :
    es.get? e.1 = some e.2 := by
  induction es with
  | nil => cases he
  | cons d es ih =>
    obtain ⟨hd, hn⟩ := List.nodup_cons.1 h
    rcases List.mem_cons.1 he with rfl | he
    · exact if_pos rfl
    · have hne : d.1 ≠ e.1 := fun hkey => hd (hkey ▸ List.mem_map_of_mem he)
      exact (if_neg hne).trans (ih hn he)

/-! ## Gathering -/

/-- Adds a portion to the end of the list under its key. -/
def extend (es : Entries α (List β)) (e : α × List β) : Entries α (List β) :=
  es.alter e.1 fun known => known.getD [] ++ e.2

/-- What a run of portions leaves. -/
def gather (portions : List (α × List β)) : Entries α (List β) := portions.foldl extend []

/-- A portion adds its own values and no others. -/
theorem flat_extend (es : Entries α (List β)) (e : α × List β) :
    (flat (es.extend e)).Perm (flat es ++ flat [e]) := by
  induction es with
  | nil => exact List.Perm.refl _
  | cons f es ih =>
    obtain ⟨k, vs⟩ := f
    by_cases hk : k = e.1
    · have he : extend ((k, vs) :: es) e = (k, vs ++ e.2) :: es := by
        rw [extend, alter, if_pos hk]
        rfl
      rw [he, flat_cons, flat_cons, List.map_append, List.append_assoc, List.append_assoc, hk]
      refine List.Perm.append_left _ ?_
      rw [flat_cons, flat_nil, List.append_nil]
      exact List.perm_append_comm
    · have he : extend ((k, vs) :: es) e = (k, vs) :: extend es e := by
        rw [extend, alter, if_neg hk]
        rfl
      rw [he, flat_cons, flat_cons, List.append_assoc]
      exact List.Perm.append_left _ ih

theorem flat_foldl_extend (es : Entries α (List β)) (portions : List (α × List β)) :
    (flat (portions.foldl extend es)).Perm (flat es ++ flat portions) := by
  induction portions generalizing es with
  | nil => rw [flat_nil, List.append_nil]; exact List.Perm.refl _
  | cons e portions ih =>
    refine (ih (es.extend e)).trans ?_
    rw [← List.singleton_append, flat_append, ← List.append_assoc]
    exact (flat_extend es e).append_right _

/-- **Gathering keeps every value**, with its multiplicity. -/
theorem flat_gather (portions : List (α × List β)) :
    (flat (gather portions)).Perm (flat portions) :=
  flat_foldl_extend [] portions

/-- **Portions under distinct keys are left as they are.** -/
theorem gather_of_nodup {portions : List (α × List β)} (h : (keys portions).Nodup) :
    gather portions = portions := by
  suffices hacc : ∀ es : Entries α (List β), (∀ k ∈ keys portions, k ∉ es.keys) →
      portions.foldl extend es = es ++ portions from
    hacc [] (fun _ _ => List.not_mem_nil)
  induction portions with
  | nil => intro es _; rw [List.append_nil]; rfl
  | cons e portions ih =>
    intro es hes
    obtain ⟨he, hn⟩ := List.nodup_cons.1 h
    have hstep : es.extend e = es ++ [e] :=
      alter_of_not_mem es (hes e.1 List.mem_cons_self) _
    rw [List.foldl_cons, hstep, ih hn, List.append_assoc, List.singleton_append]
    intro k hk hm
    rw [keys, List.map_append, List.mem_append] at hm
    rcases hm with hm | hm
    · exact hes k (List.mem_cons_of_mem e.1 hk) hm
    · rw [List.map_singleton, List.mem_singleton] at hm
      exact he (hm ▸ hk)

/-! ## Portions apart -/

theorem mem_keys_foldl_extend {es : Entries α (List β)} {portions : List (α × List β)} {k : α}
    (h : k ∈ (portions.foldl extend es).keys) : k ∈ es.keys ∨ k ∈ keys portions := by
  induction portions generalizing es with
  | nil => exact .inl h
  | cons e portions ih =>
    rcases ih h with hk | hk
    · rcases (mem_keys_alter es e.1 _).1 hk with hk | rfl
      · exact .inl hk
      · exact .inr List.mem_cons_self
    · exact .inr (List.mem_cons_of_mem _ hk)

/-- Entries with other keys in front of it do not meet a portion. -/
theorem extend_append (es fs : Entries α (List β)) {e : α × List β} (h : e.1 ∉ es.keys) :
    extend (es ++ fs) e = es ++ extend fs e := by
  induction es with
  | nil => rfl
  | cons d es ih =>
    have hd : d.1 ≠ e.1 := fun hd => h (hd ▸ List.mem_cons_self)
    have hes := ih (fun hm => h (List.mem_cons_of_mem d.1 hm))
    rw [extend] at hes
    rw [extend, List.cons_append, alter, if_neg hd, hes, List.cons_append]

/-- Nor do they meet a run of portions. -/
theorem foldl_extend_append (es fs : Entries α (List β)) {portions : List (α × List β)}
    (h : ∀ k ∈ keys portions, k ∉ es.keys) :
    portions.foldl extend (es ++ fs) = es ++ portions.foldl extend fs := by
  induction portions generalizing fs with
  | nil => rfl
  | cons e portions ih =>
    rw [List.foldl_cons, extend_append es fs (h e.1 List.mem_cons_self)]
    exact ih _ fun k hk => h k (List.mem_cons_of_mem _ hk)

/-- **Portions under other keys are gathered apart.** -/
theorem gather_append {ps qs : List (α × List β)} (h : ∀ k ∈ keys qs, k ∉ keys ps) :
    gather (ps ++ qs) = gather ps ++ gather qs := by
  have happart : ∀ k ∈ keys qs, k ∉ (gather ps).keys := fun k hk hm =>
    (mem_keys_foldl_extend hm).elim List.not_mem_nil (h k hk)
  rw [gather, List.foldl_append]
  exact (congrArg (qs.foldl extend) (List.append_nil _).symm).trans
    (foldl_extend_append _ [] happart)

/-- Portions under the last key make the list under it longer. -/
theorem foldl_extend_of_key_eq (es : Entries α (List β)) {key : α} (h : key ∉ es.keys) (us : List β)
    {portions : List (α × List β)} (hp : ∀ e ∈ portions, e.1 = key) :
    portions.foldl extend (es ++ [(key, us)]) = es ++ [(key, us ++ portions.flatMap Prod.snd)] := by
  induction portions generalizing us with
  | nil => rw [List.flatMap_nil, List.append_nil]; rfl
  | cons e portions ih =>
    obtain ⟨k, vs⟩ := e
    obtain rfl : k = key := hp _ List.mem_cons_self
    have hstep : extend [(k, us)] (k, vs) = [(k, us ++ vs)] := by
      rw [extend, alter, if_pos rfl]
      rfl
    rw [List.foldl_cons, extend_append es _ h, hstep,
      ih _ fun e he => hp e (List.mem_cons_of_mem _ he), List.flatMap_cons, List.append_assoc]

/-- **Portions under one key keep their order.** -/
theorem flat_gather_of_key_eq {key : α} {portions : List (α × List β)}
    (h : ∀ e ∈ portions, e.1 = key) : flat (gather portions) = flat portions := by
  cases portions with
  | nil => rfl
  | cons e portions =>
    obtain ⟨k, vs⟩ := e
    obtain rfl : k = key := h _ List.mem_cons_self
    have hrest : ∀ e ∈ portions, e.1 = k := fun e he => h e (List.mem_cons_of_mem _ he)
    have hflat : flat portions = (portions.flatMap Prod.snd).map (Prod.mk k) := by
      rw [flat, List.map_flatMap]
      exact List.flatMap_congr fun e he => by rw [hrest e he]
    rw [gather, List.foldl_cons]
    refine (congrArg flat (foldl_extend_of_key_eq [] List.not_mem_nil vs hrest)).trans ?_
    rw [List.nil_append, flat_cons, flat_cons, flat_nil, List.append_nil, List.map_append, hflat]

/-! ## First occurrences -/

/-- The first occurrences of what is left are left of the first occurrences. -/
theorem eraseDups_filter (p : α → Bool) : ∀ xs : List α,
    (xs.filter p).eraseDups = xs.eraseDups.filter p
  | [] => rfl
  | x :: xs => by
    have ih := eraseDups_filter p (xs.filter fun y => !y == x)
    rw [List.eraseDups_cons]
    by_cases hx : p x = true
    · rw [List.filter_cons_of_pos hx, List.filter_cons_of_pos hx, List.eraseDups_cons, ← ih,
        List.filter_filter, List.filter_filter]
      simp only [Bool.and_comm]
    · -- what `p` leaves does not hold `x`, so it does not matter that `x` is taken out
      have hsame : ∀ y ∈ xs, (p y && !y == x) = p y := by
        intro y _
        by_cases hy : y = x
        · simp [hy, hx]
        · simp [hy]
      rw [List.filter_cons_of_neg hx, List.filter_cons_of_neg hx, ← ih, List.filter_filter,
        List.filter_congr hsame]
termination_by xs => xs.length
decreasing_by exact Nat.lt_succ_of_le (List.length_filter_le _ _)

/-- Lists with the same first occurrences have the same behind another one. -/
theorem eraseDups_append_congr {xs ys : List α} (h : xs.eraseDups = ys.eraseDups) (zs : List α) :
    (zs ++ xs).eraseDups = (zs ++ ys).eraseDups := by
  rw [List.eraseDups_append, List.eraseDups_append, List.removeAll, List.removeAll,
    eraseDups_filter, eraseDups_filter, h]

/-- A value that stands several times in front is met once. -/
theorem eraseDups_replicate_append (n : Nat) (x : α) (xs : List α) :
    (List.replicate (n + 1) x ++ xs).eraseDups = (x :: xs).eraseDups := by
  induction n with
  | zero => rfl
  | succ n ih =>
    rw [List.replicate_succ, List.cons_append, ← List.singleton_append,
      eraseDups_append_congr ih [x], List.singleton_append, List.eraseDups_cons,
      List.filter_cons_of_neg (by simp), ← List.eraseDups_cons]

/-- A value at the end counts if it was not met before. -/
theorem eraseDups_append_singleton (xs : List α) (x : α) :
    (xs ++ [x]).eraseDups = if x ∈ xs.eraseDups then xs.eraseDups else xs.eraseDups ++ [x] := by
  rw [List.eraseDups_append]
  by_cases hx : x ∈ xs <;> simp [List.removeAll, List.eraseDups_cons, hx]

/-- Values that a function tells apart are met in one order before it and after it. -/
theorem eraseDups_map_of_injOn [DecidableEq β] {f : α → β} {xs : List α}
    (hf : ∀ x ∈ xs, ∀ y ∈ xs, f x = f y → x = y) :
    (xs.map f).eraseDups = xs.eraseDups.map f := by
  induction xs with
  | nil => rfl
  | cons x xs ih =>
    have hxs : (xs.map f).eraseDups = xs.eraseDups.map f := ih fun y hy z hz =>
      hf y (List.mem_cons_of_mem x hy) z (List.mem_cons_of_mem x hz)
    have hother : ∀ y ∈ xs.eraseDups, (!f y == f x) = (!y == x) := by
      intro y hy
      by_cases hyx : y = x
      · simp [hyx]
      · have hne : f y ≠ f x := fun he => hyx
          (hf y (List.mem_cons_of_mem x (List.mem_eraseDups.1 hy)) x List.mem_cons_self he)
        simp [hyx, hne]
    rw [List.map_cons, List.eraseDups_cons, List.eraseDups_cons, List.map_cons, eraseDups_filter,
      eraseDups_filter, hxs, List.filter_map]
    exact congrArg (fun ys => f x :: ys.map f) (List.filter_congr hother)

/-- **Keys stand in the order of their first occurrence**, one that is changed as any other. -/
theorem keys_alter_eq_eraseDups {es : Entries α β} {ks : List α} (h : es.keys = ks.eraseDups)
    (key : α) (f : Option β → β) : (es.alter key f).keys = (ks ++ [key]).eraseDups := by
  rw [keys_alter, h, eraseDups_append_singleton]

/-! ## Key by key -/

/-- Portions under the first key make the list under it longer, the others pass it by. -/
theorem foldl_extend_cons (key : α) (us : List β) (es : Entries α (List β))
    (portions : List (α × List β)) :
    portions.foldl extend ((key, us) :: es)
      = (key, us ++ (portions.filter (·.1 = key)).flatMap Prod.snd) ::
          (portions.filter (·.1 ≠ key)).foldl extend es := by
  induction portions generalizing us es with
  | nil => rw [List.filter_nil, List.flatMap_nil, List.append_nil]; rfl
  | cons e portions ih =>
    obtain ⟨k, vs⟩ := e
    by_cases hk : k = key
    · subst hk
      have hstep : extend ((k, us) :: es) (k, vs) = (k, us ++ vs) :: es := by
        rw [extend, alter, if_pos rfl]
        rfl
      rw [List.foldl_cons, hstep, ih, List.filter_cons_of_pos (by simp),
        List.filter_cons_of_neg (by simp), List.flatMap_cons, List.append_assoc]
    · have hstep : extend ((key, us) :: es) (k, vs) = (key, us) :: extend es (k, vs) := by
        rw [extend, alter, if_neg (Ne.symm hk)]
        rfl
      rw [List.foldl_cons, hstep, ih, List.filter_cons_of_neg (by simpa using hk),
        List.filter_cons_of_pos (by simpa using hk), List.foldl_cons]

/-- **What gathering leaves, key by key**: the keys in the order of their first portions, each with
the values of all its portions in order. -/
theorem gather_eq : ∀ portions : List (α × List β), gather portions
    = (keys portions).eraseDups.map fun k => (k, (portions.filter (·.1 = k)).flatMap Prod.snd)
  | [] => rfl
  | (k, vs) :: portions => by
    have hkeys : keys (portions.filter (·.1 ≠ k)) = (keys portions).filter fun l => !l == k := by
      rw [keys, keys, List.filter_map]
      refine congrArg _ (List.filter_congr fun e _ => ?_)
      simp [Bool.beq_eq_decide_eq]
    have hfirst : gather ((k, vs) :: portions)
        = (k, vs ++ (portions.filter (·.1 = k)).flatMap Prod.snd) ::
            gather (portions.filter (·.1 ≠ k)) :=
      foldl_extend_cons k vs [] portions
    have hall : keys ((k, vs) :: portions) = k :: keys portions := rfl
    rw [hfirst, gather_eq (portions.filter (·.1 ≠ k)), hkeys, hall, List.eraseDups_cons,
      List.map_cons, List.filter_cons_of_pos (by simp), List.flatMap_cons]
    refine congrArg (List.cons _) (List.map_congr_left fun l hl => ?_)
    -- the first key is not met again, so its portions do not count for the keys behind it
    have hne : l ≠ k := by
      rw [List.mem_eraseDups, List.mem_filter] at hl
      simpa using hl.2
    have hsame : ∀ e ∈ portions, (decide (e.1 = l) && decide (e.1 ≠ k)) = decide (e.1 = l) := by
      intro e _
      by_cases he : e.1 = l
      · simp [he, hne]
      · simp [he]
    rw [List.filter_cons_of_neg (by simpa using hne.symm), List.filter_filter,
      List.filter_congr hsame]
termination_by portions => portions.length
decreasing_by exact Nat.lt_succ_of_le (List.length_filter_le _ _)

theorem keys_gather (portions : List (α × List β)) :
    (gather portions).keys = (keys portions).eraseDups := by
  rw [gather_eq, keys, List.map_map]
  exact List.map_id' _

/-- Entries with values made of their keys are read by them. -/
theorem get?_map_mk (ks : List α) (f : α → β) (key : α) :
    get? (ks.map fun k => (k, f k)) key = if key ∈ ks then some (f key) else none := by
  induction ks with
  | nil => rfl
  | cons k ks ih =>
    rw [List.map_cons, get?]
    by_cases hk : k = key
    · rw [if_pos hk, if_pos (hk ▸ List.mem_cons_self), hk]
    · have hmem : key ∈ k :: ks ↔ key ∈ ks := by
        rw [List.mem_cons, or_iff_right (Ne.symm hk)]
      rw [if_neg hk, ih]
      simp only [hmem]

/-- **The list under a key** holds the values of all its portions, if there are any. -/
theorem get?_gather (portions : List (α × List β)) (key : α) :
    (gather portions).get? key
      = if key ∈ keys portions then some ((portions.filter (·.1 = key)).flatMap Prod.snd)
        else none := by
  rw [gather_eq, get?_map_mk]
  simp only [List.mem_eraseDups]

theorem extend_extend (es : Entries α (List β)) (key : α) (us vs : List β) :
    (es.extend (key, us)).extend (key, vs) = es.extend (key, us ++ vs) := by
  induction es with
  | nil => simp [extend, alter]
  | cons e es ih =>
    obtain ⟨k, ws⟩ := e
    simp only [extend] at ih
    by_cases hk : k = key
    · simp [extend, alter, hk]
    · simp [extend, alter, hk, ih]

/-- Values that come one by one under a key make one portion, if there are any. -/
theorem foldl_extend_singletons (es : Entries α (List β)) (key : α) {vs : List β} (h : vs ≠ []) :
    (vs.map fun v => (key, [v])).foldl extend es = es.extend (key, vs) := by
  obtain ⟨v, vs, rfl⟩ := List.exists_cons_of_ne_nil h
  clear h
  rw [List.map_cons, List.foldl_cons]
  suffices hacc : ∀ us, (vs.map fun v => (key, [v])).foldl extend (es.extend (key, us))
      = es.extend (key, us ++ vs) from hacc [v]
  induction vs with
  | nil => intro us; rw [List.append_nil]; rfl
  | cons w vs ih =>
    intro us
    rw [List.map_cons, List.foldl_cons, extend_extend, ih, List.append_assoc,
      List.singleton_append]

/-- **Gathering the values one by one** is gathering the portions that are not empty. -/
theorem gather_map_flat (portions : List (α × List β)) :
    gather ((flat portions).map fun p => (p.1, [p.2]))
      = gather (portions.filter fun e => !e.2.isEmpty) := by
  rw [gather, gather]
  generalize ([] : Entries α (List β)) = es
  induction portions generalizing es with
  | nil => rfl
  | cons e portions ih =>
    obtain ⟨k, vs⟩ := e
    rw [flat_cons, List.map_append, List.foldl_append, List.map_map, ih]
    by_cases hvs : vs = []
    · rw [hvs, List.filter_cons_of_neg (by simp)]
      rfl
    · rw [List.filter_cons_of_pos (by simpa using hvs), List.foldl_cons]
      exact congrArg (fun acc => List.foldl extend acc _) (foldl_extend_singletons es k hvs)

/-! ## Parts of a list -/

/-- A list is put together from its parts, one for each value that a function takes on it. -/
theorem flatMap_filter_perm (f : β → α) {names : List α}
    (hn : names.Nodup) {xs : List β} (h : ∀ x ∈ xs, f x ∈ names) :
    (names.flatMap fun n => xs.filter (f · = n)).Perm xs := by
  induction names generalizing xs with
  | nil =>
    cases xs with
    | nil => exact List.Perm.refl _
    | cons x xs => exact absurd (h x List.mem_cons_self) List.not_mem_nil
  | cons n names ih =>
    obtain ⟨hnot, hn⟩ := List.nodup_cons.1 hn
    have hrest : (names.flatMap fun m => xs.filter (f · = m))
        = names.flatMap fun m => (xs.filter (¬ f · = n)).filter (f · = m) := by
      refine List.flatMap_congr fun m hm => ?_
      rw [List.filter_filter]
      refine List.filter_congr fun x _ => ?_
      by_cases hx : f x = m
      · have hne : f x ≠ n := fun he => hnot ((he.symm.trans hx) ▸ hm)
        simp [hx, hx ▸ hne]
      · simp [hx]
    rw [List.flatMap_cons, hrest]
    refine ((ih hn fun x hx => ?_).append_left _).trans ?_
    · obtain ⟨hx, hne⟩ := List.mem_filter.1 hx
      rcases List.mem_cons.1 (h x hx) with he | hm
      · exact absurd he (by simpa using hne)
      · exact hm
    · simpa using List.filter_append_perm (fun x => decide (f x = n)) xs

/-! ## The mapping behind a flat list -/

/-- Gathering the values one by one builds the mapping up again, without its empty lists. -/
theorem gather_flat {es : Entries α (List β)} (h : es.keys.Nodup) :
    gather ((flat es).map fun p => (p.1, [p.2])) = es.filter fun e => !e.2.isEmpty :=
  (gather_map_flat es).trans (gather_of_nodup (h.sublist (List.filter_sublist.map _)))

/-- **A flat list tells the mapping** with distinct keys that it comes from, but for empty lists. -/
theorem filter_eq_of_flat_eq {es fs : Entries α (List β)} (hes : es.keys.Nodup)
    (hfs : fs.keys.Nodup) (h : flat es = flat fs) :
    (es.filter fun e => !e.2.isEmpty) = fs.filter fun e => !e.2.isEmpty := by
  rw [← gather_flat hes, h, gather_flat hfs]

end SchemaGen.Entries
