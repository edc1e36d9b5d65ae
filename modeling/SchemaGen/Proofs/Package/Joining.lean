import Mathlib.Data.List.ReduceOption
import SchemaGen.Package.ModuleName
import SchemaGen.Proofs.Text.Cutting

/-!
# Joining segments and taking them apart

A name is joined from the segments that are there and not empty. So joining is associative
(`joinSegments_append`): segments may be joined part by part, and what comes of a part counts as one
segment, also where nothing comes of it.

A name is taken apart at the separator from left to right, and empty segments are dropped. This
finds the segments that the name was joined from, but for missing and empty ones, just where the
separator does not begin early in what they are joined to (`segments_joinSegments_eq_iff`), and so
in any case if no segment has a character of it. What was found joins to the name again just where
nothing was dropped or nothing is left (`joinSegments_segments_eq_iff`).
-/

namespace SchemaGen.ModuleName

open Text (pieces glue IsCutAt)

variable {sep : String}

/-! ## Joining -/

theorem present_cons (part : Option String) (parts : List (Option String)) :
    present (part :: parts) = present [part] ++ present parts :=
  present_append [part] parts

/-- The segments that are there are those that are not missing and not empty. -/
theorem present_eq (parts : List (Option String)) :
    present parts = parts.reduceOption.filter (· ≠ "") := by
  induction parts with
  | nil => rfl
  | cons part parts ih =>
    cases part with
    | none => exact ih
    | some s =>
      rw [List.reduceOption_cons_of_some, List.filter_cons, present_cons, ih]
      by_cases hs : s = "" <;> simp [present, hs]

theorem present_map_some {parts : List String} (h : "" ∉ parts) :
    present (parts.map some) = parts := by
  rw [present, List.filterMap_map]
  refine (List.filterMap_congr fun p hp => ?_).trans List.filterMap_some
  have hp : p ≠ "" := fun he => h (he ▸ hp)
  exact if_neg hp

/-- What is joined, as lists of characters. -/
theorem toList_joinSegments (sep : String) (parts : List (Option String)) :
    (joinSegments sep parts).toList = glue sep.toList ((present parts).map String.toList) :=
  String.toList_ofList

theorem nil_not_mem_present (parts : List (Option String)) :
    [] ∉ (present parts).map String.toList := by
  intro hmem
  obtain ⟨part, hpart, he⟩ := List.mem_map.1 hmem
  exact (mem_present.1 hpart).2 (String.toList_eq_nil_iff.1 he)

/-- **Nothing comes of segments** only if none of them is there. -/
theorem joinSegments_eq_empty_iff {parts : List (Option String)} :
    joinSegments sep parts = "" ↔ present parts = [] := by
  rw [← String.toList_eq_nil_iff, toList_joinSegments,
    Text.glue_eq_nil_iff (nil_not_mem_present parts), List.map_eq_nil_iff]

theorem joinSegments_congr {xs ys : List (Option String)} (h : present xs = present ys) :
    joinSegments sep xs = joinSegments sep ys := by
  rw [joinSegments, h, joinSegments]

theorem joinSegments_singleton (sep part : String) : joinSegments sep [some part] = part := by
  by_cases hpart : part = ""
  · rw [hpart]
    rfl
  · have hpresent : present [some part] = [part] :=
      present_map_some fun hmem => hpart (List.mem_singleton.1 hmem).symm
    rw [joinSegments, hpresent]
    exact String.ofList_toList

/-- Where both parts of a list have segments, one separator stands between them. -/
theorem joinSegments_append_of_present {xs ys : List (Option String)} (hxs : present xs ≠ [])
    (hys : present ys ≠ []) :
    joinSegments sep (xs ++ ys) = joinSegments sep xs ++ sep ++ joinSegments sep ys := by
  apply String.ext
  rw [String.toList_append, String.toList_append, toList_joinSegments, toList_joinSegments,
    toList_joinSegments, present_append, List.map_append,
    Text.glue_append _ (by simpa using hxs) (by simpa using hys)]

/-- A last segment that is not empty stands after the separator. -/
theorem joinSegments_concat {parts : List (Option String)} (h : present parts ≠ [])
    {part : String} (hpart : part ≠ "") :
    joinSegments sep (parts ++ [some part]) = joinSegments sep parts ++ sep ++ part := by
  have hlast : present [some part] ≠ [] :=
    List.ne_nil_of_mem (mem_present.2 ⟨List.mem_cons_self, hpart⟩)
  rw [joinSegments_append_of_present h hlast, joinSegments_singleton]

/-- Of two segments the first one may be missing. -/
theorem joinSegments_pair (sep first : String) {second : String} (hsecond : second ≠ "") :
    joinSegments sep [some first, some second]
      = (if first = "" then "" else first ++ sep) ++ second := by
  split
  · next hempty =>
    rw [hempty, String.empty_append]
    exact joinSegments_singleton sep second
  · next hfirst =>
    have hpresent : present [some first] ≠ [] :=
      List.ne_nil_of_mem (mem_present.2 ⟨List.mem_cons_self, hfirst⟩)
    refine (joinSegments_concat hpresent hsecond).trans ?_
    rw [joinSegments_singleton]

/-- **Joining is associative**: what comes of a part of the segments counts as one segment. -/
theorem joinSegments_append (sep : String) (xs ys : List (Option String)) :
    joinSegments sep (xs ++ ys)
      = joinSegments sep [some (joinSegments sep xs), some (joinSegments sep ys)] := by
  by_cases hys : present ys = []
  · have hleft : joinSegments sep (xs ++ ys) = joinSegments sep xs :=
      joinSegments_congr (by rw [present_append, hys, List.append_nil])
    rw [hleft, joinSegments_eq_empty_iff.2 hys]
    have hright : joinSegments sep [some (joinSegments sep xs), some ""]
        = joinSegments sep [some (joinSegments sep xs)] :=
      joinSegments_congr ((present_append [_] [some ""]).trans (List.append_nil _))
    rw [hright, joinSegments_singleton]
  · have hlast : joinSegments sep ys ≠ "" := mt joinSegments_eq_empty_iff.1 hys
    rw [joinSegments_pair _ _ hlast]
    split
    · next hempty =>
      have hxs : present xs = [] := joinSegments_eq_empty_iff.1 hempty
      rw [String.empty_append]
      exact joinSegments_congr (by rw [present_append, hxs, List.nil_append])
    · next hfirst =>
      exact joinSegments_append_of_present (mt joinSegments_eq_empty_iff.2 hfirst) hys

/-! ## Taking apart -/

/-- A name can be taken apart at a separator that is not empty. -/
theorem segments?_eq_ok (hsep : sep ≠ "") (name : String) :
    segments? sep name = .ok (segments sep name) :=
  if_neg hsep

/-- What is found, as lists of characters. -/
theorem map_toList_segments (sep name : String) :
    (segments sep name).map String.toList
      = (pieces sep.toList name.toList).filter (!·.isEmpty) := by
  rw [segments, ← Text.map_toList_split, List.filter_map]
  refine congrArg _ (List.filter_congr fun s _ => ?_)
  by_cases hs : s = "" <;> simp [hs]

/-- **Segments are found again**, but for missing and empty ones, just where there are none or the
separator does not begin early in what they are joined to. -/
theorem segments_joinSegments_eq_iff (hsep : sep ≠ "") (parts : List (Option String)) :
    segments sep (joinSegments sep parts) = present parts ↔
      present parts = [] ∨ IsCutAt sep.toList (joinSegments sep parts).toList
        ((present parts).map String.toList) := by
  have hne : sep.toList ≠ [] := mt String.toList_eq_nil_iff.1 hsep
  have hinj : Function.Injective (List.map String.toList) :=
    List.map_injective_iff.2 fun _ _ => String.ext
  rw [← hinj.eq_iff, map_toList_segments, toList_joinSegments,
    Text.filter_pieces_glue_eq_iff hne (nil_not_mem_present parts), List.map_eq_nil_iff]

theorem segments_joinSegments_of_disjoint (hsep : sep ≠ "") {parts : List (Option String)}
    (h : ∀ part, some part ∈ parts → ∀ c ∈ part.toList, c ∉ sep.toList) :
    segments sep (joinSegments sep parts) = present parts := by
  have hne : sep.toList ≠ [] := mt String.toList_eq_nil_iff.1 hsep
  rw [segments_joinSegments_eq_iff hsep, toList_joinSegments]
  refine or_iff_not_imp_left.2 fun hparts => Text.isCutAt_glue (by simpa using hparts) ?_
  intro p hp
  obtain ⟨part, hpart, rfl⟩ := List.mem_map.1 hp
  exact Text.not_isInfix_append_dropLast hne (h part (mem_present.1 hpart).1)

/-- **What was found joins to the name again** just where the name is empty or no segment was
dropped. -/
theorem joinSegments_segments_eq_iff (hsep : sep ≠ "") (name : String) :
    joinSegments sep ((segments sep name).map some) = name ↔
      name = "" ∨ "" ∉ Text.split sep name := by
  have hne : sep.toList ≠ [] := mt String.toList_eq_nil_iff.1 hsep
  have hpresent : present ((segments sep name).map some) = segments sep name :=
    present_map_some fun hmem => absurd rfl (of_decide_eq_true (List.mem_filter.1 hmem).2)
  have hempty : "" ∈ Text.split sep name ↔ [] ∈ pieces sep.toList name.toList := by
    rw [← Text.map_toList_split]
    exact (List.mem_map_of_injective fun _ _ => String.ext).symm
  rw [← String.toList_inj, toList_joinSegments, hpresent, map_toList_segments, hempty,
    ← String.toList_eq_nil_iff]
  have h := Text.glue_filter_eq_iff hne (pieces sep.toList name.toList)
  rwa [Text.glue_pieces hne] at h

/-- **A name without empty segments is put together again** from its segments. -/
theorem joinSegments_segments (hsep : sep ≠ "") {name : String}
    (h : ∀ p ∈ Text.split sep name, p ≠ "") :
    joinSegments sep ((segments sep name).map some) = name :=
  (joinSegments_segments_eq_iff hsep name).2 (.inr fun hmem => h "" hmem rfl)

/-! ## The laws of a separator -/

/-- **How a separator joins segments to names and takes names apart.** -/
structure SeparatesSegments (sep : String) : Prop where
  /-- Segments may be joined part by part: what comes of a part counts as one segment. -/
  joined : ∀ xs ys : List (Option String), joinSegments sep (xs ++ ys)
    = joinSegments sep [some (joinSegments sep xs), some (joinSegments sep ys)]
  /-- A missing or empty segment makes no difference, wherever it stands. -/
  neutral : ∀ part ∈ [none, some ""], ∀ xs ys : List (Option String),
    joinSegments sep (xs ++ part :: ys) = joinSegments sep (xs ++ ys)
  /-- A name is cut at the separators from left to right. -/
  cut : ∀ name : String,
    IsCutAt sep.toList name.toList ((Text.split sep name).map String.toList)
  /-- Segments without a character of the separator are found again, but for missing and empty
  ones. -/
  found : ∀ parts : List (Option String),
    (∀ part, some part ∈ parts → ∀ c ∈ part.toList, c ∉ sep.toList) →
      segments? sep (joinSegments sep parts) = .ok (parts.reduceOption.filter (· ≠ ""))
  /-- What is found in a name joins to the name again just where the name is empty or nothing
  empty stands between its separators. -/
  restored_iff : ∀ name : String, ∃ parts, segments? sep name = .ok parts ∧
    (joinSegments sep (parts.map some) = name ↔ name = "" ∨ "" ∉ Text.split sep name)

/-- **Every separator that is not empty joins and takes apart by these laws**, one that overlaps
itself included. -/
theorem separatesSegments_of_ne_empty (hsep : sep ≠ "") : SeparatesSegments sep where
  joined := joinSegments_append sep
  neutral := by
    intro part hpart xs ys
    have hnone : present [part] = [] := by
      rcases List.mem_cons.1 hpart with rfl | hpart
      · rfl
      · rw [List.mem_singleton.1 hpart]
        rfl
    refine joinSegments_congr ?_
    rw [present_append, present_cons, hnone, List.nil_append, present_append]
  cut := by
    intro name
    rw [Text.map_toList_split]
    exact Text.isCutAt_pieces (mt String.toList_eq_nil_iff.1 hsep) name.toList
  found := by
    intro parts h
    rw [segments?_eq_ok hsep, segments_joinSegments_of_disjoint hsep h, present_eq]
  restored_iff := fun name =>
    ⟨segments sep name, segments?_eq_ok hsep name, joinSegments_segments_eq_iff hsep name⟩

/-- The separator of packages overlaps itself: of three colons in a row it takes the first two. -/
theorem separatesSegments_packages :
    separator ≠ "" ∧
    segments? separator (joinSegments separator [none, some "MyApp", some "", some "DB"])
      = .ok ["MyApp", "DB"] ∧
    Text.split separator "MyApp:::DB" = ["MyApp", ":DB"] ∧
    ∃ parts, segments? separator "MyApp:::DB" = .ok parts ∧
      joinSegments separator (parts.map some) = "MyApp:::DB" := by
  have hsep : separator ≠ "" := by decide
  have hdisjoint : ∀ part ∈ ["MyApp", "", "DB"], ∀ c ∈ part.toList, c ∉ separator.toList := by
    simp [separator]
  have hlaws := separatesSegments_of_ne_empty hsep
  have hfound := hlaws.found [none, some "MyApp", some "", some "DB"] fun part hpart =>
    hdisjoint part (by simpa using hpart)
  have hsplit : Text.split separator "MyApp:::DB" = ["MyApp", ":DB"] := by decide
  obtain ⟨parts, hparts, hrestored⟩ := hlaws.restored_iff "MyApp:::DB"
  exact ⟨hsep, hfound, hsplit, parts, hparts, hrestored.2 (.inr (by rw [hsplit]; decide))⟩

end SchemaGen.ModuleName
