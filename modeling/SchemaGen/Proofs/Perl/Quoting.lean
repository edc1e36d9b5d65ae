import SchemaGen.Perl.Quote
import SchemaGen.Proofs.Text.Cutting

/-!
# Quoting

A text is quoted in one pass, which puts a backslash in front of every backslash and every quote.
The same comes of two passes over the whole text (`quote_eq_replace`): the first one doubles the
backslashes, and the second one puts a backslash in front of every quote and leaves the backslashes
alone. In the other order the backslashes that were put would be doubled too.

By the quote rule what a literal stands for does not depend on what follows it
(`scan_append_of_eq_some`). A quoted text is a literal that stands for the text (`scan_quote`), so
no start of it is one already, and whatever the text holds, nothing of it gets out
(`isSafeQuoting_quote`).
-/

namespace SchemaGen

/-! ## Replacing -/

namespace Text

/-- A text with another one in place of every occurrence of a separator that is not empty. -/
def replace (sep new s : String) : String := join new (split sep s)

/-- In place of a single element its replacement is put where the element stands. -/
theorem glue_pieces_singleton {α : Type} [DecidableEq α] (a : α) (new s : List α) :
    glue new (pieces [a] s) = s.flatMap fun b => if b = a then new else [b] := by
  induction s with
  | nil => rfl
  | cons b s ih =>
    rw [List.flatMap_cons, ← ih]
    by_cases hb : b = a
    · subst hb
      have hcut : pieces [b] (b :: s) = [] :: pieces [b] s :=
        pieces_separator_append (List.cons_ne_nil b []) s
      rw [hcut, if_pos rfl, glue_nil_cons new (pieces_ne_nil [b] s)]
    · have hfront : ¬ [a].isPrefixOf (b :: s) = true := by simpa using Ne.symm hb
      rw [pieces_cons_of_not_isPrefixOf hfront, if_neg hb,
        glue_consHead new b (pieces_ne_nil [a] s)]
      rfl

theorem toList_replace_singleton (a : Char) (new s : String) :
    (replace (String.singleton a) new s).toList
      = s.toList.flatMap fun b => if b = a then new.toList else [b] := by
  rw [replace, join, String.toList_ofList, map_toList_split, String.toList_singleton,
    glue_pieces_singleton]

end Text

namespace Perl

theorem escape_eq_flatMap (s : List Char) :
    escape s = s.flatMap fun c => if c = '\\' ∨ c = '\'' then ['\\', c] else [c] := by
  induction s with
  | nil => rfl
  | cons c s ih =>
    rw [escape, List.flatMap_cons, ih]
    split <;> rfl

/-- **Two passes escape a text**: one for the backslashes and then one for the quotes. -/
theorem escape_eq_replace (s : String) :
    escape s.toList = (Text.replace "'" "\\'" (Text.replace "\\" "\\\\" s)).toList := by
  have hquote : ("'" : String) = String.singleton '\'' := by decide
  have hback : ("\\" : String) = String.singleton '\\' := by decide
  rw [hquote, hback, Text.toList_replace_singleton, Text.toList_replace_singleton,
    List.flatMap_assoc, escape_eq_flatMap]
  refine List.flatMap_congr fun c _ => ?_
  by_cases hb : c = '\\'
  · rw [if_pos (.inl hb), if_pos hb, hb]
    rfl
  · rw [if_neg hb, List.flatMap_singleton]
    by_cases hq : c = '\''
    · rw [if_pos (.inr hq), if_pos hq, hq]
      rfl
    · rw [if_neg (not_or.2 ⟨hb, hq⟩), if_neg hq]

/-- **Two passes quote a text.** -/
theorem quote_eq_replace (s : String) :
    quote s = "'" ++ Text.replace "'" "\\'" (Text.replace "\\" "\\\\" s) ++ "'" := by
  apply String.ext
  rw [quote, String.toList_ofList, quoteChars, escape_eq_replace, String.toList_append,
    String.toList_append]
  rfl

/-- A backslash at the end does not escape the quote that ends the literal. -/
example : quote "it's\\" = "'it\\'s\\\\'" := by decide

/-! ## Scanning -/

/-- A character that begins no escape stands for itself. -/
theorem scanBody_cons {c : Char} {cs : List Char} (hquote : c ≠ '\'')
    (hback : c = '\\' → ∃ d ∈ cs.head?, d ≠ '\\' ∧ d ≠ '\'') :
    scanBody (c :: cs) = (scanBody cs).map fun (s, t) => (c :: s, t) := by
  refine scanBody.eq_5 c cs hquote ?_ ?_
  all_goals
    rintro ds hc rfl
    obtain ⟨d, hd, hd'⟩ := hback hc
    cases hd
  · exact hd'.1 rfl
  · exact hd'.2 rfl

/-- A backslash begins an escape where another backslash or a quote comes next, and before the end
of a text it is followed by a character. -/
theorem exists_head?_of_scanBody {c : Char} {cs : List Char} {p : List Char × List Char}
    (hback : ∀ ds, c = '\\' → cs = '\\' :: ds → False)
    (hquote : ∀ ds, c = '\\' → cs = '\'' :: ds → False) (h : scanBody cs = some p) :
    c = '\\' → ∃ d ∈ cs.head?, d ≠ '\\' ∧ d ≠ '\'' := by
  intro hc
  cases cs with
  | nil => cases h
  | cons d ds =>
    exact ⟨d, rfl, fun hd => hback ds hc (by rw [hd]), fun hd => hquote ds hc (by rw [hd])⟩

/-- What follows a literal makes no difference to what it stands for. -/
theorem scanBody_append_of_eq_some {cs s rest : List Char} (h : scanBody cs = some (s, rest))
    (more : List Char) : scanBody (cs ++ more) = some (s, rest ++ more) := by
  induction cs using scanBody.induct generalizing s with
  | case1 => cases h
  | case2 rest' =>
    cases h
    rfl
  | case3 cs ih =>
    obtain ⟨⟨s, t⟩, hs, he⟩ := Option.map_eq_some_iff.1 h
    cases he
    exact congrArg (Option.map fun (s, t) => ('\\' :: s, t)) (ih hs)
  | case4 cs ih =>
    obtain ⟨⟨s, t⟩, hs, he⟩ := Option.map_eq_some_iff.1 h
    cases he
    exact congrArg (Option.map fun (s, t) => ('\'' :: s, t)) (ih hs)
  | case5 c cs hquote hback hescaped ih =>
    rw [scanBody.eq_5 c cs hquote hback hescaped] at h
    obtain ⟨⟨s, t⟩, hs, he⟩ := Option.map_eq_some_iff.1 h
    cases he
    have hnext : c = '\\' → ∃ d ∈ (cs ++ more).head?, d ≠ '\\' ∧ d ≠ '\'' := by
      intro hc
      obtain ⟨d, hd, hplain⟩ := exists_head?_of_scanBody hback hescaped hs hc
      obtain ⟨cs, rfl⟩ := List.head?_eq_some_iff.1 hd
      exact ⟨d, rfl, hplain⟩
    rw [List.cons_append, scanBody_cons hquote hnext, ih hs]
    rfl

theorem scan_append_of_eq_some {cs s rest : List Char} (h : scan cs = some (s, rest))
    (more : List Char) : scan (cs ++ more) = some (s, rest ++ more) := by
  rw [scan.eq_def] at h
  split at h
  · exact scanBody_append_of_eq_some h more
  · cases h

/-- A text that is quoted is a literal for itself, with nothing left over. -/
theorem scan_toList_quote (s : String) : scan (quote s).toList = some (s.toList, []) := by
  have h := scan_quote s []
  rwa [List.append_nil] at h

/-- **No literal ends early**: a start of a quoted text that is a literal is all of it. -/
theorem eq_quote_of_isPrefix {s : String} {cs : List Char} (h : cs <+: (quote s).toList)
    (hscan : (scan cs).isSome) : cs = (quote s).toList := by
  obtain ⟨more, hmore⟩ := h
  obtain ⟨⟨t, rest⟩, ht⟩ := Option.isSome_iff_exists.1 hscan
  have hwhole := scan_append_of_eq_some ht more
  rw [hmore, scan_toList_quote] at hwhole
  obtain ⟨-, hnil⟩ := Prod.mk.inj (Option.some.inj hwhole)
  rw [← hmore, (List.append_eq_nil_iff.1 hnil.symm).2, List.append_nil]

/-- **Texts are told apart by what they are quoted as.** -/
theorem quote_injective : Function.Injective quote := by
  intro s t h
  have hscan := scan_toList_quote s
  rw [h, scan_toList_quote] at hscan
  exact (String.ext (Prod.mk.inj (Option.some.inj hscan)).1).symm

/-! ## Safety -/

/-- **A safe way to quote texts**, by the rule that `scan` reads by. -/
structure IsSafeQuoting (q : String → String) : Prop where
  /-- What is quoted is read as it was, and all that follows it is left over. -/
  scan_append : ∀ s t : String, scan (q s ++ t).toList = some (s.toList, t.toList)
  /-- Texts are told apart by what they are quoted as. -/
  injective : Function.Injective q
  /-- No literal ends before the quoted text does, whatever is in it. -/
  no_early_end : ∀ (s : String) (cs : List Char), cs <+: (q s).toList → (scan cs).isSome →
    cs = (q s).toList

/-- **Quoting in two passes is safe.** -/
theorem isSafeQuoting_quote :
    (∀ s, quote s = "'" ++ Text.replace "'" "\\'" (Text.replace "\\" "\\\\" s) ++ "'") ∧
      IsSafeQuoting quote := by
  refine ⟨quote_eq_replace, ?_, quote_injective, fun s cs => eq_quote_of_isPrefix⟩
  intro s t
  rw [String.toList_append]
  exact scan_quote s t.toList

end Perl

end SchemaGen
