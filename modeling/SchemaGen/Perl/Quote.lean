/-!
# Single-quoted literals

In a single-quoted literal a backslash takes the sign of a backslash or a quote after it as a plain
character; every other character stands for itself, and the first quote without a backslash ends the
literal. `quote` writes a text as a literal. `scan` reads one off the front of a text by that rule:
`scan_quote` says that it takes exactly what `quote` wrote, whatever follows.
-/

namespace SchemaGen.Perl

/-- The characters of a text inside a literal. -/
def escape : List Char → List Char
  | [] => []
  | c :: rest => if c = '\\' ∨ c = '\'' then '\\' :: c :: escape rest else c :: escape rest

/-- The literal of some characters. -/
def quoteChars (cs : List Char) : List Char := '\'' :: escape cs ++ ['\'']

/-- A text as a literal. -/
def quote (s : String) : String := String.ofList (quoteChars s.toList)

/-- The rest of a literal after its opening quote: the characters that it stands for, and what
follows it. -/
def scanBody : List Char → Option (List Char × List Char)
  | [] => none
  | '\'' :: rest => some ([], rest)
  | '\\' :: '\\' :: rest => (scanBody rest).map fun (s, t) => ('\\' :: s, t)
  | '\\' :: '\'' :: rest => (scanBody rest).map fun (s, t) => ('\'' :: s, t)
  | c :: rest => (scanBody rest).map fun (s, t) => (c :: s, t)

/-- The literal at the front of a text. -/
def scan : List Char → Option (List Char × List Char)
  | '\'' :: rest => scanBody rest
  | _ => none

theorem scanBody_escape (s t : List Char) :
    scanBody (escape s ++ '\'' :: t) = some (s, t) := by
  induction s with
  | nil => simp [escape, scanBody]
  | cons c s ih =>
    by_cases hb : c = '\\'
    · subst hb
      simp [escape, scanBody, ih]
    · by_cases hq : c = '\''
      · subst hq
        simp [escape, scanBody, ih]
      · simp only [escape, hb, hq, or_self, if_false, List.cons_append]
        rw [scanBody.eq_def]
        split <;> simp_all

theorem scan_quote (s : String) (t : List Char) :
    scan ((quote s).toList ++ t) = some (s.toList, t) := by
  rw [quote, String.toList_ofList, quoteChars, List.append_assoc, List.cons_append,
    List.singleton_append]
  exact scanBody_escape s.toList t

end SchemaGen.Perl
