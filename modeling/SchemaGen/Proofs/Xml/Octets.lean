import SchemaGen.Text.Utf8
import SchemaGen.Xml.Input

/-!
# A text and its octets

Of a text that consists of characters of a document alone, the octets give the characters back, and
nothing is left behind them (`decode_flatMap_encodeChar`).
-/

namespace SchemaGen.Xml.Encoding

open Text.Utf8 (encodeChar)

/-- An octet that goes on with a character keeps six bits of it. -/
theorem isContinuation_tail (n : Nat) : isContinuation (UInt8.ofNat (0x80 + n % 64)) = true := by
  have h : (UInt8.ofNat (0x80 + n % 64)).toNat = 0x80 + n % 64 := by
    rw [UInt8.toNat_ofNat']
    omega
  rw [isContinuation, Bool.and_eq_true, decide_eq_true_eq, decide_eq_true_eq,
    UInt8.le_iff_toNat_le, UInt8.lt_iff_toNat_lt, h]
  exact ⟨Nat.le_add_right _ _, by simp; omega⟩

theorem toNat_tail (n : Nat) : (UInt8.ofNat (0x80 + n % 64)).toNat % 64 = n % 64 := by
  rw [UInt8.toNat_ofNat']
  omega

theorem toNat_lead {k n : Nat} (h : k + n < 256) : (UInt8.ofNat (k + n)).toNat = k + n := by
  rw [UInt8.toNat_ofNat']
  omega

theorem toNat_lt (c : Char) : c.toNat < 0x110000 := by
  have hvalid := c.valid
  simp only [UInt32.isValidChar, Nat.isValidChar] at hvalid
  show c.val.toNat < _
  omega

/-- A character in the lower half of the octets is written by one of them. -/
theorem encodeChar_of_lt {c : Char} (h : c.toNat < 0x80) :
    encodeChar c = [UInt8.ofNat c.toNat] := by
  rw [encodeChar]
  exact if_pos h

/-- No character of a document is written by an octet that is zero. -/
theorem exists_encodeChar_eq_cons {c : Char} (h : isDocumentChar c.toNat = true) :
    ∃ b rest, encodeChar c = b :: rest ∧ b ≠ 0 := by
  have hmax := toNat_lt c
  have hne (k n : Nat) (hpos : 0 < k + n) (hlt : k + n < 256) : UInt8.ofNat (k + n) ≠ 0 := by
    intro he
    have := toNat_lead hlt
    rw [he, UInt8.toNat_zero] at this
    omega
  rw [encodeChar]
  dsimp only
  split
  · refine ⟨_, _, rfl, ?_⟩
    rw [← Nat.zero_add c.toNat]
    refine hne 0 c.toNat ?_ (by omega)
    rw [Nat.zero_add, Nat.pos_iff_ne_zero]
    intro he
    rw [he] at h
    exact absurd h (by decide)
  · split
    · exact ⟨_, _, rfl, hne _ _ (by omega) (by omega)⟩
    · split
      · exact ⟨_, _, rfl, hne _ _ (by omega) (by omega)⟩
      · exact ⟨_, _, rfl, hne _ _ (by omega) (by omega)⟩

/-! ## Characters by the number of their octets -/

section Decode

variable (acc : List Char) {a b c d : UInt8} (rest : List UInt8)

theorem decodeUtf8_one (ha : a.toNat < 0x80) (h : isDocumentChar a.toNat = true) :
    decodeUtf8 acc (a :: rest) = decodeUtf8 (Char.ofNat a.toNat :: acc) rest := by
  rw [decodeUtf8.eq_def]
  dsimp only
  rw [if_pos (UInt8.lt_iff_toNat_lt.2 ha), if_pos h]

theorem decodeUtf8_two (ha : 0xC2 ≤ a.toNat) (ha' : a.toNat < 0xE0) (hb : isContinuation b = true) :
    decodeUtf8 acc (a :: b :: rest)
      = decodeUtf8 (Char.ofNat (a.toNat % 32 * 64 + b.toNat % 64) :: acc) rest := by
  obtain ⟨h1, h2, h3, h4⟩ : ¬ a < 0x80 ∧ ¬ (a < 0xC0 ∨ 0xF4 < a) ∧ a < 0xE0 ∧ ¬ a < 0xC2 := by
    simp only [UInt8.lt_iff_toNat_lt, UInt8.reduceToNat]
    omega
  rw [decodeUtf8.eq_def]
  dsimp only
  rw [if_neg h1, if_neg h2, if_pos h3, hb, if_neg (by simpa using h4)]

theorem decodeUtf8_three (ha : 0xE0 ≤ a.toNat) (ha' : a.toNat < 0xF0) (hb : isContinuation b = true)
    (hc : isContinuation c = true) {n : Nat}
    (hn : a.toNat % 16 * 4096 + b.toNat % 64 * 64 + c.toNat % 64 = n) (hmin : 0x800 ≤ n)
    (h : isDocumentChar n = true) :
    decodeUtf8 acc (a :: b :: c :: rest) = decodeUtf8 (Char.ofNat n :: acc) rest := by
  obtain ⟨h1, h2, h3, h4⟩ : ¬ a < 0x80 ∧ ¬ (a < 0xC0 ∨ 0xF4 < a) ∧ ¬ a < 0xE0 ∧ a < 0xF0 := by
    simp only [UInt8.lt_iff_toNat_lt, UInt8.reduceToNat]
    omega
  rw [decodeUtf8.eq_def]
  dsimp only
  rw [if_neg h1, if_neg h2, if_neg h3, if_pos h4, hb, hc, hn, h, decide_eq_true hmin]
  rfl

theorem decodeUtf8_four (ha : 0xF0 ≤ a.toNat) (ha' : a.toNat ≤ 0xF4) (hb : isContinuation b = true)
    (hc : isContinuation c = true) (hd : isContinuation d = true) {n : Nat}
    (hn : a.toNat % 8 * 262144 + b.toNat % 64 * 4096 + c.toNat % 64 * 64 + d.toNat % 64 = n)
    (hmin : 0x10000 ≤ n) (h : isDocumentChar n = true) :
    decodeUtf8 acc (a :: b :: c :: d :: rest) = decodeUtf8 (Char.ofNat n :: acc) rest := by
  obtain ⟨h1, h2, h3, h4⟩ : ¬ a < 0x80 ∧ ¬ (a < 0xC0 ∨ 0xF4 < a) ∧ ¬ a < 0xE0 ∧ ¬ a < 0xF0 := by
    simp only [UInt8.lt_iff_toNat_lt, UInt8.reduceToNat]
    omega
  rw [decodeUtf8.eq_def]
  dsimp only
  rw [if_neg h1, if_neg h2, if_neg h3, if_neg h4, hb, hc, hd, hn, h, decide_eq_true hmin]
  rfl

end Decode

/-! ## Texts -/

/-- **A character is read off its octets.** -/
theorem decodeUtf8_encodeChar (acc : List Char) {c : Char} (h : isDocumentChar c.toNat = true)
    (rest : List UInt8) :
    decodeUtf8 acc (encodeChar c ++ rest) = decodeUtf8 (c :: acc) rest := by
  have hmax := toNat_lt c
  have hc : Char.ofNat c.toNat = c := Char.ofNat_toNat c
  rw [encodeChar]
  dsimp only
  split
  · next h1 =>
    have ha : (UInt8.ofNat c.toNat).toNat = c.toNat := by rw [UInt8.toNat_ofNat']; omega
    rw [List.singleton_append, decodeUtf8_one acc rest (by omega) (by rw [ha]; exact h), ha, hc]
  · split
    · have ha := toNat_lead (k := 0xC0) (n := c.toNat / 64) (by omega)
      rw [List.cons_append, List.singleton_append,
        decodeUtf8_two acc rest (by omega) (by omega) (isContinuation_tail _), ha, toNat_tail,
        show (0xC0 + c.toNat / 64) % 32 * 64 + c.toNat % 64 = c.toNat by omega, hc]
    · split
      · have ha := toNat_lead (k := 0xE0) (n := c.toNat / 4096) (by omega)
        refine (decodeUtf8_three acc rest (by omega) (by omega) (isContinuation_tail _)
          (isContinuation_tail _) ?_ (by omega) h).trans (by rw [hc])
        rw [ha, toNat_tail, toNat_tail]
        omega
      · have ha := toNat_lead (k := 0xF0) (n := c.toNat / 262144) (by omega)
        refine (decodeUtf8_four acc rest (by omega) (by omega) (isContinuation_tail _)
          (isContinuation_tail _) (isContinuation_tail _) ?_ (by omega) h).trans (by rw [hc])
        rw [ha, toNat_tail, toNat_tail, toNat_tail]
        omega

/-- **A text comes back from its octets**, if it consists of characters of a document. -/
theorem decode_flatMap_encodeChar {cs : List Char} (h : ∀ c ∈ cs, isDocumentChar c.toNat = true) :
    utf8.decode (cs.flatMap encodeChar) = (cs, .clean) := by
  have hacc : ∀ acc, decodeUtf8 acc (cs.flatMap encodeChar) = (acc.reverse ++ cs, .clean) := by
    induction cs with
    | nil => intro acc; rw [List.append_nil]; rfl
    | cons c cs ih =>
      obtain ⟨hc, hcs⟩ := List.forall_mem_cons.1 h
      intro acc
      rw [List.flatMap_cons, decodeUtf8_encodeChar acc hc, ih hcs, List.reverse_cons,
        List.append_assoc, List.singleton_append]
  exact hacc []

end SchemaGen.Xml.Encoding
