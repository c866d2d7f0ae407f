import Mathlib.Data.String.Basic

/-!
The order of texts by their bytes.

Texts are compared by the code points of their characters.  Written in UTF-8, a character of a greater
code point has greater bytes, whatever follows it, so that comparing texts byte by byte is the same.
-/

namespace BuildDeps

/-- The bytes of a text in UTF-8. -/
def bytesOf (text : String) : List UInt8 :=
  text.toUTF8.data.toList

/-- The bytes of a text are those of its characters, one character after the other. -/
theorem bytesOf_eq_flatMap (text : String) :
    bytesOf text = text.toList.flatMap String.utf8EncodeChar := by
  rw [bytesOf, String.toUTF8_eq_toByteArray, ← String.utf8Encode_toList, List.utf8Encode,
    List.toList_data_toByteArray]

/-- Lists of bytes are compared by their first bytes, as numbers below 256, and then by what follows. -/
theorem ofNat_cons_lt_ofNat_cons {first second : Nat} {rest more : List UInt8} (small : first < 256)
    (alsoSmall : second < 256) : UInt8.ofNat first :: rest < UInt8.ofNat second :: more ↔
      first < second ∨ first = second ∧ rest < more := by
  rw [List.cons_lt_cons_iff, UInt8.ofNat_lt_iff_lt small alsoSmall, ← UInt8.toNat_inj,
    UInt8.toNat_ofNat_of_lt' small, UInt8.toNat_ofNat_of_lt' alsoSmall]

/-- The bytes of a character decide over what follows. -/
theorem utf8EncodeChar_append_lt {one other : Char} (less : one < other) (rest more : List UInt8) :
    String.utf8EncodeChar one ++ rest < String.utf8EncodeChar other ++ more := by
  have values : one.val.toNat < other.val.toNat := less
  have bound : other.val.toNat < 0x110000 := by
    cases other.valid with
    | inl low => exact low.trans (by decide)
    | inr high => exact high.2
  simp only [String.utf8EncodeChar]
  generalize one.val.toNat = low at values
  generalize other.val.toNat = high at values bound
  -- A character of more bytes has the greater first byte, and among characters of as many bytes the
  -- first byte and the digits to base 64 after it are compared in turn.
  have first : low / 262144 % 8 = low / 262144 := by omega
  have firstOther : high / 262144 % 8 = high / 262144 := by omega
  rw [first, firstOther]
  split_ifs <;>
    simp (disch := omega) only [List.cons_append, List.nil_append, ofNat_cons_lt_ofNat_cons] <;>
    omega

/-- The first character in which two texts differ decides over their bytes too, and a text that ends
before the other one has fewer of the same bytes. -/
theorem flatMap_utf8EncodeChar_lt {one other : List Char} (less : one < other) :
    one.flatMap String.utf8EncodeChar < other.flatMap String.utf8EncodeChar := by
  induction one generalizing other with
  | nil =>
      cases other with
      | nil => exact absurd less (List.lt_irrefl [])
      | cons second more =>
          rw [List.flatMap_cons]
          cases bytes : String.utf8EncodeChar second with
          | nil => exact absurd bytes String.utf8EncodeChar_ne_nil
          | cons byte bytes => exact List.nil_lt_cons _ _
  | cons first rest ih =>
      cases other with
      | nil => exact absurd less (List.not_lt_nil _)
      | cons second more =>
          rw [List.flatMap_cons, List.flatMap_cons]
          rcases List.cons_lt_cons_iff.1 less with before | ⟨rfl, later⟩
          · exact utf8EncodeChar_append_lt before _ _
          · exact List.append_left_lt (ih later)

/-- Texts are in the order of their bytes. -/
theorem lt_iff_bytesOf_lt {one other : String} : one < other ↔ bytesOf one < bytesOf other := by
  simp only [bytesOf_eq_flatMap, String.lt_iff_toList_lt]
  constructor
  · exact flatMap_utf8EncodeChar_lt
  · intro less
    rcases lt_trichotomy one.toList other.toList with before | same | after
    · exact before
    · rw [same] at less
      exact absurd less (List.lt_irrefl _)
    · exact absurd (flatMap_utf8EncodeChar_lt after) (List.lt_asymm less)

end BuildDeps
