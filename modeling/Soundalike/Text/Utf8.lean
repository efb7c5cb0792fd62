import Soundalike.Text.Basic

set_option autoImplicit false

/-!
# Text as bytes

Files, standard input and callers in other languages give bytes.  `ofUtf8?_eq_some_iff` says that a
text is read from its UTF-8 form and from no other bytes.  In that form a byte below 128 stands for
the character of that number and for no part of any other one (`mem_toUtf8_iff`), so bytes that end
a line or a string are found where the characters are for which they stand.
-/

namespace Soundalike.Text

/-- The UTF-8 form of a text. -/
def toUtf8 (text : Text) : List UInt8 := text.flatMap String.utf8EncodeChar

/-- Reads a text from its UTF-8 form; other bytes give none. -/
def ofUtf8? (bytes : List UInt8) : Option Text :=
  (String.fromUTF8? bytes.toByteArray).map String.toList

/-- Bytes are read as a text exactly if they are its UTF-8 form. -/
theorem ofUtf8?_eq_some_iff {bytes : List UInt8} {text : Text} :
    ofUtf8? bytes = some text ↔ toUtf8 text = bytes := by
  have hbytes : (toUtf8 text).toByteArray = text.utf8Encode := rfl
  unfold ofUtf8? String.fromUTF8?
  constructor
  · intro h
    split at h
    · rename_i hvalid
      simp only [Option.map_some, Option.some.injEq] at h
      have hstring : String.ofList text = String.fromUTF8 bytes.toByteArray hvalid := by
        rw [← h, String.ofList_toList]
      have harray := congrArg String.toByteArray hstring
      rw [String.toByteArray_ofList, ← hbytes] at harray
      simpa [String.fromUTF8] using harray
    · simp at h
  · rintro rfl
    rw [hbytes]
    have hvalid : text.utf8Encode.IsValidUTF8 := ⟨text, rfl⟩
    rw [dif_pos hvalid]
    have hstring : String.fromUTF8 text.utf8Encode hvalid = String.ofList text := by
      apply String.toByteArray_inj.1
      rw [String.toByteArray_ofList]
      rfl
    rw [hstring, Option.map_some, String.toList_ofList]

/-- The UTF-8 form of a text is read back. -/
theorem ofUtf8?_toUtf8 (text : Text) : ofUtf8? (toUtf8 text) = some text :=
  ofUtf8?_eq_some_iff.2 rfl

@[simp] theorem toUtf8_append (first second : Text) :
    toUtf8 (first ++ second) = toUtf8 first ++ toUtf8 second := by
  simp [toUtf8]

/-! ## ASCII characters among the bytes -/

theorem utf8EncodeChar_of_lt {c : Char} (h : c.toNat < 128) :
    String.utf8EncodeChar c = [UInt8.ofNat c.toNat] :=
  if_pos (Nat.le_of_lt_succ h)

/-- The bytes of a character beyond ASCII are all at least 128. -/
theorem le_toNat_of_mem_utf8EncodeChar {c : Char} (h : 128 ≤ c.toNat) :
    ∀ byte ∈ String.utf8EncodeChar c, 128 ≤ byte.toNat := by
  have hnumber : c.val.toNat = c.toNat := rfl
  fun_cases String.utf8EncodeChar c with
  | case1 v hone => omega
  | case2 v hone htwo =>
    simp only [List.mem_cons, List.not_mem_nil, or_false, forall_eq_or_imp, forall_eq,
      UInt8.toNat_ofNat']
    omega
  | case3 v hone htwo hthree =>
    simp only [List.mem_cons, List.not_mem_nil, or_false, forall_eq_or_imp, forall_eq,
      UInt8.toNat_ofNat']
    omega
  | case4 v hone htwo hthree =>
    simp only [List.mem_cons, List.not_mem_nil, or_false, forall_eq_or_imp, forall_eq,
      UInt8.toNat_ofNat']
    omega

/-- A byte below 128 is in the form of one character only, that of its number. -/
theorem mem_utf8EncodeChar_iff {byte : UInt8} (hbyte : byte.toNat < 128) (c : Char) :
    byte ∈ String.utf8EncodeChar c ↔ c.toNat = byte.toNat := by
  by_cases hc : c.toNat < 128
  · rw [utf8EncodeChar_of_lt hc, List.mem_singleton, ← UInt8.toNat_inj, UInt8.toNat_ofNat',
      Nat.mod_eq_of_lt (by omega), eq_comm]
  · constructor
    · intro hmem
      have hle := le_toNat_of_mem_utf8EncodeChar (Nat.le_of_not_lt hc) byte hmem
      omega
    · intro h
      omega

/-- The byte of an ASCII character is in the form of a text exactly if the text has the
character. -/
theorem mem_toUtf8_iff {byte : UInt8} {c : Char} (hbyte : byte.toNat < 128)
    (hc : c.toNat = byte.toNat) (text : Text) : byte ∈ toUtf8 text ↔ c ∈ text := by
  rw [toUtf8, List.mem_flatMap]
  constructor
  · rintro ⟨found, hmem, hform⟩
    rw [mem_utf8EncodeChar_iff hbyte, ← hc, Char.toNat_inj] at hform
    exact hform ▸ hmem
  · intro h
    exact ⟨c, h, (mem_utf8EncodeChar_iff hbyte c).mpr hc⟩

end Soundalike.Text
