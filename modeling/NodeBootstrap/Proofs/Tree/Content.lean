/-
NodeBootstrap/Proofs/Tree/Content.lean

Contents of files and their lines.  What was written reads back
(`linesOf?_joined`), and lines added to a content are its last lines
(`linesOf?_extended`), however the content ended before.  Adding some lines
and then more is adding them all at once (`extended_extended`).
-/
import NodeBootstrap.Proofs.Text.Lines
import NodeBootstrap.Tree.LineFile

namespace NodeBootstrap.Tree

open NodeBootstrap.Lines

/-! ### Bytes and characters -/

/-- The last byte of a character is LF only if the character is. -/
theorem getLast_utf8EncodeChar_eq_lf_iff (c : Char) :
    (String.utf8EncodeChar c).getLast String.utf8EncodeChar_ne_nil = 10 ↔ c = '\n' := by
  rw [List.getLast_eq_getElem]
  by_cases h1 : c.utf8Size = 1
  · have hb : String.utf8EncodeChar c = [c.val.toUInt8] := String.utf8EncodeChar_eq_singleton h1
    have hv : c.val ≤ 127 := Char.utf8Size_eq_one_iff.mp h1
    simp only [hb, List.length_singleton, Nat.sub_self, List.getElem_singleton]
    constructor
    · intro h
      -- a byte below 128 is the whole character
      apply Char.ext
      apply UInt32.toNat_inj.mp
      have hn := congrArg UInt8.toNat h
      rw [UInt32.toNat_toUInt8] at hn
      have hle : c.val.toNat ≤ 127 := hv
      rw [Nat.mod_eq_of_lt (by omega)] at hn
      exact hn
    · rintro rfl
      rfl
  · -- the last of several bytes continues a character, which LF does not
    have hlen : (String.utf8EncodeChar c).length - 1 ≠ 0 := by
      rw [String.length_utf8EncodeChar]
      have := c.utf8Size_pos
      omega
    constructor
    · intro h
      have hi : (String.utf8EncodeChar c).length - 1 < (String.utf8EncodeChar c).length :=
        Nat.sub_one_lt (by rw [String.length_utf8EncodeChar]; exact Nat.ne_of_gt c.utf8Size_pos)
      have hf := @UInt8.isUTF8FirstByte_getElem_utf8EncodeChar c _ hi
      rw [h] at hf
      exact absurd (hf.mp (by decide)) hlen
    · rintro rfl
      exact absurd rfl h1

theorem toList_data_toUTF8 (s : String) :
    s.toUTF8.data.toList = s.toList.flatMap String.utf8EncodeChar := by
  rw [String.toUTF8_eq_toByteArray, ← String.utf8Encode_toList, List.utf8Encode,
    List.data_toByteArray]

/-- A content ends inside a line as its text does. -/
theorem endsOpen_toUTF8_iff (s : String) :
    endsOpen s.toUTF8 = true ↔ ¬ Lines.IsClosed s.toList := by
  rw [endsOpen, ← Array.getLast?_toList, toList_data_toUTF8]
  rcases List.eq_nil_or_concat s.toList with h | ⟨cs, c, h⟩
  · simp [h, Lines.IsClosed]
  · have hlast := getLast_utf8EncodeChar_eq_lf_iff c
    rw [h, List.concat_eq_append, List.flatMap_append, List.flatMap_singleton, List.getLast?_append,
      List.getLast?_eq_some_getLast String.utf8EncodeChar_ne_nil, Option.some_or]
    simp [Lines.IsClosed, hlast]

/-! ### Lines of a content -/

/-- The lines of a content, if it is a text. -/
def linesOf? (bytes : ByteArray) : Option (List String) := (String.fromUTF8? bytes).map ofText

theorem fromUTF8?_toUTF8 (s : String) : String.fromUTF8? s.toUTF8 = some s := by
  rw [String.toUTF8_eq_toByteArray, String.fromUTF8?, dif_pos s.isValidUTF8]
  rfl

theorem eq_toUTF8_of_fromUTF8? {bytes : ByteArray} {s : String}
    (h : String.fromUTF8? bytes = some s) : bytes = s.toUTF8 := by
  rw [String.fromUTF8?] at h
  split at h
  · rw [← Option.some.inj h]
    rfl
  · contradiction

theorem linesOf?_toUTF8 (s : String) : linesOf? s.toUTF8 = some (ofText s) := by
  rw [linesOf?, fromUTF8?_toUTF8, Option.map_some]

/-- Written lines are read back. -/
theorem linesOf?_joined {lines : List String} (h : ∀ l ∈ lines, IsLine l) :
    linesOf? (joined lines).toUTF8 = some lines := by
  rw [linesOf?_toUTF8, ofText_joined lines h]

/-- The lines of a content hold no line ends. -/
theorem isLine_of_linesOf? {bytes : ByteArray} {lines : List String}
    (h : linesOf? bytes = some lines) : ∀ l ∈ lines, IsLine l := by
  obtain ⟨text, _, rfl⟩ := Option.map_eq_some_iff.mp h
  intro l hl
  exact isLine_of_mem_ofText hl

/-! ### Added lines -/

/-- A text with lines behind it. -/
def extendedText (s : String) (lines : List String) : String :=
  (if endsOpen s.toUTF8 then s ++ "\n" else s) ++ joined lines

theorem extended_toUTF8 (s : String) (lines : List String) :
    extended s.toUTF8 lines = (extendedText s lines).toUTF8 := by
  rw [extended, extendedText]
  split <;> simp

/-- Added lines come behind those that were there, and nothing else changes. -/
theorem linesOf?_extended {bytes : ByteArray} {lines added : List String}
    (h : linesOf? bytes = some lines) (ha : ∀ l ∈ added, IsLine l) :
    linesOf? (extended bytes added) = some (lines ++ added) := by
  obtain ⟨s, hs, rfl⟩ := Option.map_eq_some_iff.mp h
  rw [eq_toUTF8_of_fromUTF8? hs, extended_toUTF8, linesOf?_toUTF8, extendedText]
  congr 1
  split
  · rename_i ho
    rw [ofText_append_open ((endsOpen_toUTF8_iff s).mp ho), ofText_joined added ha]
  · rename_i ho
    have hc : Lines.IsClosed s.toList :=
      Classical.not_not.mp fun hn => ho ((endsOpen_toUTF8_iff s).mpr hn)
    rw [ofText_append_closed hc, ofText_joined added ha]

/-- A content with lines added is closed. -/
theorem endsOpen_extended (bytes : ByteArray) {lines : List String} (h : lines ≠ []) :
    endsOpen (extended bytes lines) = false := by
  have hj : endsOpen (joined lines).toUTF8 = false := by
    rw [Bool.eq_false_iff]
    exact fun e => (endsOpen_toUTF8_iff _).mp e (isClosed_joined lines)
  -- the last byte is one of the added lines
  have hlast : ∃ b, (joined lines).toUTF8.data.toList.getLast? = some b := by
    rw [← Option.ne_none_iff_exists', ne_eq, List.getLast?_eq_none_iff, toList_data_toUTF8,
      toList_joined]
    obtain ⟨l, ls, rfl⟩ := List.exists_cons_of_ne_nil h
    simp [String.utf8EncodeChar_ne_nil]
  obtain ⟨b, hb⟩ := hlast
  rw [endsOpen, ← Array.getLast?_toList] at hj ⊢
  rw [extended, ByteArray.data_append, Array.toList_append, List.getLast?_append, hb,
    Option.some_or, ← hb, hj]

/-- Adding some lines and then more is adding them all. -/
theorem extended_extended (bytes : ByteArray) {lines : List String} (h : lines ≠ [])
    (more : List String) :
    extended (extended bytes lines) more = extended bytes (lines ++ more) := by
  rw [extended, endsOpen_extended bytes h, if_neg Bool.false_ne_true, extended, extended,
    joined_append, ByteArray.append_assoc]
  simp

/-- A content with lines added, if there are any to add. -/
def grown (bytes : ByteArray) (lines : List String) : ByteArray :=
  if lines = [] then bytes else extended bytes lines

theorem grown_nil (bytes : ByteArray) : grown bytes [] = bytes := rfl

theorem grown_grown (bytes : ByteArray) (lines more : List String) :
    grown (grown bytes lines) more = grown bytes (lines ++ more) := by
  by_cases hl : lines = []
  · rw [hl, grown_nil, List.nil_append]
  · by_cases hm : more = []
    · rw [hm, grown_nil, List.append_nil]
    · rw [grown, grown, grown, if_neg hl, if_neg hm, if_neg (by simp [hl]),
        extended_extended bytes hl]

theorem linesOf?_grown {bytes : ByteArray} {lines added : List String}
    (h : linesOf? bytes = some lines) (ha : ∀ l ∈ added, IsLine l) :
    linesOf? (grown bytes added) = some (lines ++ added) := by
  rw [grown]
  split
  · rename_i hnil
    rw [h, hnil, List.append_nil]
  · exact linesOf?_extended h ha

end NodeBootstrap.Tree
