import EventTables.Text.Glyph

/-!
# Laws of Glyphs

The bytes of a text show its characters again.

The encoding of a character is told from its first bytes, whatever comes after it,
so the characters of a text are found in its bytes one after another and none of
the bytes is left alone.

## Theorems

* `Glyph.ofBytes_bytes`: The glyphs of a text's bytes are its characters.
-/

namespace EventTables

/-! ### The bytes of a text -/

-- The bytes are handed out through a list of those before, the latest first.
theorem Text.toList_loop (bytes : ByteArray) (missing i : Nat) (before : List UInt8)
    (h : missing + i = bytes.size) :
    ByteArray.toList.loop bytes i before = before.reverse ++ bytes.data.toList.drop i := by
  induction missing generalizing i before with
  | zero =>
      have hsize : bytes.data.toList.length ≤ i := by
        rw [Array.length_toList]
        exact Nat.le_of_eq ((Nat.zero_add i).symm.trans h).symm
      rw [ByteArray.toList.loop, if_neg (by omega), List.drop_of_length_le hsize, List.append_nil]
  | succ missing ih =>
      have hi : i < bytes.size := by omega
      have hlist : i < bytes.data.toList.length := by
        rw [Array.length_toList]
        exact hi
      have hget : bytes.get! i = bytes.data.toList[i] := getElem!_pos bytes.data i hi
      rw [ByteArray.toList.loop, if_pos hi, ih (i + 1) _ (by omega), hget,
        List.drop_eq_getElem_cons hlist, List.reverse_cons, List.append_assoc,
        List.singleton_append]

theorem Text.bytes_eq_flatMap (s : String) :
    Text.bytes s = s.toList.flatMap String.utf8EncodeChar := by
  have hbytes : s.toUTF8 = (s.toList.flatMap String.utf8EncodeChar).toByteArray :=
    String.utf8Encode_toList.symm
  rw [Text.bytes, ByteArray.toList, Text.toList_loop _ s.toUTF8.size 0 [] (Nat.add_zero _), hbytes,
    List.toList_data_toByteArray]
  rfl

namespace Glyph

/-! ### Characters among bytes -/

theorem leading?_append (c : Char) (rest : List UInt8) :
    leading? (String.utf8EncodeChar c ++ rest) = some c := by
  have hlength : (String.utf8EncodeChar c).length ≤ 4 := by
    rw [String.length_utf8EncodeChar]
    exact c.utf8Size_le_four
  rw [leading?, List.take_append, List.take_of_length_le hlength, List.toByteArray_append]
  exact ByteArray.utf8DecodeChar?_utf8EncodeChar_append

theorem ofBytes_append (c : Char) (rest : List UInt8) :
    ofBytes (String.utf8EncodeChar c ++ rest) = some c :: ofBytes rest := by
  have hleading := leading?_append c rest
  have hlength := String.length_utf8EncodeChar c
  rcases hencoded : String.utf8EncodeChar c with _ | ⟨b, others⟩
  · rw [hencoded] at hlength
    exact absurd hlength.symm (Nat.ne_of_gt c.utf8Size_pos)
  · rw [hencoded] at hleading hlength
    have hothers : others.length = c.utf8Size - 1 := by
      rw [← hlength, List.length_cons, Nat.add_one_sub_one]
    rw [List.cons_append] at hleading ⊢
    rw [ofBytes, hleading]
    simp only [List.drop_left' hothers]

/-- The glyphs of the bytes of a text are its characters. -/
theorem ofBytes_bytes (s : String) : ofBytes (Text.bytes s) = ofText s := by
  rw [Text.bytes_eq_flatMap, ofText]
  induction s.toList with
  | nil =>
      rw [List.flatMap_nil, ofBytes]
      rfl
  | cons c cs ih => rw [List.flatMap_cons, ofBytes_append, ih, List.map_cons]

end Glyph

end EventTables
