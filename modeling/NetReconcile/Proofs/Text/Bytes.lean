import NetReconcile.Text.Utf8

/-!
# The bytes of a text

The UTF-8 bytes of a text are those of its characters, one after the other, and the text is found
again in them.

## Main statements

* `Text.toBytes_eq`: the bytes of a text, by its characters.
* `Text.ofBytes?_toBytes`: the bytes of a text are that text.
-/

namespace NetReconcile.Text

/-- The loop over an array of bytes reads what is left of it. -/
theorem toList_loop_eq (bytes : ByteArray) (i : Nat) (read : List UInt8) :
    ByteArray.toList.loop bytes i read = read.reverse ++ bytes.data.toList.drop i := by
  induction i, read using ByteArray.toList.loop.induct bytes with
  | case1 i read hlt ih =>
    have hlt' : i < bytes.data.toList.length := hlt
    have hget : bytes.get! i = bytes.data.toList[i] := by
      rw [Array.getElem_toList]
      exact getElem!_pos bytes.data i hlt
    rw [ByteArray.toList.loop, if_pos hlt, ih, List.reverse_cons, List.append_assoc,
      List.drop_eq_getElem_cons hlt', hget, List.singleton_append]
  | case2 i read hge =>
    have hge' : bytes.data.toList.length ≤ i := Nat.not_lt.1 hge
    rw [ByteArray.toList.loop, if_neg hge, List.drop_of_length_le hge', List.append_nil]

theorem toBytes_eq_data (s : String) : toBytes s = s.toByteArray.data.toList := by
  rw [toBytes, String.toUTF8_eq_toByteArray, ByteArray.toList, toList_loop_eq, List.drop_zero,
    List.reverse_nil, List.nil_append]

/-- The bytes of a text are those of its characters, one after the other. -/
theorem toBytes_eq (s : String) : toBytes s = s.toList.flatMap String.utf8EncodeChar := by
  have hs : s.toByteArray = s.toList.utf8Encode := String.utf8Encode_toList.symm
  rw [toBytes_eq_data, hs, List.utf8Encode, List.toList_data_toByteArray]

/-- The bytes of a text are that text. -/
theorem ofBytes?_toBytes (s : String) : ofBytes? (toBytes s) = some s := by
  rw [ofBytes?, toBytes_eq_data, Array.toArray_toList, String.fromUTF8?, dif_pos s.isValidUTF8]
  rfl

end NetReconcile.Text
