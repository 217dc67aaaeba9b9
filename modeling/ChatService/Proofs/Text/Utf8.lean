import ChatService.Text.Utf8

/-!
# UTF-8 read back

The bytes of a text are read as the text, and an ASCII text has one byte for each character.
-/

namespace ChatService.Text

private theorem toList_loop (bytes : ByteArray) (i : Nat) (done : List UInt8) :
    ByteArray.toList.loop bytes i done = done.reverse ++ bytes.data.toList.drop i := by
  rw [ByteArray.toList.loop]
  by_cases inside : i < bytes.size
  · have here : i < bytes.data.toList.length := inside
    have byte : bytes.get! i = bytes.data.toList[i] := by
      simp [ByteArray.get!, getElem!_pos bytes.data i inside]
    rw [if_pos inside, toList_loop bytes (i + 1), byte, List.reverse_cons, List.append_assoc,
      List.singleton_append, ← List.drop_eq_getElem_cons here]
  · have past : bytes.data.toList.length ≤ i := Nat.le_of_not_lt inside
    rw [if_neg inside, List.drop_eq_nil_iff.2 past, List.append_nil]
termination_by bytes.size - i

theorem toList_eq (bytes : ByteArray) : bytes.toList = bytes.data.toList := by
  rw [ByteArray.toList, toList_loop]
  simp

/-- The bytes of a text encode it. -/
theorem ofUtf8?_toUtf8 (s : String) : ofUtf8? (toUtf8 s) = some s := by
  have whole : (⟨(toUtf8 s).toArray⟩ : ByteArray) = s.toByteArray := by
    rw [toUtf8, toList_eq]
    rfl
  rw [ofUtf8?, whole, String.fromUTF8?, dif_pos s.isValidUTF8]
  rfl

theorem utf8EncodeChar_ascii {c : Char} (ascii : c.toNat < 128) :
    String.utf8EncodeChar c = [UInt8.ofNat c.toNat] := by
  have small : c.val.toNat ≤ 127 := Nat.le_of_lt_succ ascii
  simp only [String.utf8EncodeChar, if_pos small]
  rfl

/-- The bytes of an ASCII text are its code points. -/
theorem toUtf8_ascii {s : List Char} (ascii : ∀ c ∈ s, c.toNat < 128) :
    toUtf8 (String.ofList s) = s.map fun c => UInt8.ofNat c.toNat := by
  have bytes : toUtf8 (String.ofList s) = s.flatMap String.utf8EncodeChar := by
    rw [toUtf8, toList_eq]
    change (String.ofList s).toByteArray.data.toList = _
    simp [List.utf8Encode]
  rw [bytes]
  clear bytes
  induction s with
  | nil => rfl
  | cons c rest ih =>
    rw [List.flatMap_cons, utf8EncodeChar_ascii (ascii c (List.mem_cons_self ..)),
      ih fun d member => ascii d (List.mem_cons_of_mem _ member)]
    rfl

end ChatService.Text
