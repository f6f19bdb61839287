import Mathlib.Data.List.Basic

/-!
# UTF-8

`str.encode()` and `bytes.decode("utf-8")`, with bytes as a list.
-/

namespace Utf8

/-- `text.encode()`. -/
def encode (text : String) : List UInt8 := text.toByteArray.data.toList

/-- `data.decode("utf-8")`; `none` where it raises. -/
def decode (data : List UInt8) : Option String := String.fromUTF8? ⟨data.toArray⟩

/-- **The round trip.** -/
theorem decode_encode (text : String) : decode (encode text) = some text :=
  dif_pos text.isValidUTF8

theorem encode_append (a b : String) : encode (a ++ b) = encode a ++ encode b := by
  rw [encode, String.toByteArray_append, ByteArray.toList_data_append]
  rfl

theorem encode_ofList (cs : List Char) :
    encode (String.ofList cs) = cs.flatMap String.utf8EncodeChar := by
  rw [encode, String.toByteArray_ofList]
  exact List.toList_data_toByteArray

/-- The code of an ASCII character. -/
def byte (c : Char) : UInt8 := UInt8.ofNat c.toNat

/-- ASCII text is its codes. -/
theorem encode_ofList_ascii {cs : List Char} (h : ∀ c ∈ cs, c.toNat < 128) :
    encode (String.ofList cs) = cs.map byte := by
  rw [encode, String.toByteArray_ofList]
  induction cs with
  | nil => rfl
  | cons c cs ih =>
    rw [List.forall_mem_cons] at h
    have hchar : String.utf8EncodeChar c = [byte c] := by
      have hle : c.val.toNat ≤ 0x7f := Nat.le_of_lt_succ h.1
      unfold String.utf8EncodeChar
      simp only [hle, if_true]
      rfl
    rw [List.utf8Encode_cons, List.utf8Encode_singleton, hchar, ByteArray.toList_data_append,
      List.toList_data_toByteArray, ih h.2]
    rfl

theorem encode_ascii {text : String} (h : ∀ c ∈ text.toList, c.toNat < 128) :
    encode text = text.toList.map byte := by
  have hencode := encode_ofList_ascii h
  rwa [String.ofList_toList] at hencode

end Utf8
