import ClientGen.Text.Basic
import Mathlib.Tactic.IntervalCases

/-!
# Reading percent-encoded text

Decoding undoes encoding: the decoder is told nothing about the text it gets, and finds the bytes of the original in
it. Encoded text is made of unreserved characters and of octets `%XX`, and so holds no character with a meaning in a
URL.
-/

namespace ClientGen.Text.Percent

/-! ## Decoding -/

def hexValue? (c : Char) : Option Nat :=
  if '0' ≤ c ∧ c ≤ '9' then some (c.toNat - 48)
  else if 'A' ≤ c ∧ c ≤ 'F' then some (c.toNat - 55)
  else if 'a' ≤ c ∧ c ≤ 'f' then some (c.toNat - 87)
  else none

/-- The bytes of a text in which `%XX` stands for a byte and any other character for its UTF-8 form. -/
def bytesOf? : List Char → Option (List UInt8)
  | [] => some []
  | c :: rest =>
    if c = '%' then
      match rest with
      | high :: low :: rest => do
        let high ← hexValue? high
        let low ← hexValue? low
        let bytes ← bytesOf? rest
        some (UInt8.ofNat (16 * high + low) :: bytes)
      | _ => none
    else (bytesOf? rest).map (String.utf8EncodeChar c ++ ·)

def decode? (s : List Char) : Option String :=
  (bytesOf? s).bind fun bytes => String.fromUTF8? bytes.toByteArray

theorem hexValue?_hexDigit {n : Nat} (h : n < 16) : hexValue? (hexDigit n) = some n := by
  interval_cases n <;> rfl

theorem bytesOf?_encodeByte (b : UInt8) (rest : List Char) :
    bytesOf? (encodeByte b ++ rest) = (bytesOf? rest).map (b :: ·) := by
  have hb : b.toNat < 256 := UInt8.toNat_lt_size b
  have hhigh : b.toNat / 16 < 16 := by omega
  have hlow : b.toNat % 16 < 16 := by omega
  have hbyte : UInt8.ofNat (16 * (b.toNat / 16) + b.toNat % 16) = b := by
    rw [Nat.div_add_mod, UInt8.ofNat_toNat]
  have hoctet : bytesOf? (encodeByte b ++ rest) = (bytesOf? rest).bind fun bytes =>
      some (UInt8.ofNat (16 * (b.toNat / 16) + b.toNat % 16) :: bytes) := by
    simp [encodeByte, bytesOf?, hexValue?_hexDigit hhigh, hexValue?_hexDigit hlow]
  rw [hoctet, hbyte, Option.map_eq_bind]
  rfl

theorem bytesOf?_encodeBytes (bytes : List UInt8) (rest : List Char) :
    bytesOf? (bytes.flatMap encodeByte ++ rest) = (bytesOf? rest).map (bytes ++ ·) := by
  induction bytes with
  | nil => simp
  | cons b bytes ih =>
    rw [List.flatMap_cons, List.append_assoc, bytesOf?_encodeByte, ih, Option.map_map]
    rfl

theorem ne_percent_of_isUnreserved {c : Char} (h : isUnreserved c) : c ≠ '%' := by
  rintro rfl
  revert h
  decide

theorem bytesOf?_encodeChar (c : Char) (rest : List Char) :
    bytesOf? (encodeChar c ++ rest) = (bytesOf? rest).map (String.utf8EncodeChar c ++ ·) := by
  unfold encodeChar
  split
  · next h =>
    rw [List.singleton_append, bytesOf?.eq_def]
    exact if_neg (ne_percent_of_isUnreserved h)
  · exact bytesOf?_encodeBytes _ rest

theorem bytesOf?_flatMap_encodeChar (s : List Char) :
    bytesOf? (s.flatMap encodeChar) = some (s.flatMap String.utf8EncodeChar) := by
  induction s with
  | nil => rfl
  | cons c s ih => rw [List.flatMap_cons, bytesOf?_encodeChar, ih, Option.map_some, List.flatMap_cons]

theorem fromUTF8?_flatMap (s : List Char) :
    String.fromUTF8? (s.flatMap String.utf8EncodeChar).toByteArray = some (String.ofList s) :=
  dif_pos (ByteArray.IsValidUTF8.intro s rfl)

/-- An encoded text decodes to what it was made from. -/
theorem decode?_encode (s : String) : decode? (encode s).toList = some s := by
  rw [decode?, encode, String.toList_ofList, bytesOf?_flatMap_encodeChar, Option.bind_some, fromUTF8?_flatMap,
    String.ofList_toList]

/-! ## What encoded text is made of -/

def isHexDigit (c : Char) : Bool := c.isDigit || ('A' ≤ c && c ≤ 'F')

/-- Text of unreserved characters and of octets `%XX`. -/
inductive Encoded : List Char → Prop
  | nil : Encoded []
  | plain {c : Char} {rest : List Char} (hc : isUnreserved c) (h : Encoded rest) : Encoded (c :: rest)
  | octet {high low : Char} {rest : List Char} (hhigh : isHexDigit high) (hlow : isHexDigit low) (h : Encoded rest) :
      Encoded ('%' :: high :: low :: rest)

theorem isHexDigit_hexDigit {n : Nat} (h : n < 16) : isHexDigit (hexDigit n) := by
  interval_cases n <;> rfl

theorem Encoded.encodeBytes (bytes : List UInt8) {rest : List Char} (h : Encoded rest) :
    Encoded (bytes.flatMap encodeByte ++ rest) := by
  induction bytes with
  | nil => exact h
  | cons b bytes ih =>
    have hb : b.toNat < 256 := UInt8.toNat_lt_size b
    rw [List.flatMap_cons, List.append_assoc]
    exact .octet (isHexDigit_hexDigit (by omega)) (isHexDigit_hexDigit (by omega)) ih

theorem Encoded.encodeChar (c : Char) {rest : List Char} (h : Encoded rest) :
    Encoded (Percent.encodeChar c ++ rest) := by
  unfold Percent.encodeChar
  split
  · next hc => exact .plain hc h
  · exact h.encodeBytes _

theorem encoded_encode (s : String) : Encoded (encode s).toList := by
  rw [encode, String.toList_ofList]
  induction s.toList with
  | nil => exact .nil
  | cons c s ih => exact ih.encodeChar c

theorem isUnreserved_of_isHexDigit {c : Char} (h : isHexDigit c) : isUnreserved c := by
  have halphanum : c.isAlphanum = true := by
    rcases Bool.or_eq_true_iff.1 h with hdigit | hletter
    · exact Bool.or_eq_true_iff.2 (.inr hdigit)
    · rw [Bool.and_eq_true, decide_eq_true_eq, decide_eq_true_eq] at hletter
      have hrange : 65 ≤ c.toNat ∧ c.toNat ≤ 70 := hletter
      have hupper : c.isUpper = true := by
        refine decide_eq_true ?_
        change 65 ≤ c.toNat ∧ c.toNat ≤ 90
        omega
      exact Bool.or_eq_true_iff.2 (.inl (Bool.or_eq_true_iff.2 (.inl hupper)))
  simp [isUnreserved, halphanum]

theorem encode_singleton {c : Char} (h : isUnreserved c) : encode (String.singleton c) = String.singleton c := by
  rw [encode, String.toList_singleton, List.flatMap_singleton, Percent.encodeChar, if_pos h]
  exact String.toList_injective (by rw [String.toList_ofList, String.toList_singleton])

/-- Every character of encoded text is unreserved or a percent sign. -/
theorem Encoded.of_mem {s : List Char} (h : Encoded s) {c : Char} (hc : c ∈ s) : isUnreserved c ∨ c = '%' := by
  induction h with
  | nil => cases hc
  | plain hplain _ ih =>
    rcases List.mem_cons.1 hc with rfl | hc
    · exact .inl hplain
    · exact ih hc
  | octet hhigh hlow _ ih =>
    rcases List.mem_cons.1 hc with rfl | hc
    · exact .inr rfl
    · rcases List.mem_cons.1 hc with rfl | hc
      · exact .inl (isUnreserved_of_isHexDigit hhigh)
      · rcases List.mem_cons.1 hc with rfl | hc
        · exact .inl (isUnreserved_of_isHexDigit hlow)
        · exact ih hc

/-- A character that is neither unreserved nor a percent sign never comes up in encoded text. -/
theorem notMem_encode {c : Char} (hc : (isUnreserved c || c == '%') = false) (s : String) :
    c ∉ (encode s).toList := by
  intro hm
  rcases (encoded_encode s).of_mem hm with h | rfl
  · simp [h] at hc
  · simp at hc

end ClientGen.Text.Percent
