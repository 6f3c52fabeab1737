import TransactionService.Foundation.Text

namespace TransactionService.Percent

/-! # Percent encoding

The text of a URL component, and what is read back from it. -/

/-- What `encodeURIComponent` leaves as it is. -/
def isUnreserved (character : Char) : Bool :=
  character.isAlphanum || "-_.!~*'()".toList.contains character

def hexDigits : List Char := "0123456789ABCDEF".toList

def hexDigit (value : Nat) : Char := hexDigits.getD value '0'

def hexValue (character : Char) : Option Nat :=
  hexDigits.findIdx? (· == character.toUpper)

/-- `%HH`. -/
def encodeByte (byte : UInt8) : List Char :=
  ['%', hexDigit (byte.toNat / 16), hexDigit (byte.toNat % 16)]

def encodeCharacter (character : Char) : List Char :=
  if isUnreserved character then [character]
  else (String.utf8EncodeChar character).flatMap encodeByte

/-- `encodeURIComponent(text)` for a text without lone surrogates. -/
def encode (text : String) : String :=
  String.ofList (text.toList.flatMap encodeCharacter)

/-- The bytes that a component stands for; every `%` is followed by two digits. -/
def decodeBytes : List Char → Option (List UInt8)
  | [] => some []
  | '%' :: high :: low :: rest => do
      let highValue ← hexValue high
      let lowValue ← hexValue low
      let bytes ← decodeBytes rest
      return UInt8.ofNat (16 * highValue + lowValue) :: bytes
  | character :: rest =>
      if character = '%' then none
      else (String.utf8EncodeChar character ++ ·) <$> decodeBytes rest

/-- `decodeURIComponent(text)`; `none` when it throws. -/
def decode (text : String) : Option String :=
  (decodeBytes text.toList).bind fun bytes =>
    bytes.toByteArray.utf8Decode?.map fun characters => String.ofList characters.toList

/-! ## Reading back -/

theorem hexValue_hexDigit {value : Nat} (small : value < 16) :
    hexValue (hexDigit value) = some value := by
  have all : ∀ value : Fin 16, hexValue (hexDigit value.val) = some value.val := by decide
  exact all ⟨value, small⟩

private theorem decodeBytes_encodeByte (byte : UInt8) (rest : List Char) :
    decodeBytes (encodeByte byte ++ rest) = (byte :: ·) <$> decodeBytes rest := by
  have bound : byte.toNat < 256 := byte.toNat_lt
  have high : hexValue (hexDigit (byte.toNat / 16)) = some (byte.toNat / 16) :=
    hexValue_hexDigit (by omega)
  have low : hexValue (hexDigit (byte.toNat % 16)) = some (byte.toNat % 16) :=
    hexValue_hexDigit (by omega)
  have whole : UInt8.ofNat (16 * (byte.toNat / 16) + byte.toNat % 16) = byte := by
    rw [Nat.div_add_mod, UInt8.ofNat_toNat]
  simp only [encodeByte, List.cons_append, List.nil_append, decodeBytes, high, low]
  cases decodeBytes rest with
  | none => rfl
  | some bytes => exact congrArg (fun first => some (first :: bytes)) whole

private theorem decodeBytes_encodeBytes (bytes : List UInt8) (rest : List Char) :
    decodeBytes (bytes.flatMap encodeByte ++ rest) = (bytes ++ ·) <$> decodeBytes rest := by
  induction bytes with
  | nil => simp
  | cons byte bytes induction =>
      rw [List.flatMap_cons, List.append_assoc, decodeBytes_encodeByte, induction]
      cases decodeBytes rest <;> rfl

private theorem unreserved_ne_percent {character : Char}
    (unreserved : isUnreserved character = true) :
    character ≠ '%' := by
  rintro rfl
  revert unreserved
  decide

private theorem decodeBytes_plain {character : Char} (plain : character ≠ '%') (rest : List Char) :
    decodeBytes (character :: rest) =
      (String.utf8EncodeChar character ++ ·) <$> decodeBytes rest := by
  rw [decodeBytes]
  · exact if_neg plain
  · intro _ _ _ isPercent
    exact absurd isPercent plain

private theorem decodeBytes_encodeCharacter (character : Char) (rest : List Char) :
    decodeBytes (encodeCharacter character ++ rest) =
      (String.utf8EncodeChar character ++ ·) <$> decodeBytes rest := by
  cases unreserved : isUnreserved character with
  | true =>
      simp only [encodeCharacter, unreserved, if_true, List.cons_append, List.nil_append]
      exact decodeBytes_plain (unreserved_ne_percent unreserved) rest
  | false =>
      simp only [encodeCharacter, unreserved, Bool.false_eq_true, if_false]
      exact decodeBytes_encodeBytes _ rest

private theorem decodeBytes_encode (characters : List Char) :
    decodeBytes (characters.flatMap encodeCharacter) =
      some (characters.flatMap String.utf8EncodeChar) := by
  induction characters with
  | nil => rfl
  | cons character rest induction =>
      rw [List.flatMap_cons, decodeBytes_encodeCharacter, induction]
      rfl

theorem decode_encode (text : String) : decode (encode text) = some text := by
  have bytes : (text.toList.flatMap String.utf8EncodeChar).toByteArray =
      text.toList.utf8Encode := rfl
  rw [decode, encode, String.toList_ofList, decodeBytes_encode, Option.bind_some, bytes,
    List.utf8Decode?_utf8Encode]
  simp

/-! ## The characters of an encoding -/

theorem hexDigit_unreserved (value : Nat) : isUnreserved (hexDigit value) = true := by
  have all : hexDigits.all isUnreserved = true := by decide
  unfold hexDigit
  rw [List.getD_eq_getElem?_getD]
  cases found : hexDigits[value]? with
  | none => rfl
  | some digit => exact List.all_eq_true.mp all digit (List.mem_of_getElem? found)

private theorem mem_encode {text : String} {character : Char}
    (member : character ∈ (encode text).toList) :
    isUnreserved character = true ∨ character = '%' := by
  rw [encode, String.toList_ofList, List.mem_flatMap] at member
  rcases member with ⟨source, -, member⟩
  unfold encodeCharacter at member
  split at member
  · rename_i unreserved
    cases List.mem_singleton.mp member
    exact .inl unreserved
  · rcases List.mem_flatMap.mp member with ⟨byte, -, member⟩
    simp only [encodeByte, List.mem_cons, List.not_mem_nil, or_false] at member
    rcases member with rfl | rfl | rfl
    · exact .inr rfl
    · exact .inl (hexDigit_unreserved _)
    · exact .inl (hexDigit_unreserved _)

/-- A character that is neither left as it is nor a `%` does not occur. -/
theorem not_mem_encode {character : Char} (reserved : isUnreserved character = false)
    (plain : character ≠ '%') (text : String) : character ∉ (encode text).toList := by
  intro member
  rcases mem_encode member with unreserved | isPercent
  · rw [reserved] at unreserved
    cases unreserved
  · exact plain isPercent

end TransactionService.Percent
