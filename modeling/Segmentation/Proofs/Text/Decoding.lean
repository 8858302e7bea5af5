import Segmentation.Proofs.Text.Utf8

/-!
# Decoding what was encoded

The bytes of a character are a first one, which says how many others there are, and the others, each
with six more bits. So decoding the front of an encoded text gives its characters back one by one,
and a fault where the bytes stop within a character. Counting characters from the sizes that they
take is the same as decoding the bytes and counting what comes out.
-/

namespace Segmentation.Text

/-! ## The bytes of one character -/

/-- The first byte lies from `low` to `high`, and each one after it may continue any character. -/
def Continues (low high : Nat) : List UInt8 → Prop
  | [] => True
  | byte :: rest => low ≤ byte.toNat ∧ byte.toNat ≤ high ∧ Continues 0x80 0xbf rest

/-- The number that the bits of the continuing bytes make behind those of `value`. -/
def withBits (value : Nat) : List UInt8 → Nat
  | [] => value
  | byte :: rest => withBits (value * 64 + byte.toNat % 64) rest

variable {low high need : Nat} {others : List UInt8}

theorem takeContinuation_append (continues : Continues low high others) (value count : Nat)
    (rest : List UInt8) :
    takeContinuation low high value count others.length (others ++ rest) =
      .ok (Char.ofNat (withBits value others), count + others.length - 1) := by
  induction others generalizing low high value count with
  | nil => rfl
  | cons byte others ih =>
      obtain ⟨above, below, continues⟩ := continues
      rw [List.length_cons, List.cons_append, takeContinuation]
      simp only [if_pos (And.intro above below)]
      rw [ih continues, withBits, Nat.add_right_comm, Nat.add_assoc]

theorem takeContinuation_short (continues : Continues low high others) (value count : Nat)
    (short : others.length < need) :
    takeContinuation low high value count need others =
      .error (.unexpectedEnd, count + others.length) := by
  induction others generalizing low high value count need with
  | nil =>
      cases need with
      | zero => exact absurd short (Nat.not_lt_zero _)
      | succ need => rfl
  | cons byte others ih =>
      cases need with
      | zero => exact absurd short (Nat.not_lt_zero _)
      | succ need =>
          obtain ⟨above, below, continues⟩ := continues
          rw [takeContinuation]
          simp only [if_pos (And.intro above below)]
          rw [ih continues _ _ (Nat.lt_of_succ_lt_succ short), List.length_cons, Nat.add_right_comm,
            Nat.add_assoc]

theorem Continues.take (continues : Continues low high others) (count : Nat) :
    Continues low high (others.take count) := by
  induction others generalizing low high count with
  | nil => rwa [List.take_nil]
  | cons byte others ih =>
      cases count with
      | zero => trivial
      | succ count => exact ⟨continues.1, continues.2.1, ih continues.2.2 count⟩

/-- How the bytes of a character are read: the first of them asks for just the others, and these
continue it and complete its number. -/
structure Spells (character : Char) (first : UInt8) (others : List UInt8) : Prop where
  bytes : String.utf8EncodeChar character = first :: others
  asks : ∃ low high value, Continues low high others ∧ withBits value others = character.toNat ∧
    ∀ bytes, takeCharacter first bytes = takeContinuation low high value 1 others.length bytes

section

variable {character : Char} {code : Nat}

theorem spells_one (equal : character.toNat = code) (few : code ≤ 127) :
    Spells character (UInt8.ofNat code) [] := by
  have first := UInt8.toNat_ofNat_of_lt' (show code < 256 by omega)
  refine ⟨?bytes, 0, 0, code, trivial, equal.symm, fun bytes => ?asks⟩
  case bytes => rw [String.utf8EncodeChar.eq_1, Char.toNat_val, equal, if_pos few]
  case asks =>
    simp only [takeCharacter, first]
    rw [if_pos (by omega)]
    rfl

theorem spells_two (equal : character.toNat = code) (more : ¬code ≤ 127) (few : code ≤ 2047) :
    Spells character (UInt8.ofNat (code / 64 % 32 + 192)) [UInt8.ofNat (code % 64 + 128)] := by
  have first := UInt8.toNat_ofNat_of_lt' (show code / 64 % 32 + 192 < 256 by omega)
  have last := UInt8.toNat_ofNat_of_lt' (show code % 64 + 128 < 256 by omega)
  refine ⟨?bytes, 0x80, 0xbf, (code / 64 % 32 + 192) % 32, ?continues, ?number,
    fun bytes => ?asks⟩
  case bytes =>
    rw [String.utf8EncodeChar.eq_1, Char.toNat_val, equal, if_neg more, if_pos few]
  case continues =>
    simp only [Continues, last, and_true]
    omega
  case number =>
    simp only [withBits, last, equal]
    omega
  case asks =>
    simp only [takeCharacter, first]
    rw [if_neg (by omega), if_neg (by omega), if_pos (by omega)]
    rfl

/-- The second byte keeps to its bounds: a smaller number takes fewer bytes, and a surrogate is no
character. -/
theorem spells_three (equal : character.toNat = code) (more : ¬code ≤ 2047)
    (few : code ≤ 65535) :
    Spells character (UInt8.ofNat (code / 4096 % 16 + 224))
      [UInt8.ofNat (code / 64 % 64 + 128), UInt8.ofNat (code % 64 + 128)] := by
  have valid : code < 0xd800 ∨ 0xdfff < code ∧ code < 0x110000 := equal ▸ character.valid
  have first := UInt8.toNat_ofNat_of_lt' (show code / 4096 % 16 + 224 < 256 by omega)
  have second := UInt8.toNat_ofNat_of_lt' (show code / 64 % 64 + 128 < 256 by omega)
  have last := UInt8.toNat_ofNat_of_lt' (show code % 64 + 128 < 256 by omega)
  refine ⟨?bytes, if code / 4096 % 16 + 224 = 0xe0 then 0xa0 else 0x80,
    if code / 4096 % 16 + 224 = 0xed then 0x9f else 0xbf, (code / 4096 % 16 + 224) % 16,
    ?continues, ?number, fun bytes => ?asks⟩
  case bytes =>
    rw [String.utf8EncodeChar.eq_1, Char.toNat_val, equal, if_neg (by omega), if_neg more,
      if_pos few]
  case continues =>
    simp only [Continues, second, last, and_true]
    split <;> split <;> omega
  case number =>
    simp only [withBits, second, last, equal]
    omega
  case asks =>
    simp only [takeCharacter, first]
    rw [if_neg (by omega), if_neg (by omega), if_neg (by omega), if_pos (by omega)]
    rfl

theorem spells_four (equal : character.toNat = code) (more : ¬code ≤ 65535) :
    Spells character (UInt8.ofNat (code / 262144 % 8 + 240))
      [UInt8.ofNat (code / 4096 % 64 + 128), UInt8.ofNat (code / 64 % 64 + 128),
        UInt8.ofNat (code % 64 + 128)] := by
  have valid : code < 0xd800 ∨ 0xdfff < code ∧ code < 0x110000 := equal ▸ character.valid
  have first := UInt8.toNat_ofNat_of_lt' (show code / 262144 % 8 + 240 < 256 by omega)
  have second := UInt8.toNat_ofNat_of_lt' (show code / 4096 % 64 + 128 < 256 by omega)
  have third := UInt8.toNat_ofNat_of_lt' (show code / 64 % 64 + 128 < 256 by omega)
  have last := UInt8.toNat_ofNat_of_lt' (show code % 64 + 128 < 256 by omega)
  refine ⟨?bytes, if code / 262144 % 8 + 240 = 0xf0 then 0x90 else 0x80,
    if code / 262144 % 8 + 240 = 0xf4 then 0x8f else 0xbf, (code / 262144 % 8 + 240) % 8,
    ?continues, ?number, fun bytes => ?asks⟩
  case bytes =>
    rw [String.utf8EncodeChar.eq_1, Char.toNat_val, equal, if_neg (by omega), if_neg (by omega),
      if_neg more]
  case continues =>
    simp only [Continues, second, third, last, and_true]
    split <;> split <;> omega
  case number =>
    simp only [withBits, second, third, last, equal]
    omega
  case asks =>
    simp only [takeCharacter, first]
    rw [if_neg (by omega), if_neg (by omega), if_neg (by omega), if_neg (by omega),
      if_pos (by omega)]
    rfl

end

/-- Every character is read from its own bytes, be they one, two, three or four. -/
theorem exists_spells (character : Char) : ∃ first others, Spells character first others := by
  by_cases one : character.toNat ≤ 127
  · exact ⟨_, _, spells_one rfl one⟩
  by_cases two : character.toNat ≤ 2047
  · exact ⟨_, _, spells_two rfl one two⟩
  by_cases three : character.toNat ≤ 65535
  · exact ⟨_, _, spells_three rfl two three⟩
  · exact ⟨_, _, spells_four rfl three⟩

namespace Spells

variable {character : Char} {first : UInt8}

theorem utf8Size_eq (spells : Spells character first others) :
    character.utf8Size = others.length + 1 := by
  rw [← String.length_utf8EncodeChar, spells.bytes, List.length_cons]

theorem takeCharacter_append (spells : Spells character first others) (rest : List UInt8) :
    takeCharacter first (others ++ rest) = .ok (character, others.length) := by
  obtain ⟨low, high, value, continues, number, asks⟩ := spells.asks
  rw [asks, takeContinuation_append continues, number, Char.ofNat_toNat, Nat.add_sub_cancel_left]

theorem takeCharacter_take (spells : Spells character first others) {count : Nat}
    (short : count < others.length) :
    takeCharacter first (others.take count) = .error (.unexpectedEnd, count + 1) := by
  obtain ⟨low, high, value, continues, -, asks⟩ := spells.asks
  have length : (others.take count).length = count := by
    rw [List.length_take, Nat.min_eq_left (Nat.le_of_lt short)]
  rw [asks, takeContinuation_short (continues.take count) value 1 (by rwa [length]), length,
    Nat.add_comm]

end Spells

/-! ## The bytes of a text -/

theorem decodeFrom_skip (position skip : Nat) (bytes : List UInt8) :
    decodeFrom position skip bytes = decodeFrom (position + skip) 0 (bytes.drop skip) := by
  induction bytes generalizing position skip with
  | nil => rw [List.drop_nil, decodeFrom, decodeFrom]
  | cons byte rest ih =>
      cases skip with
      | zero => rfl
      | succ skip => rw [decodeFrom, ih, List.drop_succ_cons, Nat.add_right_comm, Nat.add_assoc]

theorem decodeFrom_append (position : Nat) (character : Char) (rest : List UInt8) :
    decodeFrom position 0 (String.utf8EncodeChar character ++ rest) =
      (decodeFrom (position + character.utf8Size) 0 rest).map (character :: ·) := by
  obtain ⟨first, others, spells⟩ := exists_spells character
  rw [spells.bytes, spells.utf8Size_eq, List.cons_append, decodeFrom]
  simp only [spells.takeCharacter_append]
  rw [decodeFrom_skip, List.drop_left, Nat.add_right_comm, Nat.add_assoc]

/-- Some bytes of a character, but not all of them, are a fault. -/
theorem decodeFrom_take (position : Nat) {character : Char} {count : Nat} (positive : 0 < count)
    (short : count < character.utf8Size) :
    decodeFrom position 0 ((String.utf8EncodeChar character).take count) =
      .error
        { problem := .unexpectedEnd, position
          first := (String.utf8EncodeChar character).headD 0, count } := by
  obtain ⟨first, others, spells⟩ := exists_spells character
  obtain ⟨count, rfl⟩ := Nat.exists_eq_add_of_le' positive
  rw [spells.utf8Size_eq] at short
  rw [spells.bytes, List.take_succ_cons, decodeFrom, List.headD_cons]
  simp only [spells.takeCharacter_take (Nat.lt_of_succ_lt_succ short)]

/-- Every text is decoded from its encoding. -/
theorem decodeFrom_utf8 (position : Nat) (text : Text) :
    decodeFrom position 0 (utf8 text) = .ok text := by
  induction text generalizing position with
  | nil => rfl
  | cons character rest ih =>
      rw [utf8, List.flatMap_cons, decodeFrom_append, ← utf8, ih]
      rfl

/-- Characters counted by their sizes are those decoded from the bytes, and a fault is the one that
decoding meets. -/
theorem charactersIn_eq (position bytes : Nat) (text : Text) :
    charactersIn position bytes text =
      (decodeFrom position 0 ((utf8 text).take bytes)).map List.length := by
  induction text generalizing position bytes with
  | nil => rw [utf8, List.flatMap_nil, List.take_nil]; rfl
  | cons character rest ih =>
      have size := String.length_utf8EncodeChar character
      rw [charactersIn, utf8, List.flatMap_cons, List.take_append, size, ← utf8]
      by_cases noBytes : bytes = 0
      · rw [if_pos noBytes, noBytes, List.take_zero, Nat.zero_sub, List.take_zero]
        rfl
      rw [if_neg noBytes]
      by_cases whole : character.utf8Size ≤ bytes
      · rw [if_pos whole, List.take_of_length_le (by rwa [size]), decodeFrom_append, ih]
        cases decodeFrom (position + character.utf8Size) 0
          ((utf8 rest).take (bytes - character.utf8Size)) <;> rfl
      · rw [if_neg whole, Nat.sub_eq_zero_of_le (by omega), List.take_zero, List.append_nil,
          decodeFrom_take position (by omega) (by omega)]
        rfl

/-! ## Offsets -/

variable {text : Text}

/-- The number of characters that the bytes before an offset decode to. -/
def decodedOffset (text : Text) (byteOffset : Nat) : Except Utf8Fault Nat :=
  (decodeUtf8 ((utf8 text).take byteOffset)).map List.length

/-- Only texts of one-byte characters skip the decoding. -/
theorem charOffset_eq (text : Text) (byteOffset : Nat) :
    charOffset text byteOffset =
      if (utf8 text).length = text.length then .ok byteOffset
      else decodedOffset text byteOffset := by
  rw [charOffset, charactersIn_eq, length_utf8, decodedOffset, decodeUtf8]

/-- A text has as many bytes as characters exactly if each of its characters takes one byte. -/
theorem length_utf8_eq_iff (text : Text) :
    (utf8 text).length = text.length ↔ ∀ character ∈ text, character.toNat < 128 := by
  rw [length_utf8]
  induction text with
  | nil => simp
  | cons character rest ih =>
      have one : character.utf8Size = 1 ↔ character.toNat < 128 := by
        rw [Char.utf8Size_eq_one_iff, UInt32.le_iff_toNat_le]
        exact Nat.lt_succ_iff.symm
      have positive := character.utf8Size_pos
      have least := length_le_utf8Length rest
      rw [List.forall_mem_cons, ← one, ← ih, utf8Length_cons, List.length_cons]
      omega

/-- A byte offset between two characters of a text, or at one of its ends. -/
def IsBoundary (text : Text) (byteOffset : Nat) : Prop :=
  ∃ count ≤ text.length, (utf8 (text.take count)).length = byteOffset

theorem decodeUtf8_take (text : Text) (count : Nat) :
    decodeUtf8 ((utf8 text).take (utf8 (text.take count)).length) = .ok (text.take count) := by
  have bytes : utf8 text = utf8 (text.take count) ++ utf8 (text.drop count) := by
    rw [← utf8_append, List.take_append_drop]
  rw [bytes, List.take_left, decodeUtf8, decodeFrom_utf8]

theorem decodedOffset_take {count : Nat} (inside : count ≤ text.length) :
    decodedOffset text (utf8 (text.take count)).length = .ok count := by
  rw [decodedOffset, decodeUtf8_take]
  exact congrArg Except.ok (List.length_take_of_le inside)

theorem charOffset_length_utf8 {count : Nat} (inside : count ≤ text.length) :
    charOffset text (utf8 (text.take count)).length = .ok count := by
  rw [length_utf8, charOffset_take inside]

/-- What the translation of byte offsets keeps: it takes the offset of each character to the number
of characters before it, it skips the decoding for texts of one-byte characters only and agrees with
it between characters, and there it keeps the order and cuts a text where the bytes are cut. -/
structure TranslatesBytes (text : Text) : Prop where
  position : ∀ count ≤ text.length,
    charOffset text (utf8 (text.take count)).length = .ok count
  decodes : ∀ byteOffset, charOffset text byteOffset =
    if (utf8 text).length = text.length then .ok byteOffset else decodedOffset text byteOffset
  skips_iff : (utf8 text).length = text.length ↔ ∀ character ∈ text, character.toNat < 128
  agrees : ∀ byteOffset, text.IsBoundary byteOffset →
    decodedOffset text byteOffset = charOffset text byteOffset
  increases : ∀ left right, text.IsBoundary left → text.IsBoundary right → left < right →
    ∃ first second, charOffset text left = .ok first ∧ charOffset text right = .ok second ∧
      first < second
  cuts : ∀ left right, text.IsBoundary left → text.IsBoundary right → left ≤ right →
    ∃ first second : Nat, charOffset text left = .ok first ∧ charOffset text right = .ok second ∧
      utf8 (text.slice first second) = (utf8 text).extract left right

/-- Byte offsets are translated exactly, on the short way as on the long one. -/
theorem charOffset_translatesBytes (text : Text) : text.TranslatesBytes where
  position _ inside := charOffset_length_utf8 inside
  decodes := charOffset_eq text
  skips_iff := length_utf8_eq_iff text
  agrees := by
    rintro byteOffset ⟨count, inside, rfl⟩
    rw [decodedOffset_take inside, charOffset_length_utf8 inside]
  increases := by
    rintro left right ⟨first, inside, rfl⟩ ⟨second, inside', rfl⟩ before
    refine ⟨first, second, charOffset_length_utf8 inside, charOffset_length_utf8 inside', ?_⟩
    rw [length_utf8, length_utf8] at before
    refine Nat.lt_of_le_of_ne (le_of_utf8Length_take_le inside (Nat.le_of_lt before)) ?_
    rintro rfl
    exact Nat.lt_irrefl _ before
  cuts := by
    rintro left right ⟨first, inside, rfl⟩ ⟨second, inside', rfl⟩ ordered
    refine ⟨first, second, charOffset_length_utf8 inside, charOffset_length_utf8 inside', ?_⟩
    rw [length_utf8, length_utf8] at ordered ⊢
    rw [utf8_slice text (le_of_utf8Length_take_le inside ordered), List.extract_eq_take_drop]

example : charOffset "aé€😀".toList 6 = .ok 3 := rfl

end Segmentation.Text
