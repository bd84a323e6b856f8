import Themer.Proofs.Text.Utf8

/-! Only the bytes that a text is written as are decoded to it: no text has two spellings. -/

namespace Themer.Text.Utf8

/-- Bytes that complete a character within its bounds, from its value so far to its code. -/
inductive Completes : Nat → List (Nat × Nat) → Bytes → Nat → Prop
  | whole {code : Nat} : Completes code [] [] code
  | byte {value code low high : Nat} {more : List (Nat × Nat)} {byte : UInt8} {tail : Bytes}
      (within : low ≤ byte.toNat ∧ byte.toNat ≤ high)
      (later : Completes (value * 64 + byte.toNat % 64) more tail code) :
      Completes value ((low, high) :: more) (byte :: tail) code

/-- A byte for each of the bounds completes a character. -/
theorem Completes.of_bounds {value code low high : Nat} {more : List (Nat × Nat)} {tail : Bytes}
    (completes : Completes value ((low, high) :: more) tail code) :
    ∃ byte rest, tail = byte :: rest ∧ (low ≤ byte.toNat ∧ byte.toNat ≤ high) ∧
      Completes (value * 64 + byte.toNat % 64) more rest code := by
  cases completes with
  | byte within later => exact ⟨_, _, rfl, within, later⟩

/-- Without bounds left, the character is complete. -/
theorem Completes.of_none {value code : Nat} {tail : Bytes}
    (completes : Completes value [] tail code) : tail = [] ∧ code = value := by
  cases completes
  exact ⟨rfl, rfl⟩

/-- A character that has begun is completed before anything else is read. -/
theorem completes_of_scan {place : Nat} {begun : Begun} {bytes : Bytes} {text : List Char}
    (unfinished : begun.allowed ≠ []) (read : scan place (some begun) bytes = (text, .whole)) :
    ∃ tail rest code later characters, bytes = tail ++ rest ∧
      Completes begun.value begun.allowed tail code ∧
      text = Char.ofNat code :: characters ∧ scan later none rest = (characters, .whole) := by
  -- Each byte takes one of the bounds, so the character that has begun stays quantified over.
  induction bytes generalizing place begun with
  | nil => simp [scan] at read
  | cons byte rest ih =>
    rw [scan] at read
    cases allowed : begun.allowed with
    | nil => exact absurd allowed unfinished
    | cons bounds more =>
      obtain ⟨low, high⟩ := bounds
      simp only [allowed] at read
      split at read
      · rename_i within
        cases more with
        | nil =>
          -- This was the last byte, and what follows is read as new characters.
          simp only [List.isEmpty_nil, if_true, Prod.mk.injEq] at read
          obtain ⟨rfl, ended⟩ := read
          exact ⟨[byte], rest, _, _, _, rfl, .byte within .whole, rfl, Prod.ext rfl ended⟩
        | cons next more =>
          simp only [List.isEmpty_cons, Bool.false_eq_true, if_false] at read
          obtain ⟨tail, after, code, later, characters, rfl, completes, same, ended⟩ :=
            ih (by simp) read
          exact ⟨byte :: tail, after, code, later, characters, rfl, .byte within completes, same,
            ended⟩
      · simp at read

/-- A code that is no surrogate's is the one its character has. -/
theorem toNat_ofNat (code : Nat) (valid : code < 0xD800 ∨ 0xE000 ≤ code ∧ code < 0x110000) :
    (Char.ofNat code).val.toNat = code := by
  -- Only for a code that is none of a character is another one taken.
  have isValid : code.isValidChar := by
    rcases valid with low | ⟨high, bound⟩
    · exact .inl low
    · exact .inr ⟨by omega, bound⟩
  unfold Char.ofNat
  rw [dif_pos isValid]
  rfl

/-- A byte is written as its own value. -/
theorem ofNat_eq_of_toNat (byte : UInt8) {share : Nat} (same : share = byte.toNat) :
    UInt8.ofNat share = byte := by
  rw [same, UInt8.ofNat_toNat]

/-- Two bytes are those of a character where the first one is not too low. -/
theorem utf8EncodeChar_two {first second : UInt8} {value : Nat}
    (lead : first.toNat = value + 0xC0) (least : 2 ≤ value) (most : value < 32)
    (within : 0x80 ≤ second.toNat ∧ second.toNat ≤ 0xBF) :
    String.utf8EncodeChar (Char.ofNat (value * 64 + second.toNat % 64)) = [first, second] := by
  -- The code is long enough for two bytes and not for three, and its bits are those of the bytes.
  have code := toNat_ofNat (value * 64 + second.toNat % 64) (by omega)
  unfold String.utf8EncodeChar
  simp only [code]
  rw [if_neg (by omega), if_pos (by omega)]
  rw [ofNat_eq_of_toNat first (by omega), ofNat_eq_of_toNat second (by omega)]

/-- Three bytes are those of a character where the second keeps the code from two ranges. -/
theorem utf8EncodeChar_three {first second third : UInt8} {value : Nat}
    (lead : first.toNat = value + 0xE0) (most : value < 16)
    (within : 0x80 ≤ second.toNat ∧ second.toNat ≤ 0xBF)
    (notLow : value = 0 → 0xA0 ≤ second.toNat) (noSurrogate : value = 0xD → second.toNat ≤ 0x9F)
    (last : 0x80 ≤ third.toNat ∧ third.toNat ≤ 0xBF) :
    String.utf8EncodeChar
        (Char.ofNat ((value * 64 + second.toNat % 64) * 64 + third.toNat % 64)) =
      [first, second, third] := by
  -- The second byte keeps the code long enough, and from being a surrogate's.
  have code := toNat_ofNat
    ((value * 64 + second.toNat % 64) * 64 + third.toNat % 64) (by omega)
  unfold String.utf8EncodeChar
  simp only [code]
  rw [if_neg (by omega), if_neg (by omega), if_pos (by omega)]
  rw [ofNat_eq_of_toNat first (by omega), ofNat_eq_of_toNat second (by omega),
    ofNat_eq_of_toNat third (by omega)]

/-- Four bytes are those of a character where the second keeps the code in its range. -/
theorem utf8EncodeChar_four {first second third fourth : UInt8} {value : Nat}
    (lead : first.toNat = value + 0xF0) (most : value ≤ 4)
    (within : 0x80 ≤ second.toNat ∧ second.toNat ≤ 0xBF)
    (notLow : value = 0 → 0x90 ≤ second.toNat) (notHigh : value = 4 → second.toNat ≤ 0x8F)
    (next : 0x80 ≤ third.toNat ∧ third.toNat ≤ 0xBF)
    (last : 0x80 ≤ fourth.toNat ∧ fourth.toNat ≤ 0xBF) :
    String.utf8EncodeChar (Char.ofNat (((value * 64 + second.toNat % 64) * 64 +
        third.toNat % 64) * 64 + fourth.toNat % 64)) =
      [first, second, third, fourth] := by
  -- The second byte keeps the code long enough, and from being greater than all codes.
  have code := toNat_ofNat (((value * 64 + second.toNat % 64) * 64 +
    third.toNat % 64) * 64 + fourth.toNat % 64) (by omega)
  unfold String.utf8EncodeChar
  simp only [code]
  rw [if_neg (by omega), if_neg (by omega), if_neg (by omega)]
  rw [ofNat_eq_of_toNat first (by omega), ofNat_eq_of_toNat second (by omega),
    ofNat_eq_of_toNat third (by omega), ofNat_eq_of_toNat fourth (by omega)]

/-- What a first byte can announce: how many bytes follow, and which the next one may be. -/
inductive Announces (byte : UInt8) : Nat → List (Nat × Nat) → Prop
  | none (ascii : byte.toNat < 0x80) : Announces byte byte.toNat []
  | one {value : Nat} (first : byte.toNat = value + 0xC0) (least : 2 ≤ value)
      (most : value < 32) : Announces byte value [(0x80, 0xBF)]
  | two {value low high : Nat} (first : byte.toNat = value + 0xE0) (most : value < 16)
      (bounds : 0x80 ≤ low ∧ high ≤ 0xBF) (notLow : value = 0 → low = 0xA0)
      (noSurrogate : value = 0xD → high = 0x9F) :
      Announces byte value [(low, high), (0x80, 0xBF)]
  | three {value low high : Nat} (first : byte.toNat = value + 0xF0) (most : value ≤ 4)
      (bounds : 0x80 ≤ low ∧ high ≤ 0xBF) (notLow : value = 0 → low = 0x90)
      (notHigh : value = 4 → high = 0x8F) :
      Announces byte value [(low, high), (0x80, 0xBF), (0x80, 0xBF)]

/-- A byte that can come first announces what the number of its leading bits says. -/
theorem announces_of_lead? {byte : UInt8} {value : Nat} {allowed : List (Nat × Nat)}
    (lead : lead? byte = some (value, allowed)) : Announces byte value allowed := by
  have bound := byte.toNat_lt
  -- One branch for each range of first bytes, of which two are none of a character.
  simp only [lead?] at lead
  split at lead
  · cases lead
    exact .none (by omega)
  split at lead
  · cases lead
  split at lead
  · obtain ⟨rfl, rfl⟩ := Prod.mk.inj (Option.some.inj lead)
    exact .one (by omega) (by omega) (by omega)
  split at lead
  · obtain ⟨rfl, rfl⟩ := Prod.mk.inj (Option.some.inj lead)
    exact .two (by omega) (by omega) (by omega) (by omega) (by omega)
  split at lead
  · obtain ⟨rfl, rfl⟩ := Prod.mk.inj (Option.some.inj lead)
    exact .two (by omega) (by omega) (by omega) (by omega) (by omega)
  split at lead
  · obtain ⟨rfl, rfl⟩ := Prod.mk.inj (Option.some.inj lead)
    exact .two (by omega) (by omega) (by omega) (by omega) (by omega)
  split at lead
  · obtain ⟨rfl, rfl⟩ := Prod.mk.inj (Option.some.inj lead)
    exact .three (by omega) (by omega) (by omega) (by omega) (by omega)
  split at lead
  · obtain ⟨rfl, rfl⟩ := Prod.mk.inj (Option.some.inj lead)
    exact .three (by omega) (by omega) (by omega) (by omega) (by omega)
  split at lead
  · obtain ⟨rfl, rfl⟩ := Prod.mk.inj (Option.some.inj lead)
    exact .three (by omega) (by omega) (by omega) (by omega) (by omega)
  · cases lead

/-- A first byte and those that complete its character are the bytes the character is written as. -/
theorem utf8EncodeChar_of_completes {byte : UInt8} {value code : Nat} {allowed : List (Nat × Nat)}
    {tail : Bytes} (lead : lead? byte = some (value, allowed))
    (completes : Completes value allowed tail code) :
    String.utf8EncodeChar (Char.ofNat code) = byte :: tail := by
  -- The bytes after the first are within the bounds that it announces.
  cases announces_of_lead? lead with
  | none ascii =>
    obtain ⟨rfl, rfl⟩ := completes.of_none
    have code := toNat_ofNat byte.toNat (by omega)
    unfold String.utf8EncodeChar
    simp only [code]
    rw [if_pos (by omega), UInt8.ofNat_toNat]
  | one first least most =>
    obtain ⟨second, _, rfl, within, later⟩ := completes.of_bounds
    obtain ⟨rfl, rfl⟩ := later.of_none
    exact utf8EncodeChar_two first least most within
  | two first most bounds notLow noSurrogate =>
    obtain ⟨second, _, rfl, within, later⟩ := completes.of_bounds
    obtain ⟨third, _, rfl, last, later⟩ := later.of_bounds
    obtain ⟨rfl, rfl⟩ := later.of_none
    exact utf8EncodeChar_three first most (by omega) (by omega) (by omega) last
  | three first most bounds notLow notHigh =>
    obtain ⟨second, _, rfl, within, later⟩ := completes.of_bounds
    obtain ⟨third, _, rfl, next, later⟩ := later.of_bounds
    obtain ⟨fourth, _, rfl, last, later⟩ := later.of_bounds
    obtain ⟨rfl, rfl⟩ := later.of_none
    exact utf8EncodeChar_four first most (by omega) (by omega) (by omega) next last

/-- A reading that ends between two characters has read the bytes of its text. -/
theorem encode_of_scan {place : Nat} {bytes : Bytes} {text : List Char}
    (read : scan place none bytes = (text, .whole)) : encode text = bytes := by
  -- A character takes one byte or more, so the induction is on how many there are.
  induction size : bytes.length using Nat.strongRecOn generalizing place bytes text with
  | _ size ih =>
    subst size
    cases bytes with
    | nil =>
      obtain rfl : [] = text := congrArg Prod.fst read
      rfl
    | cons byte rest =>
      rw [scan] at read
      cases lead : lead? byte with
      | none => simp [lead] at read
      | some announced =>
        obtain ⟨value, allowed⟩ := announced
        rw [lead] at read
        cases allowed with
        | nil =>
          -- The byte is a whole character.
          simp only [Prod.mk.injEq] at read
          obtain ⟨rfl, ended⟩ := read
          have first := utf8EncodeChar_of_completes lead .whole
          have others := ih rest.length (by simp) (Prod.ext rfl ended) rfl
          rw [encode, List.flatMap_cons, first]
          exact congrArg (byte :: ·) others
        | cons bounds more =>
          -- The byte begins a character, and the text goes on behind those that complete it.
          obtain ⟨tail, after, code, later, characters, rfl, completes, rfl, ended⟩ :=
            completes_of_scan (by simp) read
          have shorter : after.length < (byte :: (tail ++ after)).length := by
            simp only [List.length_cons, List.length_append]
            omega
          have first := utf8EncodeChar_of_completes lead completes
          have others := ih after.length shorter ended rfl
          rw [encode, List.flatMap_cons, first]
          exact congrArg (byte :: tail ++ ·) others

/-- Bytes are decoded to a text exactly where they are the bytes of that text. -/
theorem decode_eq_ok_iff {bytes : Bytes} {text : List Char} :
    decode bytes = .ok text ↔ bytes = encode text := by
  -- Both ways it is a reading that ends between two characters.
  constructor
  · intro decoded
    rw [decode] at decoded
    split at decoded
    · rename_i found ended
      cases decoded
      exact (encode_of_scan ended).symm
    · cases decoded
    · cases decoded
  · rintro rfl
    exact decode_encode text

/-- Bytes that no text is written as fail to be decoded. -/
theorem exists_failure_of_not_text {bytes : Bytes} (noText : ¬ ∃ text, bytes = encode text) :
    ∃ e, decode bytes = .error e := by
  cases decoded : decode bytes with
  | error e => exact ⟨e, rfl⟩
  | ok text => exact absurd ⟨text, decode_eq_ok_iff.mp decoded⟩ noText

end Themer.Text.Utf8
