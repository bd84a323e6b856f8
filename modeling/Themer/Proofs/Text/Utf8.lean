import Themer.Text.Utf8

/-! Bytes written for a text are read back as that text. -/

namespace Themer.Text.Utf8

/-- A byte that goes on with a character that has begun, its six bits in place. -/
def continuation (bits : Nat) : UInt8 :=
  UInt8.ofNat (bits % 64 + 128)

/-- The value of a byte that goes on with a character. -/
theorem toNat_continuation (bits : Nat) : (continuation bits).toNat = bits % 64 + 128 := by
  rw [continuation, UInt8.toNat_ofNat']
  omega

/-- The code of a character is none of a surrogate's. -/
theorem code_bounds (c : Char) :
    c.toNat < 0xD800 ∨ 0xE000 ≤ c.toNat ∧ c.toNat < 0x110000 := by
  obtain low | ⟨high, bound⟩ := c.valid
  · exact .inl low
  · exact .inr ⟨high, bound⟩

variable (place : Nat) (rest : Bytes)

/-- One more byte is taken if it is among those allowed next, and more are to follow. -/
theorem scan_more {begun : Begun} {byte : UInt8} {low high : Nat} {next : Nat × Nat}
    {more : List (Nat × Nat)} (allowed : begun.allowed = (low, high) :: next :: more)
    (within : low ≤ byte.toNat ∧ byte.toNat ≤ high) :
    scan place (some begun) (byte :: rest) =
      scan (place + 1) (some ⟨begun.start, begun.bytes ++ [byte],
        begun.value * 64 + byte.toNat % 64, next :: more⟩) rest := by
  rw [scan, allowed]
  simp [within]

/-- The last byte of a character completes it. -/
theorem scan_last {begun : Begun} {byte : UInt8} {low high : Nat} {c : Char}
    (allowed : begun.allowed = [(low, high)])
    (within : low ≤ byte.toNat ∧ byte.toNat ≤ high)
    (code : begun.value * 64 + byte.toNat % 64 = c.toNat) :
    scan place (some begun) (byte :: rest) =
      (c :: (scan (place + 1) none rest).1, (scan (place + 1) none rest).2) := by
  rw [scan, allowed]
  simp [within, code]

/-- A first byte that announces others begins a character. -/
theorem scan_lead {byte : UInt8} {value : Nat} {next : Nat × Nat} {more : List (Nat × Nat)}
    (lead : lead? byte = some (value, next :: more)) :
    scan place none (byte :: rest) =
      scan (place + 1) (some ⟨place, [byte], value, next :: more⟩) rest := by
  rw [scan, lead]

/-- The first of two bytes announces one more. -/
theorem lead?_two (code : Nat) (least : 0x80 ≤ code) (below : code < 0x800) :
    lead? (UInt8.ofNat (code / 64 % 32 + 192)) = some (code / 64, [(0x80, 0xBF)]) := by
  have byte : (UInt8.ofNat (code / 64 % 32 + 192)).toNat = code / 64 + 0xC0 := by
    rw [UInt8.toNat_ofNat']
    omega
  -- Two bytes are never needed for a code of one, so the first is in the range for two.
  simp only [lead?, byte]
  rw [if_neg (by omega), if_neg (by omega), if_pos (by omega), Nat.add_sub_cancel]

/-- The first of three bytes announces two more, the next of them in its bounds. -/
theorem lead?_three (code : Nat) (least : 0x800 ≤ code) (below : code < 0x10000)
    (noSurrogate : code < 0xD800 ∨ 0xE000 ≤ code) :
    ∃ low high, lead? (UInt8.ofNat (code / 4096 % 16 + 224)) =
        some (code / 4096, [(low, high), (0x80, 0xBF)]) ∧
      low ≤ code / 64 % 64 + 128 ∧ code / 64 % 64 + 128 ≤ high := by
  have byte : (UInt8.ofNat (code / 4096 % 16 + 224)).toNat = code / 4096 + 0xE0 := by
    rw [UInt8.toNat_ofNat']
    omega
  simp only [lead?, byte]
  rw [if_neg (by omega), if_neg (by omega), if_neg (by omega)]
  -- The first share of the code bounds what follows it, lest it be too low or a surrogate.
  by_cases lowest : code / 4096 = 0
  · rw [if_pos (by omega), lowest]
    exact ⟨_, _, rfl, by omega, by omega⟩
  rw [if_neg (by omega)]
  by_cases before : code / 4096 = 0xD
  · rw [if_pos (by omega), before]
    exact ⟨_, _, rfl, by omega, by omega⟩
  · rw [if_neg (by omega), if_pos (by omega), Nat.add_sub_cancel]
    exact ⟨_, _, rfl, by omega, by omega⟩

/-- The first of four bytes announces three more, the next of them in its bounds. -/
theorem lead?_four (code : Nat) (least : 0x10000 ≤ code) (below : code < 0x110000) :
    ∃ low high, lead? (UInt8.ofNat (code / 262144 % 8 + 240)) =
        some (code / 262144, [(low, high), (0x80, 0xBF), (0x80, 0xBF)]) ∧
      low ≤ code / 4096 % 64 + 128 ∧ code / 4096 % 64 + 128 ≤ high := by
  have byte : (UInt8.ofNat (code / 262144 % 8 + 240)).toNat = code / 262144 + 0xF0 := by
    rw [UInt8.toNat_ofNat']
    omega
  simp only [lead?, byte]
  rw [if_neg (by omega), if_neg (by omega), if_neg (by omega), if_neg (by omega),
    if_neg (by omega), if_neg (by omega)]
  -- Here the bounds keep the code from being too low or too high.
  by_cases lowest : code / 262144 = 0
  · rw [if_pos (by omega), lowest]
    exact ⟨_, _, rfl, by omega, by omega⟩
  rw [if_neg (by omega)]
  by_cases highest : code / 262144 = 4
  · rw [if_neg (by omega), if_pos (by omega), highest]
    exact ⟨_, _, rfl, by omega, by omega⟩
  · rw [if_pos (by omega), Nat.add_sub_cancel]
    exact ⟨_, _, rfl, by omega, by omega⟩

/-- The bytes of a character are read as that character, and what follows them is read on. -/
theorem scan_utf8EncodeChar (c : Char) :
    ∃ later, scan place none (String.utf8EncodeChar c ++ rest) =
      (c :: (scan later none rest).1, (scan later none rest).2) := by
  have valid := code_bounds c
  have codeIs : c.val.toNat = c.toNat := rfl
  unfold String.utf8EncodeChar
  simp only [codeIs]
  -- As many bytes are written as the code is long.
  by_cases one : c.toNat ≤ 0x7F
  · -- One byte is its own character.
    rw [if_pos one]
    have byte : (UInt8.ofNat c.toNat).toNat = c.toNat := by
      rw [UInt8.toNat_ofNat']
      omega
    have lead : lead? (UInt8.ofNat c.toNat) = some (c.toNat, []) := by
      simp only [lead?, byte]
      rw [if_pos (by omega)]
    refine ⟨place + 1, ?_⟩
    rw [List.singleton_append, scan, lead]
    simp
  rw [if_neg one]
  by_cases two : c.toNat ≤ 0x7FF
  · -- The first of two bytes begins the character, and the second completes it.
    rw [if_pos two]
    refine ⟨place + 1 + 1, ?_⟩
    rw [List.cons_append, List.singleton_append,
      scan_lead place _ (lead?_two c.toNat (by omega) (by omega))]
    change scan _ _ (continuation c.toNat :: rest) = _
    rw [scan_last _ _ rfl] <;> rw [toNat_continuation]
    · omega
    · dsimp only
      omega
  rw [if_neg two]
  by_cases three : c.toNat ≤ 0xFFFF
  · -- Of three bytes, the one between them is among those that the first allows.
    rw [if_pos three]
    obtain ⟨low, high, lead, within⟩ :=
      lead?_three c.toNat (by omega) (by omega) (by omega)
    refine ⟨place + 1 + 1 + 1, ?_⟩
    rw [List.cons_append, List.cons_append, List.singleton_append, scan_lead place _ lead]
    change scan _ _ (continuation (c.toNat / 64) :: continuation c.toNat :: rest) = _
    rw [scan_more _ _ rfl (by rwa [toNat_continuation])]
    rw [scan_last _ _ rfl] <;> simp only [toNat_continuation]
    · omega
    · omega
  · -- Of four bytes, two are between the first and the last.
    rw [if_neg three]
    obtain ⟨low, high, lead, within⟩ := lead?_four c.toNat (by omega) (by omega)
    refine ⟨place + 1 + 1 + 1 + 1, ?_⟩
    rw [List.cons_append, List.cons_append, List.cons_append, List.singleton_append,
      scan_lead place _ lead]
    change scan _ _ (continuation (c.toNat / 4096) :: continuation (c.toNat / 64) ::
      continuation c.toNat :: rest) = _
    rw [scan_more _ _ rfl (by rwa [toNat_continuation])]
    rw [scan_more _ _ rfl (by rw [toNat_continuation]; omega)]
    rw [scan_last _ _ rfl] <;> simp only [toNat_continuation]
    · omega
    · omega

/-- All bytes of a text are read, and nothing but the text is read from them. -/
theorem scan_encode (text : List Char) : scan place none (encode text) = (text, .whole) := by
  -- Each character leaves the place of the next one, so the place stays quantified over.
  induction text generalizing place with
  | nil => rfl
  | cons c rest ih =>
    obtain ⟨later, read⟩ := scan_utf8EncodeChar place (encode rest) c
    rw [encode, List.flatMap_cons]
    rw [encode] at read ih
    rw [read, ih]

/-- The bytes of a text are decoded to that text. -/
theorem decode_encode (text : List Char) : decode (encode text) = .ok text := by
  rw [decode, scan_encode]

end Themer.Text.Utf8
