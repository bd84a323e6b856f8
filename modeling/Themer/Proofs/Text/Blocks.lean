import Themer.Proofs.Text.Utf8

/-! A file read block by block gives the text that its bytes give when they are read at once. -/

namespace Themer.Text.Utf8

/-- What is read after a reading that ended so. -/
def Ending.next (place : Nat) (bytes : Bytes) : Ending → List Char × Ending
  | .whole => scan place none bytes
  | .inside begun => scan place (some begun) bytes
  | .failed failure => ([], .failed failure)

variable (place : Nat) (begun : Option Begun)

/-- A reading takes one byte, and goes on from what that byte leaves. -/
theorem scan_cons (byte : UInt8) (rest : Bytes) :
    scan place begun (byte :: rest) =
      ((scan place begun [byte]).1 ++ ((scan place begun [byte]).2.next (place + 1) rest).1,
        ((scan place begun [byte]).2.next (place + 1) rest).2) := by
  -- A byte ends a character, begins one, belongs to one or is wrong, with or without others.
  cases begun with
  | none =>
    rw [scan, scan]
    cases lead? byte with
    | none => rfl
    | some lead =>
      obtain ⟨value, allowed⟩ := lead
      cases allowed with
      | nil => simp [scan, Ending.next]
      | cons bounds more => simp [scan, Ending.next]
  | some begun =>
    rw [scan, scan]
    cases begun.allowed with
    | nil => rfl
    | cons bounds more =>
      dsimp only
      split
      · cases more with
        | nil => simp [scan, Ending.next]
        | cons bounds more => simp [scan, Ending.next]
      · rfl

/-- A reading of more bytes goes on where the reading of the first ones ended. -/
theorem scan_append (first second : Bytes) :
    scan place begun (first ++ second) =
      ((scan place begun first).1 ++
          ((scan place begun first).2.next (place + first.length) second).1,
        ((scan place begun first).2.next (place + first.length) second).2) := by
  -- The first byte is taken off both sides, and its ending says where the rest goes on.
  induction first generalizing place begun with
  | nil => cases begun <;> simp [scan, Ending.next]
  | cons byte rest ih =>
    have later : place + (rest.length + 1) = place + 1 + rest.length := by omega
    rw [List.cons_append, scan_cons, scan_cons _ _ _ rest, List.length_cons, later]
    cases (scan place begun [byte]).2 with
    | whole => simp [Ending.next, ih]
    | inside begun => simp [Ending.next, ih]
    | failed failure => simp [Ending.next]

/-- What a character that has begun amounts to so far, wherever it stands. -/
def Begun.sofar (begun : Begun) : Nat × List (Nat × Nat) :=
  (begun.value, begun.allowed)

/-- Endings that differ in places only, if at all. -/
inductive Ending.Alike : Ending → Ending → Prop
  | whole : Alike .whole .whole
  | inside {begun same : Begun} (alike : begun.sofar = same.sofar) :
      Alike (.inside begun) (.inside same)
  | failed {failure other : Failure} : Alike (.failed failure) (.failed other)

/-- One byte does the same to what has begun alike, wherever it stands. -/
theorem scan_singleton_alike (place other : Nat) (byte : UInt8) {begun same : Option Begun}
    (alike : begun.map Begun.sofar = same.map Begun.sofar) :
    (scan other same [byte]).1 = (scan place begun [byte]).1 ∧
      (scan place begun [byte]).2.Alike (scan other same [byte]).2 := by
  cases begun with
  | none =>
    -- A first byte is a character, begins one or is none, which it says by itself.
    obtain rfl : same = none := by simpa using alike.symm
    simp only [scan]
    cases lead? byte with
    | none => exact ⟨rfl, .failed⟩
    | some lead =>
      obtain ⟨value, allowed⟩ := lead
      cases allowed with
      | nil => exact ⟨rfl, .whole⟩
      | cons bounds more => exact ⟨rfl, .inside rfl⟩
  | some begun =>
    -- A later byte is judged by what may follow, and adds to the value so far.
    obtain ⟨twin, rfl, same⟩ := by simpa using alike.symm
    obtain ⟨values, bounds⟩ := by simpa [Begun.sofar] using same
    simp only [scan, bounds, values]
    cases begun.allowed with
    | nil => exact ⟨rfl, .failed⟩
    | cons bounds more =>
      dsimp only
      split
      · cases more with
        | nil => exact ⟨rfl, .whole⟩
        | cons next more => exact ⟨rfl, .inside rfl⟩
      · exact ⟨rfl, .failed⟩

/-- What is read, and how the reading ends, does not depend on where it takes place. -/
theorem scan_alike (place other : Nat) (bytes : Bytes) {begun same : Option Begun}
    (alike : begun.map Begun.sofar = same.map Begun.sofar) :
    (scan other same bytes).1 = (scan place begun bytes).1 ∧
      (scan place begun bytes).2.Alike (scan other same bytes).2 := by
  -- Each byte leaves what has begun alike, so that the places and both of these vary.
  induction bytes generalizing place other begun same with
  | nil =>
    cases begun with
    | none =>
      obtain rfl : same = none := by simpa using alike.symm
      exact ⟨rfl, .whole⟩
    | some begun =>
      obtain ⟨twin, rfl, same⟩ := by simpa using alike.symm
      exact ⟨rfl, .inside same.symm⟩
  | cons byte rest ih =>
    obtain ⟨texts, ends⟩ := scan_singleton_alike place other byte alike
    rw [scan_cons place, scan_cons other, texts]
    generalize (scan place begun [byte]).2 = ended, (scan other same [byte]).2 = twin at ends ⊢
    cases ends with
    | whole =>
      have nothing : Option.map Begun.sofar none = Option.map Begun.sofar none := rfl
      obtain ⟨later, ends⟩ := ih (place + 1) (other + 1) nothing
      exact ⟨congrArg (_ ++ ·) later, ends⟩
    | @inside begun same alike =>
      have alike : (some begun).map Begun.sofar = (some same).map Begun.sofar :=
        congrArg some alike
      obtain ⟨later, ends⟩ := ih (place + 1) (other + 1) alike
      exact ⟨congrArg (_ ++ ·) later, ends⟩
    | failed => exact ⟨rfl, .failed⟩

/-- A reading that nothing is wrong with does not depend on where it takes place. -/
theorem scan_of_whole {place other : Nat} {begun same : Option Begun} {bytes : Bytes}
    {text : List Char} (alike : begun.map Begun.sofar = same.map Begun.sofar)
    (read : scan place begun bytes = (text, .whole)) :
    scan other same bytes = (text, .whole) := by
  -- Of all endings, only the one between two characters is alike to itself.
  obtain ⟨texts, ends⟩ := scan_alike place other bytes alike
  rw [read] at texts ends
  generalize scan other same bytes = twin at texts ends
  obtain ⟨read, ending⟩ := twin
  obtain rfl : read = text := texts
  cases ends
  rfl

/-- A character that has begun is what its own bytes leave when they are read alone. -/
def Begun.IsSound (begun : Begun) : Prop :=
  scan begun.start none begun.bytes = ([], .inside begun)

/-- Whatever character a reading stops inside has begun as its own bytes say. -/
theorem isSound_of_scan {place : Nat} {begun : Option Begun} {text : List Char} {bytes : Bytes}
    {left : Begun} (sound : ∀ before ∈ begun, before.IsSound)
    (read : scan place begun bytes = (text, .inside left)) : left.IsSound := by
  -- Along the way, the character that has begun is always what its own bytes leave.
  fun_induction scan place begun bytes generalizing text with
  | case2 place begun =>
    obtain ⟨-, rfl⟩ := by simpa using read
    exact sound begun rfl
  | case4 place byte rest value lead characters ending later ih =>
    obtain ⟨-, rfl⟩ := by simpa using read
    exact ih (by simp) later
  | case6 place begun byte rest low high more allowed within value last characters ending later =>
    rename_i ih
    obtain ⟨-, rfl⟩ := by simpa using read
    exact ih (by simp) later
  | case5 place byte rest value allowed some lead ih =>
    -- One that begins here has a single byte, which leaves it.
    refine ih ?_ read
    rintro _ ⟨⟩
    cases allowed with
    | nil => exact absurd rfl some
    | cons bounds more => rw [Begun.IsSound, scan_lead _ _ lead, scan]
  | case7 place begun byte rest low high more allowed within value on =>
    rename_i ih
    -- One that has begun before has a byte more, which is read behind its others.
    refine ih ?_ read
    rintro _ ⟨⟩
    have before : begun.IsSound := sound begun rfl
    cases more with
    | nil => simp at on
    | cons bounds more =>
      rw [Begun.IsSound, scan_append, before]
      simp only [Ending.next, List.nil_append]
      rw [scan_more _ _ allowed within, scan]
  | case1 | case3 | case8 | case9 => simp at read

/--
A block of a text that can be read gives its share of the text, and leaves what gives the rest.

What it leaves are the bytes of a character that the next block ends, no character by themselves.
-/
theorem decodeBlock_of_whole {first second : Bytes} {text : List Char}
    (read : scan 0 none (first ++ second) = (text, .whole)) :
    ∃ start left rest, decodeBlock first = .ok (start, left) ∧ text = start ++ rest ∧
      scan 0 none (left ++ second) = (rest, .whole) ∧ (scan 0 none left).1 = [] := by
  -- The block ends between two characters or inside one, or nothing could be read on from it.
  rw [scan_append] at read
  obtain ⟨whole, ended⟩ := Prod.mk.inj read
  rcases halves : scan 0 none first with ⟨start, _ | begun | failure⟩ <;>
    simp only [halves, Ending.next] at whole ended
  · refine ⟨start, [], _, by rw [decodeBlock, halves], whole.symm, ?_, rfl⟩
    exact scan_of_whole rfl (Prod.ext rfl ended)
  · -- The bytes left are read again from another place, which makes no difference.
    have sound : begun.IsSound := isSound_of_scan (by simp) halves
    have unfinished : (scan 0 none begun.bytes).1 = (scan begun.start none begun.bytes).1 :=
      (scan_alike _ _ _ rfl).1
    rw [sound] at unfinished
    refine ⟨start, begun.bytes, _, by rw [decodeBlock, halves], whole.symm, ?_, unfinished⟩
    have fromItsPlace : scan begun.start none (begun.bytes ++ second) =
        ((scan (0 + first.length) (some begun) second).1, .whole) := by
      rw [scan_append, sound]
      exact scan_of_whole rfl (Prod.ext rfl ended)
    exact scan_of_whole rfl fromItsPlace
  · simp at ended

/-- Blocks of a text that can be read at once are read as that text. -/
theorem decodeBlocks_of_whole {left : Bytes} {blocks : List Bytes} {text : List Char}
    (read : scan 0 none (left ++ blocks.flatten) = (text, .whole)) :
    decodeBlocks left blocks = (text, none) := by
  -- What a block leaves goes in front of the next one, so both it and the text vary.
  induction blocks generalizing left text with
  | nil =>
    rw [List.flatten_nil, List.append_nil] at read
    rw [decodeBlocks, decode, read]
  | cons block blocks ih =>
    rw [List.flatten_cons, ← List.append_assoc] at read
    obtain ⟨start, left', rest, decoded, rfl, later, _⟩ := decodeBlock_of_whole read
    rw [decodeBlocks, decoded]
    simp only [ih later]

/-- Enough blocks hold all the bytes. -/
theorem flatten_blocksWithin {count : Nat} {bytes : Bytes} (enough : bytes.length ≤ count) :
    (blocksWithin count bytes).flatten = bytes := by
  -- Each block takes as many bytes as it is long, and one at least while there are any.
  fun_induction blocksWithin count bytes with
  | case1 bytes => rw [List.length_eq_zero_iff.mp (Nat.le_zero.mp enough), List.flatten_nil]
  | case2 => rfl
  | case3 count bytes some ih =>
    have shorter : (bytes.drop blockSize).length ≤ count := by
      rw [List.length_drop, blockSize]
      omega
    rw [List.flatten_cons, ih shorter, List.take_append_drop]

/-- A file whose bytes can be read at once gives the same text block by block. -/
theorem decodeFile_of_decode {bytes : Bytes} {text : List Char}
    (decoded : decode bytes = .ok text) : decodeFile bytes = (text, none) := by
  -- There are as many blocks at most as bytes, which is enough to hold them.
  refine decodeBlocks_of_whole ?_
  rw [List.nil_append, flatten_blocksWithin (Nat.le_refl _)]
  rw [decode] at decoded
  split at decoded <;> simp_all

end Themer.Text.Utf8
