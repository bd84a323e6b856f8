import Themer.Json.Reader
import Themer.Json.Writer

/-! An object of texts that is written as JSON is read back, member by member. -/

namespace Themer.Json

/-- A character that stands for itself in a string: printable ASCII without quote and backslash. -/
def IsBare (c : Char) : Prop :=
  c ≠ '"' ∧ c ≠ '\\' ∧ 0x20 ≤ c.toNat ∧ c.toNat < 0x7F

instance (c : Char) : Decidable (IsBare c) :=
  inferInstanceAs (Decidable (_ ∧ _ ∧ _ ∧ _))

/-- A text of characters that stand for themselves. -/
def IsBareText (text : String) : Prop :=
  ∀ c ∈ text.toList, IsBare c

instance (text : String) : Decidable (IsBareText text) :=
  List.decidableBAll IsBare text.toList

/-- A character that stands for itself is not escaped. -/
theorem IsBare.escaped {c : Char} (bare : IsBare c) : escaped c = [c] := by
  obtain ⟨noQuote, noBackslash, least, most⟩ := bare
  -- The control characters with an escape of their own are too low.
  have high {control : Char} (low : control.toNat < 0x20) : c ≠ control := by
    rintro rfl
    omega
  unfold Json.escaped
  rw [if_neg noQuote, if_neg noBackslash, if_neg (high (by decide)), if_neg (high (by decide)),
    if_neg (high (by decide)), if_neg (high (by decide)), if_neg (high (by decide)),
    if_pos ⟨least, most⟩]

/-- A bare text is written as it is, between quotes. -/
theorem writeString_of_isBareText {text : String} (bare : IsBareText text) :
    writeString text = '"' :: (text.toList ++ ['"']) := by
  have alone : text.toList.flatMap escaped = text.toList := by
    rw [List.flatMap_def, List.map_congr_left fun c among => (bare c among).escaped]
    exact List.flatMap_singleton' _
  rw [writeString, alone, List.cons_append]

/-- The characters of a bare text are read up to the quote after them. -/
theorem readString_of_isBare (opening : List Char) {text : List Char}
    (bare : ∀ c ∈ text, IsBare c) (rest : List Char) :
    readString opening 0 (text ++ '"' :: rest) = .ok (text, rest) := by
  -- A bare character neither ends the string nor begins an escape, so each step takes one.
  induction text with
  | nil => rfl
  | cons c more ih =>
    obtain ⟨noQuote, noBackslash, least, _⟩ := bare c (by simp)
    have later := ih fun other among => bare other (by simp [among])
    rw [List.cons_append, readString, if_neg noQuote, if_neg noBackslash,
      if_neg (by omega), later]
    rfl

/-- A written text is a value. -/
theorem readValue_writeString (distinct : Bool) (steps levels : Nat) {text : String}
    (bare : IsBareText text) (rest : List Char) :
    readValue distinct (steps + 1) levels (writeString text ++ rest) =
      .ok (.text text, rest) := by
  rw [writeString_of_isBareText bare, List.cons_append, List.append_assoc, readValue,
    List.singleton_append, readString_of_isBare _ bare]
  simp [raising, bind, Except.bind, pure, Except.pure]

/-- A member of which both texts are bare. -/
def IsBareMember (member : String × String) : Prop :=
  IsBareText member.1 ∧ IsBareText member.2

/-- Blanks in front of a member are skipped. -/
theorem skipBlanks_writeMember (member : String × String) (rest : List Char) :
    skipBlanks (writeMember member ++ rest) =
      writeString member.1 ++ (':' :: ' ' :: (writeString member.2 ++ rest)) := by
  simp [skipBlanks, writeMember, writeString]

/-- Of two members and more, the first stands before a comma and the others. -/
theorem writeMembers_cons_cons (member next : String × String)
    (others : List (String × String)) :
    writeMembers (member :: next :: others) =
      writeMember member ++ ',' :: writeMembers (next :: others) := rfl

/-- A written member is read, and what stands after it decides how the object goes on. -/
theorem readMembers_writeString (distinct : Bool) (steps levels : Nat) {member : String × String}
    (bare : IsBareMember member) (rest : List Char) :
    readMembers distinct (steps + 2) levels
        (writeString member.1 ++ (':' :: ' ' :: (writeString member.2 ++ rest))) =
      match skipBlanks rest with
      | '\x7d' :: after => .ok ([(member.1, .text member.2)], after)
      | ',' :: next => do
        let (members, after) ← readMembers distinct (steps + 1) levels (skipBlanks next)
        return ((member.1, .text member.2) :: members, after)
      | other => (Stop.malformed .expectingComma other).raised levels := by
  rw [writeString_of_isBareText bare.1, List.cons_append, List.append_assoc, readMembers,
    List.singleton_append, readString_of_isBare _ bare.1]
  -- No blank stands before the colon, and one behind it.
  change readValue distinct (steps + 1) levels (writeString member.2 ++ rest) >>= _ = _
  rw [readValue_writeString distinct steps levels bare.2, String.ofList_toList]
  rfl

/-- The members of an object are read, one step for each and one for the last value. -/
theorem readMembers_writeMembers (distinct : Bool) (levels : Nat) {members : List (String × String)}
    (filled : members ≠ []) (bare : ∀ member ∈ members, IsBareMember member) {steps : Nat}
    (enough : members.length < steps) (rest : List Char) :
    readMembers distinct steps levels
        (skipBlanks (writeMembers members ++ '\n' :: '\x7d' :: rest)) =
      .ok (members.map fun member => (member.1, .text member.2), rest) := by
  -- Every member takes a step of its own, so the number of steps stays quantified over.
  induction members generalizing steps with
  | nil => exact absurd rfl filled
  | cons member more ih =>
    obtain ⟨left, rfl⟩ : ∃ left, steps = left + 2 := ⟨steps - 2, by simp at enough; omega⟩
    have first := bare member (by simp)
    -- The last member is followed by the brace, and any other by a comma.
    cases more with
    | nil =>
      rw [writeMembers, skipBlanks_writeMember,
        readMembers_writeString distinct left levels first]
      rfl
    | cons next others =>
      have later := ih (by simp) (fun other among => bare other (by simp [among]))
        (by simp at enough ⊢; omega : (next :: others).length < left + 1)
      rw [writeMembers_cons_cons, List.append_assoc, List.cons_append, skipBlanks_writeMember,
        readMembers_writeString distinct left levels first]
      change (do
        let (members, after) ← readMembers distinct (left + 1) levels
          (skipBlanks (writeMembers (next :: others) ++ '\n' :: '\x7d' :: rest))
        return ((member.1, Datum.text member.2) :: members, after)) = _
      rw [later]
      rfl

/-- No name of a list without repeats is the first to stand there again. -/
theorem firstRepeat?_eq_none {names seen : List String} (distinct : names.Nodup)
    (unseen : ∀ name ∈ names, name ∉ seen) : firstRepeat? seen names = none := by
  -- Those seen grow with each name, so they stay quantified over.
  induction names generalizing seen with
  | nil => rfl
  | cons name rest ih =>
    obtain ⟨other, distinct⟩ := List.nodup_cons.mp distinct
    rw [firstRepeat?, if_neg (unseen name (by simp))]
    -- The name now seen is none of those that are left.
    refine ih distinct fun later among => ?_
    rw [List.mem_cons, not_or]
    exact ⟨fun same => other (same ▸ among), unseen later (by simp [among])⟩

/-- Members under different names make an object, where a level is left for that. -/
theorem closeObject_of_nodup {members : List (String × Datum)}
    (distinct : (members.map Prod.fst).Nodup) (levels : Nat) :
    closeObject true (levels + 1) members =
      .ok (.map (members.map fun member => (.text member.1, member.2))) := by
  have none := firstRepeat?_eq_none distinct fun name _ => List.not_mem_nil (a := name)
  rw [closeObject, if_pos rfl, none]
  rfl

/-- The first member of an object starts with the quote of its name. -/
theorem skipBlanks_writeMembers (member : String × String) (more : List (String × String))
    (rest : List Char) :
    ∃ later, skipBlanks (writeMembers (member :: more) ++ rest) = '"' :: later := by
  cases more with
  | nil => exact ⟨_, skipBlanks_writeMember member rest⟩
  | cons next others =>
    rw [writeMembers_cons_cons, List.append_assoc]
    exact ⟨_, skipBlanks_writeMember member _⟩

/-- The members of an object are no fewer characters than they are. -/
theorem length_le_writeMembers (members : List (String × String)) :
    members.length ≤ (writeMembers members).length := by
  -- Each member is some characters, and a comma adds one more.
  induction members with
  | nil => simp
  | cons member rest ih =>
    cases rest with
    | nil => simp [writeMembers, writeMember]
    | cons next others =>
      simp only [writeMembers_cons_cons, List.length_cons, List.length_append] at ih ⊢
      omega

/-- A brace, members under different names and the other brace are an object. -/
theorem readValue_of_readMembers {steps levels : Nat} {inside later after : List Char}
    {members : List (String × Datum)} (starts : skipBlanks inside = '"' :: later)
    (read : readMembers true steps (levels + 1) ('"' :: later) = .ok (members, after))
    (distinct : (members.map Prod.fst).Nodup) :
    readValue true (steps + 1) (levels + 2) ('\x7b' :: inside) =
      .ok (.map (members.map fun member => (.text member.1, member.2)), after) := by
  -- A quote behind the brace is no closing brace, so the object is not empty.
  rw [readValue, starts]
  change (do
    let (members, after) ← readMembers true steps (levels + 1) ('"' :: later)
    return (← closeObject true (levels + 1) members, after)) = _
  rw [read]
  change (do return (← closeObject true (levels + 1) members, after)) = _
  rw [closeObject_of_nodup distinct]
  rfl

/-- An object of bare texts under different names is read as it was written, by two levels. -/
theorem readDocument_writeObject {members : List (String × String)}
    (bare : ∀ member ∈ members, IsBareMember member)
    (distinct : (members.map Prod.fst).Nodup) (levels : Nat) :
    readDocument (levels + 2) true (writeObject members) =
      .ok (.map (members.map fun member => (.text member.1, .text member.2))) := by
  cases members with
  | nil => rfl
  | cons member rest =>
    have spelled : writeObject (member :: rest) =
      '\x7b' :: (writeMembers (member :: rest) ++ ['\n', '\x7d']) := rfl
    -- The document is long enough for the steps that its members take.
    have enough : (member :: rest).length < 2 * (writeObject (member :: rest)).length + 1 := by
      have := length_le_writeMembers (member :: rest)
      simp only [spelled, List.length_cons, List.length_append] at this ⊢
      omega
    have inner := readMembers_writeMembers true (levels + 1) (List.cons_ne_nil member rest)
      bare enough []
    obtain ⟨later, starts⟩ := skipBlanks_writeMembers member rest ['\n', '\x7d']
    rw [starts] at inner
    have names : ((member :: rest).map fun member => (member.1, Datum.text member.2)).map
        Prod.fst = (member :: rest).map Prod.fst := by
      simp
    have value := readValue_of_readMembers starts inner (names.symm ▸ distinct)
    rw [← spelled] at value
    -- The document starts with the brace, so neither a mark nor blanks stand in front of it.
    have noMark : ∀ tail, writeObject (member :: rest) ≠ '\uFEFF' :: tail := by simp [spelled]
    have noBlanks : skipBlanks (writeObject (member :: rest)) = writeObject (member :: rest) := by
      simp [spelled, skipBlanks]
    rw [readDocument, noBlanks, value]
    · simp [skipBlanks, bind, Except.bind, pure, Except.pure]
    · exact noMark

/-- No carriage return is written in an object of bare texts. -/
theorem not_mem_writeObject {members : List (String × String)}
    (bare : ∀ member ∈ members, IsBareMember member) : '\r' ∉ writeObject members := by
  have inText {text : String} (bareText : IsBareText text) : '\r' ∉ text.toList :=
    fun among => absurd (bareText _ among) (by decide)
  have inMember {member : String × String} (bareMember : IsBareMember member) :
      '\r' ∉ writeMember member := by
    rw [writeMember, writeString_of_isBareText bareMember.1,
      writeString_of_isBareText bareMember.2]
    simp [inText bareMember.1, inText bareMember.2]
  -- What is put between the members are commas, line feeds and blanks.
  have inMembers : '\r' ∉ writeMembers members := by
    induction members with
    | nil => simp [writeMembers]
    | cons member rest ih =>
      have first := inMember (bare member (by simp))
      have later := ih fun other among => bare other (by simp [among])
      cases rest with
      | nil => exact first
      | cons next others =>
        simp [writeMembers_cons_cons, first, later]
  unfold writeObject
  split
  · decide
  · simp [inMembers]

end Themer.Json
