import Themer.Datum

/-!
Keys of maps are compared by what they stand for, and that is as good as equality.

So what is set under a key is found under each key that is the same, and under no other.
-/

namespace Themer

namespace Binary64

/-- The steps of a number without its sign, by its magnitude. -/
def stepsOf (magnitude : Nat) : Nat :=
  if magnitude / twoTo 52 = 0 then magnitude
  else (magnitude % twoTo 52 + twoTo 52) * twoTo (magnitude / twoTo 52 - 1)

/-- The next magnitude is that of a greater number. -/
theorem stepsOf_lt_succ (magnitude : Nat) : stepsOf magnitude < stepsOf (magnitude + 1) := by
  have base : twoTo 52 = 4503599627370496 := by rfl
  have power (n : Nat) : twoTo n = 2 ^ n := rfl
  unfold stepsOf
  simp only [base, power (_ - 1)]
  -- Either the significand grows, or it starts anew with the next exponent.
  by_cases small : magnitude / 4503599627370496 = 0
  · rw [if_pos small]
    by_cases last : (magnitude + 1) / 4503599627370496 = 0
    · rw [if_pos last]
      omega
    · have next : (magnitude + 1) / 4503599627370496 = 1 := by omega
      rw [if_neg last, next]
      omega
  · rw [if_neg small, if_neg (by omega)]
    by_cases same : (magnitude + 1) / 4503599627370496 = magnitude / 4503599627370496
    · have grown : (magnitude + 1) % 4503599627370496 = magnitude % 4503599627370496 + 1 := by
        omega
      rw [same, grown]
      exact Nat.mul_lt_mul_of_pos_right (by omega) (Nat.two_pow_pos _)
    · have next : (magnitude + 1) / 4503599627370496 = magnitude / 4503599627370496 + 1 := by
        omega
      have anew : (magnitude + 1) % 4503599627370496 = 0 := by omega
      have doubled : 2 ^ (magnitude / 4503599627370496 + 1 - 1) =
          2 * 2 ^ (magnitude / 4503599627370496 - 1) := by
        rw [← Nat.pow_succ']
        congr 1
        omega
      rw [next, anew, doubled, ← Nat.mul_assoc]
      exact Nat.mul_lt_mul_of_pos_right (by omega) (Nat.two_pow_pos _)

/-- A greater magnitude is that of a greater number. -/
theorem stepsOf_lt {small great : Nat} (less : small < great) : stepsOf small < stepsOf great := by
  -- One magnitude after the other, from the one behind the smaller.
  induction less with
  | refl => exact stepsOf_lt_succ small
  | step _ ih => exact Nat.lt_trans ih (stepsOf_lt_succ _)

/-- Of two magnitudes one is at most the other exactly where its number is. -/
theorem stepsOf_le_iff {m n : Nat} : stepsOf m ≤ stepsOf n ↔ m ≤ n := by
  constructor
  · intro atMost
    exact Nat.le_of_not_lt fun greater => Nat.not_lt.mpr atMost (stepsOf_lt greater)
  · intro atMost
    rcases Nat.lt_or_eq_of_le atMost with less | same
    · exact Nat.le_of_lt (stepsOf_lt less)
    · exact Nat.le_of_eq (congrArg stepsOf same)

/-- The steps of a number are those of its magnitude, with its sign. -/
theorem steps_eq (x : Binary64) :
    x.steps = if x.negative then -(stepsOf x.magnitude : Int) else stepsOf x.magnitude := by
  -- Both tell the numbers of the least exponent from the others, and shift by the same then.
  have size : x.significand * twoTo (x.exponent - leastExponent).toNat = stepsOf x.magnitude := by
    unfold significand exponent stepsOf leastExponent
    split
    · simp
    · rename_i some
      have shift : (((x.magnitude / twoTo 52 : Nat) : Int) - 1075 - -1074).toNat =
          x.magnitude / twoTo 52 - 1 := by omega
      rw [shift]
  unfold steps
  simp only [← size]
  split <;> simp

/-- A number is at most as many steps as another exactly where it stands no later in the order. -/
theorem steps_le_steps_iff (x y : Binary64) : x.steps ≤ y.steps ↔ x.rank ≤ y.rank := by
  have atMost : stepsOf x.magnitude ≤ stepsOf y.magnitude ↔ x.magnitude ≤ y.magnitude :=
    stepsOf_le_iff
  have atLeast : stepsOf y.magnitude ≤ stepsOf x.magnitude ↔ y.magnitude ≤ x.magnitude :=
    stepsOf_le_iff
  have zero : stepsOf 0 = 0 := by rfl
  -- Only the two zeros are no steps at all.
  have noneLeft (z : Binary64) : stepsOf z.magnitude ≤ 0 ↔ z.magnitude ≤ 0 := by
    have only : stepsOf z.magnitude ≤ stepsOf 0 ↔ z.magnitude ≤ 0 := stepsOf_le_iff
    rwa [zero] at only
  have leftZero := noneLeft x
  have rightZero := noneLeft y
  rw [steps_eq, steps_eq, rank, rank]
  -- A number with the sign is less than one without, unless both of them are zeros.
  cases x.negative <;> cases y.negative <;> simp only [Bool.false_eq_true, if_true, if_false] <;>
    omega

/-- Two numbers are as many steps exactly where they stand at the same place in the order. -/
theorem steps_eq_steps_iff (x y : Binary64) : x.steps = y.steps ↔ x.rank = y.rank := by
  have atMost := steps_le_steps_iff x y
  have atLeast := steps_le_steps_iff y x
  omega

end Binary64

namespace Datum

/-- What a value is compared by as a key; numbers are counted in the smallest steps of reals. -/
inductive Key
  | null
  | text (value : String)
  | number (steps : Int)
  | infinite (negative : Bool)
  | notNumber
  | foreign (identity : String)
deriving DecidableEq, Repr

/-- The number of the smallest steps in one. -/
def stepsInOne : Nat := twoTo 1074

/-- The number of smallest steps that a whole number is. -/
def wholeSteps (value : Int) : Int := value * stepsInOne

/-- What a real is compared by. -/
def realKey (x : Binary64) : Key :=
  if x.isNaN then .notNumber
  else if x.isInfinite then .infinite x.negative
  else .number x.steps

/-- What a value is compared by, if it can be a key. -/
def key? : Datum → Option Key
  | .null => some .null
  | .flag value => some (.number (wholeSteps (if value then 1 else 0)))
  | .whole value => some (.number (wholeSteps value))
  | .real value => some (realKey value)
  | .text value => some (.text value)
  | .foreign value => some (.foreign value.identity)
  | .list _ | .map _ => none

/-- No two whole numbers are as many steps. -/
theorem wholeSteps_eq_iff (m n : Int) : wholeSteps m = wholeSteps n ↔ m = n := by
  have some : stepsInOne ≠ 0 := by decide +kernel
  exact Int.mul_eq_mul_right_iff (Int.natCast_ne_zero.mpr some)

/-- Two reals are the same exactly where they are compared by the same. -/
theorem sameReal_iff (x y : Binary64) : sameReal x y = true ↔ realKey x = realKey y := by
  have steps := Binary64.steps_eq_steps_iff x y
  have great : 0 < Binary64.infinityMagnitude := by decide
  -- An infinity is told from all other numbers by its magnitude, and from the other by its sign.
  have infinities (x y : Binary64) (isInfinite : x.isInfinite = true) :
      x.rank = y.rank ↔ y.isInfinite = true ∧ x.negative = y.negative := by
    have magnitude : x.magnitude = Binary64.infinityMagnitude := of_decide_eq_true isInfinite
    have other : y.isInfinite = true ↔ y.magnitude = Binary64.infinityMagnitude := by
      simp [Binary64.isInfinite]
    rw [other, Binary64.rank, Binary64.rank]
    cases x.negative <;> cases y.negative <;> simp <;> omega
  unfold sameReal realKey
  cases x.isNaN <;> cases y.isNaN
  · cases left : x.isInfinite with
    | true =>
      have same := infinities x y left
      cases right : y.isInfinite <;> simpa [right] using same
    | false =>
      cases right : y.isInfinite with
      | true =>
        have swapped := infinities y x right
        simp only [left, Bool.false_eq_true, false_and, iff_false] at swapped
        simpa using Ne.symm swapped
      | false => simpa using steps.symm
  all_goals simp
  all_goals split <;> simp

/-- A real is a whole number exactly where both are compared by the same. -/
theorem isWholeReal_iff (n : Int) (x : Binary64) :
    isWholeReal n x = true ↔ realKey x = .number (wholeSteps n) := by
  unfold isWholeReal realKey wholeSteps stepsInOne
  generalize twoTo 1074 = steps
  cases x.isNaN <;> cases x.isInfinite <;> simp

/-- A real is compared by something that no other kind of value is compared by, but numbers. -/
theorem realKey_ne (x : Binary64) : realKey x ≠ .null ∧ (∀ value, realKey x ≠ .text value) ∧
    ∀ identity, realKey x ≠ .foreign identity := by
  unfold realKey
  cases x.isNaN <;> cases x.isInfinite <;> simp

/-- Two values are the same key exactly where both can be keys and are compared by the same. -/
theorem sameKey_iff (a b : Datum) :
    a.sameKey b = true ↔ a.key? = b.key? ∧ a.key?.isSome = true := by
  -- Kind by kind; a real may be compared with any other number.
  cases a with
  | real x =>
    obtain ⟨notNull, noText, known⟩ := realKey_ne x
    cases b <;>
      simp [sameKey, key?, keyNumber?, sameReal_iff, isWholeReal_iff, notNull, noText, known]
  | _ =>
    cases b with
    | real x =>
      obtain ⟨notNull, noText, known⟩ := realKey_ne x
      have isNumber (n : Int) :
          isWholeReal n x = true ↔ Key.number (wholeSteps n) = realKey x := by
        rw [isWholeReal_iff, eq_comm]
      simp [sameKey, key?, keyNumber?, isNumber, notNull.symm, fun value => (noText value).symm,
        fun identity => (known identity).symm]
    | _ => simp [sameKey, key?, keyNumber?, wholeSteps_eq_iff]

/-- Being the same key goes both ways. -/
theorem sameKey_comm (a b : Datum) : a.sameKey b = b.sameKey a := by
  rw [Bool.eq_iff_iff, sameKey_iff, sameKey_iff]
  constructor <;> (rintro ⟨same, some⟩; exact ⟨same.symm, by rwa [← same]⟩)

/-- A key is the same as another where it is the same as one that is the same as this. -/
theorem sameKey_congr {a b : Datum} (same : a.sameKey b = true) (other : Datum) :
    a.sameKey other = b.sameKey other := by
  obtain ⟨alike, _⟩ := (sameKey_iff a b).mp same
  rw [Bool.eq_iff_iff, sameKey_iff, sameKey_iff, alike]

/-- The first entry is looked at first. -/
theorem find?_cons (entry : Datum × Datum) (rest : List (Datum × Datum)) (key : Datum) :
    find? (entry :: rest) key =
      if entry.1.sameKey key then some entry.2 else find? rest key := by
  unfold find?
  rw [List.find?_cons]
  cases entry.1.sameKey key <;> rfl

/-- Of the entries with one set, that one is found under each key that is the same as its own. -/
theorem find?_put (entries : List (Datum × Datum)) (key value other : Datum) :
    find? (put entries key value) other =
      if key.sameKey other then some value else find? entries other := by
  -- Setting goes along the entries to the first of the key, and so does finding.
  induction entries with
  | nil => rw [put, find?_cons]
  | cons entry rest ih =>
    rw [put]
    by_cases here : entry.1.sameKey key = true
    · -- The entry keeps its key, and this finds what the key that was set finds.
      rw [if_pos here, find?_cons, find?_cons, sameKey_congr here]
      split <;> rfl
    · rw [if_neg here, find?_cons, find?_cons, ih]
      -- No key is the same as both of two different ones.
      by_cases first : entry.1.sameKey other = true
      · have apart : key.sameKey other = false := by
          rw [sameKey_comm] at first
          rw [sameKey_comm, sameKey_congr first, Bool.eq_false_iff]
          exact here
        simp [first, apart]
      · simp [first]

namespace KeysDiffer

variable {entries : List (Datum × Datum)}

/-- A key that is the same as the first is found there and nowhere behind it. -/
theorem find?_rest {entry : Datum × Datum} {key : Datum} (differ : KeysDiffer (entry :: entries))
    (same : entry.1.sameKey key = true) : find? entries key = none := by
  obtain ⟨first, _⟩ := List.pairwise_cons.mp differ
  -- An entry behind it with such a key would have the same key as the first.
  have nowhere : entries.find? (fun other => other.1.sameKey key) = none := by
    rw [List.find?_eq_none]
    intro other among found
    have apart := first other among
    rw [sameKey_congr same, sameKey_comm, found] at apart
    cases apart
  rw [find?, nowhere]
  rfl

/-- Setting an entry sets no key twice. -/
theorem put (differ : KeysDiffer entries) (key value : Datum) :
    KeysDiffer (put entries key value) := by
  -- What stands apart from the entries and from the key set stands apart from all that results.
  have apart (first : Datum) (entries : List (Datum × Datum))
      (others : ∀ other ∈ entries, first.sameKey other.1 = false)
      (here : first.sameKey key = false) :
      ∀ other ∈ Datum.put entries key value, first.sameKey other.1 = false := by
    induction entries with
    | nil => simpa [Datum.put] using here
    | cons entry rest ih =>
      rw [List.forall_mem_cons] at others
      rw [Datum.put]
      split
      · exact List.forall_mem_cons.mpr others
      · exact List.forall_mem_cons.mpr ⟨others.1, ih others.2⟩
  induction entries with
  | nil => simp [KeysDiffer, Datum.put]
  | cons entry rest ih =>
    obtain ⟨first, later⟩ := List.pairwise_cons.mp differ
    rw [Datum.put]
    split
    · exact List.pairwise_cons.mpr ⟨first, later⟩
    · rename_i another
      exact List.pairwise_cons.mpr
        ⟨apart entry.1 rest first (by simpa using another), ih later⟩

end KeysDiffer

/-- Whether a property of values goes over from members to collections; all texts have it. -/
structure IsHereditary (good : Datum → Prop) : Prop where
  text (value : String) : good (.text value)
  list {items : List Datum} (each : ∀ item ∈ items, good item) : good (.list items)
  map {entries : List (Datum × Datum)} (differ : KeysDiffer entries)
    (each : ∀ entry ∈ entries, good entry.1 ∧ good entry.2) : good (.map entries)

/-- Being proper goes over from members to collections. -/
theorem isHereditary_isProper : IsHereditary IsProper where
  text _ := .text
  list each := .list each
  map differ each := .map differ fun entry among => (each entry among).2

/-- Of the entries with one set, each has its key and its value from those before or from that. -/
theorem forall_mem_put {ofKey ofValue : Datum → Prop} {entries : List (Datum × Datum)}
    {key value : Datum} (each : ∀ entry ∈ entries, ofKey entry.1 ∧ ofValue entry.2)
    (newKey : ofKey key) (newValue : ofValue value) :
    ∀ entry ∈ put entries key value, ofKey entry.1 ∧ ofValue entry.2 := by
  -- An entry that is set anew keeps its own key, so only its value is the new one.
  induction entries with
  | nil => simpa [put] using And.intro newKey newValue
  | cons entry rest ih =>
    rw [List.forall_mem_cons] at each
    rw [put]
    split
    · exact List.forall_mem_cons.mpr ⟨⟨each.1.1, newValue⟩, each.2⟩
    · exact List.forall_mem_cons.mpr ⟨each.1, ih each.2⟩

/-- What is found under a key is one of the values. -/
theorem exists_mem_of_find? {entries : List (Datum × Datum)} {key value : Datum}
    (found : find? entries key = some value) : ∃ entry ∈ entries, entry.2 = value := by
  obtain ⟨entry, held, rfl⟩ := Option.map_eq_some_iff.mp found
  exact ⟨entry, List.mem_of_find?_eq_some held, rfl⟩

end Datum

end Themer
