import Mathlib
import Themer.Color.Basic

/-!
A mix is the weighted average of its two colors, each channel of it rounded down.

All laws of mixes are laws of the exact average: rounding down keeps the order of numbers, and
leaves whole numbers as they are.
-/

namespace Themer

namespace Color

/-- The three channels of a color. -/
def channels : List (Color → Fin 256) := [red, green, blue]

/-- The average of two channels, the first counting for so many hundredths, not rounded. -/
def average (x y : Fin 256) (amount : Int) : ℚ :=
  ((x.val : ℚ) * amount + (y.val : ℚ) * (100 - amount)) / 100

/-- A color that has the average of two others in each of its channels, rounded down. -/
def Averages (first : Color) (amount : Int) (second color : Color) : Prop :=
  ∀ channel ∈ channels,
    ((channel color).val : Int) = ⌊average (channel first) (channel second) amount⌋

/-- With all of the first channel, the average is that. -/
theorem average_hundred (x y : Fin 256) : average x y 100 = x.val := by
  simp [average]

/-- With nothing of the first channel, the average is the second. -/
theorem average_zero (x y : Fin 256) : average x y 0 = y.val := by
  simp [average]

/-- A channel and itself have no other average. -/
theorem average_self (x : Fin 256) (amount : Int) : average x x amount = x.val := by
  unfold average
  ring

/-- The average is the same from the side of the second channel, which counts for the rest. -/
theorem average_swap (x y : Fin 256) (amount : Int) :
    average y x (100 - amount) = average x y amount := by
  unfold average
  push_cast
  ring

/-- The more of the greater channel, the greater the average. -/
theorem average_mono {x y : Fin 256} (ordered : y ≤ x) {less more : Int} (le : less ≤ more) :
    average x y less ≤ average x y more := by
  have gap : (0 : ℚ) ≤ x.val - y.val := sub_nonneg.mpr (by exact_mod_cast ordered)
  have step : (0 : ℚ) ≤ more - less := sub_nonneg.mpr (by exact_mod_cast le)
  -- What the average gains is the gap of the channels, by the share that was added.
  have gain : average x y more - average x y less =
      ((x.val : ℚ) - y.val) * (more - less) / 100 := by
    unfold average
    ring
  rw [← sub_nonneg, gain]
  positivity

/-- A channel of a mix is the average of the two channels, rounded down. -/
theorem mixChannel_eq_floor (x y : Fin 256) {amount : Nat} (bounded : amount ≤ 100) :
    ((mixChannel x y amount bounded).val : Int) = ⌊average x y amount⌋ := by
  -- The average is a fraction of whole numbers, so its floor is their quotient.
  have fraction : average x y amount =
      ((x.val * amount + y.val * (100 - amount) : Nat) : ℚ) / (100 : Nat) := by
    rw [average]
    push_cast [Nat.cast_sub bounded]
    rfl
  rw [fraction, Rat.floor_natCast_div_natCast]
  rfl

/-- Colors that are alike in each channel are the same. -/
theorem ext_channels {color other : Color}
    (alike : ∀ channel ∈ channels, channel color = channel other) : color = other := by
  obtain ⟨red, green, blue⟩ := color
  obtain ⟨_, _, _⟩ := other
  simpa [channels] using alike

/-- The channels of a color pass the check that three numbers make a color. -/
theorem ofInts_channels (color : Color) :
    ofInts color.red.val color.green.val color.blue.val = .ok color := by
  have passes (x : Fin 256) : channel? x.val = some x := by
    have within : 0 ≤ (x.val : Int) ∧ (x.val : Int) ≤ 255 := by omega
    rw [channel?, dif_pos within]
    rfl
  simp only [ofInts, passes]

namespace Averages

variable {first second color : Color} {amount : Int}

/-- Two colors have one average. -/
theorem unique {other : Color} (averages : Averages first amount second color)
    (others : Averages first amount second other) : color = other := by
  -- Each channel of either color is the same rounded number.
  refine ext_channels fun channel among => Fin.ext ?_
  exact_mod_cast (averages channel among).trans (others channel among).symm

/-- The average is the same from the side of the second color, which counts for the rest. -/
theorem swap (averages : Averages first amount second color) :
    Averages second (100 - amount) first color := by
  intro channel among
  rw [average_swap]
  exact averages channel among

/-- With all of the first color, the average is that. -/
theorem hundred (first second : Color) : Averages first 100 second first := by
  intro channel _
  rw [average_hundred, Int.floor_natCast]

/-- With nothing of the first color, the average is the second. -/
theorem zero (first second : Color) : Averages first 0 second second := by
  intro channel _
  rw [average_zero, Int.floor_natCast]

/-- A color and itself have no other average. -/
theorem self (first : Color) (amount : Int) : Averages first amount first first := by
  intro channel _
  rw [average_self, Int.floor_natCast]

/-- The numbers that averaging comes to pass the check on the channels of a color. -/
theorem ofInts_floor (averages : Averages first amount second color) :
    ofInts ⌊average first.red second.red amount⌋ ⌊average first.green second.green amount⌋
      ⌊average first.blue second.blue amount⌋ = .ok color := by
  rw [← averages red (by simp [channels]), ← averages green (by simp [channels]),
    ← averages blue (by simp [channels])]
  exact ofInts_channels color

/-- With more of the first color, a channel moves to that of the first color, if at all. -/
theorem moves {less more : Int} {low high : Color} (lowIs : Averages first less second low)
    (highIs : Averages first more second high) (le : less ≤ more) {channel : Color → Fin 256}
    (among : channel ∈ channels) :
    (channel second ≤ channel first → channel low ≤ channel high) ∧
      (channel first ≤ channel second → channel high ≤ channel low) := by
  have lows := lowIs channel among
  have highs := highIs channel among
  constructor
  · intro ordered
    have rounded := Int.floor_mono (average_mono ordered le)
    rw [← lows, ← highs] at rounded
    exact_mod_cast rounded
  · -- From the side of the second color, there is less of the greater channel.
    intro ordered
    have rest : 100 - more ≤ 100 - less := by omega
    have rounded := Int.floor_mono (average_mono ordered rest)
    rw [average_swap, average_swap, ← lows, ← highs] at rounded
    exact_mod_cast rounded

/-- By an amount in range, the average lies between the two colors in each channel. -/
theorem between (averages : Averages first amount second color)
    (inRange : 0 ≤ amount ∧ amount ≤ 100) {channel : Color → Fin 256}
    (among : channel ∈ channels) :
    min (channel first) (channel second) ≤ channel color ∧
      channel color ≤ max (channel first) (channel second) := by
  -- The average has moved from the second color, and has not got past the first.
  have left := (zero first second).moves averages inRange.1 among
  have right := averages.moves (hundred first second) inRange.2 among
  rcases le_total (channel second) (channel first) with ordered | ordered
  · rw [min_eq_right ordered, max_eq_left ordered]
    exact ⟨left.1 ordered, right.1 ordered⟩
  · rw [min_eq_left ordered, max_eq_right ordered]
    exact ⟨right.2 ordered, left.2 ordered⟩

end Averages

/-- Colors mix by an amount in range only, and what comes of it is their average. -/
theorem mix_eq_ok_iff {first second color : Color} {amount : Int} :
    first.mix amount second = .ok color ↔
      (0 ≤ amount ∧ amount ≤ 100) ∧ Averages first amount second color := by
  unfold mix
  split
  · rename_i inRange
    have whole : ((amount.toNat : Nat) : Int) = amount := Int.toNat_of_nonneg inRange.1
    have averages : Averages first amount second
        ⟨mixChannel first.red second.red amount.toNat (by omega),
          mixChannel first.green second.green amount.toNat (by omega),
          mixChannel first.blue second.blue amount.toNat (by omega)⟩ := by
      simp [Averages, channels, mixChannel_eq_floor, whole]
    -- What is made in range is an average, and the colors have no other.
    simp only [Except.ok.injEq, inRange, and_self, true_and]
    constructor
    · rintro rfl
      exact averages
    · exact averages.unique
  · rename_i outside
    simp [outside]

/-- Any two colors mix by an amount in range. -/
theorem exists_mix {amount : Int} (inRange : 0 ≤ amount ∧ amount ≤ 100) (first second : Color) :
    ∃ color, first.mix amount second = .ok color :=
  ⟨_, dif_pos inRange⟩

/-- Colors do not mix by an amount out of range, and this is the only reason not to. -/
theorem mix_eq_error_iff {first second : Color} {amount : Int} {e : ColorError} :
    first.mix amount second = .error e ↔
      (amount < 0 ∨ 100 < amount) ∧ e = .amountOutOfRange amount := by
  unfold mix
  split
  · rename_i inRange
    have notOutside : ¬ (amount < 0 ∨ 100 < amount) := by omega
    simp [notOutside]
  · rename_i outside
    have out : amount < 0 ∨ 100 < amount := by omega
    simp [out, eq_comm]

/--
A mix is the average of two colors by an amount in range, each channel of it rounded down.

Amounts out of range are refused, and nothing else is: the rounded numbers always make a color.
Each channel starts at that of the second color and moves to that of the first as the amount grows,
never back and never past either of them. Seen from the second color, the mix is the same by the
rest, and a color that is mixed with itself stays as it is.
-/
theorem mix_is_rounded_average (a b : Color) :
    (∀ n e, a.mix n b = .error e ↔ (n < 0 ∨ 100 < n) ∧ e = .amountOutOfRange n) ∧
    (∀ n, 0 ≤ n → n ≤ 100 → ∃ color, a.mix n b = .ok color ∧
      ofInts ⌊average a.red b.red n⌋ ⌊average a.green b.green n⌋ ⌊average a.blue b.blue n⌋ =
        .ok color ∧
      (∀ channel ∈ channels,
        ((channel color).val : Int) = ⌊average (channel a) (channel b) n⌋ ∧
        min (channel a) (channel b) ≤ channel color ∧
        channel color ≤ max (channel a) (channel b)) ∧
      b.mix (100 - n) a = .ok color ∧ a.mix n a = .ok a) ∧
    a.mix 100 b = .ok a ∧ a.mix 0 b = .ok b ∧
    ∀ less more low high, less ≤ more → a.mix less b = .ok low → a.mix more b = .ok high →
      ∀ channel ∈ channels,
        (channel b ≤ channel a → channel low ≤ channel high) ∧
        (channel a ≤ channel b → channel high ≤ channel low) := by
  refine ⟨fun n e => mix_eq_error_iff, ?_, ?_, ?_, ?_⟩
  · -- In range there is a mix, and what is said of it are laws of averages.
    intro n least most
    have inRange : 0 ≤ n ∧ n ≤ 100 := ⟨least, most⟩
    obtain ⟨color, mixed⟩ := exists_mix inRange a b
    obtain ⟨_, averages⟩ := mix_eq_ok_iff.mp mixed
    refine ⟨color, mixed, averages.ofInts_floor,
      fun channel among => ⟨averages channel among, averages.between inRange among⟩, ?_, ?_⟩
    · exact mix_eq_ok_iff.mpr ⟨by omega, averages.swap⟩
    · exact mix_eq_ok_iff.mpr ⟨inRange, .self a n⟩
  · exact mix_eq_ok_iff.mpr ⟨by decide, .hundred a b⟩
  · exact mix_eq_ok_iff.mpr ⟨by decide, .zero a b⟩
  · -- Two mixes of the same colors are two of their averages, in the order of the amounts.
    intro less more low high le mixedLow mixedHigh channel among
    obtain ⟨_, lowIs⟩ := mix_eq_ok_iff.mp mixedLow
    obtain ⟨_, highIs⟩ := mix_eq_ok_iff.mp mixedHigh
    exact lowIs.moves highIs le among

/-- A third of one color and a little more of it: all is rounded down, what grows and what falls. -/
theorem mix_is_rounded_average_third :
    let a : Color := ⟨255, 0, 10⟩
    let b : Color := ⟨0, 255, 11⟩
    let low : Color := ⟨84, 170, 10⟩
    let high : Color := ⟨86, 168, 10⟩
    a.mix 33 b = .ok low ∧ a.mix 34 b = .ok high ∧ b.mix (100 - 33) a = .ok low ∧
      (∀ channel ∈ channels,
        ((channel low).val : Int) = ⌊average (channel a) (channel b) 33⌋) ∧
      (b.red ≤ a.red ∧ low.red ≤ high.red) ∧ (a.green ≤ b.green ∧ high.green ≤ low.green) ∧
      a.mix 101 b = .error (.amountOutOfRange 101) := by
  intro a b low high
  have mixedLow : a.mix 33 b = .ok low := by decide
  have mixedHigh : a.mix 34 b = .ok high := by decide
  have red : b.red ≤ a.red := by decide
  have green : a.green ≤ b.green := by decide
  obtain ⟨refused, accepted, _, _, moves⟩ := mix_is_rounded_average a b
  obtain ⟨color, mixed, _, averages, swapped, _⟩ := accepted 33 (by decide) (by decide)
  obtain rfl : low = color := Except.ok.inj (mixedLow.symm.trans mixed)
  have moved := moves 33 34 low high (by decide) mixedLow mixedHigh
  exact ⟨mixedLow, mixedHigh, swapped, fun channel among => (averages channel among).1,
    ⟨red, (moved Color.red (by simp [channels])).1 red⟩,
    ⟨green, (moved Color.green (by simp [channels])).2 green⟩,
    (refused 101 _).mpr ⟨by decide, rfl⟩⟩

end Color

end Themer
