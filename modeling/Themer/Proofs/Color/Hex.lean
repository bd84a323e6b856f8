import Themer.Color.Hex

/-! A color that is written in hexadecimal digits is read back as that color. -/

namespace Themer

namespace Color

/-- Each of the sixteen digits stands for its own value, and is no blank. -/
theorem hexDigit_value (value : Nat) (small : value < 16) :
    Text.hexValue? (hexDigit value) = some value ∧
      Text.isBlank (hexDigit value) = false := by
  revert value
  decide

/-- Two digits written for a channel are read as that channel. -/
theorem readPair?_hexDigit (channel : Fin 256) :
    readPair? (hexDigit (channel.val / 16)) (hexDigit (channel.val % 16)) = some channel := by
  have high := (hexDigit_value (channel.val / 16) (by omega)).1
  have low := (hexDigit_value (channel.val % 16) (by omega)).1
  simp only [readPair?, high, low, Nat.div_add_mod]
  -- The channel is below 256 already, so nothing of it is cut off.
  exact congrArg some (Fin.ext (Nat.mod_eq_of_lt channel.isLt))

/-- Six digits written for a color are read as that color. -/
theorem readDigits?_hexDigits (color : Color) : readDigits? color.hexDigits = some color := by
  simp only [hexDigits, hexPair, List.cons_append, List.nil_append, readDigits?,
    readPair?_hexDigit]

/-- The text of a color has no blanks around it. -/
theorem trim_hexDigits (color : Color) :
    Text.trim ('#' :: color.hexDigits) = '#' :: color.hexDigits := by
  have hash : Text.isBlank '#' = false := by decide
  have last := (hexDigit_value (color.blue.val % 16) (by omega)).2
  unfold Text.trim
  rw [List.dropWhile_cons_of_neg (by simp [hash])]
  -- From the back, the last digit of the last channel comes first.
  simp only [hexDigits, hexPair, List.cons_append, List.nil_append, List.reverse_cons,
    List.reverse_nil, List.dropWhile_cons, last, Bool.false_eq_true, if_false]

/-- A color written with a hash is read as that color. -/
theorem read_write_hashed (color : Color) : read (color.write .hashed) = .ok color := by
  simp only [read, write, String.toList_ofList, trim_hexDigits, readDigits?_hexDigits]

end Color

end Themer
