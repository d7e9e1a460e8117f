/-! # Hexadecimal digits -/

namespace BicepTemplates.Digest

inductive HexLetters where
  | upper
  | lower
  deriving DecidableEq

/-- The digit for a number below sixteen. -/
def hexDigit (letters : HexLetters) (n : Nat) : Char :=
  let digits := match letters with
    | .upper => ['0', '1', '2', '3', '4', '5', '6', '7', '8', '9', 'A', 'B', 'C', 'D', 'E', 'F']
    | .lower => ['0', '1', '2', '3', '4', '5', '6', '7', '8', '9', 'a', 'b', 'c', 'd', 'e', 'f']
  digits.getD (n % 16) '0'

/-- The lowest digits of a number, the given count of them. -/
def hex (letters : HexLetters) (count n : Nat) : List Char :=
  (List.range count).map fun i => hexDigit letters (n / Nat.pow 16 (count - 1 - i))

@[simp] theorem length_hex (letters : HexLetters) (count n : Nat) :
    (hex letters count n).length = count := by
  simp [hex]

theorem mem_hex {letters : HexLetters} {count n : Nat} {c : Char}
    (h : c ∈ hex letters count n) : ∃ k < 16, c = hexDigit letters k := by
  obtain ⟨i, _, rfl⟩ := List.mem_map.1 h
  exact ⟨n / Nat.pow 16 (count - 1 - i) % 16, Nat.mod_lt _ (by decide), by simp [hexDigit]⟩

end BicepTemplates.Digest
