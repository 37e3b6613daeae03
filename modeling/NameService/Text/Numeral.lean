/-!
Digits, and whole numbers written in them. A numeral has the form in which directory attributes and
option values carry numbers: an optional plus sign, at least one decimal digit, and nothing else.
-/

namespace NameService.Text

/-- The value of a hexadecimal digit of either case. -/
def hexDigit? (c : Char) : Option Nat :=
  if '0' ≤ c ∧ c ≤ '9' then some (c.toNat - '0'.toNat)
  else if 'a' ≤ c ∧ c ≤ 'f' then some (c.toNat - 'a'.toNat + 10)
  else if 'A' ≤ c ∧ c ≤ 'F' then some (c.toNat - 'A'.toNat + 10)
  else none

/-- What digits are worth when they are read in a base. -/
def positional (radix : Nat) (digits : List Nat) : Nat :=
  digits.foldl (fun n digit => n * radix + digit) 0

def decimal (digits : List Char) : Nat :=
  positional 10 (digits.map fun c => c.toNat - '0'.toNat)

/-- The number a text denotes, if it is below the bound. -/
def numeral? (bound : Nat) (text : List Char) : Option Nat :=
  let body := match text with
    | '+' :: rest => rest
    | _ => text
  if body.isEmpty || !body.all Char.isDigit then none
  else if decimal body < bound then some (decimal body)
  else none

theorem lt_of_numeral? {bound n : Nat} {text : List Char} (found : numeral? bound text = some n) :
    n < bound := by
  simp only [numeral?] at found
  generalize (match text with | '+' :: rest => rest | _ => text) = body at found
  split at found
  · simp at found
  · split at found
    · simp_all
    · simp at found

theorem numeral?_of_digits {bound : Nat} {text : List Char} (digits : ∀ c ∈ text, c.isDigit)
    (written : text ≠ []) (below : decimal text < bound) :
    numeral? bound text = some (decimal text) := by
  have unsigned (rest : List Char) : text ≠ '+' :: rest := by
    rintro rfl
    exact absurd (digits '+' List.mem_cons_self) (by decide)
  unfold numeral?
  split
  · exact (unsigned _ rfl).elim
  · rw [if_neg (by simpa [written] using digits), if_pos below]

theorem isDigit_of_mem_toString {n : Nat} {c : Char} (member : c ∈ (toString n).toList) :
    c.isDigit := by
  rw [Nat.toString_eq_ofList_toDigits, String.toList_ofList] at member
  exact Nat.isDigit_of_mem_toDigits (by decide) (by decide) member

theorem decimal_toString (n : Nat) : decimal (toString n).toList = n := by
  calc decimal (toString n).toList
      = decimal (Nat.toDigits 10 n) := by
        rw [Nat.toString_eq_ofList_toDigits, String.toList_ofList]
    _ = Nat.ofDigitChars 10 (Nat.toDigits 10 n) 0 := by
        simp only [decimal, positional, List.foldl_map, Nat.ofDigitChars_eq_foldl, Nat.mul_comm]
    _ = n := Nat.ofDigitChars_ten_toDigits

/-- A number below the bound can be read as it is written. -/
theorem numeral?_toString {bound n : Nat} (below : n < bound) :
    numeral? bound (toString n).toList = some n := by
  have written : (toString n).toList ≠ [] := by
    rw [Nat.toString_eq_ofList_toDigits, String.toList_ofList]
    exact Nat.toDigits_ne_nil
  have read := numeral?_of_digits (fun _ => isDigit_of_mem_toString) written
    (by rwa [decimal_toString])
  rwa [decimal_toString] at read

end NameService.Text
