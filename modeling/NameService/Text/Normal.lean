/-!
What makes no difference in a text: the blanks around it and, in the names of a directory, the case
of letters. A character is blank when it has the Unicode property White_Space, which holds of 25
characters; names differ in case only between the letters of ASCII, and every other character stands
for itself.
-/

namespace NameService.Text

/-! ### Blanks -/

def isBlank (c : Char) : Bool :=
  let n := c.toNat
  (9 ≤ n && n ≤ 13) || n == 0x20 || n == 0x85 || n == 0xA0 || n == 0x1680
    || (0x2000 ≤ n && n ≤ 0x200A) || n == 0x2028 || n == 0x2029 || n == 0x202F || n == 0x205F
    || n == 0x3000

def trimStart (text : List Char) : List Char := text.dropWhile isBlank

def trimEnd (text : List Char) : List Char := (text.reverse.dropWhile isBlank).reverse

def trim (text : List Char) : List Char := trimEnd (trimStart text)

/-- The longest run of characters without a blank at the head of a text. -/
def word (text : List Char) : List Char := text.takeWhile (!isBlank ·)

/-! ### Case -/

/-- Small letters for the capitals A to Z. -/
def fold (name : String) : String := String.ofList (name.toList.map Char.toLower)

def same (a b : String) : Bool := fold a == fold b

theorem same_iff {a b : String} : same a b = true ↔ fold a = fold b := by simp [same]

theorem same_refl (a : String) : same a a = true := by simp [same]

theorem length_of_same {a b : String} (alike : same a b) :
    a.toList.length = b.toList.length := by
  have folded := congrArg (fun text => text.toList.length) (same_iff.mp alike)
  simpa [fold] using folded

end NameService.Text
