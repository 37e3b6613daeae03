import NameService.Domain.Mark

/-!
The direction in which characters are written. In a domain with a character that is written from
right to left, every label keeps to a rule that fixes the order in which its characters show.
-/

namespace NameService.Domain

inductive Direction where
  | leftward
  | rightward
  | digit
  /-- A digit of the Arabic script. -/
  | arabicDigit
  | mark
  | neutral
deriving DecidableEq, Repr

/-- Letters written from right to left, and marks between them. -/
def leftwardLetters : List Span := Span.ofRows [
    "5BE-5F4 608 60B 60D 61B-64A 66D-6D5 6E5-6E6 6EE-6EF 6FA-7F5 7FA-8C9 FBB2-FBC2 FE73",
    "10800-1091B 10920-10B35 10B40-10D23 10D4A-10D4F 10D6F-10D8F 10E80-10EC7 10F00-10FF6",
    "1E800-1ED3D" ]

def arabicDigits : List Span := Span.ofRows [
    "660-669 66B-66C 10D30-10D49 10E60-10E7E" ]

def digits : List Span := Span.ofRows [
    "30-39 6F0-6F9 102E1-102FB" ]

def neutrals : List Span := Span.ofRows [
    "0-8 E-1B 21-2F 3A-60 7B-D7 F7 2B9-2BA 2C2-2CF 2D2-2ED 2EF-2FF 375 3F6 58A-58F 606-607 609-60A",
    "60C 60E-60F 66A 6DE 6E9 7F6-7F9 9F2-9F3 9FB AF1 BF3-BFA C78-C7E E3F F3A-F3D 1390-1399 1400",
    "169B-169C 17DB 17F0-180A 1940-1945 19DE-19FF 200C-214D 218A-2335 237B-2394 2396-26AB",
    "26AD-27FF 2900-2BFF 2CE5-2CEA 2CF9-2CFF 2E00-3004 3008-3020 3030 3037 303D-303F 30A0 30FB",
    "31C0-31E5 4DC0-4DFF A490-A4C6 A60D-A60F A673-A67F A700-A721 A788 A828-A82B A838-A839",
    "A874-A877 AB6A-AB6B FBC3-FE46 10101 10140-1018C 10190-101A0 1091F 10B39-10B3F 10D6E",
    "10ED0-10ED8 11052-11065 11660-1166C 11FD5-11FF1 16FE2 1CC00-1CEF0 1D1E9-1D245 1D300-1D356",
    "1E2FF 1EEF0-1F12F 1F16D-1F16F 1F1AD 1F260-1FBFA" ]

/-- Marks that are written like letters, from left to right. -/
def rightwardMarks : List Span := Span.ofRows [
    "CBF CC6 11A07-11A08 11C3F" ]

def direction (c : Char) : Direction :=
  if isOverlaid c then if inSpans rightwardMarks c then .rightward else .mark
  else if inSpans leftwardLetters c then .leftward
  else if inSpans arabicDigits c then .arabicDigit
  else if inSpans digits c then .digit
  else if inSpans neutrals c then .neutral
  else .rightward

/-- Whether a character makes the rule binding for its whole domain. -/
def isLeftward (c : Char) : Bool :=
  0x80 ≤ c.toNat && (direction c == .leftward || direction c == .arabicDigit)

/-- The rule for one label. It starts with a letter and ends, marks apart, with a letter of the same
    direction or a digit; no letter of the other direction stands in it. A label from right to left
    keeps to digits of one kind, and the other direction has no Arabic ones. -/
def keepsDirection (label : List Char) : Bool :=
  let directions := label.map direction
  let last := (directions.filter (· != .mark)).getLast?
  match directions.head? with
  | none => true
  | some .rightward =>
    !directions.contains .leftward && !directions.contains .arabicDigit
      && (last == some .rightward || last == some .digit)
  | some .leftward =>
    !directions.contains .rightward
      && !(directions.contains .digit && directions.contains .arabicDigit)
      && (last == some .leftward || last == some .digit || last == some .arabicDigit)
  | some _ => false

end NameService.Domain
