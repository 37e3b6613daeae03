/-!
How long to keep trying when no server answers. Attempts are numbered from zero, and each goes
through all servers. The first few follow each other at once; every later one waits twice as long
as the one before, up to a limit.
-/

namespace NameService.Failover

inductive Mode where
  | hardOpen
  | hardInit
  | soft
deriving DecidableEq, Repr, Inhabited

namespace Mode

def word : Mode → String
  | hardOpen => "hard_open"
  | hardInit => "hard_init"
  | soft => "soft"

def all : List Mode := [hardOpen, hardInit, soft]

def ofWord? (word : String) : Option Mode := all.find? (·.word == word)

theorem ofWord?_word (mode : Mode) : ofWord? mode.word = some mode := by
  cases mode <;> rfl

end Mode

structure Policy where
  mode : Mode := .hardOpen
  /-- Attempts after a wait. -/
  tries : UInt32 := 5
  /-- The first wait, in seconds. -/
  sleep : UInt64 := 4
  /-- The longest wait, in seconds. -/
  maxSleep : UInt64 := 64
  /-- Attempts without a wait. -/
  eagerTries : UInt32 := 2
deriving DecidableEq, Repr, Inhabited

namespace Policy

/-- A soft policy makes one attempt only. -/
def isHard (policy : Policy) : Bool := policy.mode != .soft

/-- A count that stops at the largest number of 32 bits. -/
def attempts (policy : Policy) : Nat :=
  min (policy.tries.toNat + policy.eagerTries.toNat) (UInt32.size - 1)

/-- Numbers of seconds stop at the largest number of 64 bits. -/
def ceiling : Nat := UInt64.size - 1

def doubled (times : Nat) : Nat := if times < 64 then Nat.pow 2 times else ceiling

/-- The wait before an attempt, in seconds. -/
def delay (policy : Policy) (attempt : Nat) : Option Nat :=
  if attempt < policy.eagerTries.toNat then none
  else
    let seconds :=
      min (policy.sleep.toNat * doubled (attempt - policy.eagerTries.toNat)) ceiling
    some (min seconds policy.maxSleep.toNat)

end Policy

end NameService.Failover
