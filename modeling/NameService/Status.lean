/-!
The five answers of a name service, and the class of every result code a directory server reports.
A code is one of three kinds: the server answered, the question had no answer, or the server is of
no use at the moment. Every code outside the two short lists is of the last kind.
-/

namespace NameService

inductive Status where
  | success
  | notFound
  | unavailable
  | tryAgain
  | ended
deriving DecidableEq, Repr, Inhabited

namespace Status

/-- The word a host's lookup configuration uses for the answer. -/
def word : Status → String
  | success => "success"
  | notFound => "notfound"
  | unavailable => "unavail"
  | tryAgain => "tryagain"
  | ended => "return"

/-- The word by which a stored document names the answer. -/
def key : Status → String
  | success => "success"
  | notFound => "not_found"
  | unavailable => "unavailable"
  | tryAgain => "try_again"
  | ended => "return"

def all : List Status := [success, notFound, unavailable, tryAgain, ended]

def isSuccess (status : Status) : Bool := status == success

end Status

namespace ResultCode

/-- The search ran; a size or time limit may have cut its answer short. -/
def answered : List Nat := [0, 3, 4]

/-- The server understood the question and holds nothing that matches it: an unknown attribute or
    object, a value of the wrong syntax, a broken alias, or a filter it cannot evaluate. -/
def unmatched : List Nat := [16, 17, 18, 19, 20, 21, 32, 33, 34, 35, 36, 87]

def status (code : Nat) : Status :=
  if code ∈ answered then .success
  else if code ∈ unmatched then .notFound
  else .unavailable

end ResultCode

end NameService
