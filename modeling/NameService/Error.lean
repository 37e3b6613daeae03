import NameService.Status

/-!
Why a directory call failed. The name service sees only the status of an error, so the class of
every error is decided here and nowhere else. A panic is not an error: nothing below the caller
takes notice of it, and the caller hears of no status.
-/

namespace NameService

inductive Error where
  | notFound (subject : String)
  | unavailable (reason : String)
  | timeout (reason : String)
  | bufferTooSmall (requested remaining : Nat)
  | directory (code : Nat) (reason : String)
  | service (name reason : String)
  | configuration (reason : String)
  | validation (reason : String)
  | invalidRequest (reason : String)
  | endOfEnumeration
  | defect (reason : String)
deriving DecidableEq, Repr, Inhabited

namespace Error

def message : Error → String
  | notFound subject => "Not found: " ++ subject
  | unavailable reason => "Directory unavailable: " ++ reason
  | timeout reason => "Timeout waiting for directory: " ++ reason
  | bufferTooSmall requested remaining =>
    "Buffer too small: requested " ++ toString requested ++ " bytes, " ++ toString remaining
      ++ " remaining"
  | directory code reason => "Directory error " ++ toString code ++ ": " ++ reason
  | service name reason => "External service error: " ++ name ++ ": " ++ reason
  | configuration reason => "Configuration error: " ++ reason
  | validation reason => "Validation error: " ++ reason
  | invalidRequest reason => "Invalid request: " ++ reason
  | endOfEnumeration => "End of enumeration"
  | defect reason => "Internal error: " ++ reason

/-- The stable label under which an error is reported. -/
def label : Error → String
  | notFound _ => "NOT_FOUND"
  | unavailable _ => "UNAVAILABLE"
  | timeout _ => "TIMEOUT"
  | bufferTooSmall _ _ => "BUFFER_TOO_SMALL"
  | directory _ _ => "DIRECTORY_ERROR"
  | service _ _ => "EXTERNAL_SERVICE_ERROR"
  | configuration _ => "CONFIG_ERROR"
  | validation _ => "VALIDATION_ERROR"
  | invalidRequest _ => "INVALID_REQUEST"
  | endOfEnumeration => "END_OF_ENUMERATION"
  | defect _ => "INTERNAL_ERROR"

def status : Error → Status
  | notFound _ | invalidRequest _ => .notFound
  | bufferTooSmall _ _ => .tryAgain
  | directory code _ => ResultCode.status code
  | endOfEnumeration => .ended
  | unavailable _ | timeout _ | service _ _ | configuration _ | validation _ | defect _ =>
    .unavailable

/-- Another server may do better after such an error. -/
def isUnavailable (error : Error) : Bool := error.status == .unavailable

/-- Errors that belong to a normal dialogue are not worth a line in the log. -/
def isNoteworthy : Error → Bool
  | bufferTooSmall _ _ | notFound _ | endOfEnumeration => false
  | _ => true

/-- The host's own input and output counts as a service outside the directory. -/
def ofHost (reason : String) : Error := service "io" reason

end Error

/-- What ends a call without a result: a number that its type has no room for. -/
inductive Panic where
  | overflow
deriving DecidableEq, Repr

/-- Why there is no value. -/
inductive Failure where
  | error (error : Error)
  | panic (panic : Panic)
deriving DecidableEq, Repr

/-- What the name service hears of a result. -/
def Status.ofResult {α : Type} : Except Error α → Status
  | .ok _ => .success
  | .error error => error.status

end NameService
