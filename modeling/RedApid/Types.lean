import Mathlib.Data.Nat.Notation

namespace RedApid

def INT32_MAX : Nat := 2147483647
def UINT16_MAX : Nat := 65535

-- The value a `uint32_t` holds after it is assigned `n`.
def uint32 (n : Nat) : Nat := n % 4294967296

theorem uint32_of_lt {n : Nat} (h : n < 4294967296) : uint32 n = n := Nat.mod_eq_of_lt h

-- api_error.h
inductive APIE where
  | success
  | unknownError
  | invalidOperation
  | operationAborted
  | internalError
  | unknownSessionId
  | noFreeSessionId
  | unknownObjectId
  | noFreeObjectId
  | objectIsLocked
  | noMoreData
  | wrongListItemType
  | programIsPurged
  | invalidParameter
  | noFreeMemory
  | noFreeSpace
  | accessDenied
  | alreadyExists
  | doesNotExist
  | interrupted
  | isDirectory
  | notADirectory
  | wouldBlock
  | overflow
  | badFileDescriptor
  | outOfRange
  | nameTooLong
  | invalidSeek
  | notSupported
  | tooManyOpenFiles
deriving DecidableEq, Repr, Inhabited

-- What api_get_error_code_from_errno returns.
abbrev APIError := { code : APIE // code ≠ .success }

end RedApid
