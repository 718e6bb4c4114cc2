/-! # Buffers and protobuf parsing

Buffers are byte strings. The parser that protobuf generates for a message type
is not part of the repository: it is a parameter, a function from a buffer to
the status it returns and the message it leaves behind. When the status is
`false` the message holds whatever fields were read before the parser gave up.
-/

namespace OefCore

abbrev Buffer := List UInt8

/-- `ParseFromArray` on a fresh message: the status and the message. -/
abbrev ParseFromArray (T : Type) := Buffer → Bool × T

namespace Pbs

variable {T : Type}

/-- The overload of `pbs::deserialize` that reports the status. -/
def deserializeStatus (parseFromArray : ParseFromArray T) (buffer : Buffer) : T × Bool :=
  let (status, t) := parseFromArray buffer
  (t, status)

/-- The overload of `pbs::deserialize` that only logs a failure. -/
def deserialize (parseFromArray : ParseFromArray T) (buffer : Buffer) : T :=
  (parseFromArray buffer).2

end Pbs

/-- `std::error_code`; zero is success. -/
structure ErrorCode where
  value : Int
  deriving DecidableEq, Repr

namespace ErrorCode

/-- The conversion of an `error_code` to `bool`. -/
def failed (ec : ErrorCode) : Bool := ec.value != 0

def success : ErrorCode := ⟨0⟩

/-- `std::errc::no_message_available`, which is `ENODATA`. -/
def noMessageAvailable : ErrorCode := ⟨61⟩

@[simp] theorem success_failed : success.failed = false := rfl

@[simp] theorem noMessageAvailable_failed : noMessageAvailable.failed = true := rfl

end ErrorCode

end OefCore
