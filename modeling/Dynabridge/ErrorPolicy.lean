import Mathlib.Tactic

/-!
# The error policy

Library code reports a broken contract through `DYNABRIDGE_RAISE`.  With C++ exceptions it
throws the error; without them it aborts the process.  Both readings share one embedding: a
function that may raise returns `Except Raised`, and it is the caller that decides whether a
raise is caught (`router::dispatch` with exceptions) or is the end of the program.

An error carries its message; `what()` is the C string of it, which ends at the first NUL.
-/

namespace Dynabridge

/-- The bytes of an ASCII literal of the source. -/
def ascii (s : String) : List UInt8 := s.toList.map fun c => UInt8.ofNat c.toNat

/-- The errors that can travel through the bridge: the library's own exception classes, any
other class derived from `std::exception`, and an exception of any other type. -/
inductive Raised
  /-- `dynabridge::bad_conversion` -/
  | badConversion (what : List UInt8)
  /-- `rpc::protocol_error` -/
  | protocolError (what : List UInt8)
  /-- `rpc::remote_error` -/
  | remoteError (what : List UInt8)
  /-- another exception derived from `std::exception` -/
  | stdException (what : List UInt8)
  /-- an exception of a type outside the `std::exception` hierarchy -/
  | unknown
  deriving DecidableEq, Repr

/-- The C string of a text: its bytes up to the first NUL. -/
def cString (text : List UInt8) : List UInt8 := text.takeWhile (· != 0)

/-- What `what()` is for a `catch (const std::exception&)` handler, if it catches the error. -/
def Raised.what : Raised → Option (List UInt8)
  | badConversion w | protocolError w | remoteError w | stdException w => some (cString w)
  | unknown => none

end Dynabridge
