import LayerGateway.Decimal.Integer
import LayerGateway.Text.Pieces

/-!
# Addresses to listen at

An address to listen at is a host and, behind the last colon, a number.  Before anything
is bound, the text must be such an address, and the host must be known.
-/

namespace LayerGateway

inductive ListenError where
  | notAnAddress
  | badNumber
  | unknownHost
  | unavailable
  deriving DecidableEq, Repr

def ListenError.message : ListenError → String
  | .notAnAddress => "invalid socket address"
  | .badNumber => "invalid port value"
  | .unknownHost => "failed to lookup address information: Name or service not known"
  | .unavailable => "Cannot assign requested address (os error 99)"

/-- The four bytes of an address of version 4. -/
def hostBytes? (host : List Char) : Option (List Nat) :=
  let pieces := Text.pieces '.' host
  if pieces.length ≠ 4 then none
  else pieces.mapM fun piece =>
    if piece.length ≤ 3 ∧ (piece.length ≤ 1 ∨ piece.head? ≠ some '0') then
      (Decimal.natural? piece).filter (· < 256)
    else none

/-- Why nothing can listen at an address; none if it is an address of this machine. -/
def listenFault? (address : String) : Option ListenError :=
  match (Text.pieces ':' address.toList).reverse with
  | [] | [_] => some .notAnAddress
  | number :: host =>
      if (Decimal.unsigned? 65536 (String.ofList number)).isNone then some .badNumber
      else
        match host with
        | [host] =>
            match hostBytes? host with
            | some [a, b, c, d] => if a = 127 ∨ [a, b, c, d] = [0, 0, 0, 0] then none
                else some .unavailable
            | _ => if host = "localhost".toList then none else some .unknownHost
        | _ => some .unknownHost

end LayerGateway
