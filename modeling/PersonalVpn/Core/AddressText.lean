import PersonalVpn.Core.LeaseManager

namespace PersonalVpn

/-- `std::from_chars` in base 10 for an unsigned type of `width` bits: the value of the digits in
front and the text behind them. Nothing for no digits or a value out of range. -/
def fromChars (width : Nat) (s : Bytes) : Option (Nat × Bytes) :=
  let isDigit (b : UInt8) := decide (48 ≤ b ∧ b ≤ 57)
  let digits := s.takeWhile isDigit
  let value := digits.foldl (fun value digit => value * 10 + (digit.toNat - 48)) 0
  if digits = [] ∨ value ≥ 2 ^ width then none else some (value, s.dropWhile isDigit)

namespace Core

/-- The loop of `parse_ipv4_address`, with the number of components left and the text at `begin`.
The text splits at the next dot, if there is one. -/
def parseIpv4Components : Nat → Bytes → Except Exception Bytes
  | 0, _ => .ok []
  | components + 1, s => do
    let component := s.takeWhile (· ≠ 46)
    throwIf (component = []) (.invalidArgument (text "IPv4 address contains an empty component"))
    match fromChars 32 component with
    | some (value, []) =>
      throwIf (value > 255)
        (.invalidArgument (text "IPv4 address contains an invalid component"))
      match components, s.dropWhile (· ≠ 46) with
      | 0, [] => return [UInt8.ofNat value]
      | 0, _ :: _ =>
        throw (.invalidArgument (text "IPv4 address has too many components"))
      | _ + 1, [] => throw (.invalidArgument (text "IPv4 address has too few components"))
      | components + 1, _ :: rest => do
        let others ← parseIpv4Components (components + 1) rest
        return UInt8.ofNat value :: others
    | _ => throw (.invalidArgument (text "IPv4 address contains an invalid component"))

def parseIpv4Address (s : Bytes) : Except Exception Ipv4Address := do
  let components ← parseIpv4Components 4 s
  return copyN components 0 4

/-- `make_address` and `make_address_v6` of Boost.Asio: the bytes of the address, and the scope
identifier of an IPv6 one. Nothing for an error. -/
structure AddressParsers where
  makeAddress : Bytes → Option Bytes
  makeAddressV6 : Bytes → Option (Ipv6Address × Nat)

def parseIpv6Address (parsers : AddressParsers) (s : Bytes) : Except Exception Ipv6Address :=
  match parsers.makeAddressV6 s with
  | some (address, 0) => .ok address
  | _ => .error (.invalidArgument (text "IPv6 address is invalid or has a scope identifier"))

end Core

end PersonalVpn
