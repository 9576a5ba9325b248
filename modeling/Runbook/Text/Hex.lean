/-!
# Hexadecimal form of octets

Digests are shown as two lower-case hexadecimal digits for each octet.
-/

namespace Runbook.Text

/-- The digit of a number below sixteen. -/
def hexDigit (n : Nat) : Char :=
  Nat.digitChar n

/-- Two digits for each octet. -/
def hexOctets (octets : List UInt8) : String :=
  String.ofList
    (octets.flatMap fun octet => [hexDigit (octet.toNat / 16), hexDigit (octet.toNat % 16)])

end Runbook.Text
