import AdFilter.Text.Digits

namespace AdFilter

/-!
# IPv6 addresses

An address has eight groups of up to four hexadecimal digits.  One run of groups may be left out between two
colons, the last two groups may be written as four decimal numbers, and a zone may follow after a percent sign.
-/

namespace Ipv6

/-- Whether a text is a group of an address. -/
def isGroup (text : Text) : Bool :=
  text ≠ [] && text.length ≤ 4 && text.all Text.isHexDigit

/-- Whether a text is a number of a dotted address: at most 255, without leading zeros. -/
def isOctet (text : Text) : Bool :=
  text ≠ [] && text.all Char.isDigit && text.length ≤ 3 &&
    (text = ['0'] || text.head? ≠ some '0') && Text.decimalValue text ≤ 255

/-- Whether a text is a dotted address. -/
def isDottedAddress (text : Text) : Bool :=
  let octets := List.splitOn '.' text
  octets.length = 4 && octets.all isOctet

/-- The groups with a dotted address at the end replaced by the two groups it stands for. -/
def withoutDottedEnd : List Text → List Text
  | [] => []
  | [last] =>
      if last.elem '.' then
        if isDottedAddress last then [['0'], ['0']] else [last]
      else
        [last]
  | group :: groups => group :: withoutDottedEnd groups

/-- The number of groups on one side of the run that is left out, if all of them are groups. -/
def sideLength? (groups : List Text) : Option Nat :=
  if groups = [[]] then
    some 0
  else if groups.all isGroup then
    some groups.length
  else
    none

/-- Whether the pieces between the colons make up an address. -/
def areGroups (pieces : List Text) : Bool :=
  match pieces with
  | [] => false
  | first :: others =>
      let high := first :: others.takeWhile (· ≠ [])
      match others.dropWhile (· ≠ []) with
      | [] => high.length = 8 && high.all isGroup
      | [_] => false
      | _ :: low =>
          match sideLength? high, sideLength? low with
          | some highLength, some lowLength => highLength + lowLength ≤ 7
          | _, _ => false

/-- Whether a text is an address, with or without a zone. -/
def isAddress (text : Text) : Bool :=
  let address := text.takeWhile (· ≠ '%')
  let zone := text.dropWhile (· ≠ '%')
  areGroups (withoutDottedEnd (List.splitOn ':' address)) &&
    match zone with
    | [] => true
    | _ :: name => name ≠ [] && !name.elem '%'

end Ipv6

end AdFilter
