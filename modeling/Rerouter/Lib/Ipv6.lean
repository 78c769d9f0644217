import Rerouter.Lib.Ipv4

/-!
# IPv6 addresses, as text

Which texts `Ipv6Addr::from_str` accepts. An address is eight groups of at most four hexadecimal
digits; one run of zero groups may be written `::`, and an IPv4 address may stand for the last
two groups. The reader takes what it can from the front, and what is left over decides
(`Rerouter.Ipv6.isAddr`).
-/

namespace Rerouter

namespace Ipv6

open Text

def isHexDigit (c : Char) : Bool :=
  c.isDigit || decide ('a' ≤ c ∧ c ≤ 'f') || decide ('A' ≤ c ∧ c ≤ 'F')

/-- `read_given_char`. -/
def readChar (sep : Char) : Text → Option Text
  | c :: s => if c = sep then some s else none
  | [] => none

/-- `read_separator`: the separator stands before every piece but the first. -/
def readSeparator (sep : Char) (first : Bool) (s : Text) : Option Text :=
  if first then some s else readChar sep s

/-- One group. -/
def readGroup (s : Text) : Option Text :=
  if 1 ≤ (s.takeWhile isHexDigit).length ∧ (s.takeWhile isHexDigit).length ≤ 4 then
    some (s.dropWhile isHexDigit)
  else none

/-- One octet of an IPv4 address: no leading zero, and at most 255. -/
def readOctet (s : Text) : Option Text :=
  match Ipv4.parseOctet (s.takeWhile Char.isDigit) with
  | some _ => some (s.dropWhile Char.isDigit)
  | none => none

/-- An IPv4 address at the front of a text. -/
def readIpv4 (s : Text) : Option Text := do
  let s ← readOctet s
  let s ← readOctet (← readChar '.' s)
  let s ← readOctet (← readChar '.' s)
  readOctet (← readChar '.' s)

/-- `read_groups`, with room for some groups: how many were read, whether the last two were an
IPv4 address, and what is left. -/
def readGroups (first : Bool) : ℕ → Text → ℕ × Bool × Text
  | 0, s => (0, false, s)
  | room + 1, s =>
    match if 0 < room then readSeparator ':' first s >>= readIpv4 else none with
    | some rest => (2, true, rest)
    | none =>
      match readSeparator ':' first s >>= readGroup with
      | some rest =>
        ((readGroups false room rest).1 + 1, (readGroups false room rest).2)
      | none => (0, false, s)

/-- What may stand behind the groups that were read: nothing if they are eight, and else `::` and
at most the groups that are missing but one. -/
def readTail (head : ℕ × Bool × Text) : Bool :=
  if head.1 = 8 then head.2.2.isEmpty
  else if head.2.1 then false
  else
    match readChar ':' head.2.2 >>= readChar ':' with
    | some rest => (readGroups true (8 - (head.1 + 1)) rest).2.2.isEmpty
    | none => false

/-- Whether a text is an IPv6 address. -/
def isAddr (s : Text) : Bool := readTail (readGroups true 8 s)

example : isAddr "2001:db8::1" = true ∧ isAddr "::ffff:192.0.2.1" = true ∧
    isAddr "1::2::3" = false := by
  decide +kernel

end Ipv6

end Rerouter
