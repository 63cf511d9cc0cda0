import Mathlib.Data.List.Basic

/-!
Executable `LocalOnlyMiddleware` of `web/server/middleware.go` with what it uses of the
Go standard library: `net.SplitHostPort`, `net.ParseIP` over `netip.ParseAddr`, and the
predicates of `net.IP`. Texts are lists of characters; an address is a slice of bytes.
-/

namespace EdgeHealthd

abbrev IP := List UInt8

def mappedLead : IP := [0, 0, 0, 0, 0, 0, 0, 0, 0, 0, 0xff, 0xff]

def ipv6Loopback : IP := [0, 0, 0, 0, 0, 0, 0, 0, 0, 0, 0, 0, 0, 0, 0, 1]

/-- The four bytes of an IPv4 address, also in mapped form. -/
def IP.to4 (ip : IP) : Option IP :=
  if ip.length = 4 then some ip
  else if ip.length = 16 ∧ ip.take 12 = mappedLead then some (ip.drop 12)
  else none

def IP.to16 (ip : IP) : Option IP :=
  if ip.length = 4 then some (mappedLead ++ ip)
  else if ip.length = 16 then some ip
  else none

def IP.byte (ip : IP) (index : Nat) : UInt8 := ip.getD index 0

namespace IP

def isLoopback (ip : IP) : Bool :=
  match ip.to4 with
  | some ip4 => byte ip4 0 == 127
  | none => ip == ipv6Loopback

def isLinkLocalUnicast (ip : IP) : Bool :=
  match ip.to4 with
  | some ip4 => byte ip4 0 == 169 && byte ip4 1 == 254
  | none => ip.length == 16 && ip.byte 0 == 0xfe && ip.byte 1 &&& 0xc0 == 0x80

def isLinkLocalMulticast (ip : IP) : Bool :=
  match ip.to4 with
  | some ip4 => byte ip4 0 == 224 && byte ip4 1 == 0 && byte ip4 2 == 0
  | none => ip.length == 16 && ip.byte 0 == 0xff && ip.byte 1 &&& 0x0f == 0x02

def isMulticast (ip : IP) : Bool :=
  match ip.to4 with
  | some ip4 => byte ip4 0 &&& 0xf0 == 0xe0
  | none => ip.length == 16 && ip.byte 0 == 0xff

def isPrivate (ip : IP) : Bool :=
  match ip.to4 with
  | some ip4 => byte ip4 0 == 10 ||
      (byte ip4 0 == 172 && byte ip4 1 &&& 0xf0 == 16) ||
      (byte ip4 0 == 192 && byte ip4 1 == 168)
  | none => ip.length == 16 && ip.byte 0 &&& 0xfe == 0xfc

end IP

def isPrivateIP (ip : Option IP) : Bool :=
  match ip with
  | none => false
  | some ip =>
      if ip.isLoopback then true
      else if ip.isLinkLocalUnicast || ip.isLinkLocalMulticast then true
      else if ip.to4.any fun ip4 => ip4.byte 0 == 10 then true
      else if ip.to4.any fun ip4 =>
        ip4.byte 0 == 172 && ip4.byte 1 ≥ 16 && ip4.byte 1 ≤ 31 then true
      else if ip.to4.any fun ip4 => ip4.byte 0 == 192 && ip4.byte 1 == 168 then true
      else if ip.to4.any fun ip4 => ip4.byte 0 == 127 then true
      else if ip.to4.isNone && ip.to16.any fun ip6 => ip6.byte 0 == 0xfd then true
      else if ip.to4.isNone && ip.to16.any fun ip6 =>
        ip6.byte 0 == 0xfe && ip6.byte 1 &&& 0xc0 == 0x80 then true
      else ip.isPrivate

namespace Netip

/-- The fields of a dotted address. The value of the current field, the number of its
digits and the fields before it are carried along. -/
def parseIPv4Fields : List Char → Nat → Nat → List UInt8 → Option (List UInt8)
  | [], value, _, fields =>
      if fields.length < 3 then none else some (fields ++ [UInt8.ofNat value])
  | char :: rest, value, digits, fields =>
      if char.isDigit then
        if digits = 1 ∧ value = 0 then none
        else
          let next := value * 10 + (char.toNat - '0'.toNat)
          if next > 255 then none else parseIPv4Fields rest next (digits + 1) fields
      else if char = '.' then
        if digits = 0 ∨ rest = [] then none
        else if fields.length = 3 then none
        else parseIPv4Fields rest 0 0 (fields ++ [UInt8.ofNat value])
      else none

def isHexDigit (char : Char) : Bool :=
  char.isDigit || ('a' ≤ char && char ≤ 'f') || ('A' ≤ char && char ≤ 'F')

def hexValue (char : Char) : Nat :=
  if char.isDigit then char.toNat - '0'.toNat
  else if 'a' ≤ char && char ≤ 'f' then char.toNat - 'a'.toNat + 10
  else char.toNat - 'A'.toNat + 10

def hexGroup (digits : List Char) : List UInt8 :=
  let acc := digits.foldl (fun acc char => acc * 16 + hexValue char) 0
  [UInt8.ofNat (acc / 256), UInt8.ofNat (acc % 256)]

/-- The loop over the groups: the text that is left, the bytes so far and the place of
the `::` in them. There are `groups` more groups to fill. -/
def parseIPv6Groups : Nat → List Char → List UInt8 → Option Nat →
    Option (List Char × List UInt8 × Option Nat)
  | 0, text, ip, ellipsis => some (text, ip, ellipsis)
  | groups + 1, text, ip, ellipsis =>
      let digits := text.takeWhile isHexDigit
      if digits = [] ∨ digits.length > 4 then none
      else
        let filled := ip ++ hexGroup digits
        match text.dropWhile isHexDigit with
        | [] => some ([], filled, ellipsis)
        | [':'] => none
        | ':' :: ':' :: rest =>
            if ellipsis.isSome then none
            else if rest = [] then some ([], filled, some filled.length)
            else parseIPv6Groups groups rest filled (some filled.length)
        | ':' :: rest => parseIPv6Groups groups rest filled ellipsis
        | '.' :: _ =>
            if (ellipsis = none ∧ ip.length ≠ 12) ∨ ip.length + 4 > 16 then none
            else (parseIPv4Fields text 0 0 []).map fun fields => ([], ip ++ fields, ellipsis)
        | _ :: _ => none

def expandEllipsis : List Char × List UInt8 × Option Nat → Option (List UInt8)
  | (text, ip, ellipsis) =>
      if text ≠ [] then none
      else match ellipsis with
        | none => if ip.length < 16 then none else some ip
        | some place =>
            if ip.length < 16 then
              some (ip.take place ++ List.replicate (16 - ip.length) 0 ++ ip.drop place)
            else none

def parseIPv6Address : List Char → Option (List UInt8)
  | [':', ':'] => some (List.replicate 16 0)
  | ':' :: ':' :: rest => (parseIPv6Groups 8 rest [] (some 0)).bind expandEllipsis
  | text => (parseIPv6Groups 8 text [] none).bind expandEllipsis

def parseIPv6 (text : List Char) : Option (List UInt8 × List Char) :=
  let zone := (text.dropWhile (· != '%')).drop 1
  if '%' ∈ text ∧ zone = [] then none
  else (parseIPv6Address (text.takeWhile (· != '%'))).map fun ip => (ip, zone)

def isSeparator (char : Char) : Bool := char == '.' || char == ':' || char == '%'

def parseAddr (text : List Char) : Option (List UInt8 × List Char) :=
  match text.find? isSeparator with
  | some '.' => (parseIPv4Fields text 0 0 []).map fun fields => (mappedLead ++ fields, [])
  | some ':' => parseIPv6 text
  | _ => none

end Netip

namespace Net

-- An address with a zone is no `net.IP`.
def parseIP (text : List Char) : Option IP :=
  match Netip.parseAddr text with
  | some (ip, []) => some ip
  | _ => none

def splitLastColon (text : List Char) : Option (List Char × List Char) :=
  if ':' ∈ text then
    let port := (text.reverse.takeWhile (· != ':')).reverse
    some (text.take (text.length - port.length - 1), port)
  else none

def splitHostPort (hostport : List Char) : Option (List Char × List Char) :=
  match splitLastColon hostport with
  | none => none
  | some (before, port) =>
      match hostport with
      | '[' :: rest =>
          -- The first `]` has to stand just before the last colon.
          let host := rest.takeWhile (· != ']')
          if before = '[' :: host ++ [']'] ∧ '[' ∉ rest ∧ ']' ∉ port then some (host, port)
          else none
      | _ =>
          if ':' ∈ before ∨ '[' ∈ hostport ∨ ']' ∈ hostport then none else some (before, port)

end Net

def getClientIP (remoteAddr : List Char) : Option IP :=
  match Net.splitHostPort remoteAddr with
  | some (host, _) => Net.parseIP host
  | none => Net.parseIP remoteAddr

inductive Handled where
  | next
  | error (text : String) (code : Nat)
  deriving DecidableEq

def statusForbidden : Nat := 403

def localOnlyMiddleware (remoteAddr : List Char) : Handled :=
  match getClientIP remoteAddr with
  | none => .error "Forbidden: unable to determine client IP" statusForbidden
  | some clientIP =>
      if !isPrivateIP (some clientIP) then
        .error "Forbidden: access restricted to local network" statusForbidden
      else .next

end EdgeHealthd
