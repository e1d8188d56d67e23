import LintBridge.Fault

/-!
The network location of a URI: when it is refused. Brackets have to be balanced and stand around
the whole host, which then has to be an address of version 6 or of a later version; no character
may fold to a separator when it is brought into its compatibility form.
-/
namespace LintBridge.Uri

/-- A part of a version 4 address: up to three digits, at most 255, without a leading zero. -/
def isOctet (cs : List Char) : Bool :=
  !cs.isEmpty && cs.all Char.isDigit && cs.length ≤ 3 && (cs == ['0'] || cs.head? != some '0')
    && cs.foldl (fun n c => n * 10 + (c.toNat - 48)) 0 ≤ 255

def isAddress4 (cs : List Char) : Bool :=
  let parts := cs.splitOn '.'
  parts.length == 4 && parts.all isOctet

/-- A part of a version 6 address: up to four hexadecimal digits. -/
def isHextet (cs : List Char) : Bool :=
  !cs.isEmpty && cs.length ≤ 4 && cs.all fun c => (Json.hexValue? c).isSome

/-- The parts of a version 6 address; a version 4 address at the end counts as two. -/
def hextets? (cs : List Char) : Option (List (List Char)) :=
  let parts := cs.splitOn ':'
  if parts.length < 3 then none
  else
    let last := parts.getLastD []
    if last.contains '.' then
      if isAddress4 last then some (parts.dropLast ++ [['0'], ['0']]) else none
    else some parts

/-- Are these the parts of a version 6 address? One run of parts may be left out. -/
def areHextets (parts : List (List Char)) : Bool :=
  let inner := parts.tail.dropLast
  let gaps := inner.filter List.isEmpty
  if 9 < parts.length || 1 < gaps.length then false
  else if gaps.isEmpty then parts.length == 8 && parts.all isHextet
  else
    let before := parts.takeWhile (!·.isEmpty)
    let high := if (parts.headD []).isEmpty then [] else before
    let low := parts.reverse.takeWhile (!·.isEmpty)
    let startFits := !(parts.headD []).isEmpty || (inner.headD ['0']).isEmpty
    let endFits := !(parts.getLastD []).isEmpty || (inner.getLastD ['0']).isEmpty
    startFits && endFits && high.length + low.length < 8 && high.all isHextet && low.all isHextet

/-- An address of version 6, possibly with a zone after a percent sign. -/
def isAddress6 (cs : List Char) : Bool :=
  let address := cs.takeWhile (· != '%')
  let zone := cs.drop address.length
  let zoneFits := zone.isEmpty || (1 < zone.length && !zone.tail.contains '%')
  zoneFits && !cs.contains '/' && ((hextets? address).map areHextets).getD false

/-- An address of a later version: `v`, hexadecimal digits, a point and anything. -/
def isFutureAddress (cs : List Char) : Bool :=
  match cs with
  | 'v' :: rest =>
    let digits := rest.takeWhile fun c => (Json.hexValue? c).isSome
    match rest.drop digits.length with
    | '.' :: _ :: _ => !digits.isEmpty
    | _ => false
  | _ => false

def hostFlaw? (host : List Char) : Option HostFlaw :=
  if host.head? == some 'v' then
    if isFutureAddress host then none else some .badFutureAddress
  else if isAddress4 host then some .plainAddressInBrackets
  else if isAddress6 host then none
  else some (.notAnAddress (String.ofList host))

/-- The characters whose compatibility form holds a slash, a question mark, a number sign, an at
sign or a colon. -/
def foldingCodes : List Nat := [
  0x2047, 0x2048, 0x2049, 0x2100, 0x2101, 0x2105, 0x2106, 0x2A74, 0xFE13, 0xFE16, 0xFE55, 0xFE56,
  0xFE5F, 0xFE6B, 0xFF03, 0xFF0F, 0xFF1A, 0xFF1F, 0xFF20]

/-- The host of a network location and the number after it: what follows the last at sign. -/
def hostAndNumber (location : List Char) : List Char :=
  (location.reverse.takeWhile (· != '@')).reverse

/-- What is wrong with a host and number of a network location that holds brackets. Nothing may stand
before an opening bracket, and only a colon and a number after the closing one. -/
def bracketFlaw? (cs : List Char) : Option HostFlaw :=
  let before := cs.takeWhile (· != '[')
  match cs.drop before.length with
  | [] => hostFlaw? (cs.takeWhile (· != ':'))
  | _ :: bracketed =>
    let host := bracketed.takeWhile (· != ']')
    match before, bracketed.drop (host.length + 1) with
    | [], [] | [], ':' :: _ => hostFlaw? host
    | _, _ => some .unbalancedBrackets

/-- What is wrong with the brackets of a network location. -/
def locationFlaw? (location : List Char) : Option HostFlaw :=
  match location.contains '[', location.contains ']' with
  | true, true => bracketFlaw? (hostAndNumber location)
  | false, false => none
  | _, _ => some .unbalancedBrackets

/-- Does a character of the location fold to a separator? -/
def foldFlaw? (location : List Char) : Option HostFlaw :=
  if location.any fun c => foldingCodes.contains c.toNat then
    some (.foldsToSeparator (String.ofList location))
  else none

end LintBridge.Uri
