import Concierge.Json.Reader
import Concierge.Text.Blank

/-!
# Numeric hosts

The grammars of numeric network addresses: four octets, or eight groups of up to four hexadecimal
digits of which one run may be left out, and whose last two groups may be written as four octets.
-/

namespace Concierge.Clean.Host

/-- An octet: one to three decimal digits without a leading zero, at most 255. -/
def isOctet (cs : List Char) : Bool :=
  !cs.isEmpty && cs.all Json.isAsciiDigit && cs.length ≤ 3 && (cs == ['0'] || cs.head? != some '0') &&
    cs.foldl (fun n c => 10 * n + (c.toNat - '0'.toNat)) 0 ≤ 255

/-- Four octets between dots. -/
def isFourOctets (cs : List Char) : Bool :=
  let parts := Text.split (· == '.') cs
  parts.length == 4 && parts.all isOctet

/-- One group of hexadecimal digits. -/
def isGroup (cs : List Char) : Bool :=
  !cs.isEmpty && cs.length ≤ 4 && cs.all fun c => (Json.hexValue? c).isSome

/-- The groups with a final part of four octets written as two groups; `none` when that part is
malformed. -/
def expanded? (parts : List (List Char)) : Option (List (List Char)) :=
  match parts.getLast? with
  | some final =>
    if final.contains '.' then
      if isFourOctets final then some (parts.dropLast ++ [['0'], ['0']]) else none
    else some parts
  | none => none

/-- The groups on one side of the run that is left out; an empty outermost part stands for no
group, and only alone. -/
def side? (parts : List (List Char)) (outer : Option (List Char)) : Option (List (List Char)) :=
  if outer == some [] then (if parts.length ≤ 1 then some [] else none) else some parts

/-- Groups between colons. -/
def isGroups (cs : List Char) : Bool :=
  let parts := Text.split (· == ':') cs
  if parts.length < 3 then false
  else
    match expanded? parts with
    | none => false
    | some parts =>
      let inner := parts.drop 1 |>.dropLast
      if 9 < parts.length then false
      else
        match inner.count [] with
        | 0 => parts.length == 8 && parts.all isGroup
        | 1 =>
          let before := parts.take (inner.idxOf [] + 1)
          let after := parts.drop (inner.idxOf [] + 2)
          match side? before before.head?, side? after after.getLast? with
          | some before, some after =>
            before.length + after.length < 8 && (before ++ after).all isGroup
          | _, _ => false
        | _ => false

/-- Groups between colons with an optional zone behind a percent sign. -/
def isZonedGroups (cs : List Char) : Bool :=
  match Text.split (· == '%') cs with
  | [groups] => isGroups groups
  | [groups, zone] => !zone.isEmpty && isGroups groups
  | _ => false

/-- An address of a later version: a `v`, hexadecimal digits, a dot, and at least one character. -/
def isFuture (cs : List Char) : Bool :=
  match cs with
  | 'v' :: rest =>
    let version := rest.takeWhile fun c => (Json.hexValue? c).isSome
    match rest.drop version.length with
    | '.' :: name => !version.isEmpty && !name.isEmpty
    | _ => false
  | _ => false

end Concierge.Clean.Host
