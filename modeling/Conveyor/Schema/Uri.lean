import Conveyor.Failure
import Conveyor.Text.Hex
import Conveyor.Text.Utf8

/-!
# Addresses of schemas

A schema may have an address, and a reference to a schema is an address that may leave out what it
has in common with the address of the schema it stands in.  An address has a scheme, the name of a
host, a path, a query and a fragment; every part may be missing.
-/

set_option autoImplicit false

namespace Conveyor.Schema

/-- The parts of an address. -/
structure Uri where
  scheme : List Char
  host : List Char
  path : List Char
  query : List Char
  fragment : List Char
  deriving DecidableEq, Repr

namespace Uri

/-- Schemes whose addresses can leave out parts. -/
def relativeSchemes : List String :=
  ["", "ftp", "http", "gopher", "nntp", "imap", "wais", "file", "https", "shttp", "mms",
   "prospero", "rtsp", "rtsps", "rtspu", "sftp", "svn", "svn+ssh", "ws", "wss"]

/-- Schemes whose addresses name a host. -/
def hostSchemes : List String :=
  ["", "ftp", "http", "gopher", "nntp", "telnet", "imap", "wais", "file", "mms", "https", "shttp",
   "snews", "prospero", "rtsp", "rtsps", "rtspu", "rsync", "svn", "svn+ssh", "sftp", "nfs", "git",
   "git+ssh", "ws", "wss"]

/-- Whether a scheme is one of a row. -/
def isAmong (scheme : List Char) (row : List String) : Bool := row.contains (String.ofList scheme)

/-- A text up to a character, and what follows that character. -/
def cutAt (c : Char) (s : List Char) : List Char × List Char :=
  (s.takeWhile (· ≠ c), (s.dropWhile (· ≠ c)).drop 1)

/-- Whether a character can be part of a scheme. -/
def isSchemeChar (c : Char) : Bool := c.isAlphanum || "+-.".toList.contains c

/-- The scheme of an address, if it has one, and the rest. -/
def cutScheme (fallback s : List Char) : List Char × List Char :=
  let name := s.takeWhile (· ≠ ':')
  if name.length < s.length && (name.head?.any Char.isAlpha) && name.all isSchemeChar then
    (name.map Char.toLower, s.drop (name.length + 1))
  else (fallback, s)

/-- The host of an address, if it has one, and the rest. -/
def cutHost (s : List Char) : Except Failure (List Char × List Char) :=
  match s with
  | '/' :: '/' :: rest =>
    let host := rest.takeWhile fun c => !"/?#".toList.contains c
    if host.contains '[' != host.contains ']' then .error (.badContent "Invalid IPv6 URL")
    else .ok (host, rest.drop host.length)
  | _ => .ok ([], s)

/-- An address without characters that never count in it. -/
def cleaned (s : List Char) : List Char :=
  (s.dropWhile (·.toNat ≤ 0x20)).filter fun c => !"\t\r\n".toList.contains c

/-- The parts of an address; `fallback` is its scheme if it names none. -/
def ofText (fallback s : List Char) : Except Failure Uri := do
  let (scheme, rest) := cutScheme fallback (cleaned s)
  let (host, rest) ← cutHost rest
  let (rest, fragment) := cutAt '#' rest
  let (path, query) := cutAt '?' rest
  return { scheme, host, path, query, fragment }

/-- A part of an address with the character before it, if there is such a part. -/
def marked (mark : Char) (part : List Char) : List Char := if part.isEmpty then [] else mark :: part

/-- The text of an address. -/
def text (u : Uri) : List Char :=
  let hasHost := !u.host.isEmpty || (!u.scheme.isEmpty && isAmong u.scheme hostSchemes)
    || ['/', '/'].isPrefixOf u.path
  let path :=
    if hasHost then
      let path := if u.path.isEmpty || u.path.head? = some '/' then u.path else '/' :: u.path
      '/' :: '/' :: u.host ++ path
    else u.path
  (if u.scheme.isEmpty then [] else u.scheme ++ [':']) ++ path
    ++ marked '?' u.query ++ marked '#' u.fragment

/-- The steps of a path with those that go nowhere or back carried out. -/
def walked (steps : List (List Char)) : List (List Char) :=
  let kept := steps.foldl (fun row step =>
    if step = ['.', '.'] then row.dropLast else if step = ['.'] then row else row ++ [step]) []
  if steps.getLast?.any fun step => step = ['.', '.'] || step = ['.'] then kept ++ [[]] else kept

/-- A row without empty steps other than the first and the last one. -/
def withoutInnerBlanks (steps : List (List Char)) : List (List Char) :=
  match steps with
  | [] => []
  | first :: rest => first :: (rest.dropLast.filter (!·.isEmpty)) ++ rest.getLast?.toList

/-- A path that starts from another one. -/
def joinPaths (base path : List Char) : List Char :=
  let own := path.splitOn '/'
  let steps :=
    if path.head? = some '/' then own
    else
      let start := base.splitOn '/'
      let start := if start.getLast? = some [] then start else start.dropLast
      withoutInnerBlanks (start ++ own)
  let joined := ['/'].intercalate (walked steps)
  if joined.isEmpty then ['/'] else joined

/-- The full form of an address that stands in a schema with another one. -/
def join (base address : List Char) : Except Failure (List Char) := do
  if base.isEmpty then return address
  else if address.isEmpty then return base
  else
    let b ← ofText [] base
    let u ← ofText b.scheme address
    if u.scheme ≠ b.scheme || !isAmong u.scheme relativeSchemes then return address
    else if isAmong u.scheme hostSchemes && !u.host.isEmpty then return u.text
    else
      let u := if isAmong u.scheme hostSchemes then { u with host := b.host } else u
      if u.path.isEmpty then
        return text { u with path := b.path, query := if u.query.isEmpty then b.query else u.query }
      else return text { u with path := joinPaths b.path u.path }

/-- An address without its fragment, and the fragment. -/
def cutFragment (address : List Char) : Except Failure (List Char × List Char) := do
  if address.contains '#' then
    let u ← ofText [] address
    return (text { u with fragment := [] }, u.fragment)
  else return (address, [])

/-- The octets of characters in which two hexadecimal digits after a percent sign stand for one
octet. -/
def octets : List Char → List Nat
  | '%' :: a :: b :: rest =>
    match Text.hexValue? a, Text.hexValue? b with
    | some x, some y => (x * 16 + y) :: octets rest
    | _, _ => 0x25 :: octets (a :: b :: rest)
  | c :: rest => c.toNat :: octets rest
  | [] => []

/-- Whether a character belongs to ASCII. -/
def isAscii (c : Char) : Bool := c.toNat < 0x80

/-- A text with its percent escapes undone.  Characters beyond ASCII stand for themselves. -/
def unescaped (s : List Char) : List Char :=
  (s.splitBy fun a b => isAscii a == isAscii b).flatMap fun run =>
    if run.all isAscii then Text.Utf8.decode (octets run) else run

end Uri

end Conveyor.Schema
