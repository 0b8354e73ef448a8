import Provisioner.Text.Utf8
/-!
# Addresses of servers

Whether a text is an address that a request can be sent to: a scheme for the web, perhaps a user,
a host, perhaps the number of a service, and a path.  Reading is forgiving in the way of the URL
standard: blanks around the text, line breaks inside it, slashes of either slant and any number of
them after the scheme are all passed over.  The host is a name, an address of four numbers, or one
in brackets.
-/

namespace Provisioner.Http.Address

open Text.Utf8 (Bytes)

/-! ## Scheme -/

/-- Control characters and the blank, which are dropped at both ends of an address. -/
def isEdge (c : Char) : Bool := c.toNat ≤ 0x20

/-- An address without what is passed over in it. -/
def clean (text : List Char) : List Char :=
  ((text.dropWhile isEdge).reverse.dropWhile isEdge).reverse.filter fun c =>
    !(c == '\t' || c == '\n' || c == '\r')

/-- Characters of a scheme after its first letter. -/
def isSchemeChar (c : Char) : Bool := c.isAlphanum || c == '+' || c == '-' || c == '.'

/-- The scheme of an address in small letters and what follows its colon. -/
def scheme? (text : List Char) : Option (String × List Char) :=
  match text with
  | c :: _ =>
    if c.isAlpha then
      match text.dropWhile isSchemeChar with
      | ':' :: rest =>
        some (String.ofList ((text.takeWhile isSchemeChar).map Char.toLower), rest)
      | _ => none
    else none
  | [] => none

/-- Whether a request can be sent by a scheme. -/
def isWebScheme (scheme : String) : Bool := scheme == "http" || scheme == "https"

/-! ## Numbers in hosts -/

/-- The value of a digit. -/
def digitValue (c : Char) : Nat :=
  if c.isDigit then c.toNat - 48
  else if 'a' ≤ c ∧ c ≤ 'f' then c.toNat - 87
  else if 'A' ≤ c ∧ c ≤ 'F' then c.toNat - 55
  else 16

/-- The value of a text of digits, if all of them are digits of a base. -/
def natural? (base : Nat) (digits : List Char) : Option Nat :=
  if digits.all fun c => digitValue c < base then
    some (digits.foldl (fun n c => n * base + digitValue c) 0)
  else none

/-- A part of an address of four numbers: decimal, octal after a zero, or hexadecimal. -/
def part? (text : List Char) : Option Nat :=
  match text with
  | [] => none
  | '0' :: 'x' :: digits | '0' :: 'X' :: digits => natural? 16 digits
  | '0' :: digit :: digits => natural? 8 (digit :: digits)
  | digits => natural? 10 digits

/-- The labels of a host, without the empty one after a dot that ends it. -/
def labels (host : List Char) : List (List Char) :=
  let all := host.splitOn '.'
  if 1 < all.length ∧ all.getLast? = some [] then all.dropLast else all

/-- Whether a host has to be read as an address of four numbers: its last label is a number. -/
def endsInNumber (host : List Char) : Bool :=
  match (labels host).getLast? with
  | some label => !label.isEmpty && (label.all Char.isDigit || (part? label).isSome)
  | none => false

/-- Whether a host is an address of up to four numbers, of which the last one may stand for
several bytes. -/
def isV4 (host : List Char) : Bool :=
  match (labels host).mapM part? with
  | none => false
  | some numbers =>
    match numbers.reverse with
    | [] => false
    | last :: others =>
      others.length < 4 && others.all (· < 256) && last < Nat.pow 256 (4 - others.length)

/-- Whether a text is a byte in decimal without a needless zero. -/
def isByte (text : List Char) : Bool :=
  !text.isEmpty && text.length ≤ 3 && (text.length = 1 || text.head? != some '0') &&
    match natural? 10 text with
    | some n => n < 256
    | none => false

/-- How many 16-bit groups the pieces between colons stand for; the last of them all may be an
address of four numbers. -/
def groups? : List (List Char) → Option Nat
  | [] => some 0
  | [piece] =>
    if piece.contains '.' then
      let bytes := piece.splitOn '.'
      if bytes.length = 4 ∧ bytes.all isByte then some 2 else none
    else group? piece
  | piece :: rest => do
    let first ← group? piece
    let others ← groups? rest
    return first + others
where
  /-- One group of hexadecimal digits. -/
  group? (piece : List Char) : Option Nat :=
    if 1 ≤ piece.length ∧ piece.length ≤ 4 ∧ (natural? 16 piece).isSome then some 1 else none

/-- What stands before and after the first two colons in a row. -/
def splitGap : List Char → Option (List Char × List Char)
  | ':' :: ':' :: rest => some ([], rest)
  | c :: rest => (splitGap rest).map fun (left, right) => (c :: left, right)
  | [] => none

/-- The pieces of a text between colons; an empty text has none. -/
def colonPieces (text : List Char) : List (List Char) :=
  if text.isEmpty then [] else text.splitOn ':'

/-- Whether the text in brackets is an address of eight groups, a gap standing for those of zero. -/
def isV6 (text : List Char) : Bool :=
  match splitGap text with
  | none => groups? (colonPieces text) = some 8
  | some (left, right) =>
    !left.contains '.' &&
      match groups? (colonPieces left), groups? (colonPieces right) with
      | some m, some n => m + n < 8
      | _, _ => false

/-! ## Host and service -/

/-- Bytes of a host with its percent signs resolved. -/
def percentDecode : List Char → Bytes
  | '%' :: a :: b :: rest =>
    if digitValue a < 16 ∧ digitValue b < 16 then
      UInt8.ofNat (digitValue a * 16 + digitValue b) :: percentDecode rest
    else 37 :: percentDecode (a :: b :: rest)
  | c :: rest => Text.Utf8.encodeChar c ++ percentDecode rest
  | [] => []
termination_by text => text.length

/-- Characters that no name of a host holds. -/
def isForbidden (c : Char) : Bool :=
  c.toNat ≤ 0x20 || c.toNat == 0x7F || "\"#%/:<>?@[\\]^`\x7b|\x7d".toList.contains c

/-- Whether a text is a host. -/
def isHost (text : List Char) : Bool :=
  match text with
  | '[' :: inner =>
    inner.getLast? == some ']' && isV6 inner.dropLast
  | _ =>
    match Text.Utf8.decode? (percentDecode text) with
    | none => false
    | some host =>
      !host.isEmpty && !host.any isForbidden && (!endsInNumber host || isV4 host)

/-- Whether a text is the number of a service; an empty one stands for that of the scheme. -/
def isService (text : List Char) : Bool :=
  match natural? 10 text with
  | some n => n ≤ 65535
  | none => false

/-- The host and the text after the colon that follows it, if there is one. -/
def splitService : List Char → List Char × Option (List Char)
  | text =>
    let inner := text.takeWhile (· != ']')
    let bracketed := text.head? == some '[' && inner.length < text.length
    let start := if bracketed then inner ++ [']'] else []
    let rest := text.drop start.length
    let name := rest.takeWhile (· != ':')
    match rest.drop name.length with
    | _ :: service => (start ++ name, some service)
    | [] => (start ++ name, none)

/-- What follows the last at sign of an authority: the user in front of it does not matter. -/
def withoutUser (authority : List Char) : List Char :=
  (authority.reverse.takeWhile (· != '@')).reverse

/-- Whether a text names a host and perhaps a service. -/
def isAuthority (text : List Char) : Bool :=
  let (host, service) := splitService (withoutUser text)
  isHost host && (service.map isService).getD true

/-- Slashes of either slant. -/
def isSlash (c : Char) : Bool := c == '/' || c == '\\'

/-- Whether a request can be sent to an address. -/
def isUsable (address : String) : Bool :=
  match scheme? (clean address.toList) with
  | none => false
  | some (scheme, rest) =>
    isWebScheme scheme &&
      isAuthority ((rest.dropWhile isSlash).takeWhile fun c =>
        !(isSlash c || c == '?' || c == '#'))

end Provisioner.Http.Address
