import Provisioner.Http.Endpoint
import Provisioner.Json.Printer
/-!
# Messages as bytes

How a request is written on a connection that is used for it alone, and how its answer is read from
all that came back before the server ended the connection.  The body of an answer is a sequence of
chunks, or as long as the head says, or all that follows the head.
-/

namespace Provisioner.Http

open Text.Utf8 (Bytes)

/-! ## Requests -/

/-- A line of a head. -/
def headLine (text : String) : String := text ++ "\r\n"

/-- A field of a head, if it is given. -/
def headField (name : String) (value : Option String) : String :=
  (value.map fun text => headLine (name ++ ": " ++ text)).getD ""

/-- The bytes of a request for a target to a server of a name. -/
def Request.bytes (r : Request) (server target : String) : Bytes :=
  let body := (r.body.map fun value => Text.Utf8.bytes value.text).getD []
  Text.Utf8.bytes
    (headLine (r.method.text ++ " " ++ target ++ " HTTP/1.1") ++
      headField "host" (some server) ++
      headField "connection" (some "close") ++
      headField "accept" (some "*/*") ++
      headField "authorization" r.authorization ++
      headField "content-type" r.contentType ++
      headField "content-length" (r.body.map fun _ => toString body.length) ++
      headLine "") ++ body

/-! ## Answers -/

/-- The first line of a text, without its end, and what follows it. -/
def readLine? : (bytes : Bytes) → Option (Bytes × { rest : Bytes // rest.length < bytes.length })
  | [] => none
  | 10 :: rest => some ([], ⟨rest, by simp⟩)
  | 13 :: 10 :: rest => some ([], ⟨rest, by simp only [List.length_cons]; omega⟩)
  | b :: more => do
    let (line, ⟨rest, h⟩) ← readLine? more
    return (b :: line, ⟨rest, by simp only [List.length_cons]; omega⟩)

/-- The lines of a head up to the empty line that ends it, and what follows that. -/
def readHead? (bytes : Bytes) : Option (List Bytes × Bytes) := do
  match ← readLine? bytes with
  | ([], ⟨rest, _⟩) => return ([], rest)
  | (line, ⟨rest, _⟩) =>
    let (lines, rest) ← readHead? rest
    return (line :: lines, rest)
termination_by bytes.length

/-- Whether a byte is a blank or a tab. -/
def isBlankByte (b : UInt8) : Bool := b == 32 || b == 9

/-- A text without blanks at both ends. -/
def trimBlanks (bytes : Bytes) : Bytes :=
  ((bytes.dropWhile isBlankByte).reverse.dropWhile isBlankByte).reverse

/-- The characters of bytes, one for each. -/
def charsOf (bytes : Bytes) : List Char := bytes.map fun b => Char.ofNat b.toNat

/-- The name of a field in small letters, and its value. -/
def field? (line : Bytes) : Option (String × String) :=
  match Text.splitFirst ':' (charsOf line) with
  | some (name, _) =>
    some (String.ofList (name.map Char.toLower),
      String.ofList (charsOf (trimBlanks (line.drop (name.length + 1)))))
  | none => none

/-- The status code in the first line of an answer. -/
def status? (line : Bytes) : Option Nat :=
  match charsOf line with
  | 'H' :: 'T' :: 'T' :: 'P' :: '/' :: '1' :: '.' :: minor :: ' ' :: a :: b :: c :: rest =>
    if minor.isDigit ∧ (rest.head?.map (· == ' ')).getD true then Address.natural? 10 [a, b, c]
    else none
  | _ => none

/-- The size in the line before a chunk. -/
def chunkSize? (line : Bytes) : Option Nat :=
  let digits := (charsOf line).takeWhile fun c => Address.digitValue c < 16
  if digits.isEmpty then none else Address.natural? 16 digits

/-- The content of a sequence of chunks; the last one is empty. -/
def readChunks? (bytes : Bytes) : Option Bytes := do
  let (line, ⟨rest, _⟩) ← readLine? bytes
  match ← chunkSize? line with
  | 0 => return []
  | size =>
    if rest.length < size then failure
    match ← readLine? (rest.drop size) with
    | ([], ⟨more, h⟩) =>
      have : more.length < bytes.length := by simp only [List.length_drop] at h; omega
      return rest.take size ++ (← readChunks? more)
    | _ => failure
termination_by bytes.length

/-- The body of an answer with the fields of its head. -/
def readBody? (fields : List (String × String)) (bytes : Bytes) : Option Bytes :=
  match fields.lookup "transfer-encoding", fields.lookup "content-length" with
  | some _, _ => readChunks? bytes
  | none, some length => do
    let n ← Address.natural? 10 length.toList
    if bytes.length < n then failure
    return bytes.take n
  | none, none => some bytes

/-- An answer from the bytes of a connection.  Answers before the final one are passed over. -/
def Response.ofBytes? (bytes : Bytes) : Option Response :=
  go (bytes.length + 1) bytes
where
  /-- Read up to `n` answers. -/
  go : Nat → Bytes → Option Response
    | 0, _ => none
    | n + 1, bytes => do
      let (lines, rest) ← readHead? bytes
      let status ← lines.head?.bind status?
      if 100 ≤ status ∧ status < 200 then go n rest
      else if status = 204 ∨ status = 304 then return { status, body := "" }
      else
        let body ← readBody? (lines.tail.filterMap field?) rest
        return { status, body := Text.Utf8.lossy body }

end Provisioner.Http
