import Provisioner.Text.Base64
/-!
# Labelled blocks of base64

A text may hold blocks between two marker lines that carry a label, with bytes in base64 between
them.  What stands around the blocks does not matter.
-/

namespace Provisioner.Text.Pem

open Utf8 (Bytes)

/-- A block. -/
structure Block where
  /-- What the block holds. -/
  label : String
  content : Bytes
deriving DecidableEq

/-- What stands before and after the first occurrence of a text in another. -/
def splitAt? (part : List Char) : List Char → Option (List Char × List Char)
  | [] => none
  | c :: rest =>
    if part.isPrefixOf (c :: rest) then some ([], (c :: rest).drop part.length)
    else (splitAt? part rest).map fun (left, right) => (c :: left, right)

/-- Blanks and line breaks. -/
def isSpace (c : Char) : Bool := c == ' ' || c == '\t' || c == '\n' || c == '\r'

/-- The next block of a text and what follows it; nothing when the markers of a block do not
follow. -/
def next? (text : List Char) : Option ((List Char × List Char × List Char) × List Char) := do
  let (_, text) ← splitAt? "-----BEGIN ".toList text
  let (label, text) ← splitAt? "-----".toList text
  let (content, text) ← splitAt? "-----END ".toList text
  let (last, text) ← splitAt? "-----".toList text
  return ((label, content.filter fun c => !isSpace c, last), text)

/-- The blocks of a text; nothing when the markers of one differ or it holds no bytes. -/
def blocksOf? : Nat → List Char → Option (List Block)
  | 0, _ => some []
  | n + 1, text =>
    match next? text with
    | none => some []
    | some ((label, content, last), rest) =>
      if label.isEmpty || label != last || content.isEmpty then none
      else do
        let bytes ← Base64.decode? content
        let others ← blocksOf? n rest
        return ⟨String.ofList label, bytes⟩ :: others

/-- The blocks of a text. -/
def blocks? (text : List Char) : Option (List Block) := blocksOf? text.length text

/-- The content of the certificates among blocks. -/
def certificates (blocks : List Block) : List Bytes :=
  (blocks.filter fun b => b.label == "CERTIFICATE").map (·.content)

/-- Whether there is a private key among blocks. -/
def hasPrivateKey (blocks : List Block) : Bool :=
  blocks.any fun b =>
    b.label == "PRIVATE KEY" || b.label == "RSA PRIVATE KEY" || b.label == "EC PRIVATE KEY"

/-- Whether bytes are one structure of certificates: a mark, a length and as many bytes. -/
def isStructure (bytes : Bytes) : Bool :=
  match bytes with
  | 0x30 :: n :: rest =>
    if n < 0x80 then rest.length == n.toNat
    else
      let width := n.toNat - 0x80
      let length := (rest.take width).foldl (fun length b => length * 256 + b.toNat) 0
      width ≤ 4 && (rest.drop width).length == length
  | _ => false

end Provisioner.Text.Pem
