/-!
# UTF-8

Bytes of a text and the text of bytes.  Decoding is strict: it refuses overlong forms, surrogates,
code points past the last plane, stray continuation bytes and forms that end early, so a byte
sequence has at most one text.
-/

namespace Provisioner.Text.Utf8

/-- Bytes in order, as read from a file or a connection. -/
abbrev Bytes := List UInt8

/-- The bytes of one character. -/
def encodeChar (c : Char) : Bytes :=
  let n := c.toNat
  if n < 0x80 then [UInt8.ofNat n]
  else if n < 0x800 then [UInt8.ofNat (0xC0 + n / 0x40), UInt8.ofNat (0x80 + n % 0x40)]
  else if n < 0x10000 then
    [UInt8.ofNat (0xE0 + n / 0x1000), UInt8.ofNat (0x80 + n / 0x40 % 0x40),
      UInt8.ofNat (0x80 + n % 0x40)]
  else
    [UInt8.ofNat (0xF0 + n / 0x40000), UInt8.ofNat (0x80 + n / 0x1000 % 0x40),
      UInt8.ofNat (0x80 + n / 0x40 % 0x40), UInt8.ofNat (0x80 + n % 0x40)]

/-- The bytes of a text. -/
def encode (text : List Char) : Bytes := text.flatMap encodeChar

/-- The bytes of a string. -/
def bytes (s : String) : Bytes := encode s.toList

/-- The six bits that a continuation byte carries. -/
def continuation? (b : UInt8) : Option Nat :=
  if 0x80 ≤ b.toNat ∧ b.toNat < 0xC0 then some (b.toNat - 0x80) else none

/-- The character of a code point, unless it is a surrogate or past the last plane. -/
def scalar? (n : Nat) : Option Char :=
  if h : n.isValidChar then some (Char.ofNatAux n h) else none

/-- The text of a byte sequence, if it is one. -/
def decode? : Bytes → Option (List Char)
  | [] => some []
  | a :: rest =>
    if a.toNat < 0x80 then (decode? rest).map (Char.ofNat a.toNat :: ·)
    else match rest with
      | [] => none
      | b :: rest =>
        match continuation? b with
        | none => none
        | some b =>
          if a.toNat < 0xC2 then none
          else if a.toNat < 0xE0 then do
            let c ← scalar? ((a.toNat - 0xC0) * 0x40 + b)
            (decode? rest).map (c :: ·)
          else match rest with
            | [] => none
            | c :: rest =>
              match continuation? c with
              | none => none
              | some c =>
                if a.toNat < 0xF0 then
                  let n := ((a.toNat - 0xE0) * 0x40 + b) * 0x40 + c
                  if n < 0x800 then none
                  else do
                    let c ← scalar? n
                    (decode? rest).map (c :: ·)
                else match rest with
                  | [] => none
                  | d :: rest =>
                    match continuation? d with
                    | none => none
                    | some d =>
                      let n := (((a.toNat - 0xF0) * 0x40 + b) * 0x40 + c) * 0x40 + d
                      if 0xF5 ≤ a.toNat ∨ n < 0x10000 then none
                      else do
                        let c ← scalar? n
                        (decode? rest).map (c :: ·)

/-- The string of a byte sequence, if it is one. -/
def string? (bs : Bytes) : Option String := (decode? bs).map String.ofList

/-- How many bytes follow the first byte of a character, and the range of the first of them. -/
def following? (first : Nat) : Option (Nat × Nat × Nat) :=
  if first < 0x80 then some (0, 0x80, 0xBF)
  else if first < 0xC2 then none
  else if first < 0xE0 then some (1, 0x80, 0xBF)
  else if first < 0xF0 then
    some (2, if first = 0xE0 then 0xA0 else 0x80, if first = 0xED then 0x9F else 0xBF)
  else if first < 0xF5 then
    some (3, if first = 0xF0 then 0x90 else 0x80, if first = 0xF4 then 0x8F else 0xBF)
  else none

/-- How many of at most `n` bytes go on a character, the first of them in a range. -/
def countFollowing : Nat → Nat → Nat → Bytes → Nat
  | 0, _, _, _ | _, _, _, [] => 0
  | n + 1, low, high, b :: rest =>
    if low ≤ b.toNat ∧ b.toNat ≤ high then countFollowing n 0x80 0xBF rest + 1 else 0

/-- The text of a byte sequence, in which a replacement character stands for each part that is none:
the longest beginning of a character, or a single byte. -/
def decodeLossy : Bytes → List Char
  | [] => []
  | a :: rest =>
    match following? a.toNat with
    | none => '\ufffd' :: decodeLossy rest
    | some (n, low, high) =>
      let k := countFollowing n low high rest
      ((if k = n then decode? (a :: rest.take k) else none).getD ['\ufffd']) ++
        decodeLossy (rest.drop k)
termination_by bytes => bytes.length

/-- The string of a byte sequence, with replacement characters where it is none. -/
def lossy (bs : Bytes) : String := String.ofList (decodeLossy bs)

end Provisioner.Text.Utf8
