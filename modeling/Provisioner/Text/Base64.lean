import Provisioner.Text.Utf8
/-!
# Base64

The standard alphabet with padding.  Decoding takes exactly what encoding gives: the padding must
be there and the bits that a padded group does not use must be zero.
-/

namespace Provisioner.Text.Base64

open Utf8 (Bytes)

/-- The sixty-four digits in order of value. -/
def alphabet : List Char :=
  "ABCDEFGHIJKLMNOPQRSTUVWXYZabcdefghijklmnopqrstuvwxyz0123456789+/".toList

/-- The digit of a value below sixty-four. -/
def digit (n : Nat) : Char := alphabet.getD n 'A'

/-- The value of a digit. -/
def value? (c : Char) : Option Nat :=
  if 'A' ≤ c ∧ c ≤ 'Z' then some (c.toNat - 65)
  else if 'a' ≤ c ∧ c ≤ 'z' then some (c.toNat - 97 + 26)
  else if '0' ≤ c ∧ c ≤ '9' then some (c.toNat - 48 + 52)
  else if c = '+' then some 62
  else if c = '/' then some 63
  else none

/-- The digits of a byte sequence, three bytes to a group of four. -/
def encode : Bytes → List Char
  | [] => []
  | [a] =>
    let n := a.toNat
    [digit (n / 4), digit (n % 4 * 16), '=', '=']
  | [a, b] =>
    let n := a.toNat * 256 + b.toNat
    [digit (n / 1024), digit (n / 16 % 64), digit (n % 16 * 4), '=']
  | a :: b :: c :: rest =>
    let n := (a.toNat * 256 + b.toNat) * 256 + c.toNat
    digit (n / 262144) :: digit (n / 4096 % 64) :: digit (n / 64 % 64) :: digit (n % 64) ::
      encode rest

/-- The bytes that a text of digits stands for, if it is one that encoding gives. -/
def decode? : List Char → Option Bytes
  | [] => some []
  | [p, q, '=', '='] => do
    let p ← value? p
    let q ← value? q
    if q % 16 = 0 then some [UInt8.ofNat (p * 4 + q / 16)] else none
  | [p, q, r, '='] => do
    let p ← value? p
    let q ← value? q
    let r ← value? r
    if r % 4 = 0 then
      let n := (p * 64 + q) * 16 + r / 4
      some [UInt8.ofNat (n / 256), UInt8.ofNat (n % 256)]
    else none
  | p :: q :: r :: s :: rest => do
    let p ← value? p
    let q ← value? q
    let r ← value? r
    let s ← value? s
    let n := ((p * 64 + q) * 64 + r) * 64 + s
    let rest ← decode? rest
    some (UInt8.ofNat (n / 65536) :: UInt8.ofNat (n / 256 % 256) :: UInt8.ofNat (n % 256) :: rest)
  | _ => none

/-- The base64 text of a byte sequence. -/
def encodeString (bs : Bytes) : String := String.ofList (encode bs)

/-- The bytes of a base64 text. -/
def decodeString? (s : String) : Option Bytes := decode? s.toList

end Provisioner.Text.Base64
