/-!
# White space

The characters that Unicode calls white space, and texts without them in front.
-/

namespace Provisioner.Text

/-- Whether a character is white space. -/
def isWhite (c : Char) : Bool :=
  ('\t' ≤ c && c ≤ '\r') || c == ' ' || c == '\u0085' || c == '\u00a0' || c == '\u1680' ||
    ('\u2000' ≤ c && c ≤ '\u200a') || c == '\u2028' || c == '\u2029' || c == '\u202f' ||
    c == '\u205f' || c == '\u3000'

/-- A text without the white space in front of it. -/
def trimStart (text : List Char) : List Char := text.dropWhile isWhite

end Provisioner.Text
