import Provisioner.Http.Target
/-!
# References to servers

Whether a text can be used as the address of a server in a cluster configuration: a path, a host
with the number of a service, or a scheme with a host and a path.  This reading is stricter than
that of `Http.Address`: nothing is passed over, and names of hosts are not looked into.
-/

namespace Provisioner.Http.Uri

/-- Characters of a host, a service and a user. -/
def isAuthorityChar (c : Char) : Bool :=
  c.isAlphanum || "!$&'()*+,-.:;=@[]_~%".toList.contains c

/-- What was seen in an authority so far. -/
structure AuthorityState where
  colons : Nat := 0
  opened : Bool := false
  closed : Bool := false
  percent : Bool := false
  /-- Whether the last character was the end of a user. -/
  afterUser : Bool := false

/-- Go through one character of an authority. -/
def AuthorityState.next? (s : AuthorityState) (c : Char) : Option AuthorityState :=
  let s := { s with afterUser := c == '@' }
  if !isAuthorityChar c then none
  else if c == ':' then if 8 ≤ s.colons then none else some { s with colons := s.colons + 1 }
  else if c == '[' then if s.percent || s.opened then none else some { s with opened := true }
  else if c == ']' then
    if !s.opened || s.closed then none
    else some { s with closed := true, colons := 0, percent := false }
  else if c == '@' then some { s with colons := 0, percent := false }
  else if c == '%' then some { s with percent := true }
  else some s

/-- Whether a text is an authority: a host with at most one colon outside of brackets, after a
user. -/
def isAuthority (text : List Char) : Bool :=
  match text.foldlM AuthorityState.next? {} with
  | none => false
  | some s => s.opened == s.closed && s.colons ≤ 1 && !s.afterUser && !s.percent

/-- What stands before the two slashes of a text that starts with a scheme, and after them. -/
def splitScheme? (text : List Char) : Option (List Char × List Char) :=
  let isSchemeChar (c : Char) : Bool := c.isAlphanum || c == '+' || c == '-' || c == '.'
  match text.dropWhile isSchemeChar with
  | ':' :: '/' :: '/' :: rest => some (text.takeWhile isSchemeChar, rest)
  | _ => none

/-- Whether a text is what may follow an authority: a path, and parameters after it. -/
def isPath (text : List Char) : Bool :=
  let start := text.takeWhile fun c => c != '?' && c != '#'
  let query := ((text.drop start.length).takeWhile (· != '#')).drop 1
  start.all isPathChar && query.all isQueryChar

/-- Whether a text refers to a server. -/
def isReference (text : String) : Bool :=
  match text.toList with
  | [] => false
  | '/' :: rest => isPath rest
  | ['*'] => true
  | chars =>
    match splitScheme? chars with
    | some (scheme, rest) =>
      let authority := rest.takeWhile fun c => c != '/' && c != '?' && c != '#'
      scheme.length ≤ 64 && !authority.isEmpty && isAuthority authority &&
        isPath (rest.drop authority.length)
    | none => isAuthority chars

end Provisioner.Http.Uri
