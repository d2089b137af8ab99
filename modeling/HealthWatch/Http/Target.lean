/-!
# Request targets

A request target is a path with an optional query, an absolute address, an
authority alone, or `*`.  `Target.path?` gives the path that a target asks
for, or nothing for a text that is no target.  The query and what follows `#`
are no part of the path, and nothing is decoded.
-/

namespace HealthWatch.Http.Target

/-- Letters, digits and the marks that may stand in an address as they are. -/
def isAddressChar (c : Char) : Bool := c.isAlphanum || "-._~:/?#[]@!$&'()*+,;=".toList.contains c

/-- The characters of a path.  Quotes and braces are let through. -/
def isPathChar (c : Char) : Bool :=
  decide ('!' ≤ c) && decide (c ≤ '~') && !("#<>?".toList.contains c) && c != '\x60'

/-- The characters of a query. -/
def isQueryChar (c : Char) : Bool :=
  decide ('!' ≤ c) && decide (c ≤ '~') && !("\"#<>".toList.contains c)

/-- What stands before the first `#`. -/
def dropFragment (cs : List Char) : List Char := cs.takeWhile (· != '#')

/-- The path of a path with an optional query; an empty path is `/`. -/
def originPath? (cs : List Char) : Option String :=
  let cs := dropFragment cs
  let path := cs.takeWhile (· != '?')
  let query := (cs.dropWhile (· != '?')).drop 1
  if path.all isPathChar && query.all isQueryChar then
    some (if path.isEmpty then "/" else String.ofList path)
  else none

/-- What an authority was found to hold so far, from left to right. -/
structure AuthorityScan where
  colons : Nat
  percent : Bool
  opened : Bool
  closed : Bool
  /-- Whether the last character was `@`. -/
  afterAt : Bool

/-- The most colons in a row of characters without brackets and `@`. -/
def maxColons : Nat := 8

/-- One more character of an authority. -/
def AuthorityScan.next? (s : AuthorityScan) (c : Char) : Option AuthorityScan :=
  if c = ':' then
    if maxColons ≤ s.colons then none
    else some { s with colons := s.colons + 1, afterAt := false }
  else if c = '[' then
    if s.percent || s.opened then none else some { s with opened := true, afterAt := false }
  else if c = ']' then
    if !s.opened || s.closed then none
    else some { s with closed := true, colons := 0, percent := false, afterAt := false }
  else if c = '@' then some { s with colons := 0, percent := false, afterAt := true }
  else if c = '%' then some { s with percent := true, afterAt := false }
  else if isAddressChar c then some { s with afterAt := false }
  else none

/-- Whether a text is an authority: user information, a host and a port. -/
def isAuthority (cs : List Char) : Bool :=
  match cs.foldlM AuthorityScan.next? ⟨0, false, false, false, false⟩ with
  | none => false
  | some s => s.opened == s.closed && decide (s.colons ≤ 1) && !s.afterAt && !s.percent

/-- Whether a character may stand in the name of a scheme. -/
def isSchemeChar (c : Char) : Bool := c.isAlphanum || "+-.~".toList.contains c

/-- The name of a scheme and what follows `scheme://`, if a text begins so. -/
def splitScheme? (cs : List Char) : Option (List Char × List Char) :=
  match cs.dropWhile isSchemeChar with
  | ':' :: '/' :: '/' :: rest => some (cs.takeWhile isSchemeChar, rest)
  | _ => none

/-- The most characters that the name of a scheme may have. -/
def maxScheme : Nat := 64

/-- Whether a character ends an authority. -/
def endsAuthority (c : Char) : Bool := c == '/' || c == '?' || c == '#'

/-- The path that a target asks for.  An authority alone has the empty path. -/
def path? (target : String) : Option String :=
  match target.toList with
  | [] => none
  | ['*'] => some "*"
  | '/' :: rest => originPath? ('/' :: rest)
  | cs =>
    match splitScheme? cs with
    | none => if isAuthority cs && !cs.any endsAuthority then some "" else none
    | some (scheme, rest) =>
      let authority := rest.takeWhile (!endsAuthority ·)
      let path := rest.dropWhile (!endsAuthority ·)
      if maxScheme < scheme.length || authority.isEmpty || !isAuthority authority then none
      else originPath? path

end HealthWatch.Http.Target
