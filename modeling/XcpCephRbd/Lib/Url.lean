import Mathlib.Data.List.Basic

/-!
# Splitting a URL

The parts of `urllib.parse.urlparse` and `parse_qs` of Python 3.6 that a program needs to take a URL
apart: the network location, the path and the query of a URL, and the fields of a query in their
order. Left out are the `ValueError` for a bracket in the network location that has no partner, and
the parameters that a URL without a scheme may have after `;`. Escapes of single bytes are decoded;
a byte outside ASCII gives the replacement character, so it compares equal to no ASCII name.
-/

namespace XcpCephRbd.Url

/-- The parts of a URL. -/
structure Parts where
  netloc : String
  path : String
  query : String
  deriving DecidableEq, Repr

/-- `scheme_chars`. -/
def schemeChar (c : Char) : Bool := c.isAlphanum || c == '+' || c == '-' || c == '.'

/-- The URL without its scheme. What stands before a number is none: the number may be a port. -/
def dropScheme (url : List Char) : List Char :=
  match url.span (· != ':') with
  | (first :: more, ':' :: rest) =>
      if first :: more = "http".toList then rest
      else if (first :: more).all schemeChar && (rest.isEmpty || !rest.all Char.isDigit) then rest
      else url
  | _ => url

/-- The network location after `//`, and what follows it. -/
def takeNetloc : List Char → List Char × List Char
  | '/' :: '/' :: rest => rest.span fun c => c != '/' && c != '?' && c != '#'
  | url => ([], url)

/-- `urlparse(url)`. -/
def urlparse (url : String) : Parts :=
  let (netloc, rest) := takeNetloc (dropScheme url.toList)
  let (path, query) := (rest.takeWhile (· != '#')).span (· != '?')
  { netloc := String.ofList netloc
    path := String.ofList path
    query := String.ofList (query.drop 1) }

/-- The value of a hexadecimal digit. -/
def hexDigit (c : Char) : Option Nat :=
  if c.isDigit then some (c.toNat - 48)
  else if 'a' ≤ c && c ≤ 'f' then some (c.toNat - 87)
  else if 'A' ≤ c && c ≤ 'F' then some (c.toNat - 55)
  else none

/-- `unquote`, after `+` has been replaced by a space. -/
def unquote : List Char → List Char
  | '%' :: high :: low :: rest =>
      match hexDigit high, hexDigit low with
      | some h, some l =>
          (if 16 * h + l < 128 then Char.ofNat (16 * h + l) else Char.ofNat 0xFFFD) :: unquote rest
      | _, _ => '%' :: unquote (high :: low :: rest)
  | c :: rest => c :: unquote rest
  | [] => []

/-- One field of a query, decoded. -/
def unquoteField (text : List Char) : String :=
  String.ofList (unquote (text.map fun c => if c == '+' then ' ' else c))

/-- `parse_qs(query)`, as the list of its fields, which `&` or `;` separates; fields without a value
are left out. -/
def parseQs (query : String) : List (String × String) :=
  (query.toList.splitOnP fun c => c == '&' || c == ';').filterMap fun field =>
    match field.span (· != '=') with
    | (name, '=' :: value) =>
        if value.isEmpty then none else some (unquoteField name, unquoteField value)
    | _ => none

/-- `str.lstrip("/")`. -/
def lstripSlash (path : String) : String := String.ofList (path.toList.dropWhile (· == '/'))

end XcpCephRbd.Url
