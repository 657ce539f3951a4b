import Redline.Http.Host

/-!
# Addresses

An address has a scheme, a host, a path, a query and a fragment, and all of
them may be missing.  What a request asks for is written as an address.  The
service is at the host that it names, and the path is taken from it.
-/

namespace Redline.Http

/-- The parts of an address. -/
structure Address where
  scheme : Text
  /-- The host, with what stands before and behind it. -/
  host : Text
  path : Text
  query : Text := []
  fragment : Text := []
deriving DecidableEq, Repr

namespace Address

/-- Whether a character can stand in a scheme. -/
def isSchemeChar (c : Char) : Bool := c.isAlphanum || c = '+' || c = ',' || c = '-' || c = '.'

/-- The scheme at the start of a text, and the rest.  What stands before a
number alone is no scheme, since the number is a port then. -/
def splitScheme (t : Text) : Text × Text :=
  let name := t.takeWhile (· ≠ ':')
  let word := if name.getLast? = some '\n' then name.dropLast else name
  match t.dropWhile (· ≠ ':') with
  | _ :: rest =>
      if !word.isEmpty && word.all isSchemeChar && (rest.isEmpty || !rest.all Char.isDigit) then
        (Text.lower name, rest)
      else ([], t)
  | [] => ([], t)

def isHostChar (c : Char) : Bool := c ≠ '/' && c ≠ '?' && c ≠ '#'

/-- The host behind two slashes at the start of a text, and the rest. -/
def splitHost : Text → Text × Text
  | '/' :: '/' :: t => (t.takeWhile isHostChar, t.dropWhile isHostChar)
  | t => ([], t)

/-- The address that a text writes.  The brackets of a host have to be there
both or not at all. -/
def parse (t : Text) : Except Fault Address := do
  let (scheme, t) := splitScheme t
  let (host, t) := splitHost t
  checkPaired host
  let front := t.takeWhile (· ≠ '#')
  return ⟨scheme, host, front.takeWhile (· ≠ '?'), (front.dropWhile (· ≠ '?')).drop 1,
    (t.dropWhile (· ≠ '#')).drop 1⟩

/-- The path with the query, if there is one. -/
def tail (a : Address) : Text := if a.query.isEmpty then a.path else a.path ++ '?' :: a.query

/-- The address as a text, without the query. -/
def front (a : Address) : Text :=
  let body :=
    if !a.host.isEmpty || (!a.scheme.isEmpty && a.path.head? = some '/') then
      let path := if a.path.isEmpty || a.path.head? = some '/' then a.path else '/' :: a.path
      '/' :: '/' :: a.host ++ path
    else a.path
  if a.scheme.isEmpty then body else a.scheme ++ ':' :: body

def text (a : Address) : Text :=
  a.front ++ (if a.query.isEmpty then [] else '?' :: a.query)
    ++ (if a.fragment.isEmpty then [] else '#' :: a.fragment)

def toAscii (a : Address) : Address := { a with host := (Host.ofText a.host).toAscii.text }

end Address

/-! ## Targets -/

/-- What a request asks for. -/
structure Target where
  scheme : Text
  host : Text
  path : Text
deriving DecidableEq, Repr

/-- The address of the service at a host.  The host is written in ASCII twice,
with backslashes as slashes the second time. -/
def serviceAddress (scheme host : Text) : Except Fault Address := do
  let first ← Address.parse (scheme ++ "://".toList ++ host ++ ['/'])
  let second ← Address.parse (first.toAscii.text.map fun c => if c = '\\' then '/' else c)
  let base ← Address.parse second.toAscii.text
  if base.query.isEmpty && base.fragment.isEmpty then return base
  throw (.refused "base url must not contain a query string or fragment")

/-- The target that a text writes.  The path of an address is read as an
address again, since a second host may stand in it. -/
def Target.parse (t : Text) : Except Fault Target := do
  let outer ← Address.parse t
  let inner ← Address.parse outer.tail
  let path ← Address.parse inner.path
  let scheme := if outer.scheme.isEmpty then "http".toList else outer.scheme
  let base ← serviceAddress scheme (if outer.host.isEmpty then "localhost".toList else outer.host)
  return ⟨base.scheme, base.host, unescapeText path.toAscii.front⟩

def canServe (host : Text) : Bool := (asciiName? (Text.lower host)).isSome

/-- Whether the scheme of an address can be told from what follows it. -/
def isPlainScheme (scheme : Text) : Bool :=
  (scheme.head?.map Char.isAlpha).getD false
    && scheme.all fun c => c.isAlphanum || c = '+' || c = '-' || c = '.'

/-- Checks the host that a request was sent to. -/
def checkSentTo (scheme host : Text) : Except Fault Unit := do
  let a ← Address.parse (scheme ++ "://".toList ++ host ++ ['/'])
  if isPlainScheme scheme then
    let plain := (Host.ofText a.host).plain.text.filter fun c => c ≠ '\n' && c ≠ '\r' && c ≠ '\t'
    checkHost (plain.takeWhile Address.isHostChar)

end Redline.Http
