/-!
The parts of an address on the network that decide whether it can be used: a scheme, and after two
slashes a host with a port, a path and a query.
-/

namespace Turnstile

structure Url where
  /-- In lower case. -/
  scheme : String
  host : String
  port : Option Nat
  path : String
  /-- Names and values behind the question mark, as they stand there. -/
  query : List (String × String)
  deriving DecidableEq, Repr

/-- Why a text is no address. -/
inductive UrlError where
  | noScheme
  | badPort
  | badAddress
  deriving DecidableEq, Repr

def UrlError.message : UrlError → String
  | .noScheme => "relative URL without a base"
  | .badPort => "invalid port number"
  | .badAddress => "invalid IPv6 address"

namespace Url

def isSchemeChar (c : Char) : Bool := c.isAlphanum || c = '+' || c = '-' || c = '.'

/-- Blanks and control characters around an address do not count. -/
def trim (cs : List Char) : List Char :=
  let isBlank := fun (c : Char) => c.toNat ≤ 32
  ((cs.dropWhile isBlank).reverse.dropWhile isBlank).reverse

/-- Tabs and line ends within an address do not count. -/
def isDropped (c : Char) : Bool := c = '\t' || c = '\n' || c = '\r'

/-- The host in brackets or up to a colon, and what is behind it. -/
def splitHost (cs : List Char) : Except UrlError (List Char × List Char) :=
  match cs with
  | '[' :: rest =>
    match rest.dropWhile (· ≠ ']') with
    | ']' :: after => .ok ('[' :: (rest.takeWhile (· ≠ ']') ++ [']']), after)
    | _ => .error .badAddress
  | cs => .ok (cs.takeWhile (· ≠ ':'), cs.dropWhile (· ≠ ':'))

/-- The port behind a colon. -/
def readPort (cs : List Char) : Except UrlError (Option Nat) :=
  match cs with
  | [] | [':'] => .ok none
  | ':' :: digits =>
    if digits.all Char.isDigit then
      let n := digits.foldl (fun n c => 10 * n + (c.toNat - 48)) 0
      if n ≤ 65535 then .ok (some n) else .error .badPort
    else .error .badPort
  | _ => .error .badPort

/-- One name and its value. -/
def readPair (cs : List Char) : String × String :=
  (String.ofList (cs.takeWhile (· ≠ '=')), String.ofList ((cs.dropWhile (· ≠ '=')).drop 1))

def readQuery (cs : List Char) : List (String × String) :=
  match cs with
  | '?' :: rest => ((rest.takeWhile (· ≠ '#')).splitOn '&').map readPair
  | _ => []

/-- What is behind the scheme. -/
def ofRest (scheme : String) (cs : List Char) : Except UrlError Url := do
  let pathOf := fun (cs : List Char) =>
    String.ofList (cs.takeWhile fun c => c ≠ '?' && c ≠ '#')
  let queryOf := fun (cs : List Char) =>
    readQuery (cs.dropWhile fun c => c ≠ '?' && c ≠ '#')
  match cs with
  | '/' :: '/' :: rest =>
    let isEnd := fun (c : Char) => c = '/' || c = '?' || c = '#'
    let authority := rest.takeWhile (!isEnd ·)
    let behind := rest.dropWhile (!isEnd ·)
    let server := (authority.reverse.takeWhile (· ≠ '@')).reverse
    let (host, portText) ← splitHost server
    let port ← readPort portText
    return ⟨scheme, String.ofList host, port, pathOf behind, queryOf behind⟩
  | cs => return ⟨scheme, "", none, pathOf cs, queryOf cs⟩

/-- Read an address. -/
def ofText (s : String) : Except UrlError Url :=
  let cs := (trim s.toList).filter (!isDropped ·)
  let scheme := cs.takeWhile isSchemeChar
  match scheme, cs.dropWhile isSchemeChar with
  | first :: _, ':' :: rest =>
    if first.isAlpha then ofRest (String.ofList (scheme.map Char.toLower)) rest else .error .noScheme
  | _, _ => .error .noScheme

end Url

end Turnstile
