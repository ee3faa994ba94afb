import QueryGuard.Json.Record
import QueryGuard.Pattern.Reader

/-!
# Endpoints

An endpoint names a verb and a route. In a route `*` stands for any characters
but the slash, `**` for any characters of a line, and all others for
themselves; the whole path has to fit. A route whose pattern is beyond the limit
of patterns is not valid.
-/

namespace QueryGuard

namespace Route

inductive Token where
  /-- Two stars: any number of characters but line feeds. -/
  | anything
  /-- A single star: any number of characters but slashes. -/
  | segment
  | literal (c : Char)
  deriving DecidableEq

/-- From left to right, two stars at a time as long as there are two. -/
def tokens : List Char → List Token
  | '*' :: '*' :: rest => .anything :: tokens rest
  | '*' :: rest => .segment :: tokens rest
  | c :: rest => .literal c :: tokens rest
  | [] => []

/-- May a wildcard take a character? A literal is no wildcard. -/
def Token.takes : Token → Char → Bool
  | .anything, c => c != '\n'
  | .segment, c => c != '/'
  | .literal _, _ => false

/-- From the answers for the rest of a route at every end of a path, longest
first, the answers for the route with one more token in front. -/
def Token.extend (token : Token) : List Char → List Bool → List Bool
  | [], answers =>
    match token with
    | .literal _ => [false]
    | _ => [answers.headD false]
  | c :: rest, answers =>
    let later := token.extend rest answers.tail
    let here :=
      match token with
      | .literal wanted => c == wanted && answers.tail.headD false
      | wildcard => answers.headD false || (wildcard.takes c && later.headD false)
    here :: later

/-- Does the route fit each end of the path, from the whole one to nothing? -/
def fits (path : List Char) : List Token → List Bool
  | [] => path.map (fun _ => false) ++ [true]
  | token :: rest => token.extend path (fits path rest)

/-- Does the route cover the path? This is what its pattern matches, as long as it
has one (`pattern?`). -/
def covers (route path : String) : Bool :=
  (fits path.toList (tokens route.toList)).headD false

-- ---------------------------------------------------------------------------
-- Routes as patterns
-- ---------------------------------------------------------------------------

/-- Characters that mean something in a pattern. -/
def metaCharacters : List Char :=
  ['\\', '.', '+', '*', '?', '(', ')', '|', '[', ']', '\x7b', '\x7d', '^', '$', '#', '&', '-', '~']

def escaped (c : Char) : List Char := if c ∈ metaCharacters then ['\\', c] else [c]

/-- How a token is written in a pattern. -/
def Token.spelling : Token → List Char
  | .anything => ['.', '*']
  | .segment => ['[', '^', '/', ']', '*']
  | .literal c => escaped c

/-- Splits around pairs of stars, from left to right. -/
def splitPairs : List Char → List (List Char)
  | '*' :: '*' :: rest => [] :: splitPairs rest
  | c :: rest => (splitPairs rest).modifyHead (c :: ·)
  | [] => [[]]

/-- A part between pairs of stars. -/
def partExpression (part : List Char) : List Char :=
  List.intercalate Token.segment.spelling <|
    (part.splitOn '*').map fun text => text.flatMap escaped

def inner (route : List Char) : List Char :=
  List.intercalate Token.anything.spelling ((splitPairs route).map partExpression)

/-- The route as a pattern that the whole path has to match. -/
def expression (route : String) : String := String.ofList ('^' :: inner route.toList ++ ['$'])

/-- The pattern of the route, unless it is too large. -/
def pattern? (route : String) : Option Pattern := Pattern.ofText? false (expression route)

end Route

structure Endpoint where
  /-- A verb in any case, or a star for all of them. -/
  verb : String
  route : String
  deriving DecidableEq

namespace Endpoint

def verbs : List String := ["GET", "POST", "PUT", "PATCH", "DELETE", "*"]

/-- Only the letters of ASCII have another case here. -/
def upper (verb : String) : String := String.ofList (verb.toList.map Char.toUpper)

def answersTo (e : Endpoint) (verb : String) : Bool :=
  e.verb == "*" || upper e.verb == upper verb

def covers (e : Endpoint) (verb path : String) : Bool :=
  e.answersTo verb && Route.covers e.route path

def toJson (e : Endpoint) : Json :=
  .object [("verb", .string e.verb), ("route", .string e.route)]

def ofJson? (value : Json) : Option Endpoint := do
  match ← value.fields? ["verb", "route"] with
  | [verb, route] =>
    return ⟨← Json.required Json.asString? verb, ← Json.required Json.asString? route⟩
  | _ => none

end Endpoint

end QueryGuard
