import ClosureTemplate.Pattern.Property

/-!
Text patterns and what they match. Matching carries the set of all places that a part of a pattern
can lead to, so every pattern is matched in time linear in the text for each of its parts.
-/

namespace ClosureTemplate.Pattern

inductive Look where
  | textStart
  | textEnd
  | lineStart (crlf : Bool)
  | lineEnd (crlf : Bool)
  /-- Word or no word before the place, and behind it; none stands for either. -/
  | word (isUnicode : Bool) (before after : Option Bool)
  | boundary (isUnicode isNegated : Bool)
  deriving DecidableEq, Repr

inductive Expr where
  | empty
  | char (set : CharSet)
  | look (condition : Look)
  | cat (first second : Expr)
  | alt (first second : Expr)
  | copies (body : Expr) (low : Nat) (high : Option Nat)
  deriving DecidableEq, Repr

/-- A place in a text: the number of characters before it, the last of these, and the rest. -/
structure Place where
  offset : Nat
  previous : Option Char
  rest : Text

namespace Place

def onward (offset : Nat) (previous : Option Char) : Text → List Place
  | [] => [⟨offset, previous, []⟩]
  | c :: cs => ⟨offset, previous, c :: cs⟩ :: onward (offset + 1) (some c) cs

def all (text : Text) : List Place := onward 0 none text

def over? (place : Place) (set : CharSet) : Option Place :=
  match place.rest with
  | c :: cs => if set.contains c then some ⟨place.offset + 1, some c, cs⟩ else none
  | [] => none

def isWordChar (isUnicode : Bool) (c : Char) : Bool :=
  (if isUnicode then Property.wordChars else Property.asciiWordChars).contains c

def satisfies (place : Place) : Look → Bool
  | .textStart => place.previous.isNone
  | .textEnd => place.rest.isEmpty
  | .lineStart false => place.previous.all (· == '\n')
  | .lineEnd false => place.rest.head?.all (· == '\n')
  | .lineStart true =>
    place.previous.all fun c => c == '\n' || (c == '\r' && place.rest.head? != some '\n')
  | .lineEnd true =>
    place.rest.head?.all fun c => c == '\r' || (c == '\n' && place.previous != some '\r')
  | .word isUnicode before after =>
    before.all (· == place.previous.any (isWordChar isUnicode)) &&
    after.all (· == place.rest.head?.any (isWordChar isUnicode))
  | .boundary isUnicode isNegated =>
    (place.previous.any (isWordChar isUnicode) == place.rest.head?.any (isWordChar isUnicode))
      == isNegated

def union (a b : List Place) : List Place :=
  a ++ b.filter fun place => !a.any fun other => other.offset == place.offset

def fresh (a b : List Place) : List Place :=
  b.filter fun place => !a.any fun other => other.offset == place.offset

end Place

def repeated (step : List Place → List Place) : Nat → List Place → List Place
  | 0, places => places
  | _ + 1, [] => []
  | count + 1, places => repeated step count (step places)

def reached (step : List Place → List Place) : Nat → List Place → List Place → List Place
  | 0, seen, _ => seen
  | _ + 1, seen, [] => seen
  | count + 1, seen, frontier =>
    let next := Place.fresh seen (step frontier)
    reached step count (seen ++ next) next

namespace Expr

/-- The places that a match of the expression can end at, for a text of `size` characters. -/
def ends (size : Nat) : Expr → List Place → List Place
  | .empty, places => places
  | .char set, places => places.filterMap (·.over? set)
  | .look condition, places => places.filter (·.satisfies condition)
  | .cat first second, places => second.ends size (first.ends size places)
  | .alt first second, places => Place.union (first.ends size places) (second.ends size places)
  | .copies body low high, places =>
    let start := repeated (body.ends size) low places
    let count := match high with
      | some high => high - low
      | none => size + 1
    reached (body.ends size) (min count (size + 1)) start start

def occursIn (expr : Expr) (text : Text) : Bool :=
  !(expr.ends text.length (Place.all text)).isEmpty

end Expr

end ClosureTemplate.Pattern
