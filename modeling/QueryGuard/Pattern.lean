import QueryGuard.Text.Class

/-!
# Patterns

Regular patterns over characters, with looks at what stands around a position.
A pattern is matched by marks: a mark stands on every place of the pattern that
the text read so far may have just passed, and each character moves them on.
No way to match is tried twice, so that time grows with text times pattern.
-/

namespace QueryGuard

/-- Conditions on a position that take no character. -/
inductive Look where
  | textStart
  | textEnd
  | lineStart
  | lineEnd
  /-- Lines that also end with a carriage return, or with both. -/
  | anyLineStart
  | anyLineEnd
  | boundary (word : CharSet)
  | noBoundary (word : CharSet)
  | wordStart (word : CharSet)
  | wordEnd (word : CharSet)
  | wordStartHalf (word : CharSet)
  | wordEndHalf (word : CharSet)

/-- The characters before and behind a position. -/
structure Position where
  before : Option Char
  behind : Option Char

def Position.isIn (c : Option Char) (word : CharSet) : Bool := c.any word.contains

def Look.holds (p : Position) : Look → Bool
  | .textStart => p.before.isNone
  | .textEnd => p.behind.isNone
  | .lineStart => p.before.isNone || p.before == some '\n'
  | .lineEnd => p.behind.isNone || p.behind == some '\n'
  | .anyLineStart =>
    p.before.isNone || p.before == some '\n' ||
      (p.before == some '\r' && p.behind != some '\n')
  | .anyLineEnd =>
    p.behind.isNone || p.behind == some '\r' ||
      (p.behind == some '\n' && p.before != some '\r')
  | .boundary word => Position.isIn p.before word != Position.isIn p.behind word
  | .noBoundary word => Position.isIn p.before word == Position.isIn p.behind word
  | .wordStart word => !Position.isIn p.before word && Position.isIn p.behind word
  | .wordEnd word => Position.isIn p.before word && !Position.isIn p.behind word
  | .wordStartHalf word => !Position.isIn p.before word
  | .wordEndHalf word => !Position.isIn p.behind word

inductive Pattern where
  | empty
  /-- One character of a set. The mark tells that it has just been read. -/
  | one (set : CharSet) (marked : Bool)
  | look (condition : Look)
  | seq (first second : Pattern)
  | alt (first second : Pattern)
  | star (body : Pattern)

namespace Pattern

/-- At a position: does a pattern match nothing there, and does a match that
began earlier end there? -/
structure Status where
  nothing : Bool
  ends : Bool

def status (p : Position) : Pattern → Status
  | .empty => ⟨true, false⟩
  | .one _ marked => ⟨false, marked⟩
  | .look condition => ⟨condition.holds p, false⟩
  | .seq first second =>
    let a := first.status p
    let b := second.status p
    ⟨a.nothing && b.nothing, (a.ends && b.nothing) || b.ends⟩
  | .alt first second =>
    let a := first.status p
    let b := second.status p
    ⟨a.nothing || b.nothing, a.ends || b.ends⟩
  | .star body => ⟨true, (body.status p).ends⟩

/-- Reads the character behind a position. `entering` tells that a match of the
pattern may begin there. -/
def shift (p : Position) (c : Char) (entering : Bool) : Pattern → Pattern
  | .one set _ => .one set (entering && set.contains c)
  | .seq first second =>
    let a := first.status p
    .seq (first.shift p c entering) (second.shift p c ((entering && a.nothing) || a.ends))
  | .alt first second => .alt (first.shift p c entering) (second.shift p c entering)
  | .star body => .star (body.shift p c (entering || (body.status p).ends))
  | other => other

/-- Does a match begin anywhere from here on, or end that began before? -/
def foundFrom (pattern : Pattern) (before : Option Char) : List Char → Bool
  | [] =>
    let s := pattern.status ⟨before, none⟩
    s.nothing || s.ends
  | c :: rest =>
    let p : Position := ⟨before, some c⟩
    let s := pattern.status p
    s.nothing || s.ends || (pattern.shift p c true).foundFrom (some c) rest

/-- Does the pattern match some part of the text? -/
def occursIn (pattern : Pattern) (text : String) : Bool :=
  pattern.foundFrom none text.toList

end Pattern

end QueryGuard
