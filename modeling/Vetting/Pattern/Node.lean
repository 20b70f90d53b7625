import Vetting.Pattern.CharClass

/-!
# Patterns

A pattern is a row of nodes. Nodes that test a character, a place or a group carry
the options that hold where they stand, so that nothing has to be known about what
surrounds them. The width of a node bounds the number of characters it can match;
looking behind needs a width that is one number.
-/
namespace Vetting.Pattern

inductive Anchor where
  | textStart
  | textEnd
  /-- The start of the text, or of a line. -/
  | lineStart
  /-- The end of the text or before a line feed that ends it, or the end of a line. -/
  | lineEnd
  | wordEdge
  | notWordEdge
  deriving DecidableEq, Repr

inductive Greed where
  | greedy
  | lazy
  /-- Never gives back what it has taken. -/
  | possessive
  deriving DecidableEq, Repr

abbrev Width := Nat × Nat

/-- The number that stands for any number of repetitions. -/
def manyTimes : Nat := 4294967295

inductive Node where
  | one (o : Options) (k : CharClass)
  /-- Any character; only with `dotAll` a line feed too. -/
  | any (o : Options)
  | anchor (o : Options) (a : Anchor)
  | group (index : Option Nat) (body : List Node)
  | atomic (body : List Node)
  | branch (alternatives : List (List Node))
  | repeated (greed : Greed) (lo : Nat) (hi : Option Nat) (body : List Node)
  /-- The text that a group has matched, whose width is known when it is referred to. -/
  | again (o : Options) (index : Nat) (width : Width)
  | look (behind positive : Bool) (body : List Node)
  /-- One of two bodies, by whether a group has matched. -/
  | given (index : Nat) (yes no : List Node)
  deriving Inhabited, Repr

def Node.isAnchor : Node → Bool
  | .anchor .. => true
  | _ => false

def Node.isRepeated : Node → Bool
  | .repeated .. => true
  | _ => false

def capWidth (w : Width) : Width := (min w.1 (manyTimes - 1), min w.2 manyTimes)

def addWidth (a b : Width) : Width := (a.1 + b.1, a.2 + b.2)

def joinWidth (a b : Width) : Width := (min a.1 b.1, max a.2 b.2)

mutual
def Node.width : Node → Width
  | .one .. => (1, 1)
  | .any _ => (1, 1)
  | .anchor .. => (0, 0)
  | .group _ body => rowWidth body
  | .atomic body => rowWidth body
  | .branch alternatives => branchWidth alternatives
  | .repeated _ lo hi body =>
      let w := rowWidth body
      (w.1 * lo, w.2 * hi.getD manyTimes)
  | .again _ _ w => w
  | .look .. => (0, 0)
  | .given _ yes no => joinWidth (rowWidth yes) (rowWidth no)

def rowSum : List Node → Width
  | [] => (0, 0)
  | n :: rest => addWidth n.width (rowSum rest)

def rowWidth : List Node → Width
  | body => capWidth (rowSum body)

def branchWidth : List (List Node) → Width
  | [] => (manyTimes - 1, 0)
  | body :: rest => joinWidth (rowWidth body) (branchWidth rest)
end

mutual
/-- Whether every look behind has one width only. -/
def Node.lookable : Node → Bool
  | .group _ body => rowLookable body
  | .atomic body => rowLookable body
  | .branch alternatives => branchLookable alternatives
  | .repeated _ _ _ body => rowLookable body
  | .look behind _ body =>
      (!behind || (rowWidth body).1 == (rowWidth body).2) && rowLookable body
  | .given _ yes no => rowLookable yes && rowLookable no
  | _ => true

def rowLookable : List Node → Bool
  | [] => true
  | n :: rest => n.lookable && rowLookable rest

def branchLookable : List (List Node) → Bool
  | [] => true
  | body :: rest => rowLookable body && branchLookable rest
end

mutual
def Node.repeats : Node → Bool
  | .group _ body => rowRepeats body
  | .atomic body => rowRepeats body
  | .branch alternatives => branchRepeats alternatives
  | .repeated .. => true
  | .look _ _ body => rowRepeats body
  | .given _ yes no => rowRepeats yes || rowRepeats no
  | _ => false

def rowRepeats : List Node → Bool
  | [] => false
  | n :: rest => n.repeats || rowRepeats rest

def branchRepeats : List (List Node) → Bool
  | [] => false
  | body :: rest => rowRepeats body || branchRepeats rest
end

/-- A pattern with the number of its groups and the names of some of them. -/
structure Regex where
  nodes : List Node
  groups : Nat
  names : List (List Char × Nat)
  deriving Inhabited, Repr

end Vetting.Pattern
