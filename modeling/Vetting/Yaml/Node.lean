import Vetting.Pattern.Match
import Vetting.Pattern.Parse
import Vetting.Yaml.Token

/-!
# Nodes

A document is a tree of nodes, each with a tag that says what it is to be read as. A
plain scalar without a tag gets one from its form. A node with an anchor can stand in
other places as well, where it is named; in itself it cannot.

The grammar needs one token to know how to go on. Every function takes tokens off the
front, and its fuel is more than the number of tokens left.
-/
namespace Vetting.Yaml

/-- What a node is to be read as. -/
inductive Tag where
  | null | bool | int | float | binary | timestamp
  | str | seq | map | set | omap | pairs
  /-- The key whose value gives the entries of other mappings. -/
  | merge
  /-- The key whose value stands for the whole mapping. -/
  | value
  | unknown
  deriving DecidableEq, Repr

inductive Node where
  | scalar (tag : Tag) (text : List Char)
  | sequence (tag : Tag) (items : List Node)
  | mapping (tag : Tag) (entries : List (Node × Node))

def Node.tag : Node → Tag
  | .scalar t _ => t
  | .sequence t _ => t
  | .mapping t _ => t

/-- What the names of all known tags begin with. -/
def standardStem : List Char := "tag:yaml.org,2002:".toList

def tagNames : List (String × Tag) :=
  [("null", .null), ("bool", .bool), ("int", .int), ("float", .float), ("binary", .binary),
   ("timestamp", .timestamp), ("str", .str), ("seq", .seq), ("map", .map), ("set", .set),
   ("omap", .omap), ("pairs", .pairs), ("merge", .merge), ("value", .value)]

def Tag.ofName (s : List Char) : Tag :=
  if standardStem.isPrefixOf s then
    let name := String.ofList (s.drop standardStem.length)
    ((tagNames.find? fun t => t.1 == name).map Prod.snd).getD .unknown
  else .unknown

/-! ## Tags of plain scalars -/

/-- Forms of plain scalars that are not texts. -/
def plainForms : List (Tag × String) :=
  [(.bool, "yes|Yes|YES|no|No|NO|true|True|TRUE|false|False|FALSE|on|On|ON|off|Off|OFF"),
   (.float, "[-+]?[0-9][0-9_]*\\.[0-9_]*(?:[eE][-+][0-9]+)?"),
   (.float, "\\.[0-9][0-9_]*(?:[eE][-+][0-9]+)?"),
   (.float, "[-+]?[0-9][0-9_]*(?::[0-5]?[0-9])+\\.[0-9_]*"),
   (.float, "[-+]?\\.(?:inf|Inf|INF)"),
   (.float, "\\.(?:nan|NaN|NAN)"),
   (.int, "[-+]?0b[0-1_]+"),
   (.int, "[-+]?0[0-7_]+"),
   (.int, "[-+]?(?:0|[1-9][0-9_]*)"),
   (.int, "[-+]?0x[0-9a-fA-F_]+"),
   (.int, "[-+]?[1-9][0-9_]*(?::[0-5]?[0-9])+"),
   (.merge, "<<"),
   (.null, "~|null|Null|NULL|"),
   (.timestamp, "[0-9][0-9][0-9][0-9]-[0-9][0-9]-[0-9][0-9]"),
   (.timestamp,
    "[0-9][0-9][0-9][0-9]-[0-9][0-9]?-[0-9][0-9]?(?:[Tt]|[ \\t]+)[0-9][0-9]?:[0-9][0-9]" ++
      ":[0-9][0-9](?:\\.[0-9]*)?(?:[ \\t]*(?:Z|[-+][0-9][0-9]?(?::[0-9][0-9])?))?"),
   (.value, "=")]

def plainPatterns : List (Tag × Pattern.Regex) :=
  plainForms.filterMap fun f =>
    (Pattern.Regex.parse f.2.toList).toOption.map fun p => (f.1, p)

def Tag.ofPlain (s : List Char) : Tag :=
  ((plainPatterns.find? fun p => p.2.matchesAll (dropLastBreak s)).map Prod.fst).getD .str

/-! ## Composition -/

/-- What is left of a document, and what has been named in it. A node that is not yet
complete has its name already. -/
structure Composer where
  tokens : List Token
  anchors : List (List Char × Option Node)
  /-- Stems of tags under their handles. -/
  handles : List (List Char × List Char)

abbrev Compose := StateT Composer Option

namespace Compose

def refuse {α : Type} : Compose α := failure

def peek : Compose (Option Token) := do return (← get).tokens.head?

def drop : Compose Unit := modify fun s => { s with tokens := s.tokens.drop 1 }

def skip (t : Token) : Compose Bool := do
  if (← peek) = some t then
    drop
    return true
  else return false

def expect (t : Token) : Compose Unit := do if ← skip t then pure () else refuse

def meets (ts : List Token) : Compose Bool := do return (← peek).any ts.contains

def empty : Node := .scalar .null []

def anchor? : Compose (Option (List Char)) := do
  match ← peek with
  | some (.anchor name) => drop; return some name
  | _ => return none

def tag? : Compose (Option (List Char)) := do
  match ← peek with
  | some (.tag none suffix) => drop; return some suffix
  | some (.tag (some handle) suffix) =>
      drop
      match (← get).handles.find? fun h => h.1 == handle with
      | some h => return some (h.2 ++ suffix)
      | none => refuse
  | _ => return none

/-- An anchor and a tag in either order. -/
def properties : Compose (Option (List Char) × Option (List Char)) := do
  match ← anchor? with
  | some name => return (some name, ← tag?)
  | none =>
      let t ← tag?
      let name ← if t.isSome then anchor? else pure none
      return (name, t)

def takeName : Option (List Char) → Compose Unit
  | none => pure ()
  | some name => do
      if (← get).anchors.any fun a => a.1 == name then refuse
      else modify fun s => { s with anchors := (name, none) :: s.anchors }

def giveName (name : Option (List Char)) (n : Node) : Compose Node := do
  match name with
  | none => return n
  | some name =>
      modify fun s => { s with anchors := (name, some n) :: s.anchors }
      return n

def named (name : List Char) : Compose Node := do
  match ((← get).anchors.find? fun a => a.1 == name).bind Prod.snd with
  | some n => return n
  | none => refuse

/-- Whether a written tag leaves it to the node what it is read as. -/
def isOpen (t : Option (List Char)) : Bool := t.isNone || t = some ['!']

def collectionTag (t : Option (List Char)) (default : Tag) : Tag :=
  if isOpen t then default else (t.map Tag.ofName).getD default

def scalarTag (t : Option (List Char)) (plain : Bool) (text : List Char) : Tag :=
  match t with
  | none => if plain then .ofPlain text else .str
  | some t => if t = ['!'] then .ofPlain text else .ofName t

mutual
/-- A node. In a block it may be a block collection; as the value or key of a mapping it
may be a sequence that is not indented. -/
def node : Nat → Bool → Bool → Compose Node
  | 0, _, _ => refuse
  | fuel + 1, inBlock, flat => do
      match ← peek with
      | some (.alias name) => drop; named name
      | _ =>
          let (name, t) ← properties
          takeName name
          let n ← match ← peek with
            | some .item =>
                if flat then do
                  return ← giveName name (.sequence (collectionTag t .seq) (← flatItems fuel))
                else bare name t
            | some (.scalar plain text) => do
                drop
                pure (.scalar (scalarTag t plain text) text)
            | some .flowSequence => do
                drop
                pure (.sequence (collectionTag t .seq) (← flowItems fuel true))
            | some .flowMapping => do
                drop
                pure (.mapping (collectionTag t .map) (← flowEntries fuel true))
            | some .blockSequence =>
                if inBlock then do
                  drop
                  pure (.sequence (collectionTag t .seq) (← blockItems fuel))
                else bare name t
            | some .blockMapping =>
                if inBlock then do
                  drop
                  pure (.mapping (collectionTag t .map) (← blockEntries fuel))
                else bare name t
            | _ => bare name t
          giveName name n

def bare (name t : Option (List Char)) : Compose Node :=
  if name.isSome || t.isSome then pure (.scalar (scalarTag t true []) []) else refuse

def blockItems : Nat → Compose (List Node)
  | 0 => refuse
  | fuel + 1 => do
      if ← skip .item then
        let n ← if ← meets [.item, .blockEnd] then pure empty else node fuel true false
        return n :: (← blockItems fuel)
      else
        expect .blockEnd
        return []

/-- Items of a sequence that ends with the tokens of its mapping. -/
def flatItems : Nat → Compose (List Node)
  | 0 => refuse
  | fuel + 1 => do
      if ← skip .item then
        let n ← if ← meets [.item, .key, .value, .blockEnd] then pure empty
          else node fuel true false
        return n :: (← flatItems fuel)
      else return []

/-- A key or a value in a block, if there is one. -/
def blockPart : Nat → Compose Node
  | 0 => refuse
  | fuel + 1 => do
      if ← meets [.key, .value, .blockEnd] then pure empty else node fuel true true

def blockEntries : Nat → Compose (List (Node × Node))
  | 0 => refuse
  | fuel + 1 => do
      if ← skip .key then
        let k ← blockPart fuel
        let v ← if ← skip .value then blockPart fuel else pure empty
        return (k, v) :: (← blockEntries fuel)
      else
        expect .blockEnd
        return []

/-- A node in brackets, if there is one before one of some tokens. -/
def flowPart : Nat → List Token → Compose Node
  | 0, _ => refuse
  | fuel + 1, ends => do
      if ← meets ends then pure empty else node fuel false false

def flowItems : Nat → Bool → Compose (List Node)
  | 0, _ => refuse
  | fuel + 1, first => do
      if ← skip .flowSequenceEnd then return []
      else
        if !first then expect .comma
        if ← skip .key then
          let k ← flowPart fuel [.value, .comma, .flowSequenceEnd]
          let v ← if ← skip .value then flowPart fuel [.comma, .flowSequenceEnd] else pure empty
          return .mapping .map [(k, v)] :: (← flowItems fuel false)
        else if ← skip .flowSequenceEnd then return []
        else
          let n ← node fuel false false
          return n :: (← flowItems fuel false)

def flowEntries : Nat → Bool → Compose (List (Node × Node))
  | 0, _ => refuse
  | fuel + 1, first => do
      if ← skip .flowMappingEnd then return []
      else
        if !first then expect .comma
        if ← skip .key then
          let k ← flowPart fuel [.value, .comma, .flowMappingEnd]
          let v ← if ← skip .value then flowPart fuel [.comma, .flowMappingEnd] else pure empty
          return (k, v) :: (← flowEntries fuel false)
        else if ← skip .flowMappingEnd then return []
        else
          let k ← node fuel false false
          return (k, empty) :: (← flowEntries fuel false)
end

def standardHandles : List (List Char × List Char) :=
  [(['!'], ['!']), (['!', '!'], standardStem)]

/-- The directives in front of a document: at most one for the version, and at most one
for each handle. -/
def directives : Nat → Bool → Compose Unit
  | 0, _ => refuse
  | fuel + 1, versionGiven => do
      match ← peek with
      | some (.directive d) =>
          drop
          match d with
          | .version major =>
              if versionGiven || major != 1 then refuse else directives fuel true
          | .tagName handle stem =>
              if (← get).handles.any fun h => h.1 == handle then refuse
              else
                modify fun s => { s with handles := (handle, stem) :: s.handles }
                directives fuel versionGiven
          | .other => directives fuel versionGiven
      | _ => modify fun s => { s with handles := s.handles ++ standardHandles }

def skipEnds : Nat → Compose Unit
  | 0 => refuse
  | fuel + 1 => do if ← skip .documentEnd then skipEnds fuel else pure ()

def isDirective : Option Token → Bool
  | some (.directive _) => true
  | _ => false

def document (fuel : Nat) : Compose (Option Node) := do
  match ← peek with
  | none => return none
  | first =>
      let n ←
        if isDirective first || first = some .documentStart then do
          directives fuel false
          expect .documentStart
          let next ← peek
          if next.isNone || isDirective next || (← meets [.documentStart, .documentEnd]) then
            pure empty
          else node fuel true false
        else do
          modify fun s => { s with handles := standardHandles }
          node fuel true false
      skipEnds fuel
      if (← peek).isNone then return some n else refuse

end Compose

/-- The tree of the only document in a row of tokens; none if there is no document. -/
def Node.ofTokens (ts : List Token) : Except Trouble (Option Node) :=
  match (Compose.document (4 * ts.length + 4)).run ⟨ts, [], []⟩ with
  | some (n, _) => .ok n
  | none => .error .malformed

end Vetting.Yaml
