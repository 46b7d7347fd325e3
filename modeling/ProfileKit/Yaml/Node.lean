import ProfileKit.Yaml.Scanner

/-!
# Documents of YAML

A document is a tree of nodes. An alias stands for the node that its anchor names, so a node may
occur many times; how often aliases are followed, and how deep collections are nested, is counted
while the tree is built. An alias inside the node that it names has no tree.
-/

namespace ProfileKit.Yaml

/-- A node: a scalar or a collection, each with its tag if it has one. -/
inductive Node where
  | scalar (tag : Option String) (plain : Bool) (text : String)
  | sequence (tag : Option String) (items : List Node)
  | mapping (tag : Option String) (entries : List (Node × Node))

instance : Inhabited Node := ⟨.scalar none true ""⟩

/-- A node with the number of aliases in it, counted as often as they are met, and the depth of its
collections. -/
structure Tree where
  node : Node
  aliases : Nat
  depth : Nat

instance : Inhabited Tree := ⟨default, 0, 0⟩

namespace Tree

def scalar (tag : Option String) (plain : Bool) (text : String) : Tree :=
  ⟨.scalar tag plain text, 0, 0⟩

def empty : Tree := scalar none true ""

def sequence (tag : Option String) (items : List Tree) : Tree :=
  ⟨.sequence tag (items.map (·.node)), items.foldl (fun n t => n + t.aliases) 0,
    (items.map (·.depth)).foldl max 0 + 1⟩

def mapping (tag : Option String) (entries : List (Tree × Tree)) : Tree :=
  ⟨.mapping tag (entries.map fun e => (e.1.node, e.2.node)),
    entries.foldl (fun n e => n + e.1.aliases + e.2.aliases) 0,
    (entries.map fun e => max e.1.depth e.2.depth).foldl max 0 + 1⟩

end Tree

/-- What building a document keeps track of. -/
structure Building where
  tokens : List Token
  /-- Tag handles with what they stand for. -/
  handles : List (String × String)
  /-- Anchors, the latest first, with the number of the node that they name. -/
  anchors : List (String × Nat) := []
  /-- The numbered nodes that are complete. -/
  named : List (Nat × Tree) := []
  /-- How many nodes were started or ended. -/
  size : Nat := 0

abbrev Build := StateT Building Option

namespace Build

def peek : Build Token := do return (← get).tokens.headD .streamEnd

def skip : Build Unit := modify fun s => { s with tokens := s.tokens.drop 1 }

def count (n : Nat) : Build Unit := modify fun s => { s with size := s.size + n }

/-- An empty scalar where a node is left out. -/
def emptyNode : Build Tree := do
  count 1
  return .empty

/-- Gives an anchor, if there is one, to the node that starts here. -/
def openAnchor (anchor : Option String) : Build (Option Nat) := do
  match anchor with
  | none => return none
  | some name =>
    let s ← get
    let number := s.anchors.length
    set { s with anchors := (name, number) :: s.anchors }
    return some number

/-- Completes the node that an anchor names. -/
def closeAnchor (number : Option Nat) (t : Tree) : Build Tree := do
  match number with
  | none => return t
  | some n =>
    modify fun s => { s with named := (n, t) :: s.named }
    return t

/-- The node that an alias stands for. -/
def resolveAlias (name : String) : Build Tree := do
  let s ← get
  let number ← s.anchors.lookup name
  let t ← s.named.lookup number
  count 1
  return { t with aliases := t.aliases + 1 }

/-- A tag with its handle replaced. A tag of a lone mark says nothing of a scalar. -/
def resolveTag (handle suffix : String) : Build (Option String) := do
  if handle.isEmpty then return if suffix.isEmpty then none else some suffix
  else
    let stem ← (← get).handles.lookup handle
    return some (stem ++ suffix)

/-- Reads the anchor and the tag before a node, in either order. -/
def properties : Build (Option String × Option String) := do
  match ← peek with
  | .anchor name =>
    skip
    match ← peek with
    | .tag handle suffix =>
      skip
      return (some name, ← resolveTag handle suffix)
    | _ => return (some name, none)
  | .tag handle suffix =>
    skip
    match ← peek with
    | .anchor name =>
      skip
      return (some name, ← resolveTag handle suffix)
    | _ => return (none, ← resolveTag handle suffix)
  | _ => return (none, none)

mutual
/-- Builds a node. In the block style block collections may start, and after a key also a sequence
that is not indented. -/
def node : (fuel : Nat) → (block indentless : Bool) → Build Tree
  | 0, _, _ => failure
  | fuel + 1, block, indentless => do
    match ← peek with
    | .alias name =>
      skip
      resolveAlias name
    | first =>
      let (anchor, tag) ← properties
      let hasProperties := match first with
        | .anchor _ | .tag _ _ => true
        | _ => false
      let number ← openAnchor anchor
      match ← peek, indentless, block with
      | .blockEntry, true, _ =>
        count 2
        let items ← indentlessItems fuel
        closeAnchor number (.sequence tag items)
      | .scalar text plain, _, _ =>
        skip
        count 1
        closeAnchor number (.scalar (if tag == some "!" then none else tag) plain text)
      | .flowSequenceStart, _, _ =>
        skip
        count 2
        let items ← flowItems fuel true
        closeAnchor number (.sequence tag items)
      | .flowMappingStart, _, _ =>
        skip
        count 2
        let entries ← flowEntries fuel true
        closeAnchor number (.mapping tag entries)
      | .blockSequenceStart, _, true =>
        skip
        count 2
        let items ← blockItems fuel
        closeAnchor number (.sequence tag items)
      | .blockMappingStart, _, true =>
        skip
        count 2
        let entries ← blockEntries fuel
        closeAnchor number (.mapping tag entries)
      | _, _, _ =>
        if hasProperties then
          count 1
          closeAnchor number (.scalar (if tag == some "!" then none else tag) true "")
        else failure

/-- Builds the items of an indented block sequence. -/
def blockItems : (fuel : Nat) → Build (List Tree)
  | 0 => failure
  | fuel + 1 => do
    match ← peek with
    | .blockEntry =>
      skip
      let item ← match ← peek with
        | .blockEntry | .blockEnd => emptyNode
        | _ => node fuel true false
      return item :: (← blockItems fuel)
    | .blockEnd =>
      skip
      return []
    | _ => failure

/-- Builds the items of a block sequence that is not indented. -/
def indentlessItems : (fuel : Nat) → Build (List Tree)
  | 0 => failure
  | fuel + 1 => do
    match ← peek with
    | .blockEntry =>
      skip
      let item ← match ← peek with
        | .blockEntry | .key | .value | .blockEnd => emptyNode
        | _ => node fuel true false
      return item :: (← indentlessItems fuel)
    | _ => return []

/-- Builds the entries of a block mapping. -/
def blockEntries : (fuel : Nat) → Build (List (Tree × Tree))
  | 0 => failure
  | fuel + 1 => do
    let key ← match ← peek with
      | .key => do
        skip
        match ← peek with
        | .key | .value | .blockEnd => some <$> emptyNode
        | _ => some <$> node fuel true true
      | .blockEnd => do
        skip
        pure none
      | _ => failure
    match key with
    | none => return []
    | some key =>
      let value ← match ← peek with
        | .value => do
          skip
          match ← peek with
          | .key | .value | .blockEnd => emptyNode
          | _ => node fuel true true
        | _ => emptyNode
      return (key, value) :: (← blockEntries fuel)

/-- Builds the items of a flow sequence. A key in it makes a mapping of one entry. -/
def flowItems : (fuel : Nat) → (first : Bool) → Build (List Tree)
  | 0, _ => failure
  | fuel + 1, first => do
    match ← peek with
    | .flowSequenceEnd =>
      skip
      return []
    | t =>
      if !first then
        if t == .flowEntry then skip else failure
      match ← peek with
      | .flowSequenceEnd =>
        skip
        return []
      | .key =>
        skip
        count 2
        let key ← match ← peek with
          | .value | .flowEntry | .flowSequenceEnd => do
            skip
            emptyNode
          | _ => node fuel false false
        let value ← match ← peek with
          | .value => do
            skip
            match ← peek with
            | .flowEntry | .flowSequenceEnd => emptyNode
            | _ => node fuel false false
          | _ => emptyNode
        return .mapping none [(key, value)] :: (← flowItems fuel false)
      | _ =>
        let item ← node fuel false false
        return item :: (← flowItems fuel false)

/-- Builds the entries of a flow mapping. -/
def flowEntries : (fuel : Nat) → (first : Bool) → Build (List (Tree × Tree))
  | 0, _ => failure
  | fuel + 1, first => do
    match ← peek with
    | .flowMappingEnd =>
      skip
      return []
    | t =>
      if !first then
        if t == .flowEntry then skip else failure
      match ← peek with
      | .flowMappingEnd =>
        skip
        return []
      | .key =>
        skip
        let key ← match ← peek with
          | .value | .flowEntry | .flowMappingEnd => emptyNode
          | _ => node fuel false false
        let value ← match ← peek with
          | .value => do
            skip
            match ← peek with
            | .flowEntry | .flowMappingEnd => emptyNode
            | _ => node fuel false false
          | _ => emptyNode
        return (key, value) :: (← flowEntries fuel false)
      | _ =>
        let key ← node fuel false false
        let value ← emptyNode
        return (key, value) :: (← flowEntries fuel false)
end

/-- The handles that need no directive. -/
def standardHandles : List (String × String) := [("!", "!"), ("!!", "tag:yaml.org,2002:")]

/-- Reads directives: one of a version, which is 1.1 or 1.2, and one for each handle. -/
def directives : (fuel : Nat) → (versioned : Bool) → (own : List (String × String)) →
    Build (List (String × String))
  | 0, _, own => return own
  | fuel + 1, versioned, own => do
    match ← peek with
    | .versionDirective major minor =>
      if versioned || major ≠ 1 || (minor ≠ 1 && minor ≠ 2) then failure
      skip
      directives fuel true own
    | .tagDirective handle stem =>
      if own.any (·.1 == handle) then failure
      skip
      directives fuel versioned ((handle, stem) :: own)
    | _ => return own

/-- Skips the ends of documents. -/
def skipDocumentEnds : (fuel : Nat) → Build Unit
  | 0 => return ()
  | fuel + 1 => do
    if (← peek) == .documentEnd then
      skip
      skipDocumentEnds fuel

/-- Builds the only document of a stream; an empty stream has none. -/
def document (fuel : Nat) : Build (Option Tree) := do
  match ← peek with
  | .streamEnd => return none
  | first =>
    let explicit := match first with
      | .versionDirective _ _ | .tagDirective _ _ | .documentStart => true
      | _ => false
    if explicit then
      let own ← directives fuel false []
      modify fun s => { s with handles := own ++ s.handles }
      if (← peek) == .documentStart then skip else failure
    let tree ← match ← peek with
      | .versionDirective _ _ | .tagDirective _ _ | .documentStart | .documentEnd | .streamEnd =>
        if explicit then emptyNode else failure
      | _ => node fuel true false
    skipDocumentEnds fuel
    if (← peek) == .streamEnd then return some tree else failure

end Build

/-- The tree of the only document of a text, with how many nodes were started or ended in it. -/
def tree? (text : String) : Option (Option Tree × Nat) := do
  let tokens ← tokens? text
  let (tree, s) ← (Build.document (2 * tokens.length + 2)).run ⟨tokens, Build.standardHandles, [], [], 0⟩
  some (tree, s.size)

end ProfileKit.Yaml
