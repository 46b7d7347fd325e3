import ProfileKit.Profile

/-!
# Reference index

The ids that profiles can refer to, by kind, and the types of chunk profiles where they are known.

| here | `validate::index` of glossa-core |
| --- | --- |
| `known`, `chunkTypes` | `ids`, with the kinds and the ids as one key, and `chunk_types` |
| `insertChunk` | `with_chunk` |
| `insertProfile`, `ofProfiles` | `insert_document`, `from_documents` |
| `isEmptyFor`, `chunkType?` | `is_empty_for`, `chunk_type` |
-/

namespace ProfileKit

/-- Known ids and chunk types. -/
structure ReferenceIndex where
  /-- The keys of known profiles. -/
  known : Table Key Unit
  chunkTypes : Table String ChunkType
deriving DecidableEq, Repr

namespace ReferenceIndex

def empty : ReferenceIndex := ⟨[], []⟩

def contains (x : ReferenceIndex) (k : Kind) (id : String) : Bool := x.known.contains ⟨k, id⟩

/-- The ids of a kind, in order. -/
def ids (x : ReferenceIndex) (k : Kind) : List String :=
  (x.known.keys.filter fun key => key.kind = k).map Key.id

/-- Nothing is known about a kind. -/
def isEmptyFor (x : ReferenceIndex) (k : Kind) : Bool := (x.ids k).isEmpty

def chunkType? (x : ReferenceIndex) (id : String) : Option ChunkType := x.chunkTypes.get? id

def insert (x : ReferenceIndex) (k : Kind) (id : String) : ReferenceIndex :=
  { x with known := x.known.insert ⟨k, id⟩ () }

/-- Inserts a chunk profile of a type. -/
def insertChunk (x : ReferenceIndex) (id : String) (type : ChunkType) : ReferenceIndex :=
  { x.insert .chunk id with chunkTypes := x.chunkTypes.insert id type }

/-- Inserts a profile under its id; one without an id is not known. A chunk profile without a type
leaves what is known about the type. -/
def insertProfile (x : ReferenceIndex) (p : Profile) : ReferenceIndex :=
  match p.trimmedId? with
  | none => x
  | some id =>
    match p with
    | .chunk c =>
      match c.type? with
      | some type => x.insertChunk id type
      | none => x.insert .chunk id
    | p => x.insert p.kind id

def ofProfiles (ps : List Profile) : ReferenceIndex := ps.foldl insertProfile empty

def remove (x : ReferenceIndex) (k : Kind) (id : String) : ReferenceIndex where
  known := x.known.erase ⟨k, id⟩
  chunkTypes := if k = .chunk then x.chunkTypes.erase id else x.chunkTypes

theorem contains_insert (x : ReferenceIndex) (j k : Kind) (i id : String) :
    (x.insert k id).contains j i = (decide (k = j ∧ id = i) || x.contains j i) := by
  simp only [contains, insert, Table.contains, Table.get?_insert]
  by_cases h : k = j ∧ id = i
  · simp [h.1, h.2]
  · have h' : ¬ (Key.mk k id = Key.mk j i) := fun e => h ⟨congrArg Key.kind e, congrArg Key.id e⟩
    simp [h, h']

end ReferenceIndex
end ProfileKit
