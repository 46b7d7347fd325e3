import ProfileKit.Table
import ProfileKit.Text.Blank
import ProfileKit.Unicode.Lowercase

/-!
# Kinds of profiles

The six kinds of profiles that a text pipeline is assembled from, sets of them, and the keys under
which profiles are kept: ids are unique within one kind only.

| here | `properties` of glossa-core |
| --- | --- |
| `Kind`, `Kind.all`, `Kind.name` | `ProfileKind`, `ProfileKind::ALL`, `as_str` |
| `Kind.pipelineField?` | `pipeline_field` |
| `Kind.ofName?` | `ProfileKind::from_str` |
| `KindSet`, `KindSet.render` | `ProfileKindSet` and how it is displayed |
| `Key`, `Key.render` | `ProfileKey` and how it is displayed |
-/

namespace ProfileKit

/-- A kind of profile. The order is the order in which kinds are listed everywhere. -/
inductive Kind where
  /-- Where a model is reached, or a pool of such places. -/
  | api
  /-- One profile of every other kind, wired together. -/
  | pipeline
  /-- The templates of what the model is asked. -/
  | prompt
  /-- How text is taken out of a model's response. -/
  | parser
  /-- How lines are aligned. -/
  | policy
  /-- How source text is sliced. -/
  | chunk
deriving DecidableEq, Repr

namespace Kind

def all : List Kind := [.api, .pipeline, .prompt, .parser, .policy, .chunk]

theorem mem_all (k : Kind) : k ∈ all := by cases k <;> decide

def name : Kind → String
  | .api => "api"
  | .pipeline => "pipeline"
  | .prompt => "prompt"
  | .parser => "parser"
  | .policy => "policy"
  | .chunk => "chunk"

theorem name_inj {j k : Kind} (h : j.name = k.name) : j = k := by
  cases j <;> cases k <;> simp_all [name]

instance : ToString Kind := ⟨name⟩

/-- The place of a kind in the order. -/
def rank : Kind → Nat
  | .api => 0
  | .pipeline => 1
  | .prompt => 2
  | .parser => 3
  | .policy => 4
  | .chunk => 5

/-- The field in which a pipeline refers to a profile of a kind; pipelines do not refer to
pipelines. -/
def pipelineField? : Kind → Option String
  | .api => some "provider"
  | .prompt => some "prompt"
  | .parser => some "parser"
  | .policy => some "line_policy"
  | .chunk => some "chunk_policy"
  | .pipeline => none

instance : SortKey Kind := ⟨fun a b => a.rank < b.rank⟩

/-- The spelling of a kind that is looked up: trimmed and in lower case. -/
def normalizeName (s : String) : String := Unicode.lowercase (Text.trim s)

/-- The kind of a name, blanks and case aside. -/
def ofName? (s : String) : Option Kind :=
  let n := normalizeName s
  all.find? fun k => k.name = n

end Kind

/-- A set of kinds, kept in their order. -/
structure KindSet where
  kinds : List Kind
deriving DecidableEq, Repr

namespace KindSet

def empty : KindSet := ⟨[]⟩

def contains (s : KindSet) (k : Kind) : Bool := s.kinds.contains k

def insert (s : KindSet) (k : Kind) : KindSet :=
  ⟨Kind.all.filter fun j => j = k || s.contains j⟩

def ofList (ks : List Kind) : KindSet := ks.foldl insert empty

def size (s : KindSet) : Nat := s.kinds.length

/-- The names of the kinds with bars between them. -/
def render (s : KindSet) : String := "|".intercalate (s.kinds.map Kind.name)

theorem contains_insert (s : KindSet) (k j : Kind) :
    (s.insert k).contains j = (decide (j = k) || s.contains j) := by
  have h := Kind.mem_all j
  simp only [insert, contains, List.contains_eq_mem, List.mem_filter, h, true_and]
  simp

end KindSet

/-- The key of a profile. -/
structure Key where
  kind : Kind
  id : String
deriving DecidableEq, Repr

namespace Key

def render (k : Key) : String := k.kind.name ++ ":" ++ k.id

/-- Keys are ordered by kind and then by id. -/
def before (a b : Key) : Bool :=
  a.kind.rank < b.kind.rank || (a.kind = b.kind && decide (a.id < b.id))

instance : SortKey Key := ⟨before⟩

end Key
end ProfileKit
