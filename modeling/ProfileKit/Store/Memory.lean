import ProfileKit.Id
import ProfileKit.Store

/-!
# Store in memory

Texts in a table of their keys.

`MemoryStore` is the map in a `MemoryProfileStore` of glossa-core, and `MemoryStore.store` its four
functions as a `ProfileStore`.
-/

namespace ProfileKit

/-- The texts of profiles by their keys. -/
abbrev MemoryStore := Table Key String

namespace MemoryStore

def list (k : Kind) (s : MemoryStore) : List Summary :=
  (s.filter fun e => e.1.kind = k).map fun e => .ofText k e.1.id e.2

def load (k : Kind) (id : String) (s : MemoryStore) : Except ProfileError StoredProfile :=
  match s.get? ⟨k, id⟩ with
  | some text => StoredProfile.ofText k text
  | none => .error (.notFound (Key.render ⟨k, id⟩))

def save (k : Kind) (id text : String) (overwrite : Bool) (s : MemoryStore) :
    Except ProfileError (List String) × MemoryStore :=
  match Id.check id with
  | .error e => (.error e, s)
  | .ok () =>
    if !overwrite && s.contains ⟨k, id⟩ then (.error (.conflict (Key.render ⟨k, id⟩)), s)
    else (.ok [], s.insert ⟨k, id⟩ text)

def delete (k : Kind) (id : String) (s : MemoryStore) : Except ProfileError Unit × MemoryStore :=
  if s.contains ⟨k, id⟩ then (.ok (), s.erase ⟨k, id⟩)
  else (.error (.notFound (Key.render ⟨k, id⟩)), s)

/-- The store. -/
def store : Store MemoryStore where
  list k := .inspect fun s => .ok (list k s)
  load k id := .inspect (load k id)
  save k id text overwrite := .ofFunction (save k id text overwrite)
  delete k id := .ofFunction (delete k id)

end MemoryStore
end ProfileKit
