import ProfileKit.Profile.Field

/-!
# Records in mappings

A record is some keys of a mapping, read together; records are put together from fields. Its keys
that no field models are carried along, so a mapping that is read and written keeps them. The faults
of a mapping are met in the order of its keys.

A codec stands for how a body in `document` of glossa-core, or a mapping inside one, is derived to be
read and written; `Record.extra` is its flattened `ExtraFields`, and `Record.aliasedField` a field with
an alias.
-/

namespace ProfileKit

/-- Some keys of a mapping, read together. -/
structure Record (α : Type) where
  keys : List String
  /-- Why the value of a key is refused, if the key is one of the record's. -/
  faultAt? : Mapping → String → Json → Option Misread
  read : Mapping → α
  write : α → Mapping → Mapping

namespace Record

variable {α β : Type}

/-- The record of one field. -/
def field (key : String) (f : Field α) : Record α where
  keys := [key]
  faultAt? _ k v := if k = key then f.fault? v else none
  read m := f.read (m.get? key)
  write a m := m.put key (f.write a)

/-- A field with a second spelling of its key, which is read but not written. A mapping has one of
the two only. -/
def aliasedField (key second : String) (f : Field α) : Record α where
  keys := [key, second]
  faultAt? m k v :=
    if k = key then f.fault? v
    else if k = second then
      if m.contains key then some (.duplicate key) else f.fault? v
    else none
  read m := f.read ((m.get? key).or (m.get? second))
  write a m := (m.erase second).put key (f.write a)

/-- Two records side by side. -/
def pair (r : Record α) (s : Record β) : Record (α × β) where
  keys := r.keys ++ s.keys
  faultAt? m k v := (r.faultAt? m k v).or (s.faultAt? m k v)
  read m := (r.read m, s.read m)
  write a m := s.write a.2 (r.write a.1 m)

/-- One field more. -/
def cons (key : String) (f : Field α) (r : Record β) : Record (α × β) := (field key f).pair r

/-- The first fault of a mapping. -/
def fault? (r : Record α) (m : Mapping) : Option Misread :=
  m.findSome? fun f => r.faultAt? m f.1 f.2

/-- The fields of a mapping that the record does not model. -/
def extra (r : Record α) (m : Mapping) : Mapping := m.filter fun f => !r.keys.contains f.1

end Record

/-- How a whole mapping is taken as a value. -/
structure Codec (α : Type) where
  fault? : Mapping → Option Misread
  read : Mapping → α
  write : α → Mapping

namespace Codec

variable {α τ : Type}

/-- The mappings of a record and whatever else they hold. -/
def ofRecord (r : Record τ) (make : τ → Mapping → α) (split : α → τ × Mapping) : Codec α where
  fault? := r.fault?
  read m := make (r.read m) (r.extra m)
  write a := r.write (split a).1 (split a).2

/-- A mapping as the value of a field. -/
def nested (c : Codec α) : Field (Option α) where
  fault?
    | .null => none
    | .object fields => c.fault? fields
    | _ => some (.unexpected "a mapping")
  read
    | some (.object fields) => some (c.read fields)
    | _ => none
  write a := a.map fun a => .object (c.write a)

/-- A list of mappings as the value of a field. -/
def list (c : Codec α) : Field (Option (List α)) where
  fault?
    | .null => none
    | .array items => items.findSome? fun
      | .object fields => c.fault? fields
      | _ => some (.unexpected "a mapping")
    | _ => some (.unexpected "a list")
  read
    | some (.array items) => some (items.filterMap fun
      | .object fields => some (c.read fields)
      | _ => none)
    | _ => none
  write items := items.map fun xs => .array (xs.map fun a => .object (c.write a))

/-- Reads a mapping, or tells its first fault. -/
def read? (c : Codec α) (m : Mapping) : Except Misread α :=
  match c.fault? m with
  | some fault => .error fault
  | none => .ok (c.read m)

end Codec
end ProfileKit
