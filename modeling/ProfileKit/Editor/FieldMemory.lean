import ProfileKit.Json.Reader
import ProfileKit.Text.Blank

/-!
# Field memory

What an editor remembers about the fields of a form: the last good value of every field that is
edited as JSON text, and the exact text behind every value that is stored in another spelling, so
that a form which is read back shows what was typed. Text that is no JSON object keeps the last good
value, and is told once until the field reads again.

| here | `sync` of glossa-core |
| --- | --- |
| `FieldMemory`, `Notice` | `FieldCache`, `SyncNotice` |
| `NoticeReason` | its messages; `notJson` for what the JSON library says |
| `remember`, `typedText?` | `remember`, `recall` |
| `putJson`, `refuse` | `put_json`, `keep_last_good` |
| `seed`, `forgetTyped`, `takeNotices` | `seed`, `forget_typed`, `take_notices` |
-/

namespace ProfileKit

/-- Why a JSON text was not accepted. -/
inductive NoticeReason where
  | notJson
  | notAnObject
deriving DecidableEq, Repr

def NoticeReason.message : NoticeReason → String
  | .notJson => "the text is not JSON"
  | .notAnObject => "expected a JSON object"

/-- What is told about a field. -/
structure Notice where
  field : String
  reason : NoticeReason
deriving DecidableEq, Repr

/-- What is remembered about fields: `FieldCache`. -/
structure FieldMemory where
  lastGood : Table String Json
  /-- The fields whose text was last refused. -/
  warned : Table String Unit
  notices : List Notice
  /-- The text that was typed for a field, and the value that was stored for it. -/
  typed : Table String (String × Json)
deriving DecidableEq, Repr

namespace FieldMemory

def empty : FieldMemory := ⟨[], [], [], []⟩

/-- Remembers the text behind a value; without a value the field is forgotten. -/
def remember (m : FieldMemory) (path text : String) (value : Option Json) : FieldMemory :=
  { m with typed := m.typed.put path (value.map fun v => (text, v)) }

/-- The text that was typed for a field, if the value it gave is still there. -/
def typedText? (m : FieldMemory) (path : String) (current : Option Json) : Option String :=
  match m.typed.get? path, current with
  | some (text, written), some v => if v.agrees written then some text else none
  | _, _ => none

/-- Refuses a text: the mapping gets the last good value, and a notice is left unless there is one
since the field last read. -/
def refuse (m : FieldMemory) (map : Mapping) (field : String) (reason : NoticeReason) :
    Mapping × FieldMemory :=
  let map := match m.lastGood.get? field with
    | some v => map.insert field v
    | none => map
  if m.warned.contains field then (map, m)
  else
    (map, { m with
      warned := m.warned.insert field ()
      notices := m.notices ++ [⟨field, reason⟩] })

/-- Writes a JSON text into a mapping. A blank text removes the field. -/
def putJson (m : FieldMemory) (map : Mapping) (field text : String) : Mapping × FieldMemory :=
  if Text.isBlankText text then
    (map.erase field, { m with
      lastGood := m.lastGood.erase field
      warned := m.warned.erase field
      typed := m.typed.erase field })
  else
    match Json.read? text with
    | some (.object fields) =>
      let value := Json.object fields
      (map.insert field value, { m with
        warned := m.warned.erase field
        lastGood := m.lastGood.insert field value
        typed := m.typed.insert field (text, value) })
    | some _ => m.refuse map field .notAnObject
    | none => m.refuse map field .notJson

/-- Starts over with the objects of a mapping as last good values. -/
def seed (m : FieldMemory) (map : Mapping) (fields : List String) : FieldMemory :=
  { m with
    lastGood := .ofList (fields.filterMap fun f =>
      match map.get? f with
      | some (.object o) => some (f, .object o)
      | _ => none)
    warned := [] }

def forgetTyped (m : FieldMemory) : FieldMemory := { m with typed := [] }

/-- Hands out the notices, oldest first. -/
def takeNotices (m : FieldMemory) : List Notice × FieldMemory := (m.notices, { m with notices := [] })

end FieldMemory
end ProfileKit
