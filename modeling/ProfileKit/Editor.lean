import ProfileKit.Document
import ProfileKit.Editor.Binding
import ProfileKit.Editor.Debounce
import ProfileKit.Yaml.Printer

/-!
# Editors

An editor keeps a form and its document in step. An edit is written some time after the last change;
a form is written over the document that was loaded last, so that keys it does not model survive.
Loading over an edit that is not yet written puts the edit aside. Loads are numbered, so that the
result of one that was overtaken can be dropped.

| here | `sync` of glossa-core |
| --- | --- |
| `Editor` | `SyncEngine`, with the kind for the type of its form |
| `readDocument` | `from_document` |
| `writeDocument`, `serialize` | `to_document`, `serialize_form` |
| `load` | `load`: `park` is `park_pending`, and `display` what follows it |
| `beginLoad`, `finishLoad` | `begin_load`, `finish_load` |
| `takeDiscarded`, `takeNotices` | `take_discarded`, `take_notices` |
-/

namespace ProfileKit

/-- An editor of profiles of one kind: `SyncEngine`. -/
structure Editor where
  kind : Kind
  /-- The mapping that was loaded last. -/
  raw : Mapping
  form : Form
  /-- The document as it was loaded or written last. -/
  text : String
  debounce : Debounce
  memory : FieldMemory
  loads : Generation
  /-- The document of the last edit that a load replaced. -/
  discarded : Option String
deriving DecidableEq, Repr

namespace Editor

/-- An editor that acts on edits after a delay. -/
def new (kind : Kind) (delay : Nat) : Editor where
  kind := kind
  raw := []
  form := .blank kind
  text := ""
  debounce := .ofDelay delay
  memory := .empty
  loads := .start
  discarded := none

def isPending (e : Editor) : Bool := e.debounce.isPending

/-- Reads a form from a document; values that this editor wrote are shown as they were typed. -/
def readDocument (e : Editor) (text : String) : Except ProfileError Form :=
  (Document.readMapping text).map (Form.ofMapping e.kind e.memory)

/-- The mapping of a form over the document that was loaded last. -/
def mappingOf (e : Editor) (f : Form) : Mapping × FieldMemory := f.writeOver e.kind e.memory e.raw

/-- The document of a form. -/
def writeDocument (e : Editor) (f : Form) : String × Editor :=
  let (m, memory) := e.mappingOf f
  (Yaml.render (.object m), { e with memory })

/-! ## Edits -/

/-- The form is changed. -/
def edit (e : Editor) (f : Form) (now : Nat) : Editor :=
  { e with form := f, debounce := e.debounce.touch now }

/-- Writes the form. -/
def serialize (e : Editor) : String × Editor :=
  let (text, e) := e.writeDocument e.form
  (text, { e with text })

/-- Writes a pending edit when its time has come. -/
def poll (e : Editor) (now : Nat) : Option String × Editor :=
  let (due, debounce) := e.debounce.poll now
  let e := { e with debounce }
  if due then
    let (text, e) := e.serialize
    (some text, e)
  else (none, e)

/-- Writes a pending edit at once. -/
def flush (e : Editor) : Option String × Editor :=
  let (due, debounce) := e.debounce.flush
  let e := { e with debounce }
  if due then
    let (text, e) := e.serialize
    (some text, e)
  else (none, e)

/-! ## Loads -/

/-- Equality of the values of a key that may be missing. -/
def sameValue : Option Json → Option Json → Bool
  | some v, some w => v.agrees w
  | none, none => true
  | _, _ => false

/-- Puts a pending edit aside. -/
def park (e : Editor) : Editor :=
  if e.isPending then
    let (text, e) := e.writeDocument e.form
    { e with discarded := some text }
  else e

/-- Shows a document. What was typed is forgotten when it has another id than the one before. -/
def display (e : Editor) (raw : Mapping) (text : String) : Editor :=
  let memory :=
    if sameValue (raw.get? "id") (e.raw.get? "id") then e.memory else e.memory.forgetTyped
  { e with
    form := .ofMapping e.kind memory raw
    memory := memory.seed raw (Layout.ofKind e.kind).jsonKeys
    raw
    text
    debounce := e.debounce.cancel }

/-- Loads a document. -/
def load (e : Editor) (text : String) : Except ProfileError Editor :=
  (Document.readMapping text).map fun raw => e.park.display raw text

/-- Starts a load, which gets a number. -/
def beginLoad (e : Editor) : Nat × Editor :=
  let (token, loads) := e.loads.next
  (token, { e with loads })

/-- Ends a load; one that was overtaken is dropped. -/
def finishLoad (e : Editor) (token : Nat) (text : String) : Except ProfileError (Bool × Editor) :=
  if e.loads.isCurrent token then (e.load text).map (true, ·) else .ok (false, e)

/-! ## What is handed out once -/

/-- Hands out the document that was put aside. -/
def takeDiscarded (e : Editor) : Option String × Editor := (e.discarded, { e with discarded := none })

/-- Hands out the notices about fields. -/
def takeNotices (e : Editor) : List Notice × Editor :=
  let (notices, memory) := e.memory.takeNotices
  (notices, { e with memory })

end Editor
end ProfileKit
