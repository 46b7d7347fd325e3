import ProfileKit.Editor.FieldMemory
import ProfileKit.Editor.Form
import ProfileKit.Json.Printer
import ProfileKit.Text.Integer

/-!
# Binding forms to documents

How the slots of a form are read from a mapping and written into one. Cleared entries remove their
keys; keys that no slot edits are left alone.

| here | `sync::forms` of glossa-core |
| --- | --- |
| `Form.ofMapping`, `Form.writeOver` | `FormModel::from_mapping`, `FormModel::write_mapping` |
| `shownAt`, `itemsAt`, `fieldPath` | `text_of`, `list_of`, `field_path` |
| `Slot.read` | `text_of`, `number_of`, `json_text_of`, `bool_of` or `list_of`, by the widget |
| `Slot.write` | `put_text`, `put_number`, `put_json`, `put_bool` or `put_list`, by the widget |
| `typedValue`, `listValue` | the values in `put_number` and `put_list` |
| `innerMapping` | `nested`; with `mappingValue` it makes up `put_nested` |
-/

namespace ProfileKit

/-! ## Reading -/

/-- The text that a value is shown as. -/
def Json.shownText : Json → String
  | .null => ""
  | .string s => s
  | v => v.render

/-- The text that is shown for a key. -/
def shownAt (m : Mapping) (key : String) : String := ((m.get? key).map Json.shownText).getD ""

/-- The items that are shown for a key. -/
def itemsAt (m : Mapping) (key : String) : List String :=
  match m.get? key with
  | some (.array items) => items.map fun
    | .string s => s
    | v => v.render
  | _ => []

/-- The JSON text that is shown for a key. -/
def jsonAt (m : Mapping) (key : String) : String :=
  match m.get? key with
  | none | some .null => ""
  | some v => v.renderIndented

/-- The name under which a key of a mapping inside the document is remembered. -/
def fieldPath (scope key : String) : String := if scope.isEmpty then key else scope ++ "." ++ key

/-- The entry of a slot, from the mapping that its key stands in. -/
def Slot.read (s : Slot) (memory : FieldMemory) (scope : String) (m : Mapping) : Entry :=
  match s.widget with
  | .text => .text (shownAt m s.key)
  | .renamedText old =>
    let shown := shownAt m s.key
    .text (if shown.isEmpty then shownAt m old else shown)
  | .number =>
    .text ((memory.typedText? (fieldPath scope s.key) (m.get? s.key)).getD (shownAt m s.key))
  | .json => .text ((memory.typedText? s.key (m.get? s.key)).getD (jsonAt m s.key))
  | .toggle => .toggle ((m.get? s.key).bind Json.asBool?)
  | .list => .items (itemsAt m s.key)

/-- The mapping under a key; an empty one if there is none. -/
def innerMapping (m : Mapping) (key : String) : Mapping :=
  match m.get? key with
  | some (.object fields) => fields
  | _ => []

/-- Reads a form from a document. -/
def Form.ofMapping (k : Kind) (memory : FieldMemory) (m : Mapping) : Form :=
  let l := Layout.ofKind k
  ⟨(l.top.map fun s => (s.name, s.read memory "" m))
    ++ l.inner.map fun s => (s.name, s.read memory l.scope (innerMapping m l.scope))⟩

/-! ## Writing -/

/-- The number that a text without blanks at its ends is stored as. -/
def typedNumber? (cs : List Char) : Option Json.Number :=
  match Text.natural? cs with
  | some n => some (.natural n)
  | none =>
    match Text.negative? cs with
    | some 0 => some (.natural 0)
    | some (n + 1) => some (.negative n)
    | none => (Binary64.ofText? cs).map .float

/-- The value that the text of a number is stored as: a number if it is one, and otherwise the text,
for the checks to find. -/
def typedValue (trimmed : String) : Json :=
  ((typedNumber? trimmed.toList).map .number).getD (.string trimmed)

/-- A text as a value; an empty one is none. -/
def textValue (s : String) : Option Json := if s.isEmpty then none else some (.string s)

/-- A list as a value, without blank items; an empty one is none. -/
def listValue (xs : List String) : Option Json :=
  match xs.filterMap Text.nonBlank? with
  | [] => none
  | ys => some (.array (ys.map .string))

/-- Writes the entry of a slot into the mapping that its key stands in. -/
def Slot.write (s : Slot) (f : Form) (scope : String) (state : Mapping × FieldMemory) :
    Mapping × FieldMemory :=
  let (m, memory) := state
  match s.widget with
  | .text => (m.put s.key (textValue (f.text s.name)), memory)
  | .renamedText old => ((m.erase old).put s.key (textValue (f.text s.name)), memory)
  | .number =>
    let typed := f.text s.name
    let value := (Text.nonBlank? typed).map typedValue
    (m.put s.key value, memory.remember (fieldPath scope s.key) typed value)
  | .json => memory.putJson m s.key (f.text s.name)
  | .toggle => (m.put s.key ((f.toggle s.name).map .bool), memory)
  | .list => (m.put s.key (listValue (f.items s.name)), memory)

/-- Writes slots one after the other. -/
def writeSlots (slots : List Slot) (f : Form) (scope : String) (state : Mapping × FieldMemory) :
    Mapping × FieldMemory :=
  slots.foldl (fun state s => s.write f scope state) state

/-- A mapping as a value; an empty one is none. -/
def mappingValue (m : Mapping) : Option Json := if m.isEmpty then none else some (.object m)

/-- Writes a form over a document. -/
def Form.writeOver (f : Form) (k : Kind) (memory : FieldMemory) (raw : Mapping) :
    Mapping × FieldMemory :=
  let l := Layout.ofKind k
  let (m, memory) := writeSlots l.top f "" (raw, memory)
  if l.inner.isEmpty then (m, memory)
  else
    let (inner, memory) := writeSlots l.inner f l.scope (innerMapping m l.scope, memory)
    (m.put l.scope (mappingValue inner), memory)

end ProfileKit
