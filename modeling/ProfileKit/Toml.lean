import ProfileKit.Table

/-!
# TOML values

What a settings file holds. Numbers with a point and dates are told apart, but their values are not
needed. A table remembers how it came about, since that decides how it may be extended.

This module, `Toml.Reader` and `Toml.Quoted` stand for the library that `CoreConfig` of glossa-core is
read and written with.
-/

namespace ProfileKit

namespace Toml

/-- How a table came about. -/
inductive Origin where
  /-- Its name stands in a header, or it is the document. -/
  | header
  /-- A header names a table inside it. -/
  | implied
  /-- A key with points leads through it. -/
  | dotted
  /-- It is written between braces, and is complete. -/
  | inline
deriving DecidableEq, Repr

end Toml

/-- A value. -/
inductive Toml where
  | string (s : String)
  | integer (n : Int)
  | float
  | boolean (b : Bool)
  | date
  | array (items : List Toml)
  | table (origin : Toml.Origin) (entries : List (String × Toml))
  /-- Tables under one header that is repeated. -/
  | tables (items : List (List (String × Toml)))
deriving Repr

namespace Toml

/-- Puts an entry after the others, or in the place of the one with its key. -/
def putEntry (key : String) (v : Toml) : List (String × Toml) → List (String × Toml)
  | [] => [(key, v)]
  | (k, w) :: rest => if k = key then (key, v) :: rest else (k, w) :: putEntry key v rest

/-- Changes the table that a path leads to. Tables that are missing are made; `dotted` tells that
the path is a key with points, which does not lead into tables of a header. -/
def change (dotted : Bool) (f : Origin → List (String × Toml) → Option Toml) :
    List String → Origin → List (String × Toml) → Option Toml
  | [], origin, entries => f origin entries
  | key :: rest, origin, entries => do
    let v ← match entries.lookup key with
      | none => change dotted f rest (if dotted then .dotted else .implied) []
      | some (.table inner fields) =>
        if inner = .inline || (dotted && inner = .header) then none
        else change dotted f rest inner fields
      | some (.tables items) =>
        match items.getLast? with
        | none => none
        | some fields =>
          match change dotted f rest .header fields with
          | some (.table _ fields) => some (.tables (items.dropLast ++ [fields]))
          | _ => none
      | some _ => none
    some (.table origin (putEntry key v entries))

/-- Puts a value under a key with points into a table. -/
def putDotted (path : List String) (key : String) (v : Toml) (origin : Origin)
    (entries : List (String × Toml)) : Option Toml :=
  change true (fun origin entries =>
    if (origin == .dotted) == path.isEmpty then none
    else if (entries.lookup key).isSome then none
    else some (.table origin (entries ++ [(key, v)]))) path origin entries

/-- Opens the table of a header. A table that is there may be opened if it was implied only. -/
def openTable (path : List String) (key : String) (root : List (String × Toml)) : Option Toml :=
  change false (fun origin entries =>
    match entries.lookup key with
    | none => some (.table origin (entries ++ [(key, .table .header [])]))
    | some (.table .implied fields) => some (.table origin (putEntry key (.table .header fields) entries))
    | some _ => none) path .header root

/-- Opens one more table of a header that may be repeated. -/
def openTables (path : List String) (key : String) (root : List (String × Toml)) : Option Toml :=
  change false (fun origin entries =>
    match entries.lookup key with
    | none => some (.table origin (entries ++ [(key, .tables [[]])]))
    | some (.tables items) =>
      some (.table origin (putEntry key (.tables (items ++ [[]])) entries))
    | some _ => none) path .header root

end Toml
end ProfileKit
