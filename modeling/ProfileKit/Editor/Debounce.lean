/-!
# Debounce

An event that is acted on only after a while without further events. Times are milliseconds since a
common start.

| here | `sync` of glossa-core |
| --- | --- |
| `Debounce`, `ofDelay` | `Debounce`, `Debounce::new` |
| `Generation`, `next`, `isCurrent` | `Generation`, `next`, `is_current`, with numbers for `RequestToken` |
-/

namespace ProfileKit

/-- A delay, and the time from which on the last event may be acted on, if there was one. -/
structure Debounce where
  delay : Nat
  deadline : Option Nat
deriving DecidableEq, Repr

namespace Debounce

def ofDelay (delay : Nat) : Debounce := ⟨delay, none⟩

/-- An event happens. -/
def touch (d : Debounce) (now : Nat) : Debounce := { d with deadline := some (now + d.delay) }

def isPending (d : Debounce) : Bool := d.deadline.isSome

def cancel (d : Debounce) : Debounce := { d with deadline := none }

/-- Whether it is time to act, which it is once. -/
def poll (d : Debounce) (now : Nat) : Bool × Debounce :=
  match d.deadline with
  | some t => if t ≤ now then (true, d.cancel) else (false, d)
  | none => (false, d)

/-- Whether there is anything to act on, at once. -/
def flush (d : Debounce) : Bool × Debounce := (d.isPending, d.cancel)

end Debounce

/-- Counts requests; only the last one is current. -/
structure Generation where
  current : Nat
deriving DecidableEq, Repr

namespace Generation

def start : Generation := ⟨0⟩

/-- A new request and its number. -/
def next (g : Generation) : Nat × Generation := (g.current + 1, ⟨g.current + 1⟩)

def isCurrent (g : Generation) (token : Nat) : Bool := g.current == token

end Generation
end ProfileKit
