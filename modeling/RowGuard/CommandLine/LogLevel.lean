import RowGuard.Text.Numeral

/-!
# Log levels

A log level says how much is logged. It has a name, and a rank that may be written in its place.

* `LogLevel.ofText?`: the level with a name or a rank
-/

set_option autoImplicit false

namespace RowGuard.CommandLine

/-- How much is logged, up to a level. -/
inductive LogLevel where
  | off
  | error
  | warn
  | info
  | debug
  | trace
  deriving DecidableEq

namespace LogLevel

/-- The place of a level in order. -/
def rank : LogLevel → Nat
  | off => 0
  | error => 1
  | warn => 2
  | info => 3
  | debug => 4
  | trace => 5

/-- The level with a name, in any case of its letters. -/
def ofName? (s : String) : Option LogLevel :=
  match String.ofList (s.toList.map Char.toLower) with
  | "off" => some off
  | "error" => some error
  | "warn" => some warn
  | "info" => some info
  | "debug" => some debug
  | "trace" => some trace
  | _ => none

/-- The level with a rank. -/
def ofRank? : Nat → Option LogLevel
  | 0 => some off
  | 1 => some error
  | 2 => some warn
  | 3 => some info
  | 4 => some debug
  | 5 => some trace
  | _ => none

/-- The level with a name or a rank, which may have a plus sign before it. -/
def ofText? (s : String) : Option LogLevel :=
  let digits := match s.toList with
    | '+' :: rest => rest
    | cs => cs
  match bareNumeral? digits with
  | some n => ofRank? n
  | none => ofName? s

end LogLevel

end RowGuard.CommandLine
