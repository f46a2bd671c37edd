import ChartNet.Decimal.Notation
import ChartNet.Registry

/-!
# The manifest

What drives a compiled network from outside: its timers, and how long it may run. It is written as a
JSON object with two blanks of indentation.
-/

namespace ChartNet

/-- The timers of a network, and its longest running time in seconds. -/
structure Manifest where
  /-- the longest running time, if there is one -/
  maxTime? : Option UInt64
  /-- the timers, in the order of the charts -/
  timers : List Timer

namespace Manifest

/-- A code as four hexadecimal digits. -/
def hex4 (n : Nat) : List Char :=
  let digits := Nat.toDigits 16 n
  List.replicate (4 - digits.length) '0' ++ digits

/-- How a character is written in a JSON string: quote, backslash and control characters are
escaped. -/
def escapeChar (c : Char) : List Char :=
  match c with
  | '"' => ['\\', '"']
  | '\\' => ['\\', '\\']
  | '\n' => ['\\', 'n']
  | '\r' => ['\\', 'r']
  | '\t' => ['\\', 't']
  | '\x08' => ['\\', 'b']
  | '\x0c' => ['\\', 'f']
  | c => if c.toNat < 0x20 then '\\' :: 'u' :: hex4 c.toNat else [c]

/-- A JSON string. -/
def jsonString (s : String) : String :=
  "\"" ++ String.ofList (s.toList.flatMap escapeChar) ++ "\""

/-- A timer. -/
def timerText (t : Timer) : String :=
  "    \x7b\n      \"name\": " ++ jsonString t.name ++ ",\n      \"rate_hz\": "
    ++ Decimal.manifest t.rate ++ "\n    \x7d"

/-- The timers. -/
def timersText (ts : List Timer) : String :=
  if ts.isEmpty then "[]" else "[\n" ++ ",\n".intercalate (ts.map timerText) ++ "\n  ]"

/-- The manifest. -/
def text (m : Manifest) : String :=
  let maxTime := match m.maxTime? with
    | some n => "  \"max_time\": " ++ n.toNat.repr ++ ",\n"
    | none => ""
  "\x7b\n" ++ maxTime ++ "  \"timers\": " ++ timersText m.timers ++ "\n\x7d"

end Manifest

end ChartNet
