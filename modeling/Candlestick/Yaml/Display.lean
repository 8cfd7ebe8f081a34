import Candlestick.Json.Printer
import Candlestick.Yaml.Value

set_option autoImplicit false

/-! # The text of a document's value

The text shown to people in messages. Texts are bare at the top and quoted inside containers, and so
are dates and times. -/

namespace Candlestick

namespace Calendar.Stamp

/-- Hours, minutes and seconds, and six places of the second unless they are zero. -/
def clockText (s : Stamp) : String :=
  let seconds := s.time / microsPerSecond
  let fraction := s.time % microsPerSecond
  padded 2 (seconds / 3600) ++ ":" ++ padded 2 (seconds / 60 % 60) ++ ":" ++ padded 2 (seconds % 60) ++
    (if fraction = 0 then "" else "." ++ padded 6 fraction)

/-- An offset in hours and minutes with its sign. -/
def offsetText (offset : Int) : String :=
  let minutes := (offset.natAbs : Int) / (60 * microsPerSecond)
  (if offset < 0 then "-" else "+") ++ padded 2 (minutes / 60) ++ ":" ++ padded 2 (minutes % 60)

/-- Date and time with a blank between them, and the offset where one is known. -/
def text (s : Stamp) : String :=
  s.date.text ++ " " ++ s.clockText ++ (s.offset.map offsetText).getD ""

/-- The numbers of a date. -/
def dateParts (d : Date) : List String :=
  [toString d.year, toString d.month, toString d.day]

/-- The numbers of a time: seconds and microseconds only where they are not zero. -/
def timeParts (s : Stamp) : List String :=
  let seconds := s.time / microsPerSecond
  let fraction := s.time % microsPerSecond
  [toString (seconds / 3600), toString (seconds / 60 % 60)] ++
    (if fraction = 0 then (if seconds % 60 = 0 then [] else [toString (seconds % 60)])
      else [toString (seconds % 60), toString fraction])

/-- The zone of an offset. -/
def zoneText (offset : Int) : String :=
  if offset = 0 then "datetime.timezone.utc" else "datetime.timezone(" ++ durationText offset ++ ")"

/-- A date and time inside a container. -/
def innerText (s : Stamp) : String :=
  let zone := match s.offset with
    | some offset => ["tzinfo=" ++ zoneText offset]
    | none => []
  "datetime.datetime(" ++ ", ".intercalate (dateParts s.date ++ timeParts s ++ zone) ++ ")"

end Calendar.Stamp

namespace Yaml

/-- The text of one byte between the given quotes. -/
def byteText (quote : Char) (byte : Nat) : List Char :=
  let c := Char.ofNat byte
  if c = quote || c = '\\' then ['\\', c]
  else if c = '\t' then ['\\', 't']
  else if c = '\n' then ['\\', 'n']
  else if c = '\r' then ['\\', 'r']
  else if 0x20 ≤ byte && byte < 0x7F then [c]
  else '\\' :: 'x' :: Text.hexDigits 2 byte

/-- The text of bytes; the quotes are double if only the single one occurs. -/
def bytesText (bytes : List Nat) : String :=
  let quote := if bytes.contains 0x27 && !bytes.contains 0x22 then '\"' else '\''
  String.ofList ('b' :: quote :: bytes.flatMap (byteText quote) ++ [quote])

namespace Value

mutual

/-- The text of a value inside a container. -/
def inner : Value → String
  | null => "None"
  | bool b => if b then "True" else "False"
  | int n => toString n
  | double x => x.text
  | str s => Text.quoted s
  | bytes value => bytesText value
  | date d => "datetime.date(" ++ ", ".intercalate (Calendar.Stamp.dateParts d) ++ ")"
  | stamp s => s.innerText
  | list items => Json.enclosed "[" ", " "]" (innerItems items)
  | pair first second => Json.enclosed "(" ", " ")" [inner first, inner second]
  | set members =>
    if members.isEmpty then "set()" else Json.enclosed "\x7b" ", " "\x7d" (innerItems members)
  | map members => Json.enclosed "\x7b" ", " "\x7d" (innerMembers members)
  | ring isMap => if isMap then "\x7b...\x7d" else "[...]"

/-- The texts of items. -/
def innerItems : List Value → List String
  | [] => []
  | item :: rest => inner item :: innerItems rest

/-- The texts of a map's entries. -/
def innerMembers : List (Value × Value) → List String
  | [] => []
  | (key, value) :: rest => (inner key ++ ": " ++ inner value) :: innerMembers rest

end

/-- The text of a value. -/
def display : Value → String
  | str s => s
  | date d => d.text
  | stamp s => s.text
  | value => inner value

end Value

end Yaml

end Candlestick
