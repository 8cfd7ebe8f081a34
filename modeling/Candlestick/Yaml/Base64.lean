set_option autoImplicit false

/-! # Bytes written in base 64

Four characters stand for three bytes. Characters outside the alphabet are passed over, and padding
counts only where it completes a group; the text ends there. -/

namespace Candlestick.Yaml.Base64

/-- The value of a character of the alphabet. -/
def sextet? (c : Char) : Option Nat :=
  if 'A' ≤ c && c ≤ 'Z' then some (c.toNat - 65)
  else if 'a' ≤ c && c ≤ 'z' then some (c.toNat - 71)
  else if c.isDigit then some (c.toNat + 4)
  else if c = '+' then some 62
  else if c = '/' then some 63
  else none

/-- A group that is not complete: its sextets so far, the last one first, and the padding after
    them. -/
structure Group where
  sextets : List Nat := []
  padding : Nat := 0

/-- The last whole byte of a group's sextets, if they have come to one. -/
def Group.lastByte (g : Group) : List Nat :=
  match g.sextets with
  | b :: a :: earlier => [(a <<< (2 * (earlier.length + 1)) + b >>> (4 - 2 * earlier.length)) % 256]
  | _ => []

/-- The bytes of a text after a group; `none` where the last group is not complete. -/
def decodeFrom (g : Group) : List Char → Option (List Nat)
  | [] => if g.sextets.isEmpty then some [] else none
  | c :: rest =>
    if c = '=' then
      if 2 ≤ g.sextets.length then
        if 4 ≤ g.sextets.length + g.padding + 1 then some []
        else decodeFrom { g with padding := g.padding + 1 } rest
      else decodeFrom g rest
    else match sextet? c with
      | none => decodeFrom g rest
      | some value =>
        let g : Group := ⟨value :: g.sextets, 0⟩
        let next : Group := if g.sextets.length = 4 then {} else g
        (decodeFrom next rest).map (g.lastByte ++ ·)

/-- The bytes of a text. -/
def decode? (text : String) : Option (List Nat) := decodeFrom {} text.toList

end Candlestick.Yaml.Base64
