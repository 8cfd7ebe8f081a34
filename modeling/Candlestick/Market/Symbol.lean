import Candlestick.Text.Blank
import Candlestick.Text.Case

set_option autoImplicit false

/-! # Symbols of instruments

A symbol joins a base asset and a quote asset in a provider's spelling. An asset that is already
compound, because it holds a separator or the quote asset, stands for itself, so that a qualified
symbol is not decorated twice. -/

namespace Candlestick.Symbol

/-- One leg of a symbol: without blanks around it, in upper case. -/
def leg (text : String) : String := Text.upper (Text.strip text)

/-- Whether `pattern` occurs somewhere in a list of characters. -/
def occursIn (pattern : List Char) : List Char → Bool
  | [] => pattern.isEmpty
  | c :: rest => pattern.isPrefixOf (c :: rest) || occursIn pattern rest

/-- Whether a base asset is already a whole symbol for the quote asset. -/
def isCompound (base quote : String) : Bool :=
  base.toList.contains '-' || base.toList.contains '_' ||
    (quote ≠ "" && occursIn quote.toList base.toList)

/-- The symbol of an asset pair: base, separator, quote and suffix, or the base alone if it is
    compound. -/
def join (asset quote separator : String) (suffix : String := "") (lowercase : Bool := false) :
    String :=
  let base := leg asset
  let quote := leg quote
  let symbol := if isCompound base quote then base else base ++ separator ++ quote ++ suffix
  if lowercase then Text.lower symbol else symbol

end Candlestick.Symbol
