import TypedClient.Text.Case
import TypedClient.Text.PrintableTable

namespace TypedClient.Text

def isPrintable (c : Char) : Bool :=
  if c.toNat < 0x7f then 0x20 ≤ c.toNat else !inRanges unprintableRanges c

end TypedClient.Text
