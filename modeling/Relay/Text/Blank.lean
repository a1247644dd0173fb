import Relay.Text.CodeRange

namespace Relay.Text

/-- The runs of characters with the property White_Space. -/
def blankRanges : CodeRanges := [
  (9, 13), (32, 32), (133, 133), (160, 160), (5760, 5760), (8192, 8202), (8232, 8233), (8239, 8239),
  (8287, 8287), (12288, 12288)]

def isBlank (c : Char) : Bool := blankRanges.contains c

def trimLeft (cs : List Char) : List Char := cs.dropWhile isBlank

/-- A text without the blank characters at both ends. -/
def trim (cs : List Char) : List Char := (trimLeft (trimLeft cs).reverse).reverse

end Relay.Text
