import CommandTree.Text.Blank

/-!
# Lines

The tokens of a line are its words. While a line is being typed, its last token is the one being
typed, which is empty after a blank and in an empty line.
-/

namespace CommandTree.Text

def tokens (line : String) : List String :=
  (words line.toList).map String.ofList

/-- Whether a line ends where a new token would start. -/
def endsOpen (line : String) : Bool :=
  line.toList.getLast?.all isBlank

def typedTokens (line : String) : List String :=
  tokens line ++ if endsOpen line then [""] else []

end CommandTree.Text
