import CommandTree.Text.CaseTable

/-!
# Case

Case folding works character by character, so it commutes with cutting a text between characters
(`foldList_append`). Lower case looks at the neighbours of a capital sigma only: at the end of a
word it becomes the final form. Title case raises the first cased character of every stretch of
cased characters and lowers the others.
-/

namespace CommandTree.Text

def foldChar (c : Char) : List Char :=
  mapped foldSpecial foldRuns c

def foldList (cs : List Char) : List Char :=
  cs.flatMap foldChar

/-- The form in which texts are compared without regard to case. -/
def fold (s : String) : String :=
  String.ofList (foldList s.toList)

def isCased (c : Char) : Bool := inRanges casedRanges c.toNat
def isCaseIgnorable (c : Char) : Bool := inRanges caseIgnorableRanges c.toNat

/-- The nearest character that the context of a sigma does not look through is cased. -/
def casedNext (cs : List Char) : Bool :=
  match cs.dropWhile isCaseIgnorable with
  | [] => false
  | c :: _ => isCased c

/-- Lower case of a character between the characters before it, nearest first, and after it. -/
def lowerChar (before : List Char) (c : Char) (after : List Char) : List Char :=
  if c.toNat = 0x3A3 then
    [Char.ofNat (if casedNext before && !casedNext after then 0x3C2 else 0x3C3)]
  else mapped lowerSpecial lowerRuns c

def lowerFrom (before : List Char) : List Char → List Char
  | [] => []
  | c :: rest => lowerChar before c rest ++ lowerFrom (c :: before) rest

def lower (s : String) : String :=
  String.ofList (lowerFrom [] s.toList)

/-- Title case after the characters before it, nearest first. -/
def titleFrom (before : List Char) : List Char → List Char
  | [] => []
  | c :: rest =>
    (if before.head?.any isCased then lowerChar before c rest
      else mapped titleSpecial titleRuns c) ++ titleFrom (c :: before) rest

def title (s : String) : String :=
  String.ofList (titleFrom [] s.toList)

theorem foldList_append (xs ys : List Char) : foldList (xs ++ ys) = foldList xs ++ foldList ys := by
  simp [foldList]

end CommandTree.Text
