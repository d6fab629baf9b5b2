/-!
# Blank characters

Blanks are the characters that separate words in any script: the ASCII layout
characters and separators, the next-line control and the Unicode spaces. Core's
own class of white space holds only a few of them.
-/

namespace PageFlow.Text

/-- White space in the wide sense. -/
def isBlank (c : Char) : Bool :=
  let point := c.toNat
  (9 ≤ point && point ≤ 13) || (0x1c ≤ point && point ≤ 0x20) ||
    point == 0x85 || point == 0xa0 ||
    point == 0x1680 || (0x2000 ≤ point && point ≤ 0x200a) || point == 0x2028 ||
    point == 0x2029 ||
    point == 0x202f || point == 0x205f || point == 0x3000

def trimFront (s : List Char) : List Char :=
  s.dropWhile isBlank

def trimBack (s : List Char) : List Char :=
  (s.reverse.dropWhile isBlank).reverse

def trimChars (s : List Char) : List Char :=
  trimBack (trimFront s)

def trim (s : String) : String :=
  String.ofList (trimChars s.toList)

/-- Every maximal run of blanks becomes one `mark`. -/
def foldBlanks (mark : Char) : List Char → List Char
  | [] => []
  | c :: rest =>
    if isBlank c then
      match rest with
      | [] => [mark]
      | d :: _ =>
          if isBlank d then foldBlanks mark rest
            else mark :: foldBlanks mark rest
    else c :: foldBlanks mark rest

end PageFlow.Text
