/-!
# Locators

The selectors of a flow in the notation of a page. `text=Sign in` asks for an
element by its own text and becomes an XPath expression whose string argument
denotes that text; every other selector stays as it is.
-/

namespace PageFlow.Locator

/-- A string literal in the given quotes. -/
def literal (mark : Char) (s : List Char) : List Char :=
  mark :: s ++ [mark]

def joinArguments : List (List Char) → List Char
  | [] => []
  | [argument] => argument
  | argument :: rest => argument ++ ',' :: ' ' :: joinArguments rest

/-- Double-quoted parts with a quoted double quote between any two of them. -/
def concatArguments : List (List Char) → List (List Char)
  | [] => []
  | [part] => [literal '"' part]
  | part :: rest =>
      literal '"' part :: literal '\'' ['"'] :: concatArguments rest

/-- A string expression that denotes the text. Quotes cannot be escaped, so a
text that holds both kinds is put together from parts. -/
def stringExpression (s : List Char) : List Char :=
  if '"' ∉ s then literal '"' s
  else if '\'' ∉ s then literal '\'' s
  else "concat(".toList ++ joinArguments
    (concatArguments (s.splitOn '"')) ++ [')']

/-- What a selector by text begins with. -/
def textMark : List Char := ['t', 'e', 'x', 't', '=']

def ofSelector (selector : String) : String :=
  let chars := selector.toList
  if textMark.isPrefixOf chars then
    String.ofList ("xpath=//*[contains(text(),".toList ++
      stringExpression (chars.drop textMark.length) ++ [')', ']'])
  else selector

/-- The address of a target: absolute ones begin with `http`, the others are put
behind the base. -/
def resolveUrl (target base : String) : String :=
  if "http".toList.isPrefixOf target.toList then target else base ++ target

end PageFlow.Locator
