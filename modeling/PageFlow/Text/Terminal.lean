/-!
# Terminal codes

A terminal takes an escape, a bracket, some parameters and a letter as a
command, for instance to change the colour. Text that is not written to a
terminal has such codes taken out.
-/

namespace PageFlow.Text

/-- The character that opens a code. -/
def escapeMark : Char := Char.ofNat 27

/-- A character stands next in a code that has begun with the characters `held`,
but does not end it. -/
def continuesCode (held : List Char) (c : Char) : Bool :=
  match held with
  | [] => c == escapeMark
  | [_] => c == '['
  | _ => c.isDigit || c == ';' || c == '?'

/-- The text without its codes, where `held` is the beginning of a code in front
of it. -/
def withoutCodesFrom (held : List Char) : List Char → List Char
  | [] => held
  | c :: rest =>
    if continuesCode held c then withoutCodesFrom (held ++ [c]) rest
    else if 2 ≤ held.length && c.isAlpha then withoutCodesFrom [] rest
    else if c = escapeMark then held ++ withoutCodesFrom [c] rest
    else held ++ c :: withoutCodesFrom [] rest

def withoutCodes (s : String) : String :=
  String.ofList (withoutCodesFrom [] s.toList)

end PageFlow.Text
