namespace DirectoryName.Text

/-! Lines of a text.

A line feed ends a line, and a carriage return right before it belongs to the
line end; a carriage return elsewhere is part of the line. A text that does not
end in a line feed has a last line without one. -/

/-- The line that the characters in `held` begin, newest first, with its end removed. -/
def closeLine (held : List Char) : List Char :=
  match held with
  | '\r' :: line => line.reverse
  | _ => held.reverse

def linesFrom (held : List Char) (text : List Char) : List (List Char) :=
  match text with
  | [] => if held.isEmpty then [] else [held.reverse]
  | '\n' :: rest => closeLine held :: linesFrom [] rest
  | first :: rest => linesFrom (first :: held) rest

def lines (text : String) : List String :=
  (linesFrom [] text.toList).map String.ofList

def isBlankChar (character : Char) : Bool :=
  let code := character.toNat
  (0x09 ≤ code && code ≤ 0x0D) || code == 0x20 || code == 0x85 || code == 0xA0 ||
    code == 0x1680 || (0x2000 ≤ code && code ≤ 0x200A) || code == 0x2028 || code == 0x2029 ||
    code == 0x202F || code == 0x205F || code == 0x3000

def isBlank (text : String) : Bool :=
  text.toList.all isBlankChar

end DirectoryName.Text
