import LandingPage.Text.Quoted

namespace LandingPage.Text

/-- The offset of the first occurrence of `needle`, when `offset` bytes stand before the text. -/
def findFrom (needle : List Char) (offset : Nat) : List Char → Option Nat
  | [] => if needle.isEmpty then some offset else none
  | c :: rest =>
    if needle.isPrefixOf (c :: rest) then some offset
    else findFrom needle (offset + c.utf8Size) rest

structure NotFound where
  needle : String

def NotFound.message (e : NotFound) : String :=
  quote e.needle ++ " not found in rendered html"

def position (html needle : String) : Except NotFound Nat :=
  match findFrom needle.toList 0 html.toList with
  | some offset => .ok offset
  | none => .error ⟨needle⟩

end LandingPage.Text
