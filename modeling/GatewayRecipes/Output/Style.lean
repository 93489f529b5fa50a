/-! Terminal styles of output. -/
namespace GatewayRecipes.Output

inductive Style
  | bold
  | red
  | green
  | yellow
  | cyan
  deriving Repr, DecidableEq

def resetStyle : List Char := "\x1b[0m".toList

def Style.start : Style → List Char
  | bold => "\x1b[1m".toList
  | red => "\x1b[31m".toList
  | green => "\x1b[32m".toList
  | yellow => "\x1b[33m".toList
  | cyan => "\x1b[36m".toList

/-- Start a style again behind each sequence in a text that ends it. -/
def restart (start : List Char) : List Char → List Char
  | '\x1b' :: '[' :: '0' :: 'm' :: rest => resetStyle ++ start ++ restart start rest
  | c :: rest => c :: restart start rest
  | [] => []

/-- A text in a style, or as it is where there are no colours. -/
def paint (colour : Bool) (style : Style) (text : String) : List Char :=
  if colour then style.start ++ restart style.start text.toList ++ resetStyle else text.toList

end GatewayRecipes.Output
