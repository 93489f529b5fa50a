import GatewayRecipes.Table
import GatewayRecipes.Text.Word

/-! References to variables in a text, `${NAME}` and `$NAME`, and their replacement by values. -/
namespace GatewayRecipes.Settings

/-- Variables by name. Both names and values are Unicode text. -/
abbrev Environment := Table String

/-- A part of a text: a character of its own or a reference as it is written. -/
inductive Piece
  | plain (c : Char)
  | reference (written : List Char) (name : String)
  deriving Repr, DecidableEq, Inhabited

namespace Piece

/-- The text that a piece was cut from. -/
def written : Piece → List Char
  | plain c => [c]
  | reference written _ => written

/-- The text that takes the place of a piece. References to unknown variables stay. -/
def filled (env : Environment) : Piece → List Char
  | plain c => [c]
  | reference written name =>
    match env.get? name with
    | some value => value.toList
    | none => written

end Piece

/-- A character that a name may begin with. -/
def startsName (c : Char) : Bool := c.isAlpha || c == '_'

/-- A character that a name may go on with. -/
def inName (c : Char) : Bool := c.isAlphanum || c == '_'

/-- The longest name at the start of a text. -/
def nameAt? (text : List Char) : Option (List Char) :=
  if text.head?.any startsName then some (text.takeWhile inName) else none

/-- A way of writing references: the length of the reference behind a dollar sign, with its name. -/
abbrev Spelling := List Char → Option (Nat × List Char)

/-- The spelling `${NAME}`. -/
def braced : Spelling
  | '\x7b' :: rest =>
    match nameAt? rest with
    | some name => if rest[name.length]? = some '\x7d' then some (name.length + 2, name) else none
    | none => none
  | _ => none

/-- The spelling `$NAME`, where the word that the name is in ends with it. -/
def bare : Spelling := fun rest =>
  match nameAt? rest with
  | some name => if rest[name.length]?.any Text.isWord then none else some (name.length, name)
  | none => none

/-- Cut a text into pieces, from left to right. -/
def pieces (spelling : Spelling) (text : List Char) : List Piece :=
  match text with
  | [] => []
  | c :: rest =>
    match (if c = '$' then spelling rest else none) with
    | some (n, name) =>
      .reference (c :: rest.take n) (String.ofList name) :: pieces spelling (rest.drop n)
    | none => .plain c :: pieces spelling rest
termination_by text.length
decreasing_by all_goals simp only [List.length_cons, List.length_drop]; omega

/-- Replace the references of one spelling. -/
def replace (env : Environment) (spelling : Spelling) (text : List Char) : List Char :=
  (pieces spelling text).flatMap (Piece.filled env)

/-- Replace the references to variables: first the braced ones, then, in what comes of that, the
bare ones. -/
def substitute (env : Environment) (text : String) : String :=
  String.ofList (replace env bare (replace env braced text.toList))

end GatewayRecipes.Settings
