import GatewayRecipes.Text.CaseTable

/-! Upper and lower case of characters and texts, in full Unicode. -/
namespace GatewayRecipes.Text

/-- The upper case of a character, which may be several characters (`ß` becomes `SS`). -/
def upper (c : Char) : List Char :=
  match upperExpansions.lookup c.toNat with
  | some image => image.map Char.ofNat
  | none => [CaseShift.map upperShifts c]

/-- Whether the nearest character that is not passed over has case. -/
def meetsCased : List Char → Bool
  | [] => false
  | c :: rest => if caseIgnorableRanges.has c then meetsCased rest else casedRanges.has c

/-- The lower case of a character that stands between `before`, nearest first, and `after`.
A sigma that ends a word has a form of its own. -/
def lowerBetween (before after : List Char) (c : Char) : List Char :=
  if c = 'Σ' then [if meetsCased before && !meetsCased after then 'ς' else 'σ']
  else if c = 'İ' then ['i', '\u0307']
  else [CaseShift.map lowerShifts c]

/-- Lower case of a text whose reversed beginning was already passed. -/
def lowerAfter (before : List Char) : List Char → List Char
  | [] => []
  | c :: rest => lowerBetween before rest c ++ lowerAfter (c :: before) rest

def lower (text : String) : String := String.ofList (lowerAfter [] text.toList)

end GatewayRecipes.Text
