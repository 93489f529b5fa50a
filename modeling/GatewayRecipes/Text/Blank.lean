import GatewayRecipes.Text.Ranges

/-! White space in the sense of the Unicode property `White_Space`, and values without text. -/
namespace GatewayRecipes.Text

def blankRanges : Ranges :=
  [(0x9, 0xd), (0x20, 0x20), (0x85, 0x85), (0xa0, 0xa0), (0x1680, 0x1680), (0x2000, 0x200a),
    (0x2028, 0x2029), (0x202f, 0x202f), (0x205f, 0x205f), (0x3000, 0x3000)]

/-- White space, as far as a value is judged to be blank. -/
def isBlank (c : Char) : Bool := blankRanges.has c

/-- A value has text when one of its characters is not white space. -/
def hasText (value : String) : Bool := value.toList.any fun c => !isBlank c

theorem hasText_eq_false_iff (value : String) :
    hasText value = false ↔ ∀ c ∈ value.toList, isBlank c = true := by
  simp [hasText]

end GatewayRecipes.Text
