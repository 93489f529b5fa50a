import GatewayRecipes.Proofs.Gateway.Properties

/-! Translation in either mode as checks followed by a content. What the grammar declares for a
mode replaces what is copied under the same name. -/
namespace GatewayRecipes.Gateway

def rulesOf : Mode → List AttributeRule
  | .inline => inlineRules
  | .standalone => standaloneRules

/-- Inside a chain there is nothing to demand. -/
def checksOf : Mode → Element → List Check
  | .inline, _ => []
  | .standalone, e => gatewayChecks e

/-- Inside a chain there is no metadata. -/
def metadataOf : Mode → Element → List (String × PropertyValue)
  | .inline, _ => []
  | .standalone, e => metadataContent e

/-- What rules and metadata bind. -/
def declaredContent (mode : Mode) (e : Element) : List (String × PropertyValue) :=
  ruleContent e (rulesOf mode) ++ metadataOf mode e

/-- The recipe of a gateway: copied attributes, then what is declared for the mode. -/
def contentOf (mode : Mode) (e : Element) : Recipe :=
  ⟨.gatewayProxyFactory, Table.lastWins (copiedContent e.attributes ++ declaredContent mode e)⟩

/-- What holds of rules, of global metadata and of a table of methods under their names holds of all
that is declared. -/
theorem forall_declaredContent {P : String → PropertyValue → Prop} {mode : Mode} {e : Element}
    (rules : ∀ rule ∈ rulesOf mode, ∀ text, P rule.property (rule.kind.property text))
    (global : P "globalMethodMetadata" (.recipe (globalContent e)))
    (methods : e.hasChild "method" = true →
      P "methodMetadataMap" (methodsContent (e.childrenNamed "method"))) :
    ∀ b ∈ declaredContent mode e, P b.1 b.2 := by
  intro b hb
  rw [declaredContent, List.mem_append] at hb
  rcases hb with hb | hb
  · obtain ⟨rule, hrule, rfl⟩ := List.mem_map.mp hb
    exact rules rule (List.mem_filter.mp hrule).1 _
  · cases mode with
    | inline => cases hb
    | standalone =>
      rw [metadataOf, metadataContent, List.mem_append] at hb
      rcases hb with hb | hb
      · split at hb
        · obtain rfl := List.mem_singleton.mp hb
          exact global
        · cases hb
      · split at hb
        · next hm =>
          obtain rfl := List.mem_singleton.mp hb
          exact methods hm
        · cases hb

/-- A gateway gives the error of its first failing check, or else its content. -/
theorem result_translate_of_name (mode : Mode) {e : Element} (h : e.name = "gateway") :
    (translate mode e).result = checked (checksOf mode e) (contentOf mode e) := by
  cases mode with
  | inline =>
    rw [translate, if_pos h, recipe, Traced.result_bind, Traced.result_pure, inlineRecipe,
      baseRecipe_eq, Table.ofList_eq_lastWins]
    simp [contentOf, declaredContent, metadataOf, rulesOf, checksOf]
    rfl
  | standalone =>
    rw [result_translate h, standaloneContent, List.append_assoc]
    rfl

lemma result_translate_of_ne (mode : Mode) {e : Element} (h : e.name ≠ "gateway") :
    (translate mode e).result = .error (.unexpectedElement "gateway" e.name) := by
  rw [translate, if_neg h, Traced.result_fail]

/-- What is declared comes before what is copied. -/
lemma get?_contentOf (mode : Mode) (e : Element) (property : String) :
    (contentOf mode e).get? property =
      (Table.lastValue? (declaredContent mode e) property).or
        ((copiedValue? e property).map .value) := by
  rw [Recipe.get?, contentOf, Table.get?_lastWins, Table.lastValue?_append,
    lastValue?_copiedContent]

end GatewayRecipes.Gateway
