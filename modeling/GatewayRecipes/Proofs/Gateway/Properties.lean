import GatewayRecipes.Proofs.Gateway.Content

/-! What the recipe of a gateway of its own has under each name. -/
namespace GatewayRecipes.Gateway

/-- The value of the last eligible attribute that is copied to a property, blank or not. -/
def copiedValue? (e : Element) (property : String) : Option String :=
  ((e.attributes.filter fun a => isEligible a.1 && propertyName a.1 == property).getLast?).map (·.2)

def ruleFor? (e : Element) (rules : List AttributeRule) (property : String) :
    Option AttributeRule :=
  rules.find? fun rule => rule.property == property && e.hasText rule.key

/-- What a gateway of its own has under a name: metadata before rules, rules before copies. -/
def standaloneProperty (e : Element) (property : String) : Option PropertyValue :=
  if property = "methodMetadataMap" ∧ ∃ c ∈ e.children, c.name = "method" then
    some (methodsContent (e.childrenNamed "method"))
  else if property = "globalMethodMetadata" ∧
      ((∃ c ∈ e.children, c.name = "default-header") ∨
        e.hasText "default-payload-expression" = true) then
    some (.recipe (globalContent e))
  else
    match ruleFor? e standaloneRules property with
    | some rule => some (.reference (e.attributeD rule.key))
    | none => (copiedValue? e property).map .value

lemma lastValue?_copiedContent (e : Element) (property : String) :
    Table.lastValue? (copiedContent e.attributes) property =
      (copiedValue? e property).map .value := by
  have hf : (copiedContent e.attributes).filter (·.1 == property) =
      (e.attributes.filter fun a => isEligible a.1 && propertyName a.1 == property).map
        fun a => (propertyName a.1, .value a.2) := by
    rw [copiedContent, List.filter_map, List.filter_filter]
    congr 2
    funext a
    exact Bool.and_comm _ _
  rw [Table.lastValue?, hf, copiedValue?, List.getLast?_map, Option.map_map, Option.map_map]
  rfl

lemma ruleFor?_eq_none {e : Element} {rules : List AttributeRule} {property : String}
    (h : property ∉ rules.map (·.property)) : ruleFor? e rules property = none := by
  rw [ruleFor?, List.find?_eq_none]
  intro rule hrule
  have hne : rule.property ≠ property := fun he => h (List.mem_map.mpr ⟨rule, hrule, he⟩)
  simp [hne]

/-- Rules for different properties do not compete. -/
lemma lastValue?_ruleContent (e : Element) {rules : List AttributeRule}
    (h : (rules.map (·.property)).Nodup) (property : String) :
    Table.lastValue? (ruleContent e rules) property =
      (ruleFor? e rules property).map fun rule => rule.kind.property (e.attributeD rule.key) := by
  induction rules with
  | nil => rfl
  | cons rule rest ih =>
    obtain ⟨hn, hr⟩ := List.nodup_cons.mp h
    cases ht : e.hasText rule.key with
    | false =>
      have hc : ruleContent e (rule :: rest) = ruleContent e rest := by simp [ruleContent, ht]
      have hf : ruleFor? e (rule :: rest) property = ruleFor? e rest property := by
        simp [ruleFor?, ht]
      rw [hc, hf, ih hr]
    | true =>
      have hc : ruleContent e (rule :: rest) =
          (rule.property, rule.kind.property (e.attributeD rule.key)) :: ruleContent e rest := by
        simp [ruleContent, ht]
      rw [hc, Table.lastValue?_cons, ih hr]
      by_cases hp : rule.property = property
      · subst hp
        rw [ruleFor?_eq_none hn]
        simp [ruleFor?, ht]
      · simp [ruleFor?, ht, hp]

lemma standaloneRules_kind {rule : AttributeRule} (h : rule ∈ standaloneRules) :
    rule.kind = .reference := by
  revert rule
  decide

lemma lastValue?_metadataContent (e : Element) (property : String) :
    Table.lastValue? (metadataContent e) property =
      if property = "methodMetadataMap" ∧ e.hasChild "method" = true then
        some (methodsContent (e.childrenNamed "method"))
      else if property = "globalMethodMetadata" ∧
          (e.hasChild "default-header" = true ∨
            e.hasText "default-payload-expression" = true) then
        some (.recipe (globalContent e))
      else none := by
  rw [metadataContent, Table.lastValue?_append]
  by_cases hm : property = "methodMetadataMap"
  · subst hm
    cases e.hasChild "method" <;> cases e.hasChild "default-header" <;>
      cases e.hasText "default-payload-expression" <;> simp
  · cases e.hasChild "method" <;> cases e.hasChild "default-header" <;>
      cases e.hasText "default-payload-expression" <;> simp [hm, Ne.symm hm, eq_comm]

theorem get?_standaloneContent (e : Element) (property : String) :
    (standaloneContent e).get? property = standaloneProperty e property := by
  have hrules : (standaloneRules.map (·.property)).Nodup := by decide
  rw [Recipe.get?, standaloneContent, Table.get?_lastWins, Table.lastValue?_append,
    Table.lastValue?_append, lastValue?_copiedContent, lastValue?_ruleContent e hrules,
    lastValue?_metadataContent, standaloneProperty]
  simp only [Element.hasChild_iff]
  split
  · rfl
  · split
    · rfl
    · cases hr : ruleFor? e standaloneRules property with
      | none => rfl
      | some rule =>
        have hk := standaloneRules_kind (List.mem_of_find?_eq_some hr)
        simp [hk, AttributeKind.property]

/-- A gateway of its own that translates is a gateway proxy factory with exactly the properties
of `standaloneProperty`. -/
theorem translate_standalone_properties (e : Element) (recipe : Recipe)
    (gateway : e.name = "gateway") (translated : (translate .standalone e).result = .ok recipe) :
    recipe.kind = .gatewayProxyFactory ∧
      ∀ property, recipe.get? property = standaloneProperty e property := by
  rw [result_translate gateway] at translated
  obtain ⟨-, rfl⟩ := checked_eq_ok_iff.mp translated
  exact ⟨rfl, get?_standaloneContent e⟩

/-- Two attributes for one property, a reference over a copy, a blank mapper, a repeated method. -/
def overlappingGateway : Element :=
  ((Element.named "gateway").withAttributes
    [("error-channel", "b"), ("errorChannel", "a"), ("mapper", " "), ("service-interface", "I"),
      ("service--interface", " ")]).withChildren
    [(Element.named "method").withAttributes [("name", "m"), ("request-channel", "x")],
      (Element.named "method").withAttribute "name" "n",
      (Element.named "method").withAttributes [("name", "m"), ("payload-expression", "p")]]

theorem translate_standalone_properties_overlapping :
    overlappingGateway.name = "gateway" ∧
      ∃ recipe, (translate .standalone overlappingGateway).result = .ok recipe ∧
        recipe.get? "errorChannel" = some (.reference "b") ∧
        recipe.get? "serviceInterface" = some (.value " ") ∧
        recipe.get? "mapper" = none ∧
        recipe.get? "methodMetadataMap" = some (.map
          [("m", .recipe ⟨.gatewayMethodMetadata,
            [("requestChannelName", .value ""), ("replyChannelName", .value ""),
              ("requestTimeout", .value ""), ("replyTimeout", .value ""),
              ("payloadExpression", .value "p")]⟩),
            ("n", .recipe ⟨.gatewayMethodMetadata,
              [("requestChannelName", .value ""), ("replyChannelName", .value ""),
                ("requestTimeout", .value ""), ("replyTimeout", .value "")]⟩)]) := by
  have accepted : firstFailure (gatewayChecks overlappingGateway) = none := by decide
  have translated := (result_translate (e := overlappingGateway) rfl).trans
    (checked_eq_ok_iff.mpr ⟨accepted, rfl⟩)
  obtain ⟨-, h⟩ := translate_standalone_properties _ _ rfl translated
  refine ⟨rfl, _, translated, (h _).trans ?_, (h _).trans ?_, (h _).trans ?_, (h _).trans ?_⟩
  · rfl
  · rfl
  · rfl
  · rfl

end GatewayRecipes.Gateway
