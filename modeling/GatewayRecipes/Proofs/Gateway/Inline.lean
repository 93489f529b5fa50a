import GatewayRecipes.Proofs.Gateway.Modes
import GatewayRecipes.Proofs.Gateway.Reading
import Mathlib.Data.List.Nodup

/-! Gateways inside a chain. They always translate, to what the attributes for this place declare
and to copies of the eligible ones, and nothing else of them is read. -/
namespace GatewayRecipes.Gateway
open Element

/-- What the attributes for gateways inside a chain set, if they have text: channels and the
executor name other components, and timeouts are plain values. -/
def inlineDeclared? (e : Element) : String → Option PropertyValue
  | "defaultRequestChannel" => (e.textAttribute? "request-channel").map .reference
  | "defaultReplyChannel" => (e.textAttribute? "reply-channel").map .reference
  | "errorChannel" => (e.textAttribute? "error-channel").map .reference
  | "asyncExecutor" => (e.textAttribute? "async-executor").map .reference
  | "defaultRequestTimeout" => (e.textAttribute? "request-timeout").map .value
  | "defaultReplyTimeout" => (e.textAttribute? "reply-timeout").map .value
  | _ => none

/-- What a gateway inside a chain has under a name: declared values before copies. -/
def inlineProperty (e : Element) (property : String) : Option PropertyValue :=
  (inlineDeclared? e property).or ((copiedValue? e property).map .value)

/-- Whether an attribute of a gateway inside a chain is read. Those for gateways of their own are
not, nor are the id and namespaces. -/
def isReadInline (key : String) : Bool :=
  ["default-request-channel", "default-reply-channel", "message-mapper", "mapper",
    "default-payload-expression", "id"].all (key != ·) && !declaresNamespace key

/-- What is read of a gateway inside a chain. None of its children is. -/
def inlineReading (e : Element) : List (String × String) :=
  e.attributes.filter fun a => isReadInline a.1

/-- A rule sets its property to its attribute as it is written, if that has text. -/
lemma lastValue?_ruleContent_of_mem (e : Element) {rules : List AttributeRule}
    (h : (rules.map (·.property)).Nodup) {rule : AttributeRule} (hrule : rule ∈ rules) :
    Table.lastValue? (ruleContent e rules) rule.property =
      (e.textAttribute? rule.key).map rule.kind.property := by
  rw [lastValue?_ruleContent e h]
  cases hr : ruleFor? e rules rule.property with
  | none =>
    have hnone := List.find?_eq_none.mp hr rule hrule
    have ht : ¬ e.hasText rule.key = true := by simpa using hnone
    rw [textAttribute?_of_not_hasText ht]
    rfl
  | some found =>
    have hfound := List.find?_some hr
    rw [Bool.and_eq_true, beq_iff_eq] at hfound
    obtain rfl : found = rule :=
      List.inj_on_of_nodup_map h (List.mem_of_find?_eq_some hr) hrule hfound.1
    rw [textAttribute?_of_hasText hfound.2]
    rfl

lemma lastValue?_inlineRules (e : Element) (property : String) :
    Table.lastValue? (ruleContent e inlineRules) property = inlineDeclared? e property := by
  have hrules : (inlineRules.map (·.property)).Nodup := by decide
  have hmem (rule : AttributeRule) (hrule : rule ∈ inlineRules) :=
    lastValue?_ruleContent_of_mem e hrules hrule
  unfold inlineDeclared?
  split
  · exact hmem ⟨"request-channel", _, .reference⟩ (by decide)
  · exact hmem ⟨"reply-channel", _, .reference⟩ (by decide)
  · exact hmem ⟨"error-channel", _, .reference⟩ (by decide)
  · exact hmem ⟨"async-executor", _, .reference⟩ (by decide)
  · exact hmem ⟨"request-timeout", _, .value⟩ (by decide)
  · exact hmem ⟨"reply-timeout", _, .value⟩ (by decide)
  · rw [lastValue?_ruleContent e hrules, ruleFor?_eq_none]
    · rfl
    · simp_all [inlineRules]

lemma result_translate_inline {e : Element} (h : e.name = "gateway") :
    (translate .inline e).result = .ok (contentOf .inline e) := by
  rw [result_translate_of_name .inline h]
  rfl

lemma get?_contentOf_inline (e : Element) (property : String) :
    (contentOf .inline e).get? property = inlineProperty e property := by
  rw [get?_contentOf, declaredContent, rulesOf, metadataOf, List.append_nil, lastValue?_inlineRules,
    inlineProperty]

lemma isReadInline_of_isEligible {key : String} (h : isEligible key = true) :
    isReadInline key = true := by
  simp only [isEligible, referenceAttributes, List.contains_cons, List.contains_nil,
    Bool.and_eq_true, Bool.not_eq_true', Bool.or_eq_false_iff, bne_iff_ne,
    beq_eq_false_iff_ne] at h
  obtain ⟨⟨⟨⟨hreference, -⟩, hpayload⟩, hid⟩, hnamespace⟩ := h
  simp [isReadInline, hnamespace, hid, hpayload, hreference]

/-- What is not read of a gateway inside a chain does not change its recipe. -/
lemma contentOf_inline_congr {e f : Element} (h : inlineReading e = inlineReading f) :
    contentOf .inline e = contentOf .inline f := by
  have hrules : ∀ rule ∈ inlineRules, isReadInline rule.key = true := by decide
  rw [contentOf, contentOf, declaredContent, declaredContent, rulesOf,
    copiedContent_eq_of_filter h fun _ => isReadInline_of_isEligible,
    ruleContent_eq_of_filter h hrules]
  rfl

/-- A gateway inside a chain translates, whatever its children and its other attributes are, to a
recipe with exactly the properties of `inlineProperty`. Any gateway with the same attributes, as
far as they are read in this place, translates to the same recipe. -/
theorem translate_inline_properties (e : Element) (gateway : e.name = "gateway") :
    (∃ recipe, (translate .inline e).result = .ok recipe ∧ recipe.kind = .gatewayProxyFactory ∧
      ∀ property, recipe.get? property = inlineProperty e property) ∧
    ∀ f : Element, f.name = "gateway" → inlineReading f = inlineReading e →
      (translate .inline f).result = (translate .inline e).result := by
  rw [result_translate_inline gateway]
  refine ⟨⟨_, rfl, rfl, get?_contentOf_inline e⟩, ?_⟩
  intro f gateway' same
  rw [result_translate_inline gateway', contentOf_inline_congr same]

/-- A gateway with children and options that are refused anywhere but inside a chain. -/
def malformedGateway : Element :=
  ((Element.named "gateway").withAttributes
    [("id", "g"), ("request-channel", " in "), ("defaultRequestChannel", "a"), ("mapper", "m"),
      ("reply-timeout", " "), ("default-reply-timeout", "5"), ("xmlns:i", "u"),
      ("default-payload-expression", "p")]).withChildren
    [Element.named "method", (Element.named "default-header").withAttributes
      [("name", "h"), ("value", "1"), ("expression", "2")]]

def reducedGateway : Element :=
  (Element.named "gateway").withAttributes
    [("request-channel", " in "), ("defaultRequestChannel", "a"), ("reply-timeout", " "),
      ("default-reply-timeout", "5")]

theorem translate_inline_properties_malformed :
    malformedGateway.name = "gateway" ∧ reducedGateway.name = "gateway" ∧
      inlineReading reducedGateway = inlineReading malformedGateway ∧
      (translate .inline reducedGateway).result = (translate .inline malformedGateway).result ∧
      ∃ recipe, (translate .inline malformedGateway).result = .ok recipe ∧
        recipe.get? "defaultRequestChannel" = some (.reference " in ") ∧
        recipe.get? "defaultReplyTimeout" = some (.value "5") ∧ recipe.get? "mapper" = none := by
  have same : inlineReading reducedGateway = inlineReading malformedGateway := by decide
  obtain ⟨⟨recipe, translated, -, h⟩, hsame⟩ := translate_inline_properties malformedGateway rfl
  refine ⟨rfl, rfl, same, hsame _ rfl same, recipe, translated, ?_, ?_, ?_⟩
  · exact (h _).trans (by rfl)
  · exact (h _).trans (by rfl)
  · exact (h _).trans (by rfl)

end GatewayRecipes.Gateway
