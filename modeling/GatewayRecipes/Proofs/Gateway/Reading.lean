import GatewayRecipes.Proofs.Gateway.Content
import Mathlib.Logic.Function.Basic

/-! What is read of a gateway of its own: attributes but those for other uses, default headers, and
methods with their headers. The outcome of a translation is a function of that. -/
namespace GatewayRecipes.Gateway

structure HeaderReading where
  name : Option String
  value : Option String
  expression : Option String
  deriving Repr, DecidableEq

structure MethodReading where
  name : Option String
  requestChannel : Option String
  replyChannel : Option String
  requestTimeout : Option String
  replyTimeout : Option String
  payload : Option String
  headers : List HeaderReading
  deriving Repr, DecidableEq

structure GatewayReading where
  attributes : List (String × String)
  defaultHeaders : List HeaderReading
  methods : List MethodReading
  deriving Repr, DecidableEq

def headerReading (header : Element) : HeaderReading where
  name := header.attribute? "name"
  value := header.attribute? "value"
  expression := header.attribute? "expression"

def methodReading (method : Element) : MethodReading where
  name := method.attribute? "name"
  requestChannel := method.attribute? "request-channel"
  replyChannel := method.attribute? "reply-channel"
  requestTimeout := method.attribute? "request-timeout"
  replyTimeout := method.attribute? "reply-timeout"
  payload := method.attribute? "payload-expression"
  headers := (method.childrenNamed "header").map headerReading

/-- Whether an attribute of a gateway of its own is read: it names no component or namespace, and
it is not for gateways inside a chain alone. -/
def isRead (key : String) : Bool :=
  ["id", "request-channel", "reply-channel", "request-timeout", "reply-timeout"].all (key != ·) &&
    !declaresNamespace key

/-- What is read of a gateway. Where its children stand among each other is not, and neither are
other children nor what is below headers. -/
def gatewayReading (e : Element) : GatewayReading where
  attributes := e.attributes.filter fun a => isRead a.1
  defaultHeaders := (e.childrenNamed "default-header").map headerReading
  methods := (e.childrenNamed "method").map methodReading

/-! Lists of elements with equal readings. -/

section
variable {ρ β : Type} {r : Element → ρ}

lemma map_factorsThrough {g : Element → β} (h : g.FactorsThrough r) :
    (List.map g).FactorsThrough (List.map r) := by
  intro as bs hr
  induction as generalizing bs with
  | nil =>
    obtain rfl : bs = [] := by simpa using hr.symm
    rfl
  | cons a as ih =>
    obtain ⟨b, bs, rfl, hb, hbs⟩ := List.map_eq_cons_iff.mp hr.symm
    rw [List.map_cons, List.map_cons, h hb.symm, ih hbs.symm]

lemma flatMap_factorsThrough {g : Element → List β} (h : g.FactorsThrough r) :
    (List.flatMap g).FactorsThrough (List.map r) := by
  intro as bs hr
  rw [List.flatMap_def, List.flatMap_def, map_factorsThrough h hr]

lemma hasChild_eq_of_map_eq {e f : Element} {name : String}
    (h : (e.childrenNamed name).map r = (f.childrenNamed name).map r) :
    e.hasChild name = f.hasChild name := by
  have hempty : (e.childrenNamed name).isEmpty = (f.childrenNamed name).isEmpty := by
    rw [← List.isEmpty_map (f := r), h, List.isEmpty_map]
  rwa [Element.isEmpty_childrenNamed, Element.isEmpty_childrenNamed, Bool.not_inj_iff] at hempty

end

/-! Elements with equal attributes, as far as these are read. -/

section
variable {e f : Element} {read : String → Bool}

lemma attribute?_eq_of_filter
    (h : e.attributes.filter (fun a => read a.1) = f.attributes.filter fun a => read a.1)
    {key : String} (hkey : read key = true) : e.attribute? key = f.attribute? key := by
  have hget (t : Table String) : t.get? key = Table.get? (t.filter fun a => read a.1) key := by
    rw [Table.get?_filter, if_pos hkey]
  rw [Element.attribute?, Element.attribute?, hget, hget f.attributes, h]

lemma copiedContent_eq_of_filter
    (h : e.attributes.filter (fun a => read a.1) = f.attributes.filter fun a => read a.1)
    (heligible : ∀ key, isEligible key = true → read key = true) :
    copiedContent e.attributes = copiedContent f.attributes := by
  have hfilter (attributes : List (String × String)) :
      attributes.filter (fun a => isEligible a.1) =
        (attributes.filter fun a => read a.1).filter fun a => isEligible a.1 := by
    rw [List.filter_filter]
    refine List.filter_congr fun a _ => ?_
    cases ha : isEligible a.1 with
    | true => rw [heligible a.1 ha, Bool.and_true]
    | false => rw [Bool.false_and]
  rw [copiedContent, copiedContent, hfilter, hfilter f.attributes, h]

lemma ruleContent_eq_of_filter
    (h : e.attributes.filter (fun a => read a.1) = f.attributes.filter fun a => read a.1)
    {rules : List AttributeRule} (hrules : ∀ rule ∈ rules, read rule.key = true) :
    ruleContent e rules = ruleContent f rules := by
  have hfilter : rules.filter (fun rule => e.hasText rule.key) =
      rules.filter fun rule => f.hasText rule.key :=
    List.filter_congr fun rule hrule =>
      Element.hasText_congr (attribute?_eq_of_filter h (hrules rule hrule))
  rw [ruleContent, ruleContent, hfilter]
  refine List.map_congr_left fun rule hrule => ?_
  have hkey := hrules rule (List.mem_filter.mp hrule).1
  rw [Element.attributeD_congr (attribute?_eq_of_filter h hkey)]

end

/-! Headers. -/

lemma headerChecks_factorsThrough (tag : String) (scope : Scope) :
    (headerChecks tag scope).FactorsThrough headerReading := by
  intro c d h
  have hname : c.attribute? "name" = d.attribute? "name" := congrArg HeaderReading.name h
  have hvalue : c.attribute? "value" = d.attribute? "value" := congrArg HeaderReading.value h
  have hexpression : c.attribute? "expression" = d.attribute? "expression" :=
    congrArg HeaderReading.expression h
  simp only [headerChecks, Element.hasText_congr hname, Element.hasText_congr hvalue,
    Element.hasText_congr hexpression, Element.attributeD_congr hname]

lemma headerBinding_factorsThrough : headerBinding.FactorsThrough headerReading := by
  intro c d h
  have hname : c.attribute? "name" = d.attribute? "name" := congrArg HeaderReading.name h
  have hvalue : c.attribute? "value" = d.attribute? "value" := congrArg HeaderReading.value h
  have hexpression : c.attribute? "expression" = d.attribute? "expression" :=
    congrArg HeaderReading.expression h
  simp only [headerBinding, sourceContent, Element.hasText_congr hvalue,
    Element.attributeD_congr hname, Element.attributeD_congr hvalue,
    Element.attributeD_congr hexpression]

lemma headerContent_factorsThrough :
    headerContent.FactorsThrough (List.map headerReading) := by
  intro as bs h
  rw [headerContent, headerContent, map_factorsThrough headerBinding_factorsThrough h]

lemma payloadContent_congr_of_attribute {e f : Element} {key : String}
    (h : e.attribute? key = f.attribute? key) : payloadContent e key = payloadContent f key := by
  simp only [payloadContent, Element.hasText_congr h, Element.attributeD_congr h]

/-! Methods. -/

lemma methodChecks_factorsThrough (mapper : Bool) :
    (methodChecks mapper).FactorsThrough methodReading := by
  intro c d h
  have hname : c.attribute? "name" = d.attribute? "name" := congrArg MethodReading.name h
  have hpayload : c.attribute? "payload-expression" = d.attribute? "payload-expression" :=
    congrArg MethodReading.payload h
  have hheaders := congrArg MethodReading.headers h
  simp only [methodChecks, Element.hasText_congr hname, Element.hasText_congr hpayload,
    Element.attributeD_congr hname, hasChild_eq_of_map_eq hheaders,
    flatMap_factorsThrough (headerChecks_factorsThrough _ _) hheaders]

lemma settingsContent_factorsThrough : settingsContent.FactorsThrough methodReading := by
  intro c d h
  simp only [settingsContent,
    Element.attributeD_congr (congrArg MethodReading.requestChannel h),
    Element.attributeD_congr (congrArg MethodReading.replyChannel h),
    Element.attributeD_congr (congrArg MethodReading.requestTimeout h),
    Element.attributeD_congr (congrArg MethodReading.replyTimeout h)]

lemma methodBinding_factorsThrough : methodBinding.FactorsThrough methodReading := by
  intro c d h
  have hheaders := congrArg MethodReading.headers h
  simp only [methodBinding, methodContent, settingsContent_factorsThrough h,
    payloadContent_congr_of_attribute (congrArg MethodReading.payload h),
    Element.attributeD_congr (congrArg MethodReading.name h), hasChild_eq_of_map_eq hheaders,
    headerContent_factorsThrough hheaders]

/-! The whole gateway. -/

variable {e f : Element}

/-- Attributes that are read are found alike. -/
lemma attribute?_eq_of_reading (h : gatewayReading e = gatewayReading f)
    {key : String} (hkey : isRead key = true) : e.attribute? key = f.attribute? key :=
  attribute?_eq_of_filter (congrArg GatewayReading.attributes h) hkey

lemma isRead_of_isEligible {key : String} (h : isEligible key = true) : isRead key = true := by
  simp only [isEligible, innerAttributes, List.contains_cons, List.contains_nil,
    Bool.and_eq_true, Bool.not_eq_true', Bool.or_eq_false_iff, bne_iff_ne,
    beq_eq_false_iff_ne] at h
  obtain ⟨⟨⟨⟨-, hinner⟩, -⟩, hid⟩, hnamespace⟩ := h
  simp [isRead, hnamespace, hid, hinner]

lemma copiedContent_eq_of_reading (h : gatewayReading e = gatewayReading f) :
    copiedContent e.attributes = copiedContent f.attributes :=
  copiedContent_eq_of_filter (congrArg GatewayReading.attributes h) fun _ => isRead_of_isEligible

lemma ruleContent_eq_of_reading (h : gatewayReading e = gatewayReading f)
    {rules : List AttributeRule} (hrules : ∀ rule ∈ rules, isRead rule.key = true) :
    ruleContent e rules = ruleContent f rules :=
  ruleContent_eq_of_filter (congrArg GatewayReading.attributes h) hrules

lemma gatewayChecks_eq_of_reading (h : gatewayReading e = gatewayReading f) :
    gatewayChecks e = gatewayChecks f := by
  have hmapper : e.attribute? "mapper" = f.attribute? "mapper" :=
    attribute?_eq_of_reading h (by decide)
  have hpayload :
      e.attribute? "default-payload-expression" = f.attribute? "default-payload-expression" :=
    attribute?_eq_of_reading h (by decide)
  have hheaders := congrArg GatewayReading.defaultHeaders h
  have hmethods := congrArg GatewayReading.methods h
  simp only [gatewayChecks, globalChecks, Element.hasText_congr hmapper,
    Element.hasText_congr hpayload, hasChild_eq_of_map_eq hheaders,
    flatMap_factorsThrough (headerChecks_factorsThrough _ _) hheaders,
    flatMap_factorsThrough (methodChecks_factorsThrough _) hmethods]

lemma metadataContent_eq_of_reading (h : gatewayReading e = gatewayReading f) :
    metadataContent e = metadataContent f := by
  have hpayload :
      e.attribute? "default-payload-expression" = f.attribute? "default-payload-expression" :=
    attribute?_eq_of_reading h (by decide)
  have hheaders := congrArg GatewayReading.defaultHeaders h
  have hmethods := congrArg GatewayReading.methods h
  simp only [metadataContent, globalContent, methodsContent, Element.hasText_congr hpayload,
    payloadContent_congr_of_attribute hpayload, hasChild_eq_of_map_eq hheaders,
    hasChild_eq_of_map_eq hmethods, headerContent_factorsThrough hheaders,
    map_factorsThrough methodBinding_factorsThrough hmethods]

/-- Gateways with one reading are translated alike on their own: to the same recipe, its
properties in the same order, or to the same error. -/
theorem translate_of_gatewayReading (gateway : e.name = "gateway")
    (gateway' : f.name = "gateway") (same : gatewayReading e = gatewayReading f) :
    (translate .standalone e).result = (translate .standalone f).result := by
  have hrules : ∀ rule ∈ standaloneRules, isRead rule.key = true := by decide
  rw [result_translate gateway, result_translate gateway', gatewayChecks_eq_of_reading same,
    standaloneContent, standaloneContent, copiedContent_eq_of_reading same,
    ruleContent_eq_of_reading same hrules, metadataContent_eq_of_reading same]

/-- A method and a default header in the midst of what is not read. -/
def scatteredGateway : Element :=
  ((Element.named "gateway").withAttributes
    [("id", "a"), ("mapper", " "), ("reply-timeout", "5"), ("service-interface", "I")]).withChildren
    [((Element.named "method").withAttributes [("id", "x"), ("name", "m")]).withChildren
      [Element.named "note", ((Element.named "header").withAttributes
        [("name", "h"), ("type", "t"), ("value", "1")]).withChildren [Element.named "header"]],
      Element.named "note",
      (Element.named "default-header").withAttributes [("name", "d"), ("expression", "e")]]

def gatheredGateway : Element :=
  ((Element.named "gateway").withAttributes
    [("mapper", " "), ("xmlns:i", "u"), ("service-interface", "I")]).withChildren
    [(Element.named "default-header").withAttributes [("name", "d"), ("expression", "e")],
      ((Element.named "method").withAttribute "name" "m").withChildren
        [(Element.named "header").withAttributes [("name", "h"), ("value", "1")]]]

theorem translate_of_gatewayReading_scattered :
    scatteredGateway.name = "gateway" ∧ gatheredGateway.name = "gateway" ∧
      gatewayReading scatteredGateway = gatewayReading gatheredGateway ∧
      (translate .standalone scatteredGateway).result =
        (translate .standalone gatheredGateway).result :=
  ⟨rfl, rfl, by decide, translate_of_gatewayReading rfl rfl (by decide)⟩

end GatewayRecipes.Gateway
