import GatewayRecipes.Proofs.Gateway.Check

/-! What a gateway definition that meets all demands amounts to. Each part of a translation is
equal to its checks, followed by such a content. -/
namespace GatewayRecipes.Gateway

/-- The source of a header that has one: the value word for word, or the expression. -/
def sourceContent (header : Element) : Expression :=
  if header.hasText "value" then .literal (header.attributeD "value")
  else .computed (header.attributeD "expression")

def headerBinding (header : Element) : String × Expression :=
  (header.attributeD "name", sourceContent header)

/-- Headers by name, each name where it first came and with its last source. -/
def headerContent (headers : List Element) : PropertyValue :=
  .map ((Table.lastWins (headers.map headerBinding)).map fun e => (e.1, .expression e.2))

/-- The payload expression as a property, if the attribute has text. -/
def payloadContent (e : Element) (key : String) : List (String × PropertyValue) :=
  if e.hasText key then [("payloadExpression", .value (e.attributeD key))] else []

/-- Metadata for all methods: the default headers, be it none, and a payload. -/
def globalContent (e : Element) : Recipe :=
  ⟨.gatewayMethodMetadata,
    ("headerExpressions", headerContent (e.childrenNamed "default-header")) ::
      payloadContent e "default-payload-expression"⟩

/-- Channels and timeouts of a method as they are written, empty where the attribute is absent. -/
def settingsContent (method : Element) : List (String × PropertyValue) :=
  [("requestChannelName", .value (method.attributeD "request-channel")),
    ("replyChannelName", .value (method.attributeD "reply-channel")),
    ("requestTimeout", .value (method.attributeD "request-timeout")),
    ("replyTimeout", .value (method.attributeD "reply-timeout"))]

/-- Metadata of one method: the four settings, then a payload and headers where there are any. -/
def methodContent (method : Element) : Recipe :=
  ⟨.gatewayMethodMetadata,
    settingsContent method ++ payloadContent method "payload-expression" ++
      if method.hasChild "header" then
        [("headerExpressions", headerContent (method.childrenNamed "header"))]
      else []⟩

def methodBinding (method : Element) : String × Recipe :=
  (method.attributeD "name", methodContent method)

/-- Methods by name, each name where it first came and with the metadata of its last method. -/
def methodsContent (methods : List Element) : PropertyValue :=
  .map ((Table.lastWins (methods.map methodBinding)).map fun e => (e.1, .recipe e.2))

/-- The eligible attributes under their property names, as they are written. -/
def copiedContent (attributes : List (String × String)) : List (String × PropertyValue) :=
  (attributes.filter fun a => isEligible a.1).map fun a => (propertyName a.1, .value a.2)

/-- The properties of those rules whose attribute has text. -/
def ruleContent (e : Element) (rules : List AttributeRule) : List (String × PropertyValue) :=
  (rules.filter fun rule => e.hasText rule.key).map fun rule =>
    (rule.property, rule.kind.property (e.attributeD rule.key))

/-- Metadata of a gateway of its own, for all methods and by method, where there is any. -/
def metadataContent (e : Element) : List (String × PropertyValue) :=
  (if e.hasChild "default-header" || e.hasText "default-payload-expression" then
    [("globalMethodMetadata", .recipe (globalContent e))] else []) ++
  if e.hasChild "method" then
    [("methodMetadataMap", methodsContent (e.childrenNamed "method"))] else []

/-- The recipe of a gateway of its own: copied attributes, then rules, then metadata. What comes
later replaces what came under the same name. -/
def standaloneContent (e : Element) : Recipe :=
  ⟨.gatewayProxyFactory,
    Table.lastWins
      (copiedContent e.attributes ++ ruleContent e standaloneRules ++ metadataContent e)⟩

/-! Attributes. -/

theorem copyAttributes_eq (r : Recipe) (attributes : List (String × String)) :
    copyAttributes r attributes =
      ⟨r.kind, Table.putAll r.properties (copiedContent attributes)⟩ := by
  induction attributes generalizing r with
  | nil => cases r; rfl
  | cons a rest ih =>
    obtain ⟨key, value⟩ := a
    rw [copyAttributes, ih]
    cases h : isEligible key <;> simp [copiedContent, h, Recipe.set]

theorem applyRules_eq (e : Element) (r : Recipe) (rules : List AttributeRule) :
    applyRules e r rules = ⟨r.kind, Table.putAll r.properties (ruleContent e rules)⟩ := by
  induction rules generalizing r with
  | nil => cases r; rfl
  | cons rule rest ih =>
    rw [applyRules, ih, Element.textAttribute?_eq]
    cases h : e.hasText rule.key <;> simp [ruleContent, h, Recipe.set?, Recipe.set]

/-- All that does not depend on children is one list of bindings. -/
theorem baseRecipe_eq (e : Element) (rules : List AttributeRule) :
    baseRecipe e rules =
      ⟨.gatewayProxyFactory, Table.ofList (copiedContent e.attributes ++ ruleContent e rules)⟩ := by
  rw [baseRecipe, copyAttributes_eq, applyRules_eq, Table.ofList, Table.putAll_append]
  rfl

/-! Headers. -/

theorem headerEntry_eq (tag : String) (scope : Scope) (header : Element) :
    headerEntry tag scope header =
      checked (headerChecks tag scope header) (headerBinding header) := by
  simp only [headerEntry, headerSource, Element.textAttribute?_eq, headerChecks, checked_cons,
    headerBinding, sourceContent]
  cases header.hasText "name" with
  | false => simp
  | true =>
    cases header.hasText "value" <;> cases header.hasText "expression" <;> simp [Except.map]

theorem addHeaders_eq (tag : String) (scope : Scope) (table : Table Expression)
    (headers : List Element) :
    addHeaders tag scope table headers =
      checked (headers.flatMap (headerChecks tag scope))
        (table.putAll (headers.map headerBinding)) := by
  induction headers generalizing table with
  | nil => rfl
  | cons header rest ih =>
    have hb : addHeaders tag scope table (header :: rest) =
        headerEntry tag scope header >>= fun e =>
          addHeaders tag scope (table.put e.1 e.2) rest := by
      rw [addHeaders]
      cases headerEntry tag scope header <;> rfl
    rw [hb, headerEntry_eq, List.flatMap_cons]
    exact checked_bind _ _ _ _ _ (ih _)

/-- Headers are read all or not at all, and in the order of the document. -/
theorem headerExpressions_eq (tag : String) (scope : Scope) (headers : List Element) :
    headerExpressions tag scope headers =
      checked (headers.flatMap (headerChecks tag scope))
        (Table.lastWins (headers.map headerBinding)) := by
  rw [headerExpressions, addHeaders_eq, ← Table.ofList_eq_lastWins]
  rfl

/-! Metadata. -/

/-- A property that may be absent binds its name once or not at all. -/
lemma set?_ite (r : Recipe) (p : Prop) [Decidable p] (key : String) (value : PropertyValue) :
    r.set? key (if p then some value else none) =
      ⟨r.kind, Table.putAll r.properties (if p then [(key, value)] else [])⟩ := by
  cases r
  split
  · rfl
  · rfl

lemma set?_payload (r : Recipe) (e : Element) (key : String)
    (h : "payloadExpression" ∉ Table.keys r.properties) :
    r.set? "payloadExpression" ((e.textAttribute? key).map .value) =
      ⟨r.kind, r.properties ++ payloadContent e key⟩ := by
  rw [Element.textAttribute?_eq, Option.map_if, set?_ite, payloadContent]
  cases e.hasText key with
  | false => simp
  | true => simp [Table.put_of_not_mem h]

theorem globalMetadata_eq (e : Element) :
    globalMetadata e =
      checked (globalChecks e)
        (if e.hasChild "default-header" || e.hasText "default-payload-expression" then
          some (globalContent e) else none) := by
  have hkey (table : Table Expression) : "payloadExpression" ∉ Table.keys
      ((Recipe.empty .gatewayMethodMetadata).set "headerExpressions"
        (headerMap table)).properties := by
    simp [Recipe.set, Recipe.empty, Table.put, Table.keys]
  simp only [globalMetadata, Element.isEmpty_childrenNamed, Bool.not_not,
    set?_payload _ _ _ (hkey _), headerExpressions_eq, checked_map]
  refine throw_or_checked (e.hasText "mapper" && e.hasText "default-payload-expression") _ ?_
  refine throw_or_checked (e.hasText "mapper" && e.hasChild "default-header") _ ?_
  change _ = checked ((e.childrenNamed "default-header").flatMap _) _
  cases hc : e.hasChild "default-header" with
  | true => rfl
  | false =>
    rw [Element.textAttribute?_eq, globalContent, Element.childrenNamed_eq_nil hc]
    cases e.hasText "default-payload-expression" <;> rfl

lemma methodSettings_eq (method : Element) :
    methodSettings method = ⟨.gatewayMethodMetadata, settingsContent method⟩ := by
  simp [methodSettings, methodRules, settingsContent, Recipe.set, Recipe.empty, Table.put]

lemma methodSettings_payload (method : Element) :
    (methodSettings method).set? "payloadExpression"
        ((method.textAttribute? "payload-expression").map .value) =
      ⟨.gatewayMethodMetadata,
        settingsContent method ++ payloadContent method "payload-expression"⟩ := by
  have hk : "payloadExpression" ∉ Table.keys (settingsContent method) := by
    simp [settingsContent, Table.keys]
  rw [methodSettings_eq, set?_payload _ _ _ hk]

lemma set_headerExpressions (method : Element) (value : PropertyValue) :
    Recipe.set ⟨.gatewayMethodMetadata,
        settingsContent method ++ payloadContent method "payload-expression"⟩
        "headerExpressions" value =
      ⟨.gatewayMethodMetadata,
        settingsContent method ++ payloadContent method "payload-expression" ++
          [("headerExpressions", value)]⟩ := by
  have hk : "headerExpressions" ∉
      Table.keys (settingsContent method ++ payloadContent method "payload-expression") := by
    cases hp : method.hasText "payload-expression" <;>
      simp [settingsContent, payloadContent, Table.keys, hp]
  rw [Recipe.set, Table.put_of_not_mem hk]

theorem methodMetadata_eq (mapper : Bool) (method : Element) :
    methodMetadata mapper method =
      checked (methodChecks mapper method) (methodBinding method) := by
  have hname := method.textAttribute?_eq "name"
  cases hn : method.hasText "name" with
  | false =>
    rw [hn] at hname
    simp only [methodMetadata, hname, methodChecks, List.cons_append, checked_cons, hn]
    rfl
  | true =>
    rw [hn] at hname
    refine Eq.trans ?_ (checked_of_met hn _ _).symm
    simp only [methodMetadata, hname, if_true, Element.isEmpty_childrenNamed, Bool.not_not]
    refine throw_or_checked (mapper && method.hasText "payload-expression") _ ?_
    refine throw_or_checked (mapper && method.hasChild "header") _ ?_
    change _ = checked ((method.childrenNamed "header").flatMap _) _
    rw [methodSettings_payload, methodBinding, methodContent]
    cases hc : method.hasChild "header" with
    | true =>
      simp only [set_headerExpressions, headerExpressions_eq, checked_map]
      rfl
    | false =>
      rw [Element.childrenNamed_eq_nil hc, if_neg Bool.false_ne_true, List.append_nil]
      rfl

/-! Methods and the whole gateway. -/

theorem result_addMethods (mapper : Bool) (table : Table Recipe) (methods : List Element) :
    (addMethods mapper table methods).result =
      checked (methods.flatMap (methodChecks mapper))
        (table.putAll (methods.map methodBinding)) := by
  induction methods generalizing table with
  | nil => rfl
  | cons method rest ih =>
    have hb : (addMethods mapper table (method :: rest)).result =
        methodMetadata mapper method >>= fun e =>
          (addMethods mapper (table.put e.1 e.2) rest).result := by
      rw [addMethods, Traced.result_bind, Traced.result_ofExcept]
      congr 1
      funext e
      obtain ⟨name, metadata⟩ := e
      change (if table.has name = true then _ else _ : Traced _ _).result = _
      split
      · rfl
      · rfl
    rw [hb, methodMetadata_eq, List.flatMap_cons]
    exact checked_bind _ _ _ _ _ (ih _)

theorem result_methodTable (e : Element) :
    (methodTable e).result =
      checked ((e.childrenNamed "method").flatMap (methodChecks (e.hasText "mapper")))
        (Table.lastWins ((e.childrenNamed "method").map methodBinding)) := by
  rw [methodTable, result_addMethods, ← Table.ofList_eq_lastWins]
  rfl

lemma methodMap?_lastWins (e : Element) :
    methodMap? (Table.lastWins ((e.childrenNamed "method").map methodBinding)) =
      if e.hasChild "method" then some (methodsContent (e.childrenNamed "method")) else none := by
  cases hc : e.hasChild "method" with
  | false => rw [Element.childrenNamed_eq_nil hc]; rfl
  | true =>
    have hn : (e.childrenNamed "method").map methodBinding ≠ [] := by
      simpa using Element.childrenNamed_ne_nil hc
    rw [methodMap?, List.isEmpty_eq_false_iff.mpr (Table.lastWins_ne_nil hn)]
    rfl

lemma set?_metadata (e : Element) :
    ((baseRecipe e standaloneRules).set? "globalMethodMetadata"
      ((if e.hasChild "default-header" || e.hasText "default-payload-expression" then
        some (globalContent e) else none).map .recipe)).set? "methodMetadataMap"
      (if e.hasChild "method" then some (methodsContent (e.childrenNamed "method")) else none) =
    standaloneContent e := by
  simp only [Option.map_if, set?_ite, baseRecipe_eq, standaloneContent, metadataContent,
    ← Table.ofList_eq_lastWins, Table.ofList, Table.putAll_append]

theorem result_standaloneRecipe (e : Element) :
    (standaloneRecipe e).result = checked (gatewayChecks e) (standaloneContent e) := by
  rw [standaloneRecipe, Traced.result_bind, Traced.result_ofExcept, globalMetadata_eq,
    gatewayChecks]
  refine checked_bind _ _ _ _ _ ?_
  rw [Traced.result_bind, result_methodTable]
  refine (checked_map _ _ _).trans ?_
  rw [methodMap?_lastWins, set?_metadata]

/-- A gateway of its own gives the error of its first failing check, or else its content. -/
theorem result_translate {e : Element} (h : e.name = "gateway") :
    (translate .standalone e).result = checked (gatewayChecks e) (standaloneContent e) := by
  rw [translate, if_pos h, recipe, Traced.result_bind, result_standaloneRecipe]
  cases checked (gatewayChecks e) (standaloneContent e) <;> rfl

end GatewayRecipes.Gateway
