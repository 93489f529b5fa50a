import GatewayRecipes.Text.Casing

/-! The attribute grammar of the gateway element: every attribute with a meaning of its own, and
the property that it feeds. All other attributes are copied. -/
namespace GatewayRecipes.Gateway

/-- How an attribute value ends up in a recipe. -/
inductive AttributeKind
  /-- The value names another component. -/
  | reference
  /-- The value is a plain scalar. -/
  | value
  deriving Repr, DecidableEq, Inhabited

def AttributeKind.name : AttributeKind → String
  | reference => "Reference"
  | value => "Value"

/-- One attribute feeds one property. -/
structure AttributeRule where
  key : String
  property : String
  kind : AttributeKind
  deriving Repr, DecidableEq, Inhabited

/-- Attributes of a gateway of its own that name other components. -/
def referenceAttributes : List String :=
  ["default-request-channel", "default-reply-channel", "error-channel", "message-mapper",
    "async-executor", "mapper"]

/-- Attributes that only mean something on a gateway inside a chain. -/
def innerAttributes : List String :=
  ["request-channel", "reply-channel", "request-timeout", "reply-timeout", "error-channel"]

def standaloneRules : List AttributeRule :=
  [⟨"default-request-channel", "defaultRequestChannel", .reference⟩,
    ⟨"default-reply-channel", "defaultReplyChannel", .reference⟩,
    ⟨"error-channel", "errorChannel", .reference⟩,
    ⟨"message-mapper", "messageMapper", .reference⟩,
    ⟨"async-executor", "asyncExecutor", .reference⟩,
    ⟨"mapper", "mapper", .reference⟩]

def inlineRules : List AttributeRule :=
  [⟨"request-channel", "defaultRequestChannel", .reference⟩,
    ⟨"reply-channel", "defaultReplyChannel", .reference⟩,
    ⟨"request-timeout", "defaultRequestTimeout", .value⟩,
    ⟨"reply-timeout", "defaultReplyTimeout", .value⟩,
    ⟨"error-channel", "errorChannel", .reference⟩,
    ⟨"async-executor", "asyncExecutor", .reference⟩]

/-- Channels and timeouts of a method. They stay names, which the gateway factory resolves. -/
def methodRules : List AttributeRule :=
  [⟨"request-channel", "requestChannelName", .value⟩,
    ⟨"reply-channel", "replyChannelName", .value⟩,
    ⟨"request-timeout", "requestTimeout", .value⟩,
    ⟨"reply-timeout", "replyTimeout", .value⟩]

/-- Drop hyphens and put the next character in upper case; `raise` is set after a hyphen. -/
def camelCase (raise : Bool) : List Char → List Char
  | [] => []
  | c :: rest =>
    if c = '-' then camelCase true rest
    else (if raise then Text.upper c else [c]) ++ camelCase false rest

/-- The property form of an attribute name: `service-interface` becomes `serviceInterface`. -/
def propertyName (key : String) : String :=
  String.ofList (camelCase false key.toList)

def declaresNamespace (key : String) : Bool :=
  key == "xmlns" || "xmlns:".toList.isPrefixOf key.toList

/-- Whether an attribute of a gateway is copied as a plain value. -/
def isEligible (key : String) : Bool :=
  !referenceAttributes.contains key && !innerAttributes.contains key &&
    key != "default-payload-expression" && key != "id" &&
    !declaresNamespace key

@[simp] theorem toList_propertyName (key : String) :
    (propertyName key).toList = camelCase false key.toList := by
  simp [propertyName]

@[simp] theorem camelCase_nil (raise : Bool) : camelCase raise [] = [] := rfl

@[simp] theorem camelCase_hyphen (raise : Bool) (rest : List Char) :
    camelCase raise ('-' :: rest) = camelCase true rest := by simp [camelCase]

theorem camelCase_cons {c : Char} (h : c ≠ '-') (raise : Bool) (rest : List Char) :
    camelCase raise (c :: rest) =
      (if raise then Text.upper c else [c]) ++ camelCase false rest := by
  simp [camelCase, h]

end GatewayRecipes.Gateway
