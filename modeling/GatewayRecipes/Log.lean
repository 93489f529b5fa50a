import GatewayRecipes.Recipe.Basic

/-! What is reported while documents are translated, and computations that report. -/
namespace GatewayRecipes

/-- Where a gateway element stands, as its caller sees it. -/
inductive Mode
  /-- Directly inside a chain: only the reduced attribute set applies. -/
  | inline
  /-- A definition of its own, with methods, headers and payload settings. -/
  | standalone
  deriving Repr, DecidableEq, Inhabited

def Mode.name : Mode → String
  | inline => "Inline"
  | standalone => "Standalone"

/-- Log levels, the most urgent first. -/
inductive LogLevel
  | error
  | warn
  | info
  | debug
  | trace
  deriving Repr, DecidableEq, Inhabited

/-- Something that happened during a translation or a load. -/
inductive Notice
  /-- A method was declared again; the last declaration wins. -/
  | methodRepeated (method : String)
  /-- A gateway element was translated. -/
  | gatewayTranslated (mode : Mode) (id : String) (properties : Nat)
  /-- An element was handed to a recording parser. -/
  | parseCalled (element : String) (id : Option String) (mode : Mode)
  /-- A definition got its component name. -/
  | definitionRegistered (component : String) (kind : RecipeKind) (mode : Mode)
  /-- A document was loaded: definitions of this load, and of the registry. -/
  | definitionsLoaded (count total : Nat)
  deriving Repr, DecidableEq, Inhabited

/-- A field of a log entry. Quoted fields are printed in quotes on log lines. -/
structure LogField where
  key : String
  text : String
  quoted : Bool
  deriving Repr, DecidableEq, Inhabited

namespace Notice

def level : Notice → LogLevel
  | methodRepeated .. => .warn
  | _ => .debug

def message : Notice → String
  | methodRepeated .. => "gateway method declared more than once, the last declaration wins"
  | gatewayTranslated .. => "translated gateway element"
  | parseCalled .. => "recording parse call"
  | definitionRegistered .. => "registered definition"
  | definitionsLoaded .. => "loaded definitions"

/-- The fields of a notice, in their printed order. -/
def fields : Notice → List LogField
  | methodRepeated method => [⟨"method", method, true⟩]
  | gatewayTranslated mode id properties =>
    [⟨"mode", mode.name, false⟩, ⟨"id", id, true⟩, ⟨"properties", toString properties, false⟩]
  | parseCalled element _ mode => [⟨"element", element, true⟩, ⟨"mode", mode.name, false⟩]
  | definitionRegistered component kind mode =>
    [⟨"component", component, false⟩, ⟨"kind", kind.name, false⟩, ⟨"mode", mode.name, false⟩]
  | definitionsLoaded count total =>
    [⟨"count", toString count, false⟩, ⟨"total", toString total, false⟩]

end Notice

/-- The notices of a computation, in order, and its result. Notices given before a failure stay. -/
structure Traced (ε α : Type) where
  notices : List Notice
  result : Except ε α

namespace Traced
variable {ε ε' α β : Type}

def pure (a : α) : Traced ε α := ⟨[], .ok a⟩

def fail (e : ε) : Traced ε α := ⟨[], .error e⟩

def note (n : Notice) : Traced ε Unit := ⟨[n], .ok ()⟩

def ofExcept (r : Except ε α) : Traced ε α := ⟨[], r⟩

def bind (x : Traced ε α) (f : α → Traced ε β) : Traced ε β :=
  match x.result with
  | .ok a => ⟨x.notices ++ (f a).notices, (f a).result⟩
  | .error e => ⟨x.notices, .error e⟩

instance : Monad (Traced ε) where
  pure := Traced.pure
  bind := Traced.bind

def mapError (f : ε → ε') (x : Traced ε α) : Traced ε' α := ⟨x.notices, x.result.mapError f⟩

@[simp] theorem notices_pure (a : α) : (Pure.pure a : Traced ε α).notices = [] := rfl
@[simp] theorem result_pure (a : α) : (Pure.pure a : Traced ε α).result = .ok a := rfl
@[simp] theorem notices_fail (e : ε) : (fail e : Traced ε α).notices = [] := rfl
@[simp] theorem result_fail (e : ε) : (fail e : Traced ε α).result = .error e := rfl
@[simp] theorem notices_note (n : Notice) : (note n : Traced ε Unit).notices = [n] := rfl
@[simp] theorem result_note (n : Notice) : (note n : Traced ε Unit).result = .ok () := rfl
@[simp] theorem notices_ofExcept (r : Except ε α) : (ofExcept r).notices = [] := rfl
@[simp] theorem result_ofExcept (r : Except ε α) : (ofExcept r).result = r := rfl
@[simp] theorem notices_mapError (f : ε → ε') (x : Traced ε α) :
    (x.mapError f).notices = x.notices := rfl
@[simp] theorem result_mapError (f : ε → ε') (x : Traced ε α) :
    (x.mapError f).result = x.result.mapError f := rfl

theorem bind_of_ok {x : Traced ε α} {a : α} (h : x.result = .ok a) (f : α → Traced ε β) :
    (x >>= f) = ⟨x.notices ++ (f a).notices, (f a).result⟩ := by
  simp [Bind.bind, bind, h]

theorem bind_of_error {x : Traced ε α} {e : ε} (h : x.result = .error e) (f : α → Traced ε β) :
    (x >>= f) = ⟨x.notices, .error e⟩ := by
  simp [Bind.bind, bind, h]

end Traced
end GatewayRecipes
