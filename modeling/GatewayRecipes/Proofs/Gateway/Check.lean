import GatewayRecipes.Gateway.Translation
import GatewayRecipes.Proofs.Element
import GatewayRecipes.Proofs.Table
import GatewayRecipes.Proofs.Traced

/-! The demands on a gateway definition, in the order in which they are checked, and what a
definition that meets them all amounts to. Every part of a translation gives the error of its
first failing check, or else a content that is stated here without failures. -/
namespace GatewayRecipes.Gateway

/-- A demand on a definition, and the error of a definition that does not meet it. -/
structure Check where
  met : Bool
  error : DefinitionError

def firstFailure (checks : List Check) : Option DefinitionError :=
  (checks.find? (!·.met)).map (·.error)

/-- A value that is given out if all checks are met. -/
def checked {α : Type} (checks : List Check) (value : α) : Except DefinitionError α :=
  match firstFailure checks with
  | some error => .error error
  | none => .ok value

/-- A header needs a name, then exactly one of its two sources. -/
def headerChecks (tag : String) (scope : Scope) (header : Element) : List Check :=
  let value := header.hasText "value"
  let expression := header.hasText "expression"
  [⟨header.hasText "name", .missingAttribute tag "name" scope⟩,
    ⟨value || expression, .ambiguousHeaderSource (header.attributeD "name") scope .neither⟩,
    ⟨!(value && expression), .ambiguousHeaderSource (header.attributeD "name") scope .both⟩]

/-- A method needs a name. A mapper leaves no room for a payload or headers of its own. -/
def methodChecks (mapper : Bool) (method : Element) : List Check :=
  let scope := Scope.method (method.attributeD "name")
  [⟨method.hasText "name", .missingAttribute "method" "name" .gateway⟩,
    ⟨!(mapper && method.hasText "payload-expression"),
      .conflictingOption "payload-expression" scope⟩,
    ⟨!(mapper && method.hasChild "header"), .conflictingOption "header" scope⟩] ++
    (method.childrenNamed "header").flatMap (headerChecks "header" scope)

def globalChecks (e : Element) : List Check :=
  let mapper := e.hasText "mapper"
  [⟨!(mapper && e.hasText "default-payload-expression"),
      .conflictingOption "default-payload-expression" .gateway⟩,
    ⟨!(mapper && e.hasChild "default-header"), .conflictingOption "default-header" .gateway⟩] ++
    (e.childrenNamed "default-header").flatMap (headerChecks "default-header" .gateway)

/-- All demands on a gateway of its own, those on its methods last. -/
def gatewayChecks (e : Element) : List Check :=
  globalChecks e ++ (e.childrenNamed "method").flatMap (methodChecks (e.hasText "mapper"))

section
variable {α β : Type}

@[simp] lemma firstFailure_nil : firstFailure [] = none := rfl

@[simp] lemma firstFailure_cons (c : Check) (checks : List Check) :
    firstFailure (c :: checks) = if c.met then firstFailure checks else some c.error := by
  cases h : c.met <;> simp [firstFailure, h]

lemma firstFailure_append (a b : List Check) :
    firstFailure (a ++ b) = (firstFailure a).or (firstFailure b) := by
  induction a with
  | nil => simp
  | cons c rest ih => cases h : c.met <;> simp [h, ih]

lemma firstFailure_eq_none_iff (checks : List Check) :
    firstFailure checks = none ↔ ∀ c ∈ checks, c.met = true := by
  simp [firstFailure]

/-- Of the checks of several things in a row, the first that fails belongs to the first thing that
fails any. -/
lemma firstFailure_flatMap_eq_some_iff {checks : α → List Check} {l : List α}
    {error : DefinitionError} :
    firstFailure (l.flatMap checks) = some error ↔
      ∃ before a after, l = before ++ a :: after ∧
        (∀ b ∈ before, firstFailure (checks b) = none) ∧ firstFailure (checks a) = some error := by
  induction l with
  | nil => simp
  | cons a rest ih =>
    rw [List.flatMap_cons, firstFailure_append, Option.or_eq_some_iff, ih]
    constructor
    · rintro (ha | ⟨ha, before, b, after, rfl, hbefore, hb⟩)
      · exact ⟨[], a, rest, rfl, List.forall_mem_nil _, ha⟩
      · exact ⟨a :: before, b, after, rfl, List.forall_mem_cons.mpr ⟨ha, hbefore⟩, hb⟩
    · rintro ⟨_ | ⟨c, before⟩, b, after, hl, hbefore, hb⟩
      · obtain ⟨rfl, -⟩ := List.cons.inj hl
        exact .inl hb
      · obtain ⟨rfl, rfl⟩ := List.cons.inj hl
        obtain ⟨ha, hbefore⟩ := List.forall_mem_cons.mp hbefore
        exact .inr ⟨ha, before, b, after, rfl, hbefore, hb⟩

lemma checked_eq_ok_iff {checks : List Check} {value a : α} :
    checked checks value = .ok a ↔ firstFailure checks = none ∧ value = a := by
  cases h : firstFailure checks <;> simp [checked, h]

lemma checked_eq_error_iff {checks : List Check} {value : α} {error : DefinitionError} :
    checked checks value = .error error ↔ firstFailure checks = some error := by
  cases h : firstFailure checks <;> simp [checked, h]

@[simp] lemma checked_nil (value : α) : checked [] value = .ok value := rfl

lemma checked_cons (c : Check) (checks : List Check) (value : α) :
    checked (c :: checks) value = if c.met then checked checks value else .error c.error := by
  cases h : c.met <;> simp [checked, h]

lemma checked_of_met {c : Check} (h : c.met = true) (checks : List Check) (value : α) :
    checked (c :: checks) value = checked checks value := by
  rw [checked_cons, h, if_pos rfl]

/-- Checks of a part come before the checks of what follows it. -/
lemma checked_bind (a b : List Check) (value : α) (f : α → Except DefinitionError β) (result : β)
    (h : f value = checked b result) : (checked a value >>= f) = checked (a ++ b) result := by
  cases ha : firstFailure a with
  | some error => simp [checked, firstFailure_append, ha, Bind.bind, Except.bind]
  | none =>
    have hv : checked a value = .ok value := checked_eq_ok_iff.mpr ⟨ha, rfl⟩
    rw [hv, checked, firstFailure_append, ha]
    exact h

lemma checked_map (checks : List Check) (value : α) (f : α → β) :
    (checked checks value >>= fun v => pure (f v)) = checked checks (f value) := by
  have h := checked_bind checks [] value (fun v => pure (f v)) (f value) rfl
  rwa [List.append_nil] at h

/-- An early failure is a check before the checks of what follows it. -/
lemma throw_or_checked (c : Bool) (error : DefinitionError) {rest : Except DefinitionError α}
    {checks : List Check} {value : α} (h : rest = checked checks value) :
    (if c = true then (do throw error; rest) else rest) =
      checked (⟨!c, error⟩ :: checks) value := by
  rw [checked_cons, ← h]
  cases c <;> rfl

end

end GatewayRecipes.Gateway
