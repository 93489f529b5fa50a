import GatewayRecipes.Proofs.Gateway.Content

/-! Which gateways of their own translate, and with which error the others fail. -/
namespace GatewayRecipes.Gateway

structure HeaderAcceptable (header : Element) : Prop where
  name : header.hasText "name" = true
  source : (header.hasText "value" = true ∧ ¬ header.hasText "expression" = true) ∨
    (header.hasText "expression" = true ∧ ¬ header.hasText "value" = true)

/-- A method with a name and acceptable headers, and with neither payload nor headers of its own
where there is a mapper. -/
structure MethodAcceptable (mapper : Prop) (method : Element) : Prop where
  name : method.hasText "name" = true
  payload : mapper → ¬ method.hasText "payload-expression" = true
  headers : mapper → ∀ c ∈ method.children, c.name ≠ "header"
  sources : ∀ c ∈ method.children, c.name = "header" → HeaderAcceptable c

/-- A gateway whose payload and default headers do not compete with a mapper, and whose default
headers and methods are acceptable one by one. -/
structure Acceptable (e : Element) : Prop where
  payload : e.hasText "mapper" = true → ¬ e.hasText "default-payload-expression" = true
  headers : e.hasText "mapper" = true → ∀ c ∈ e.children, c.name ≠ "default-header"
  sources : ∀ c ∈ e.children, c.name = "default-header" → HeaderAcceptable c
  methods : ∀ c ∈ e.children, c.name = "method" → MethodAcceptable (e.hasText "mapper" = true) c

lemma not_and_eq_true (a b : Bool) : (!(a && b)) = true ↔ (a = true → ¬ b = true) := by
  cases a <;> simp

lemma headerChecks_met_iff (tag : String) (scope : Scope) (header : Element) :
    (∀ c ∈ headerChecks tag scope header, c.met = true) ↔ HeaderAcceptable header := by
  simp only [headerChecks, List.forall_mem_cons, not_and_eq_true, Bool.or_eq_true]
  constructor
  · rintro ⟨hn, hs, hb, -⟩
    refine ⟨hn, ?_⟩
    rcases hs with hv | hx
    · exact .inl ⟨hv, hb hv⟩
    · exact .inr ⟨hx, fun hv => hb hv hx⟩
  · rintro ⟨hn, ⟨hv, hx⟩ | ⟨hx, hv⟩⟩
    · exact ⟨hn, .inl hv, fun _ => hx, by simp⟩
    · exact ⟨hn, .inr hx, fun h => (hv h).elim, by simp⟩

lemma methodChecks_met_iff (mapper : Bool) (method : Element) :
    (∀ c ∈ methodChecks mapper method, c.met = true) ↔
      MethodAcceptable (mapper = true) method := by
  simp only [methodChecks, List.forall_mem_append, List.forall_mem_cons, List.forall_mem_flatMap,
    headerChecks_met_iff, Element.forall_childrenNamed, not_and_eq_true, Element.not_hasChild_iff]
  constructor
  · rintro ⟨⟨hn, hp, hh, -⟩, hs⟩
    exact ⟨hn, hp, hh, hs⟩
  · rintro ⟨hn, hp, hh, hs⟩
    exact ⟨⟨hn, hp, hh, by simp⟩, hs⟩

/-- All checks are met by the acceptable gateways and by no others. -/
theorem gatewayChecks_met_iff (e : Element) :
    firstFailure (gatewayChecks e) = none ↔ Acceptable e := by
  rw [firstFailure_eq_none_iff]
  simp only [gatewayChecks, globalChecks, List.forall_mem_append, List.forall_mem_cons,
    List.forall_mem_flatMap, headerChecks_met_iff, methodChecks_met_iff,
    Element.forall_childrenNamed, not_and_eq_true, Element.not_hasChild_iff]
  constructor
  · rintro ⟨⟨⟨hp, hh, -⟩, hs⟩, hm⟩
    exact ⟨hp, hh, hs, hm⟩
  · rintro ⟨hp, hh, hs, hm⟩
    exact ⟨⟨⟨hp, hh, by simp⟩, hs⟩, hm⟩

/-- A gateway of its own translates exactly when it is acceptable. Otherwise it fails with the
error of the first check that it does not meet: payload, default headers as such, then each
default header and each method in the order of the document, whatever comes behind it. -/
theorem translate_standalone_verdict (e : Element) (gateway : e.name = "gateway") :
    ((∃ recipe, (translate .standalone e).result = .ok recipe) ↔ Acceptable e) ∧
      ∀ error, (translate .standalone e).result = .error error ↔
        firstFailure (gatewayChecks e) = some error := by
  rw [result_translate gateway]
  refine ⟨?_, fun error => checked_eq_error_iff⟩
  rw [← gatewayChecks_met_iff]
  constructor
  · rintro ⟨recipe, h⟩
    exact (checked_eq_ok_iff.mp h).1
  · intro h
    exact ⟨standaloneContent e, checked_eq_ok_iff.mpr ⟨h, rfl⟩⟩

/-- With a mapper, a method with a payload and a method without a name after it. -/
def overwrittenConflict : Element :=
  ((Element.named "gateway").withAttribute "mapper" "m").withChildren
    [((Element.named "method").withAttribute "name" "a").withAttribute "payload-expression" "p",
      (Element.named "method").withAttribute "name" "a", Element.named "method"]

/-- The payload counts although the second method takes the place of the first. -/
theorem translate_standalone_verdict_overwritten :
    overwrittenConflict.name = "gateway" ∧
      (translate .standalone overwrittenConflict).result =
        .error (.conflictingOption "payload-expression" (.method "a")) :=
  ⟨rfl, ((translate_standalone_verdict overwrittenConflict rfl).2 _).mpr (by decide)⟩

end GatewayRecipes.Gateway
