import GatewayRecipes.Proofs.Registry.Sequence

/-! Where a load fails: at the first handled element that does not translate, or whose name is in
use once those before it are staged. -/
namespace GatewayRecipes.Registry
open Element
variable {r : Registry} {staged : Table Recipe} {o : Occurrence} {root : Element} {report : Report}

/-- How an element is refused when others are staged, with what is reported. -/
inductive Refused (r : Registry) (staged : Table Recipe) (o : Occurrence) : Report → Prop
  | untranslated {p : DefinitionParser} {cause : Gateway.DefinitionError}
      (parser : r.parserFor? o.element.name = some p)
      (failed : (p.parse o.element (modeAt o)).result = .error cause) :
      Refused r staged o ⟨["parsing " ++ describe o.element], .definition cause⟩
  | taken {p : DefinitionParser} {recipe : Recipe} (parser : r.parserFor? o.element.name = some p)
      (parsed : (p.parse o.element (modeAt o)).result = .ok recipe)
      (inUse : r.nameAt staged p.kind o ∈ r.names ∨ r.nameAt staged p.kind o ∈ staged.keys) :
      Refused r staged o
        ⟨["registering " ++ describe o.element], .duplicateComponent (r.nameAt staged p.kind o)⟩

lemma register_eq_error_iff :
    (r.register staged o).result = .error report ↔ r.Refused staged o report := by
  constructor
  · intro h
    rw [register] at h
    cases hp : r.parserFor? o.element.name with
    | none => rw [hp] at h; cases h
    | some p =>
      rw [hp] at h
      cases hr : (p.parse o.element (modeAt o)).result with
      | error cause =>
        simp only [hr] at h
        cases h
        exact .untranslated hp hr
      | ok recipe =>
        simp only [hr] at h
        split at h
        · next inUse =>
          cases h
          exact .taken hp hr inUse
        · cases h
  · rintro (⟨hp, hr⟩ | ⟨hp, hr, inUse⟩)
    · simp [register, hp, hr]
    · simp [register, hp, hr, inUse]

lemma load_eq_error_iff_fold :
    (r.load root).result = .error report ↔
      ((r.handled root).foldlM r.register []).result = .error report := by
  rw [result_load]
  cases ((r.handled root).foldlM r.register []).result with
  | error e => simp [Except.map]
  | ok staged => simp [Except.map]

/-- A load fails at an element that is refused when all handled elements before it are staged. -/
theorem load_eq_error_iff :
    (r.load root).result = .error report ↔
      ∃ before o after staged, r.handled root = before ++ o :: after ∧
        (before.foldlM r.register []).result = .ok staged ∧ r.Refused staged o report := by
  simp only [load_eq_error_iff_fold, Traced.foldlM_eq_error_iff, register_eq_error_iff]

end GatewayRecipes.Registry
