import GatewayRecipes.Proofs.Gateway.Acceptance
import Mathlib.Data.List.Basic

/-! Tables of header expressions. A table holds every header of a list or is refused with the first
bad one, and a name is bound to the source of the last header that has it. -/
namespace GatewayRecipes.Gateway
open Element

inductive HeaderSource (header : Element) : Expression → Prop
  | literal {value : String} (value_eq : header.textAttribute? "value" = some value)
      (alone : header.textAttribute? "expression" = none) : HeaderSource header (.literal value)
  | computed {expression : String}
      (expression_eq : header.textAttribute? "expression" = some expression)
      (alone : header.textAttribute? "value" = none) : HeaderSource header (.computed expression)

/-- What is wrong with a header. Its name is looked at before its sources. -/
inductive HeaderFault (tag : String) (scope : Scope) (header : Element) : DefinitionError → Prop
  | unnamed (name_eq : header.textAttribute? "name" = none) :
      HeaderFault tag scope header (.missingAttribute tag "name" scope)
  | neither {name : String} (name_eq : header.textAttribute? "name" = some name)
      (value_eq : header.textAttribute? "value" = none)
      (expression_eq : header.textAttribute? "expression" = none) :
      HeaderFault tag scope header (.ambiguousHeaderSource name scope .neither)
  | both {name value expression : String} (name_eq : header.textAttribute? "name" = some name)
      (value_eq : header.textAttribute? "value" = some value)
      (expression_eq : header.textAttribute? "expression" = some expression) :
      HeaderFault tag scope header (.ambiguousHeaderSource name scope .both)

section
variable {tag : String} {scope : Scope} {header : Element} {error : DefinitionError}

/-- The checks of a header fail with the error that says what is wrong with it. -/
lemma firstFailure_headerChecks_iff :
    firstFailure (headerChecks tag scope header) = some error ↔
      HeaderFault tag scope header error := by
  simp only [headerChecks, firstFailure_cons, firstFailure_nil]
  constructor
  · intro h
    by_cases hname : header.hasText "name" = true
    · have name_eq := textAttribute?_of_hasText hname
      by_cases hvalue : header.hasText "value" = true
      · by_cases hexpression : header.hasText "expression" = true
        · obtain rfl : _ = error := by simpa [hname, hvalue, hexpression] using h
          exact .both name_eq (textAttribute?_of_hasText hvalue)
            (textAttribute?_of_hasText hexpression)
        · simp [hname, hvalue, hexpression] at h
      · by_cases hexpression : header.hasText "expression" = true
        · simp [hname, hvalue, hexpression] at h
        · obtain rfl : _ = error := by simpa [hname, hvalue, hexpression] using h
          exact .neither name_eq (textAttribute?_of_not_hasText hvalue)
            (textAttribute?_of_not_hasText hexpression)
    · obtain rfl : _ = error := by simpa [hname] using h
      exact .unnamed (textAttribute?_of_not_hasText hname)
  · intro h
    cases h with
    | unnamed name_eq => simp [hasText, name_eq]
    | neither name_eq value_eq expression_eq =>
      simp [hasText_of_textAttribute? name_eq, hasText, name_eq, value_eq, expression_eq]
    | both name_eq value_eq expression_eq =>
      simp [hasText_of_textAttribute? name_eq, hasText_of_textAttribute? value_eq,
        hasText_of_textAttribute? expression_eq]

lemma firstFailure_headerChecks_eq_none_iff :
    firstFailure (headerChecks tag scope header) = none ↔ HeaderAcceptable header := by
  rw [firstFailure_eq_none_iff, headerChecks_met_iff]

/-- An acceptable header is bound under its name to its source. -/
lemma HeaderAcceptable.headerBinding_eq_iff (h : HeaderAcceptable header) {name : String}
    {source : Expression} :
    headerBinding header = (name, source) ↔
      header.textAttribute? "name" = some name ∧ HeaderSource header source := by
  have name_eq := textAttribute?_of_hasText h.name
  rw [headerBinding, sourceContent, Prod.mk.injEq, name_eq, Option.some.injEq]
  refine and_congr_right fun _ => ?_
  obtain ⟨hvalue, hexpression⟩ | ⟨hexpression, hvalue⟩ := h.source
  · rw [if_pos hvalue]
    have value_eq := textAttribute?_of_hasText hvalue
    have alone := textAttribute?_of_not_hasText hexpression
    constructor
    · rintro rfl
      exact .literal value_eq alone
    · rintro (⟨hv, -⟩ | ⟨-, hnone⟩)
      · rw [Option.some.inj (value_eq.symm.trans hv)]
      · cases value_eq.symm.trans hnone
  · rw [if_neg hvalue]
    have expression_eq := textAttribute?_of_hasText hexpression
    have alone := textAttribute?_of_not_hasText hvalue
    constructor
    · rintro rfl
      exact .computed expression_eq alone
    · rintro (⟨-, hnone⟩ | ⟨hx, -⟩)
      · cases expression_eq.symm.trans hnone
      · rw [Option.some.inj (expression_eq.symm.trans hx)]

end

section
variable {headers : List Element}

/-- Names of acceptable headers are read as they are written. -/
lemma map_headerBinding_fst (h : ∀ c ∈ headers, HeaderAcceptable c) :
    (headers.map headerBinding).map (·.1) = headers.filterMap (·.textAttribute? "name") := by
  rw [List.map_map]
  exact (List.filterMap_eq_map_iff_forall_eq_some.mpr fun c hc =>
    textAttribute?_of_hasText (h c hc).name).symm

/-- A name is bound to the source of the last header that has it. -/
lemma lastValue?_headerBinding_iff (h : ∀ c ∈ headers, HeaderAcceptable c) {name : String}
    {source : Expression} :
    Table.lastValue? (headers.map headerBinding) name = some source ↔
      ∃ before header after, headers = before ++ header :: after ∧
        header.textAttribute? "name" = some name ∧ HeaderSource header source ∧
        ∀ c ∈ after, c.textAttribute? "name" ≠ some name := by
  have hnew {after : List Element} (hafter : ∀ c ∈ after, HeaderAcceptable c) :
      name ∉ (after.map headerBinding).map (·.1) ↔
        ∀ c ∈ after, c.textAttribute? "name" ≠ some name := by
    rw [map_headerBinding_fst hafter, List.mem_filterMap]
    push Not
    rfl
  rw [Table.lastValue?_eq_some_iff]
  constructor
  · rintro ⟨_, _, hsplit, hname⟩
    obtain ⟨before, rest, rfl, rfl, hrest⟩ := List.map_eq_append_iff.mp hsplit
    obtain ⟨header, after, rfl, hheader, rfl⟩ := List.map_eq_cons_iff.mp hrest
    obtain ⟨-, h⟩ := List.forall_mem_append.mp h
    obtain ⟨hok, hafter⟩ := List.forall_mem_cons.mp h
    obtain ⟨name_eq, hsource⟩ := hok.headerBinding_eq_iff.mp hheader
    exact ⟨before, header, after, rfl, name_eq, hsource, (hnew hafter).mp hname⟩
  · rintro ⟨before, header, after, rfl, name_eq, hsource, hlast⟩
    obtain ⟨-, h⟩ := List.forall_mem_append.mp h
    obtain ⟨hok, hafter⟩ := List.forall_mem_cons.mp h
    refine ⟨before.map headerBinding, after.map headerBinding, ?_, (hnew hafter).mpr hlast⟩
    rw [List.map_append, List.map_cons, hok.headerBinding_eq_iff.mpr ⟨name_eq, hsource⟩]

end

/-- Headers make a table exactly if each of them has a name and one source. Names stand in it as
they are written and where they first come, and each is bound to the source of the last header
that has it. Otherwise the first bad header is reported, whatever comes behind it. -/
theorem headerExpressions_verdict (tag : String) (scope : Scope) (headers : List Element) :
    ((∃ table, headerExpressions tag scope headers = .ok table) ↔
      ∀ header ∈ headers, HeaderAcceptable header) ∧
    (∀ table, headerExpressions tag scope headers = .ok table →
      table.keys = (headers.filterMap (·.textAttribute? "name")).eraseDups ∧ table.Distinct ∧
      ∀ name source, table.get? name = some source ↔
        ∃ before header after, headers = before ++ header :: after ∧
          header.textAttribute? "name" = some name ∧ HeaderSource header source ∧
          ∀ c ∈ after, c.textAttribute? "name" ≠ some name) ∧
    ∀ error, headerExpressions tag scope headers = .error error ↔
      ∃ before header after, headers = before ++ header :: after ∧
        (∀ c ∈ before, HeaderAcceptable c) ∧ HeaderFault tag scope header error := by
  have hmet : firstFailure (headers.flatMap (headerChecks tag scope)) = none ↔
      ∀ header ∈ headers, HeaderAcceptable header := by
    simp only [firstFailure_eq_none_iff, List.forall_mem_flatMap, headerChecks_met_iff]
  rw [headerExpressions_eq]
  refine ⟨?_, ?_, fun error => ?_⟩
  · rw [← hmet]
    constructor
    · rintro ⟨table, h⟩
      exact (checked_eq_ok_iff.mp h).1
    · intro h
      exact ⟨_, checked_eq_ok_iff.mpr ⟨h, rfl⟩⟩
  · intro table h
    obtain ⟨hnone, rfl⟩ := checked_eq_ok_iff.mp h
    have hall := hmet.mp hnone
    refine ⟨?_, ?_, fun name source => ?_⟩
    · rw [← Table.ofList_eq_lastWins, Table.keys_ofList, map_headerBinding_fst hall]
    · rw [← Table.ofList_eq_lastWins]
      exact Table.distinct_ofList _
    · rw [Table.get?_lastWins, lastValue?_headerBinding_iff hall]
  · rw [checked_eq_error_iff, firstFailure_flatMap_eq_some_iff]
    simp only [firstFailure_headerChecks_eq_none_iff, firstFailure_headerChecks_iff]

/-- A repeated name keeps its first place and takes its last source, but a bad header is not made
good by a later one of its name. -/
theorem headerExpressions_verdict_repeated :
    let header := fun name source =>
      (Element.named "header").withAttributes [("name", name), source]
    let headers := [header "b " ("value", " 1"), header "a" ("expression", "x"),
      header "b " ("expression", "y")]
    (∃ table, headerExpressions "header" .gateway headers = .ok table ∧
      table.keys = ["b ", "a"] ∧ table.get? "b " = some (.computed "y")) ∧
    headerExpressions "header" .gateway (header "a" ("value", " ") :: headers) =
      .error (.ambiguousHeaderSource "a" .gateway .neither) := by
  intro header headers
  obtain ⟨table, htable⟩ : ∃ table, headerExpressions "header" .gateway headers = .ok table :=
    ⟨_, rfl⟩
  obtain ⟨hkeys, -, hbound⟩ := (headerExpressions_verdict "header" .gateway headers).2.1 _ htable
  refine ⟨⟨table, htable, hkeys, ?_⟩, ?_⟩
  · exact (hbound _ _).mpr
      ⟨headers.take 2, header "b " ("expression", "y"), [], rfl, rfl, .computed rfl rfl, nofun⟩
  · exact ((headerExpressions_verdict "header" .gateway _).2.2 _).mpr
      ⟨[], header "a" ("value", " "), headers, rfl, nofun, .neither rfl rfl rfl⟩

end GatewayRecipes.Gateway
