import GatewayRecipes.Gateway.Grammar
import GatewayRecipes.Proofs.Text.Capital

/-! Property names. An attribute name is cut at its hyphens, and each part but the first gets its
first character in upper case. -/
namespace GatewayRecipes.Gateway
open Text (raised)

/-- The parts of a name between its hyphens, put together with all but the first of them raised. -/
def joinSegments (name : List Char) : List Char :=
  match name.splitOn '-' with
  | [] => []
  | first :: later => first ++ later.flatMap raised

lemma exists_cons_splitOn (name : List Char) :
    ∃ first later, name.splitOn '-' = first :: later :=
  List.exists_cons_of_ne_nil (List.splitOn_ne_nil '-' name)

lemma splitOn_hyphen (name : List Char) : ('-' :: name).splitOn '-' = [] :: name.splitOn '-' := by
  rw [List.splitOn_cons_eq_if_modifyHead, if_pos (beq_self_eq_true '-')]

lemma splitOn_cons_of_ne {c : Char} (hc : c ≠ '-') {name first : List Char}
    {later : List (List Char)} (h : name.splitOn '-' = first :: later) :
    (c :: name).splitOn '-' = (c :: first) :: later := by
  rw [List.splitOn_cons_eq_if_modifyHead, if_neg (by simpa using hc), h, List.modifyHead_cons]

/-- Behind a hyphen the first part is raised too. The two sorts of beginning are proved together,
as each leads to the other. -/
lemma camelCase_splitOn (name : List Char) :
    camelCase false name = joinSegments name ∧
      camelCase true name = (name.splitOn '-').flatMap raised := by
  induction name with
  | nil => exact ⟨rfl, rfl⟩
  | cons c rest ih =>
    obtain ⟨hplain, hraised⟩ := ih
    obtain ⟨first, later, hsplit⟩ := exists_cons_splitOn rest
    by_cases hc : c = '-'
    · subst hc
      rw [joinSegments, splitOn_hyphen, camelCase_hyphen, camelCase_hyphen, hraised]
      exact ⟨rfl, rfl⟩
    · rw [joinSegments, hsplit] at hplain
      rw [joinSegments, splitOn_cons_of_ne hc hsplit, camelCase_cons hc, camelCase_cons hc, hplain]
      simp

lemma toList_propertyName_eq (key : String) :
    (propertyName key).toList = joinSegments key.toList := by
  rw [toList_propertyName, (camelCase_splitOn key.toList).1]

lemma hyphen_not_mem_camelCase (raise : Bool) (name : List Char) : '-' ∉ camelCase raise name := by
  induction name generalizing raise with
  | nil => exact List.not_mem_nil
  | cons c rest ih =>
    by_cases hc : c = '-'
    · subst hc
      rw [camelCase_hyphen]
      exact ih true
    · rw [camelCase_cons hc, List.mem_append, not_or]
      refine ⟨?_, ih false⟩
      cases raise with
      | false => simpa using Ne.symm hc
      | true => exact Text.hyphen_not_mem_upper hc

lemma camelCase_of_not_mem {name : List Char} (h : '-' ∉ name) : camelCase false name = name := by
  induction name with
  | nil => rfl
  | cons c rest ih =>
    rw [List.mem_cons, not_or] at h
    rw [camelCase_cons (Ne.symm h.1), ih h.2]
    rfl

/-- Behind a hyphen a name is put together as elsewhere and then raised. -/
lemma camelCase_true (name : List Char) : camelCase true name = raised (camelCase false name) := by
  induction name with
  | nil => rfl
  | cons c rest ih =>
    by_cases hc : c = '-'
    · -- of hyphens in a row the last one counts, and raising twice is raising once
      subst hc
      rw [camelCase_hyphen, camelCase_hyphen, ih, Text.raised_raised]
    · rw [camelCase_cons hc, camelCase_cons hc]
      rfl

lemma camelCase_append_hyphen (raise : Bool) (a b : List Char) :
    camelCase raise (a ++ '-' :: b) = camelCase raise a ++ camelCase true b := by
  induction a generalizing raise with
  | nil => exact camelCase_hyphen raise b
  | cons c rest ih =>
    rw [List.cons_append]
    by_cases hc : c = '-'
    · subst hc
      rw [camelCase_hyphen, camelCase_hyphen, ih]
    · rw [camelCase_cons hc, camelCase_cons hc, ih, List.append_assoc]

lemma hyphen_not_mem_propertyName (key : String) : '-' ∉ (propertyName key).toList := by
  rw [toList_propertyName]
  exact hyphen_not_mem_camelCase false key.toList

lemma propertyName_eq_self_iff (key : String) : propertyName key = key ↔ '-' ∉ key.toList := by
  constructor
  · intro h
    rw [← h]
    exact hyphen_not_mem_propertyName key
  · intro h
    rw [propertyName, camelCase_of_not_mem h, String.ofList_toList]

/-- A property name is made of the parts of an attribute name. Hence it has no hyphen, is the
attribute name exactly where that has none, and stays as it is. Behind a further hyphen comes the
property name of what follows, with its first character raised. -/
theorem propertyName_segments (key : String) :
    (propertyName key).toList = joinSegments key.toList ∧
      '-' ∉ (propertyName key).toList ∧
      (propertyName key = key ↔ '-' ∉ key.toList) ∧
      propertyName (propertyName key) = propertyName key ∧
      ∀ more, propertyName (key ++ "-" ++ more) =
        propertyName key ++ String.ofList (raised (propertyName more).toList) := by
  refine ⟨toList_propertyName_eq key, hyphen_not_mem_propertyName key,
    propertyName_eq_self_iff key, ?_, fun more => ?_⟩
  · exact (propertyName_eq_self_iff _).mpr (hyphen_not_mem_propertyName key)
  · have hcut : (key ++ "-" ++ more).toList = key.toList ++ '-' :: more.toList := by simp
    apply String.toList_injective
    rw [String.toList_append, String.toList_ofList, toList_propertyName, toList_propertyName,
      toList_propertyName, hcut, camelCase_append_hyphen, camelCase_true]

example : propertyName "-a--ßb-" = "ASSb" := by decide

end GatewayRecipes.Gateway
