import GatewayRecipes.Proofs.Table
import GatewayRecipes.Proofs.Text.Casing
import GatewayRecipes.Settings.Key

/-! What is bound under keys of settings. Whatever path a key is, it changes one entry of a table, the
one that the path begins with. -/
namespace GatewayRecipes.Settings
open Text (lower Lowered)

/-- The name that a path begins with, if it does begin with one. -/
def pathRoot : List Step → String
  | .name name :: _ => name
  | _ => ""

/-- The name that a key is, or begins with. -/
def keyRoot (key : String) : String := pathRoot (keyPath key)

lemma mem_of_readPathName? {text rest : List Char} {name : String}
    (h : readPathName? text = some (name, rest)) : ∀ c ∈ name.toList, c ∈ text := by
  rw [readPathName?] at h
  split at h
  · cases h
  · cases h
    rw [String.toList_ofList]
    exact fun c hc => (List.takeWhile_sublist _).subset hc

lemma keyPath_eq_cons (key : String) :
    ∃ name steps, keyPath key = .name name :: steps ∧ ∀ c ∈ name.toList, Lowered c := by
  have hlowered : ∀ c ∈ (lower key).toList, Lowered c := fun _ => Text.lowered_of_mem_lower
  rw [keyPath]
  cases hname : readPathName? (lower key).toList with
  | none => exact ⟨lower key, [], rfl, hlowered⟩
  | some split =>
    obtain ⟨name, rest⟩ := split
    cases hsteps : readSteps? rest.length rest with
    | none => exact ⟨lower key, [], by simp [hsteps], hlowered⟩
    | some steps =>
      refine ⟨name, steps, by simp [hsteps], fun c hc => ?_⟩
      exact hlowered c (mem_of_readPathName? hname c hc)

lemma exists_keyPath (key : String) : ∃ steps, keyPath key = .name (keyRoot key) :: steps := by
  obtain ⟨name, steps, hpath, -⟩ := keyPath_eq_cons key
  exact ⟨steps, by rw [keyRoot, hpath, pathRoot]⟩

lemma lower_keyRoot (key : String) : lower (keyRoot key) = keyRoot key := by
  obtain ⟨name, steps, hpath, hlowered⟩ := keyPath_eq_cons key
  rw [keyRoot, hpath, pathRoot]
  exact Text.lower_of_lowered hlowered

/-- A value that is no table replaces what stands under a name. -/
lemma assign_of_no_table {v : Value} (h : ∀ entries, v ≠ .table entries) (t : Table Value)
    (name : String) : assign t name v = t.put (lower name) v := by
  cases v with
  | table entries => exact absurd rfl (h entries)
  | _ => simp [assign]

lemma assignKey_of_name {key name : String} (hpath : keyPath key = [.name name]) (t : Table Value)
    (v : Value) : assignKey t key v = assign t name v := by
  rw [assignKey, hpath, assignBelow, Value.entries, Value.entries]

/-- A binding puts a value in one place, and of the table it depends on what stands there alone. -/
theorem assignKey_eq_put (key : String) (v : Value) :
    ∃ change : Option Value → Value, ∀ t,
      assignKey t key v = t.put (keyRoot key) (change (t.get? (keyRoot key))) := by
  obtain ⟨steps, hpath⟩ := exists_keyPath key
  cases steps with
  | nil =>
    by_cases hv : ∃ incoming, v = .table incoming
    · obtain ⟨incoming, rfl⟩ := hv
      refine ⟨fun old => mergeInto (old.getD (.table [])) incoming, fun t => ?_⟩
      rw [assignKey_of_name hpath, assign, lower_keyRoot]
    · refine ⟨fun _ => v, fun t => ?_⟩
      rw [assignKey_of_name hpath, assign_of_no_table (not_exists.mp hv), lower_keyRoot]
  | cons step rest =>
    refine ⟨fun old => assignBelow v (step :: rest) (old.getD .null), fun t => ?_⟩
    rw [assignKey, hpath, assignBelow]
    · rfl
    · exact nofun

lemma overlay_nil (t : Table Value) : overlay t [] = t := rfl

lemma overlay_cons (t : Table Value) (e : String × Value) (rest : List (String × Value)) :
    overlay t (e :: rest) = overlay (assignKey t e.1 e.2) rest := by
  rw [overlay, List.foldl_cons, overlay]

/-- Entries that begin with another name do not count for what stands under a name. -/
lemma get?_overlay_filter {t u : Table Value} {name : String} (h : t.get? name = u.get? name)
    (entries : List (String × Value)) :
    (overlay t entries).get? name =
      (overlay u (entries.filter fun e => keyRoot e.1 == name)).get? name := by
  induction entries generalizing t u with
  | nil => rwa [overlay_nil, List.filter_nil, overlay_nil]
  | cons e rest ih =>
    obtain ⟨key, v⟩ := e
    obtain ⟨change, hchange⟩ := assignKey_eq_put key v
    rw [overlay_cons]
    by_cases hroot : keyRoot key = name
    · rw [List.filter_cons_of_pos (by simpa using hroot), overlay_cons]
      apply ih
      rw [hchange, hchange, Table.get?_put, Table.get?_put, hroot, h]
    · rw [List.filter_cons_of_neg (by simpa using hroot)]
      apply ih
      rw [hchange, Table.get?_put, if_neg hroot, h]

/-- Layers with the same entries that begin with a name give it the same value. -/
theorem get?_overlay_congr {t : Table Value} {a b : List (String × Value)} {name : String}
    (h : (a.filter fun e => keyRoot e.1 == name) = b.filter fun e => keyRoot e.1 == name) :
    (overlay t a).get? name = (overlay t b).get? name := by
  rw [get?_overlay_filter rfl a, h, ← get?_overlay_filter rfl b]

/-! Keys that are names. -/

/-- Whether a text has none of the characters that separate the steps of a path, as one of letters,
digits and underscores has none. -/
def IsName (text : String) : Prop := '.' ∉ text.toList ∧ '[' ∉ text.toList

instance (text : String) : Decidable (IsName text) := inferInstanceAs (Decidable (_ ∧ _))

lemma IsName.of_lower {name text : String} (h : IsName name)
    (hsub : ∀ c ∈ text.toList, c ∈ (lower name).toList) : IsName text :=
  ⟨fun hc => h.1 (Text.mem_of_mem_lower (by decide) (by decide) (hsub _ hc)),
    fun hc => h.2 (Text.mem_of_mem_lower (by decide) (by decide) (hsub _ hc))⟩

lemma readSteps?_eq_none {fuel : Nat} {c : Char} {rest : List Char} (hpoint : c ≠ '.')
    (hbracket : c ≠ '[') : readSteps? fuel (c :: rest) = none := by
  cases fuel with
  | zero => rfl
  | succ fuel => simp [readSteps?, hpoint, hbracket]

/-- A key that is a name has no further steps. -/
theorem keyPath_of_isName {key : String} (h : IsName key) : keyPath key = [.name (lower key)] := by
  obtain ⟨hpoint, hbracket⟩ := h.of_lower fun c hc => hc
  rw [keyPath, readPathName?]
  split
  · rfl
  · cases hrest : (lower key).toList.dropWhile inPathName with
    | nil =>
      have hall : (lower key).toList.takeWhile inPathName = (lower key).toList := by
        have happend := List.takeWhile_append_dropWhile (p := inPathName) (l := (lower key).toList)
        rwa [hrest, List.append_nil] at happend
      simp [readSteps?, hall]
    | cons c rest =>
      have hc : c ∈ (lower key).toList :=
        (List.dropWhile_sublist inPathName).subset (hrest ▸ List.mem_cons_self ..)
      have hnone : readSteps? (rest.length + 1) (c :: rest) = none :=
        readSteps?_eq_none (fun h => hpoint (h ▸ hc)) fun h => hbracket (h ▸ hc)
      simp [hnone]

end GatewayRecipes.Settings
