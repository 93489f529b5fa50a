import GatewayRecipes.Settings.Reference
import Mathlib.Data.List.TakeWhile

/-! Two passes over a text against one: where the bare spelling reads at every dollar sign what it
read there before braced references were replaced, the result is that of replacing all references
at once. -/
namespace GatewayRecipes.Settings

def both : Spelling := fun rest => (braced rest).or (bare rest)

def simultaneous (env : Environment) (text : String) : String :=
  String.ofList (replace env both text.toList)

/-- The known variable whose bare reference begins with a dollar sign before a text. -/
def known? (env : Environment) (rest : List Char) : Option String :=
  (bare rest).bind fun (_, name) =>
    if (env.get? (String.ofList name)).isSome then some (String.ofList name) else none

namespace Piece

def isBare : Piece → Bool
  | plain _ => false
  | reference written name => written == '$' :: name.toList

/-- What the first pass makes of a piece. -/
def braceFilled (env : Environment) (p : Piece) : List Char :=
  if p.isBare then p.written else p.filled env

def bareName? (env : Environment) : Piece → Option String
  | plain _ => none
  | p@(reference _ name) => if p.isBare ∧ (env.get? name).isSome then some name else none

end Piece

/-- Whether each dollar sign of a part begins a reference to one variable, or to none. -/
def agreesWithin (env : Environment) (own : Option String) (after : List Char) :
    List Char → Bool
  | [] => true
  | c :: rest =>
    (c != '$' || known? env (rest ++ after) == own) && agreesWithin env own after rest

/-- Whether, after the first pass, each dollar sign of a bare reference still begins this
reference, and no other dollar sign begins one to a known variable. -/
def settled (env : Environment) : List Piece → Bool
  | [] => true
  | p :: rest =>
    agreesWithin env (p.bareName? env) (rest.flatMap (Piece.braceFilled env)) (p.braceFilled env) &&
      settled env rest

/-! Names that are read. -/

lemma eq_takeWhile_of_nameAt? {rest name : List Char} (h : nameAt? rest = some name) :
    name = rest.takeWhile inName := by
  unfold nameAt? at h
  split at h <;> cases h
  rfl

lemma take_of_nameAt? {rest name : List Char} (h : nameAt? rest = some name) :
    rest.take name.length = name := by
  obtain rfl := eq_takeWhile_of_nameAt? h
  exact (List.prefix_iff_eq_take.mp (List.takeWhile_prefix inName)).symm

lemma not_mem_name {rest name : List Char} (h : nameAt? rest = some name) {c : Char}
    (hc : inName c = false) : c ∉ name := by
  rw [eq_takeWhile_of_nameAt? h]
  intro hmem
  exact absurd (List.mem_takeWhile_imp hmem) (by simp [hc])

lemma of_bare {rest name : List Char} {n : Nat} (h : bare rest = some (n, name)) :
    rest.take n = name ∧ name.length = n ∧ '$' ∉ name := by
  unfold bare at h
  split at h
  · next hname =>
    split at h <;> cases h
    exact ⟨take_of_nameAt? hname, rfl, not_mem_name hname rfl⟩
  · cases h

lemma append_drop_of_bare {rest name : List Char} {n : Nat} (h : bare rest = some (n, name)) :
    name ++ rest.drop n = rest := by
  rw [← (of_bare h).1, List.take_append_drop]

lemma of_braced {rest name : List Char} {n : Nat} (h : braced rest = some (n, name)) :
    rest.take n = '\x7b' :: (name ++ ['\x7d']) ∧ '\x7b' ∉ name ∧ '$' ∉ name := by
  unfold braced at h
  split at h
  next more =>
    split at h
    · next hname =>
      split at h <;> cases h
      next hclose =>
      refine ⟨?_, not_mem_name hname rfl, not_mem_name hname rfl⟩
      rw [List.take_succ_cons, List.take_add_one, take_of_nameAt? hname, hclose,
        Option.toList_some]
    · cases h
  · cases h

/-! What one pass does at each character. -/

section
variable {env : Environment} {spelling : Spelling} {rest : List Char}

lemma replace_of_ne {c : Char} (h : c ≠ '$') :
    replace env spelling (c :: rest) = c :: replace env spelling rest := by
  rw [replace, pieces]
  simp [h, Piece.filled, replace]

lemma replace_of_none (h : spelling rest = none) :
    replace env spelling ('$' :: rest) = '$' :: replace env spelling rest := by
  rw [replace, pieces]
  simp [h, Piece.filled, replace]

lemma replace_of_some {n : Nat} {name : List Char} (h : spelling rest = some (n, name)) :
    replace env spelling ('$' :: rest) =
      (Piece.reference ('$' :: rest.take n) (String.ofList name)).filled env ++
        replace env spelling (rest.drop n) := by
  rw [replace, pieces]
  simp [h, replace]

lemma replace_append {a : List Char} (h : '$' ∉ a) :
    replace env spelling (a ++ rest) = a ++ replace env spelling rest := by
  induction a with
  | nil => rfl
  | cons c a ih =>
    obtain ⟨hc, ha⟩ := List.ne_and_not_mem_of_not_mem_cons h
    rw [List.cons_append, replace_of_ne (Ne.symm hc), ih ha, List.cons_append]

lemma replace_of_unknown (h : known? env rest = none) :
    replace env bare ('$' :: rest) = '$' :: replace env bare rest := by
  cases hb : bare rest with
  | none => exact replace_of_none hb
  | some read =>
    obtain ⟨n, name⟩ := read
    obtain ⟨htake, -, hname⟩ := of_bare hb
    have hunset : env.get? (String.ofList name) = none := by simpa [known?, hb] using h
    have hrest : replace env bare rest = name ++ replace env bare (rest.drop n) := by
      rw [← replace_append hname, append_drop_of_bare hb]
    rw [replace_of_some hb, hrest, Piece.filled, hunset, htake]
    rfl

lemma replace_of_known {name : String} (h : known? env rest = some name) :
    ∃ value, env.get? name = some value ∧
      replace env bare ('$' :: rest) =
        value.toList ++ replace env bare (rest.drop name.toList.length) := by
  cases hb : bare rest with
  | none => simp [known?, hb] at h
  | some read =>
    obtain ⟨n, written⟩ := read
    obtain ⟨-, hlength, -⟩ := of_bare hb
    simp only [known?, hb, Option.bind_some, Option.ite_none_right_eq_some, Option.some.injEq] at h
    obtain ⟨hset, rfl⟩ := h
    obtain ⟨value, hvalue⟩ := Option.isSome_iff_exists.mp hset
    refine ⟨value, hvalue, ?_⟩
    rw [replace_of_some hb, Piece.filled, hvalue, String.toList_ofList, hlength]

end

/-! The first pass. -/

lemma isBare_of_bare {rest name : List Char} {n : Nat} (h : bare rest = some (n, name)) :
    (Piece.reference ('$' :: rest.take n) (String.ofList name)).isBare = true := by
  simp [Piece.isBare, (of_bare h).1]

lemma bareName?_of_bare {env : Environment} {rest name : List Char} {n : Nat}
    (h : bare rest = some (n, name)) :
    (Piece.reference ('$' :: rest.take n) (String.ofList name)).bareName? env =
      known? env rest := by
  simp [Piece.bareName?, isBare_of_bare h, known?, h]

lemma isBare_of_braced {rest name : List Char} {n : Nat} (h : braced rest = some (n, name)) :
    (Piece.reference ('$' :: rest.take n) (String.ofList name)).isBare = false := by
  obtain ⟨htake, hname, -⟩ := of_braced h
  rw [Piece.isBare, String.toList_ofList, beq_eq_false_iff_ne, htake]
  intro he
  rw [← (List.cons.inj he).2] at hname
  exact hname (List.mem_cons_self ..)

/-- The first pass fills the braced references and leaves the rest as it is. -/
theorem replace_braced (env : Environment) (text : List Char) :
    replace env braced text = (pieces both text).flatMap (Piece.braceFilled env) := by
  fun_induction pieces both text with
  | case1 =>
    rw [replace, pieces]
    rfl
  | case2 c rest n name h ih =>
    obtain ⟨rfl, hboth⟩ : c = '$' ∧ both rest = some (n, name) := by simpa using h
    rw [List.flatMap_cons, ← ih]
    cases hb : braced rest with
    | some read =>
      obtain rfl : read = (n, name) := by simpa [both, hb] using hboth
      rw [replace_of_some hb, Piece.braceFilled, if_neg (by simp [isBare_of_braced hb])]
    | none =>
      have hbare : bare rest = some (n, name) := by simpa [both, hb] using hboth
      obtain ⟨htake, -, hname⟩ := of_bare hbare
      rw [replace_of_none hb, Piece.braceFilled, if_pos (isBare_of_bare hbare), Piece.written,
        htake, List.cons_append, ← replace_append hname, append_drop_of_bare hbare]
  | case3 c rest h ih =>
    rw [List.flatMap_cons, ← ih]
    by_cases hc : c = '$'
    · subst hc
      have hboth : both rest = none := by simpa using h
      exact replace_of_none (Option.or_eq_none_iff.mp hboth).1
    · exact replace_of_ne hc

/-! The second pass. -/

lemma braceFilled_eq_filled {env : Environment} {p : Piece} (h : p.bareName? env = none) :
    p.braceFilled env = p.filled env := by
  cases p with
  | plain c => rfl
  | reference written name =>
    by_cases hb : (Piece.reference written name).isBare = true
    · have hunset : env.get? name = none := by simpa [Piece.bareName?, hb] using h
      rw [Piece.braceFilled, if_pos hb, Piece.filled, hunset, Piece.written]
    · rw [Piece.braceFilled, if_neg hb]

lemma of_bareName? {env : Environment} {p : Piece} {name : String}
    (h : p.bareName? env = some name) :
    p = .reference ('$' :: name.toList) name ∧ p.braceFilled env = '$' :: name.toList := by
  cases p with
  | plain c => cases h
  | reference written name' =>
    simp only [Piece.bareName?, Option.ite_none_right_eq_some, Option.some.injEq] at h
    obtain ⟨⟨hb, -⟩, rfl⟩ := h
    obtain rfl : written = '$' :: name'.toList := eq_of_beq hb
    exact ⟨rfl, if_pos hb⟩

lemma replace_bare_append {env : Environment} {after cs : List Char}
    (h : agreesWithin env none after cs = true) :
    replace env bare (cs ++ after) = cs ++ replace env bare after := by
  induction cs with
  | nil => rfl
  | cons c cs ih =>
    obtain ⟨hc, hcs⟩ := Bool.and_eq_true_iff.mp h
    rw [List.cons_append, List.cons_append, ← ih hcs]
    by_cases hd : c = '$'
    · subst hd
      exact replace_of_unknown (by simpa using hc)
    · exact replace_of_ne hd

/-- Where a text is settled, the second pass fills its bare references and leaves the rest. -/
theorem replace_bare {env : Environment} {ps : List Piece} (h : settled env ps = true) :
    replace env bare (ps.flatMap (Piece.braceFilled env)) = ps.flatMap (Piece.filled env) := by
  induction ps with
  | nil =>
    rw [List.flatMap_nil, List.flatMap_nil, replace, pieces, List.flatMap_nil]
  | cons p rest ih =>
    obtain ⟨hp, hrest⟩ := Bool.and_eq_true_iff.mp h
    rw [List.flatMap_cons, List.flatMap_cons, ← ih hrest]
    cases hv : p.bareName? env with
    | none =>
      rw [hv] at hp
      rw [replace_bare_append hp, braceFilled_eq_filled hv]
    | some name =>
      obtain ⟨rfl, hfill⟩ := of_bareName? hv
      rw [hv, hfill] at hp
      have hknown :
          known? env (name.toList ++ rest.flatMap (Piece.braceFilled env)) = some name := by
        simpa using (Bool.and_eq_true_iff.mp hp).1
      obtain ⟨value, hvalue, hreplace⟩ := replace_of_known hknown
      rw [hfill, List.cons_append, hreplace, List.drop_left, Piece.filled, hvalue]

end GatewayRecipes.Settings
