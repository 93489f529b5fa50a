import GatewayRecipes.Proofs.Settings.Substitution

/-! Texts without braced references to known variables. Their bare references to known variables are
replaced, each by the value as it is, and every other character stays where it is. -/
namespace GatewayRecipes.Settings

/-- The name of a variable: a letter or an underscore, and then letters, digits and underscores. -/
structure VariableName (name : List Char) : Prop where
  first : name.head?.any startsName = true
  chars : ∀ c ∈ name, inName c = true

/-- A bare reference behind its dollar sign, and the text after it: the name of a variable that ends
at the end of a word. -/
structure BareAt (name rest : List Char) : Prop extends VariableName name where
  boundary : ∀ c ∈ rest.head?, Text.isWord c = false

/-- What comes of a text, from left to right, when bare references to known variables are replaced.
A value is not read again, and a character that begins no such reference stays. -/
inductive BareFilled (env : Environment) : List Char → List Char → Prop
  | done : BareFilled env [] []
  | filled {name rest out : List Char} {value : String} (reference : BareAt name rest)
      (known : env.get? (String.ofList name) = some value) (tail : BareFilled env rest out) :
      BareFilled env ('$' :: (name ++ rest)) (value.toList ++ out)
  | kept {c : Char} {rest out : List Char}
      (other : c = '$' → ∀ name more, rest = name ++ more → BareAt name more →
        env.get? (String.ofList name) = none)
      (tail : BareFilled env rest out) : BareFilled env (c :: rest) (c :: out)

/-! References as they are written. -/

/-- What names are made of belongs to words. -/
lemma isWord_of_inName {c : Char} (h : inName c = true) : Text.isWord c = true := by
  have hascii : c.toNat < 128 := by
    have hcode : c.val.toNat = c.toNat := rfl
    simp only [inName, Char.isAlphanum, Char.isAlpha, Char.isUpper, Char.isLower, Char.isDigit,
      Bool.or_eq_true, Bool.and_eq_true, decide_eq_true_eq, beq_iff_eq,
      UInt32.le_iff_toNat_le] at h
    rcases h with h | rfl
    · simp [hcode] at h
      omega
    · decide
  have hall : ∀ n < 128, inName (Char.ofNat n) = true → Text.isWord (Char.ofNat n) = true := by
    decide +kernel
  rw [← Char.ofNat_toNat c] at h ⊢
  exact hall c.toNat hascii h

namespace VariableName
variable {name : List Char}

lemma dollar_not_mem (h : VariableName name) : '$' ∉ name := fun hmem =>
  absurd (h.chars '$' hmem) (by decide)

lemma of_nameAt? {rest : List Char} (h : nameAt? rest = some name) : VariableName name := by
  obtain rfl := eq_takeWhile_of_nameAt? h
  refine ⟨?_, fun c hc => List.mem_takeWhile_imp hc⟩
  rw [nameAt?] at h
  split at h
  · next hfirst =>
    cases rest with
    | nil => simp at hfirst
    | cons c more =>
      have hc : startsName c = true := by simpa using hfirst
      simp [List.takeWhile_cons_of_pos (inName_of_startsName hc), hc]
  · cases h

lemma nameAt?_append (h : VariableName name) {more : List Char}
    (hmore : ∀ c ∈ more.head?, inName c = false) : nameAt? (name ++ more) = some name := by
  have hfirst : (name ++ more).head?.any startsName = true := by
    cases name with
    | nil => cases h.first
    | cons c rest => exact h.first
  rw [nameAt?, if_pos hfirst, Markup.takeWhile_up_to h.chars hmore]

end VariableName

/-- A bare reference has the longest name that can be read: one that is cut short would not end at
the end of a word. -/
lemma BareAt.longest {name more : List Char} (h : BareAt name more) :
    ∀ c ∈ more.head?, inName c = false := by
  intro c hc
  cases hin : inName c with
  | false => rfl
  | true => cases (isWord_of_inName hin).symm.trans (h.boundary c hc)

lemma bare_eq_some_iff {rest name : List Char} {n : Nat} :
    bare rest = some (n, name) ↔
      n = name.length ∧ ∃ more, rest = name ++ more ∧ BareAt name more := by
  constructor
  · intro h
    cases hstart : rest.head?.any startsName with
    | false => rw [bare_of_head hstart] at h; cases h
    | true =>
      obtain ⟨found, more, rfl, hfound, hmore, hfirst⟩ := exists_name hstart
      rw [bare_append hfirst hfound hmore] at h
      split at h <;> cases h
      next hword =>
      refine ⟨rfl, more, rfl, ⟨hfirst, hfound⟩, fun c hc => ?_⟩
      rw [Option.mem_def.mp hc] at hword
      simpa using hword
  · rintro ⟨rfl, more, rfl, href⟩
    rw [bare_append href.first href.chars href.longest, if_neg]
    cases more with
    | nil => simp
    | cons c tail => simpa using href.boundary c rfl

lemma braced_eq_some_iff {rest name : List Char} {n : Nat} :
    braced rest = some (n, name) ↔
      n = name.length + 2 ∧ VariableName name ∧
        ∃ more, rest = '\x7b' :: (name ++ '\x7d' :: more) := by
  constructor
  · intro h
    have hrest : '\x7b' :: (name ++ '\x7d' :: rest.drop n) = rest := by
      have hsplit := List.take_append_drop n rest
      rw [(of_braced h).1] at hsplit
      simpa using hsplit
    unfold braced at h
    split at h
    · split at h
      · next hname =>
        split at h <;> cases h
        exact ⟨rfl, .of_nameAt? hname, _, hrest.symm⟩
      · cases h
    · cases h
  · rintro ⟨rfl, hname, more, rfl⟩
    have hclose : ∀ c ∈ ('\x7d' :: more).head?, inName c = false := by
      intro c hc
      cases hc
      decide
    simp [braced, hname.nameAt?_append hclose]

/-! Passes. -/

/-- A pass that meets no reference to a known variable leaves a text alone. -/
lemma replace_of_unset {env : Environment} {spelling : Spelling} {text : List Char}
    (h : ∀ before rest n name, text = before ++ '$' :: rest → spelling rest = some (n, name) →
      env.get? (String.ofList name) = none) : replace env spelling text = text := by
  fun_induction pieces spelling text with
  | case1 => rw [replace, pieces, List.flatMap_nil]
  | case2 c rest n name hread ih =>
    obtain ⟨rfl, hspelling⟩ : c = '$' ∧ spelling rest = some (n, name) := by simpa using hread
    have hdrop : replace env spelling (rest.drop n) = rest.drop n := by
      refine ih fun before tail m ref hsplit => h ('$' :: (rest.take n ++ before)) tail m ref ?_
      rw [List.cons_append, List.append_assoc, ← hsplit, List.take_append_drop]
    rw [replace_of_some hspelling, hdrop, Piece.filled, h [] rest n name rfl hspelling,
      List.cons_append, List.take_append_drop]
  | case3 c rest hread ih =>
    have hrest : replace env spelling rest = rest :=
      ih fun before tail n name hsplit => h (c :: before) tail n name (by rw [hsplit]; rfl)
    by_cases hc : c = '$'
    · subst hc
      rw [replace_of_none (by simpa using hread), hrest]
    · rw [replace_of_ne hc, hrest]

section
variable {env : Environment}

lemma known?_eq_none_iff {rest : List Char} :
    known? env rest = none ↔ ∀ name more, rest = name ++ more → BareAt name more →
      env.get? (String.ofList name) = none := by
  cases hb : bare rest with
  | none =>
    refine iff_of_true (by rw [known?, hb]; rfl) fun name more hsplit href => ?_
    cases hb.symm.trans (bare_eq_some_iff.mpr ⟨rfl, more, hsplit, href⟩)
  | some read =>
    obtain ⟨n, found⟩ := read
    obtain ⟨-, more, hsplit, href⟩ := bare_eq_some_iff.mp hb
    have hknown : known? env rest = none ↔ env.get? (String.ofList found) = none := by
      simp [known?, hb]
    rw [hknown]
    refine ⟨fun hunset name tail hname href' => ?_, fun h => h found more hsplit href⟩
    obtain ⟨-, rfl⟩ : n = name.length ∧ found = name := by
      simpa using hb.symm.trans (bare_eq_some_iff.mpr ⟨rfl, tail, hname, href'⟩)
    exact hunset

lemma BareFilled.append {a rest out : List Char} (ha : '$' ∉ a) (h : BareFilled env rest out) :
    BareFilled env (a ++ rest) (a ++ out) := by
  induction a with
  | nil => exact h
  | cons c a ih =>
    obtain ⟨hc, ha⟩ := List.ne_and_not_mem_of_not_mem_cons ha
    exact .kept (fun hdollar => absurd hdollar.symm hc) (ih ha)

theorem bareFilled_replace (text : List Char) : BareFilled env text (replace env bare text) := by
  fun_induction pieces bare text with
  | case1 =>
    rw [replace, pieces, List.flatMap_nil]
    exact .done
  | case2 c rest n name hread ih =>
    obtain ⟨rfl, hb⟩ : c = '$' ∧ bare rest = some (n, name) := by simpa using hread
    obtain ⟨rfl, more, rfl, href⟩ := bare_eq_some_iff.mp hb
    rw [List.drop_left] at ih
    rw [replace_of_some hb, List.take_left, List.drop_left, Piece.filled]
    cases hset : env.get? (String.ofList name) with
    | some value => exact .filled href hset ih
    | none =>
      refine .kept (fun _ => known?_eq_none_iff.mp ?_) (ih.append href.dollar_not_mem)
      rw [known?, hb]
      simp [hset]
  | case3 c rest hread ih =>
    by_cases hc : c = '$'
    · subst hc
      have hb : bare rest = none := by simpa using hread
      rw [replace_of_none hb]
      exact .kept (fun _ => known?_eq_none_iff.mp (by rw [known?, hb]; rfl)) ih
    · rw [replace_of_ne hc]
      exact .kept (fun hdollar => absurd hdollar hc) ih

lemma BareFilled.eq_replace {text out : List Char} (h : BareFilled env text out) :
    out = replace env bare text := by
  induction h with
  | done => rw [replace, pieces, List.flatMap_nil]
  | @filled name rest out value href hset _ ih =>
    have hb := bare_eq_some_iff.mpr ⟨rfl, rest, rfl, href⟩
    rw [replace_of_some hb, List.drop_left, Piece.filled, hset, ih]
  | @kept c rest out hother _ ih =>
    by_cases hc : c = '$'
    · subst hc
      rw [replace_of_unknown (known?_eq_none_iff.mpr (hother rfl)), ih]
    · rw [replace_of_ne hc, ih]

end

/-- In a text without braced references to known variables, exactly the bare references to known
variables are replaced, once and for all. Where these are missing too, the text stays as it is. -/
theorem substitute_unbraced {env : Environment} {text : String}
    (unset : ∀ before name after,
      text.toList = before ++ '$' :: '\x7b' :: (name ++ '\x7d' :: after) → VariableName name →
      env.get? (String.ofList name) = none) :
    (∀ out, substitute env text = out ↔ BareFilled env text.toList out.toList) ∧
    ((∀ before name after, text.toList = before ++ '$' :: (name ++ after) → BareAt name after →
      env.get? (String.ofList name) = none) → substitute env text = text) := by
  have hbraced : replace env braced text.toList = text.toList := by
    refine replace_of_unset fun before rest n name hsplit hread => ?_
    obtain ⟨-, hname, after, rfl⟩ := braced_eq_some_iff.mp hread
    exact unset before name after hsplit hname
  refine ⟨fun out => ?_, fun hbare => ?_⟩
  · rw [substitute, hbraced, ← String.toList_inj, String.toList_ofList]
    exact ⟨fun h => h ▸ bareFilled_replace _, fun h => h.eq_replace.symm⟩
  · have hsame : replace env bare text.toList = text.toList := by
      refine replace_of_unset fun before rest n name hsplit hread => ?_
      obtain ⟨-, after, rfl, href⟩ := bare_eq_some_iff.mp hread
      exact hbare before name after hsplit href
    rw [substitute, hbraced, hsame, String.ofList_toList]

/-- A value with references of its own, dollar signs side by side, and references that run into
other words, are not set, or are not closed. -/
theorem substitute_unbraced_adjacent :
    let env : Environment := [("A", "$B$\x7bB\x7d"), ("B", "x")]
    let text := "$\x7bU\x7d$A$$B-$Aé$B_$\x7b$U$\x7bA"
    let filled := "$\x7bU\x7d$B$\x7bB\x7d$x-$Aé$B_$\x7b$U$\x7bA"
    (∀ before name after,
      text.toList = before ++ '$' :: '\x7b' :: (name ++ '\x7d' :: after) → VariableName name →
      env.get? (String.ofList name) = none) ∧
      substitute env text = filled ∧ BareFilled env text.toList filled.toList := by
  intro env text filled
  have hbraced : text.toList.tails.all (fun rest => (braced rest.tail).all fun read =>
      (env.get? (String.ofList read.2)).isNone) = true := by cbv
  have hunset : ∀ before name after,
      text.toList = before ++ '$' :: '\x7b' :: (name ++ '\x7d' :: after) → VariableName name →
      env.get? (String.ofList name) = none := by
    intro before name after hsplit hname
    have hmem : '$' :: '\x7b' :: (name ++ '\x7d' :: after) ∈ text.toList.tails :=
      (List.mem_tails _ _).mpr ⟨before, hsplit.symm⟩
    have hread : braced ('\x7b' :: (name ++ '\x7d' :: after)) = some (name.length + 2, name) :=
      braced_eq_some_iff.mpr ⟨rfl, hname, after, rfl⟩
    have hnone := List.all_eq_true.mp hbraced _ hmem
    rw [List.tail_cons, hread] at hnone
    exact Option.isNone_iff_eq_none.mp hnone
  have hfilled : substitute env text = filled := by cbv
  exact ⟨hunset, hfilled, ((substitute_unbraced hunset).1 filled).mp hfilled⟩

end GatewayRecipes.Settings
