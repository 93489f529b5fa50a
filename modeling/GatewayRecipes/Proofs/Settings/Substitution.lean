import GatewayRecipes.Proofs.Markup.Escape
import GatewayRecipes.Proofs.Settings.Passes
import Mathlib

/-! When two passes over a text give what one would: in terms of the text as it is written and of
the values that are known. -/
namespace GatewayRecipes.Settings

namespace Piece

def isInserted (env : Environment) : Piece → Bool
  | plain _ => false
  | p@(reference _ name) => !p.isBare && (env.get? name).isSome

/-- Whether a piece leaves what follows it out of any reference. -/
def isClosed : Piece → Bool
  | plain c => c != '$'
  | p => !p.isBare

end Piece

/-- No dollar sign is inserted for a braced reference, and none of these stands right behind a
dollar sign or a bare reference. -/
structure Apart (env : Environment) (ps : List Piece) : Prop where
  values : ∀ p ∈ ps, p.isInserted env = true → '$' ∉ p.filled env
  neighbours : ps.IsChain fun p q => q.isInserted env = true → p.isClosed = true

lemma Apart.tail {env : Environment} {p : Piece} {ps : List Piece} (h : Apart env (p :: ps)) :
    Apart env ps :=
  ⟨fun q hq => h.values q (List.mem_cons_of_mem _ hq), h.neighbours.tail⟩

lemma Apart.head_open {env : Environment} {p : Piece} {ps : List Piece}
    (h : Apart env (p :: ps)) (hp : p.isClosed = false) :
    ∀ q ∈ ps.head?, q.isInserted env = false := by
  intro q hq
  have hclosed := (List.isChain_cons.mp h.neighbours).1 q hq
  simpa [hp] using hclosed

lemma inName_of_startsName {c : Char} (h : startsName c = true) : inName c = true := by
  simp only [startsName, Bool.or_eq_true] at h
  rcases h with h | h <;> simp [inName, Char.isAlphanum, h]

/-- What is read behind a dollar sign is settled by the name there and the character behind it. -/
lemma bare_append {name tail : List Char} (hstart : name.head?.any startsName = true)
    (hname : ∀ c ∈ name, inName c = true) (htail : ∀ c ∈ tail.head?, inName c = false) :
    bare (name ++ tail) =
      if tail.head?.any Text.isWord then none else some (name.length, name) := by
  have hnameAt : nameAt? (name ++ tail) = some name := by
    have hhead : (name ++ tail).head?.any startsName = true := by
      cases name with
      | nil => simp at hstart
      | cons c more => exact hstart
    rw [nameAt?, if_pos hhead, Markup.takeWhile_up_to hname htail]
  have hnext : (name ++ tail)[name.length]? = tail.head? := by
    rw [List.getElem?_append_right (Nat.le_refl _), Nat.sub_self, List.head?_eq_getElem?]
  simp only [bare, hnameAt, hnext]

lemma exists_name {text : List Char} (h : text.head?.any startsName = true) :
    ∃ name tail, text = name ++ tail ∧ (∀ c ∈ name, inName c = true) ∧
      (∀ c ∈ tail.head?, inName c = false) ∧ name.head?.any startsName = true := by
  refine ⟨text.takeWhile inName, text.dropWhile inName, List.takeWhile_append_dropWhile.symm,
    fun c hc => List.mem_takeWhile_imp hc, ?_, ?_⟩
  · intro c hc
    have hnot := List.head?_dropWhile_not inName text
    rwa [hc] at hnot
  · cases text with
    | nil => simp at h
    | cons c more =>
      have hc : startsName c = true := by simpa using h
      simp [List.takeWhile_cons_of_pos (inName_of_startsName hc), hc]

lemma bare_of_head {rest : List Char} (h : rest.head?.any startsName = false) :
    bare rest = none := by
  simp [bare, nameAt?, h]

lemma head?_replace_braced {env : Environment} {text : List Char}
    (h : ∀ p ∈ (pieces both text).head?, p.isInserted env = false) :
    (replace env braced text).head? = text.head? := by
  cases text with
  | nil => rw [replace, pieces, List.flatMap_nil]
  | cons c rest =>
    by_cases hc : c = '$'
    · subst hc
      cases hb : braced rest with
      | none => rw [replace_of_none hb, List.head?_cons, List.head?_cons]
      | some read =>
        obtain ⟨n, name⟩ := read
        have hunset : env.get? (String.ofList name) = none := by
          rw [pieces] at h
          simpa [both, hb, Piece.isInserted, isBare_of_braced hb] using h
        rw [replace_of_some hb, Piece.filled, hunset]
        rfl
    · rw [replace_of_ne hc, List.head?_cons, List.head?_cons]

lemma bare_replace_braced {env : Environment} {text : List Char} (hbare : bare text = none)
    (h : ∀ p ∈ (pieces both text).head?, p.isInserted env = false) :
    bare (replace env braced text) = none := by
  cases hstart : text.head?.any startsName with
  | false => exact bare_of_head (by rw [head?_replace_braced h, hstart])
  | true =>
    obtain ⟨name, tail, rfl, hname, htail, hfirst⟩ := exists_name hstart
    rw [bare_append hfirst hname htail] at hbare
    -- what makes a word of more than the name stands right behind it, and stays there
    cases tail with
    | nil => simp at hbare
    | cons c more =>
      have hword : Text.isWord c = true := by
        cases hc : Text.isWord c with
        | true => rfl
        | false => simp [hc] at hbare
      have hc : c ≠ '$' := by
        rintro rfl
        exact absurd hword (by decide)
      have hdollar : '$' ∉ name := fun hmem => absurd (hname '$' hmem) (by decide)
      have htail' : ∀ d ∈ (c :: replace env braced more).head?, inName d = false := htail
      rw [replace_append hdollar, replace_of_ne hc, bare_append hfirst hname htail']
      simp [hword]

lemma agreesWithin_of_not_mem {env : Environment} {v : Option String} {after cs : List Char}
    (h : '$' ∉ cs) : agreesWithin env v after cs = true := by
  induction cs with
  | nil => rfl
  | cons c cs ih =>
    obtain ⟨hc, hcs⟩ := List.ne_and_not_mem_of_not_mem_cons h
    simp [agreesWithin, Ne.symm hc, ih hcs]

lemma agreesWithin_of_braced {env : Environment} {rest name after : List Char} {n : Nat}
    (h : braced rest = some (n, name)) :
    agreesWithin env none after ('$' :: rest.take n) = true := by
  obtain ⟨htake, -, hname⟩ := of_braced h
  have hunknown : known? env (rest.take n ++ after) = none := by
    rw [htake, known?, bare_of_head rfl, Option.bind_none]
  have hdollar : '$' ∉ rest.take n := by simp [htake, hname]
  rw [agreesWithin, hunknown, agreesWithin_of_not_mem hdollar]
  rfl

/-- A bare reference is read again wherever the same character stands behind it. -/
lemma bare_of_same_head {rest name after : List Char} {n : Nat} (h : bare rest = some (n, name))
    (same : after.head? = (rest.drop n).head?) : bare (name ++ after) = some (n, name) := by
  cases hstart : rest.head?.any startsName with
  | false => rw [bare_of_head hstart] at h; cases h
  | true =>
    obtain ⟨name', tail, rfl, hname, htail, hfirst⟩ := exists_name hstart
    rw [bare_append hfirst hname htail] at h
    split at h <;> cases h
    next hword =>
    rw [List.drop_left] at same
    rw [bare_append hfirst hname (by rwa [same]), same, if_neg hword]

lemma agreesWithin_of_bare {env : Environment} {rest name after : List Char} {n : Nat}
    (h : bare rest = some (n, name)) (same : after.head? = (rest.drop n).head?) :
    agreesWithin env (known? env rest) after ('$' :: rest.take n) = true := by
  obtain ⟨htake, -, hname⟩ := of_bare h
  have hknown : known? env (rest.take n ++ after) = known? env rest := by
    rw [htake, known?, known?, bare_of_same_head h same, h]
  have hdollar : '$' ∉ rest.take n := by rwa [htake]
  rw [agreesWithin, hknown, agreesWithin_of_not_mem hdollar]
  simp

theorem settled_of_apart {env : Environment} {text : List Char}
    (h : Apart env (pieces both text)) : settled env (pieces both text) = true := by
  fun_induction pieces both text with
  | case1 => rfl
  | case2 c rest n name hread ih =>
    obtain ⟨rfl, hboth⟩ : c = '$' ∧ both rest = some (n, name) := by simpa using hread
    rw [settled, ih h.tail, ← replace_braced, Bool.and_true]
    -- a value has no dollar sign, and what is left as written reads as before
    cases hb : braced rest with
    | some read =>
      obtain rfl : read = (n, name) := by simpa [both, hb] using hboth
      have hnot := isBare_of_braced hb
      rw [Piece.braceFilled, if_neg (by simp [hnot])]
      cases hset : env.get? (String.ofList name) with
      | some value =>
        have hinserted := h.values _ (List.mem_cons_self ..)
          (by simp [Piece.isInserted, hnot, hset])
        exact agreesWithin_of_not_mem hinserted
      | none =>
        rw [Piece.filled, hset, Piece.bareName?, if_neg (by simp [hnot])]
        exact agreesWithin_of_braced hb
    | none =>
      have hbare : bare rest = some (n, name) := by simpa [both, hb] using hboth
      have hyes := isBare_of_bare hbare
      have hopen := h.head_open (by simp [Piece.isClosed, hyes])
      rw [Piece.braceFilled, if_pos hyes, bareName?_of_bare hbare]
      exact agreesWithin_of_bare hbare (head?_replace_braced hopen)
  | case3 c rest hread ih =>
    rw [settled, ih h.tail, ← replace_braced, Bool.and_true]
    change agreesWithin env none (replace env braced rest) [c] = true
    by_cases hc : c = '$'
    · subst hc
      have hboth : both rest = none := by simpa using hread
      have hnone := bare_replace_braced (Option.or_eq_none_iff.mp hboth).2 (h.head_open rfl)
      simp [agreesWithin, known?, hnone]
    · exact agreesWithin_of_not_mem (by simpa using Ne.symm hc)

/-- Two passes replace all references of a text at once wherever it is settled, as it is where no
value brings in a dollar sign and no braced reference stands behind an open end. -/
theorem substitute_eq_simultaneous (env : Environment) (text : String) :
    (settled env (pieces both text.toList) = true →
      substitute env text = simultaneous env text) ∧
      (Apart env (pieces both text.toList) → settled env (pieces both text.toList) = true) := by
  refine ⟨fun h => ?_, settled_of_apart⟩
  rw [substitute, replace_braced, replace_bare h, simultaneous, replace]

theorem substitute_eq_simultaneous_mixed :
    let env : Environment := [("A", "1"), ("B", "$é"), ("D", "b")]
    let text := "$A-$\x7bB\x7d$A$U.$\x7bD\x7d$\x7bU\x7d$A"
    let spaced := "$A $\x7bD\x7dé$U"
    settled env (pieces both text.toList) = true ∧
      substitute env text = "1-$é1$U.b$\x7bU\x7d1" ∧
      Apart env (pieces both spaced.toList) ∧ substitute env spaced = "1 bé$U" := by
  intro env text spaced
  have hsettled : settled env (pieces both text.toList) = true := by cbv
  have hpieces : pieces both spaced.toList =
      [.reference "$A".toList "A", .plain ' ', .reference "$\x7bD\x7d".toList "D", .plain 'é',
        .reference "$U".toList "U"] := by cbv
  have hapart : Apart env (pieces both spaced.toList) := by
    rw [hpieces]
    exact ⟨by decide, by decide⟩
  obtain ⟨heq, -⟩ := substitute_eq_simultaneous env text
  obtain ⟨heq', hsettled'⟩ := substitute_eq_simultaneous env spaced
  refine ⟨hsettled, (heq hsettled).trans ?_, hapart, (heq' (hsettled' hapart)).trans ?_⟩
  · cbv
  · cbv

/-- A value runs on from the name before it, and a value is read again. -/
theorem substitute_ne_simultaneous :
    let env : Environment := [("A", "1"), ("B", "C"), ("D", "$A")]
    (substitute env "$A$\x7bB\x7d" = "$AC" ∧ simultaneous env "$A$\x7bB\x7d" = "1C") ∧
      substitute env "$\x7bD\x7d" = "1" ∧ simultaneous env "$\x7bD\x7d" = "$A" := by
  cbv

end GatewayRecipes.Settings
