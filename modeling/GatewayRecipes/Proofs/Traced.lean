import GatewayRecipes.Log
import Mathlib.Tactic.Lemma

/-! Computations that report, as a monad over their results: notices are never taken back, and
the result of a sequence is the sequence of results. -/
namespace GatewayRecipes.Traced
variable {ε ε' α β γ : Type}

@[ext] theorem ext {x y : Traced ε α} (hn : x.notices = y.notices) (hr : x.result = y.result) :
    x = y := by
  cases x
  cases y
  simp_all

/-- What goes wrong and what comes out does not depend on notices. -/
@[simp] theorem result_bind (x : Traced ε α) (f : α → Traced ε β) :
    (x >>= f).result = x.result >>= fun a => (f a).result := by
  cases h : x.result with
  | ok a => rw [bind_of_ok h]; rfl
  | error e => rw [bind_of_error h]; rfl

/-- A function of the result changes nothing else. -/
lemma map_eq (f : α → β) (x : Traced ε α) : f <$> x = ⟨x.notices, x.result.map f⟩ := by
  change (x >>= fun a => Pure.pure (f a)) = _
  cases h : x.result with
  | ok a =>
    rw [bind_of_ok h, notices_pure, List.append_nil]
    rfl
  | error e =>
    rw [bind_of_error h]
    rfl

lemma id_map_eq (x : Traced ε α) : id <$> x = x := by
  change (x >>= fun a => Pure.pure (id a)) = x
  cases h : x.result with
  | ok a =>
    rw [bind_of_ok h]
    apply ext
    · simp
    · simp [h]
  | error e =>
    rw [bind_of_error h]
    apply ext
    · rfl
    · exact h.symm

lemma mapError_id (x : Traced ε α) : x.mapError id = x := by
  apply ext
  · rfl
  · rw [result_mapError]
    cases x.result with
    | ok a => rfl
    | error e => rfl

lemma pure_bind_eq (a : α) (f : α → Traced ε β) : (Pure.pure a >>= f) = f a := by
  rw [bind_of_ok (result_pure a)]
  simp

lemma bind_bind_eq (x : Traced ε α) (f : α → Traced ε β) (g : β → Traced ε γ) :
    (x >>= f) >>= g = x >>= fun a => f a >>= g := by
  cases hx : x.result with
  | error e =>
    have hf : (x >>= f).result = .error e := by rw [bind_of_error hx]
    rw [bind_of_error hf, bind_of_error hx, bind_of_error hx]
  | ok a =>
    rw [bind_of_ok hx (fun a => f a >>= g)]
    cases hf : (f a).result with
    | error e =>
      have h : (x >>= f).result = .error e := by rw [bind_of_ok hx, hf]
      rw [bind_of_error h, bind_of_error hf, bind_of_ok hx]
    | ok b =>
      have h : (x >>= f).result = .ok b := by rw [bind_of_ok hx, hf]
      rw [bind_of_ok h, bind_of_ok hf, bind_of_ok hx]
      simp

instance : LawfulMonad (Traced ε) := LawfulMonad.mk' _ id_map_eq pure_bind_eq bind_bind_eq

/-- What follows a computation matters only at its result. -/
theorem bind_congr_ok {x : Traced ε α} {f g : α → Traced ε β}
    (h : ∀ a, x.result = .ok a → f a = g a) : x >>= f = x >>= g := by
  cases hx : x.result with
  | error e => rw [bind_of_error hx, bind_of_error hx]
  | ok a => rw [bind_of_ok hx, bind_of_ok hx, h a hx]

lemma foldlM_induction_from {step : β → α → Traced ε β} {P : List α → β → Prop}
    (hstep : ∀ before a b b', P before b → (step b a).result = .ok b' → P (before ++ [a]) b')
    {l before : List α} {b b' : β} (hb : P before b) (h : (l.foldlM step b).result = .ok b') :
    P (before ++ l) b' := by
  induction l generalizing before b with
  | nil =>
    rw [List.foldlM_nil, result_pure] at h
    cases h
    rwa [List.append_nil]
  | cons a rest ih =>
    rw [List.foldlM_cons, result_bind] at h
    cases hs : (step b a).result with
    | error e => rw [hs] at h; cases h
    | ok c =>
      rw [hs] at h
      have hrest := ih (hstep before a b c hb hs) h
      rwa [List.append_assoc] at hrest

/-- What every step of a fold carries on, from the elements before it to those up to it, holds of
all elements and the result. -/
theorem foldlM_induction {step : β → α → Traced ε β} (P : List α → β → Prop)
    (hstep : ∀ before a b b', P before b → (step b a).result = .ok b' → P (before ++ [a]) b')
    {l : List α} {b b' : β} (hb : P [] b) (h : (l.foldlM step b).result = .ok b') : P l b' :=
  foldlM_induction_from hstep hb h

/-- A fold gets to its end, or some element fails in the state that those before it lead to. -/
theorem foldlM_cases (step : β → α → Traced ε β) (l : List α) (b : β) :
    (∃ b', (l.foldlM step b).result = .ok b') ∨
      ∃ before a after c e, l = before ++ a :: after ∧
        (before.foldlM step b).result = .ok c ∧ (step c a).result = .error e ∧
        (l.foldlM step b).result = .error e := by
  induction l generalizing b with
  | nil => exact .inl ⟨b, rfl⟩
  | cons a rest ih =>
    rw [List.foldlM_cons, result_bind]
    cases hs : (step b a).result with
    | error e => exact .inr ⟨[], a, rest, b, e, rfl, rfl, hs, rfl⟩
    | ok c =>
      obtain hok | ⟨before, a', after, d, e, rfl, hbefore, ha, hl⟩ := ih c
      · exact .inl hok
      · refine .inr ⟨a :: before, a', after, d, e, rfl, ?_, ha, hl⟩
        rw [List.foldlM_cons, result_bind, hs]
        exact hbefore

/-- A fold fails where an element fails in the state that those before it lead to. -/
theorem foldlM_eq_error_iff {step : β → α → Traced ε β} {l : List α} {b : β} {e : ε} :
    (l.foldlM step b).result = .error e ↔
      ∃ before a after c, l = before ++ a :: after ∧
        (before.foldlM step b).result = .ok c ∧ (step c a).result = .error e := by
  constructor
  · intro h
    obtain ⟨b', hok⟩ | ⟨before, a, after, c, e', hl, hbefore, ha, he⟩ := foldlM_cases step l b
    · cases hok.symm.trans h
    · cases he.symm.trans h
      exact ⟨before, a, after, c, hl, hbefore, ha⟩
  · rintro ⟨before, a, after, c, rfl, hbefore, ha⟩
    rw [List.foldlM_append, result_bind, hbefore]
    change ((a :: after).foldlM step c).result = _
    rw [List.foldlM_cons, result_bind, ha]
    rfl

/-- A fold that gets to its end gets past every element. -/
lemma foldlM_split {step : β → α → Traced ε β} {before after : List α} {a : α} {b b' : β}
    (h : ((before ++ a :: after).foldlM step b).result = .ok b') :
    ∃ c d, (before.foldlM step b).result = .ok c ∧ (step c a).result = .ok d := by
  rw [List.foldlM_append, result_bind] at h
  cases hc : (before.foldlM step b).result with
  | error e => rw [hc] at h; cases h
  | ok c =>
    rw [hc] at h
    change ((a :: after).foldlM step c).result = _ at h
    rw [List.foldlM_cons, result_bind] at h
    cases hd : (step c a).result with
    | error e => rw [hd] at h; cases h
    | ok d => exact ⟨c, d, rfl, hd⟩

end GatewayRecipes.Traced
