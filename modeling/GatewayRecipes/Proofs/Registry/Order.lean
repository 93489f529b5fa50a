import GatewayRecipes.Proofs.Registry.Sequence
import Mathlib.Data.List.Forall2
import Mathlib.Data.List.Perm.Basic

/-! Loads of documents whose elements stand in different orders. Where every definition has an id,
what it registers depends on its element and on the chain around it, and whether names collide does
not depend on which comes first. -/
namespace GatewayRecipes.Registry
open Element

/-- The second element is the first one with children in another order, there and further down, but
not inside elements that are loaded. -/
inductive Rearranged (r : Registry) : Element → Element → Prop
  | same (e : Element) : Rearranged r e e
  | permute {e : Element} {between children : List Element} (passed : r.parserFor? e.name = none)
      (each : List.Forall₂ (Rearranged r) e.children between) (order : between.Perm children) :
      Rearranged r e { e with children := children }

/-- An element that is loaded, its mode, and the id of the chain that it stands in. -/
structure Site where
  element : Element
  mode : Mode
  chain : Option String

def Site.name (s : Site) : String :=
  match s.chain with
  | some chain => chain ++ "$child." ++ s.element.attributeD "id"
  | none => s.element.attributeD "id"

def siteOf (o : Occurrence) : Site := ⟨o.element, modeAt o, (positionOf o.path).chainId?⟩

/-- Inside an element, its name and id decide on mode and chain. -/
def inside (e : Element) : Position := ⟨some e, 0⟩

mutual

/-- What a load finds in an element, the mode and chain of which are given. -/
def sites (r : Registry) (mode : Mode) (chain : Option String) : Element → List Site
  | ⟨name, attributes, children⟩ =>
    let e : Element := ⟨name, attributes, children⟩
    if (r.parserFor? name).isSome then [⟨e, mode, chain⟩]
    else r.sitesOfAll (inside e).mode (inside e).chainId? children

def sitesOfAll (r : Registry) (mode : Mode) (chain : Option String) : List Element → List Site
  | [] => []
  | e :: rest => r.sites mode chain e ++ r.sitesOfAll mode chain rest

end

section
variable {r : Registry} {mode : Mode} {chain : Option String}

lemma sitesOfAll_eq (r : Registry) (mode : Mode) (chain : Option String) (es : List Element) :
    r.sitesOfAll mode chain es = es.flatMap (r.sites mode chain) := by
  induction es with
  | nil => rfl
  | cons e rest ih => rw [sitesOfAll, ih, List.flatMap_cons]

lemma sites_of_handled {e : Element} (h : r.parserFor? e.name ≠ none) :
    r.sites mode chain e = [⟨e, mode, chain⟩] := by
  cases e
  rw [sites, if_pos (Option.isSome_iff_ne_none.mpr h)]

lemma sites_of_passed {e : Element} (h : r.parserFor? e.name = none) :
    r.sites mode chain e = e.children.flatMap (r.sites (inside e).mode (inside e).chainId?) := by
  cases e
  rw [sites, if_neg (by simp [h]), sitesOfAll_eq]

lemma map_siteOf_below {e : Element} {path : List (Element × Nat)} {children : List Element}
    (h : ∀ c ∈ children, ∀ i : Nat,
      ((c.occurrencesFrom ((e, i) :: path)).filter r.handles).map siteOf =
        r.sites (inside e).mode (inside e).chainId? c) (i : Nat) :
    ((e.occurrencesBelow path i children).filter r.handles).map siteOf =
      children.flatMap (r.sites (inside e).mode (inside e).chainId?) := by
  induction children generalizing i with
  | nil => rfl
  | cons c rest ih =>
    rw [occurrencesBelow, List.filter_append, List.map_append, h c (List.mem_cons_self ..),
      ih (fun d hd => h d (List.mem_cons_of_mem c hd)), List.flatMap_cons]

/-- Below elements that are passed over, a load finds the elements that it handles. -/
theorem map_siteOf_from {e : Element} {path : List (Element × Nat)}
    (hpath : ∀ a ∈ path, r.parserFor? a.1.name = none) :
    ((e.occurrencesFrom path).filter r.handles).map siteOf =
      r.sites (positionOf path).mode (positionOf path).chainId? e := by
  induction e using childInduction generalizing path with
  | step e ih =>
    rw [occurrencesFrom_eq]
    cases hp : r.parserFor? e.name with
    | some p =>
      have hne : r.parserFor? e.name ≠ none := by simp [hp]
      have hhandles : r.handles ⟨e, path⟩ = true := (r.handles_iff _).mpr ⟨hne, hpath⟩
      rw [List.filter_cons_of_pos hhandles, filter_handles_below hne, sites_of_handled hne,
        mode_positionOf e path]
      rfl
    | none =>
      have hhandles : ¬ r.handles ⟨e, path⟩ = true := fun h =>
        ((r.handles_iff _).mp h).1 hp
      rw [List.filter_cons_of_neg hhandles, sites_of_passed hp]
      refine map_siteOf_below (fun c hc i => ?_) 0
      exact ih c hc (List.forall_mem_cons.mpr ⟨hp, hpath⟩)

lemma map_siteOf_handled (r : Registry) (root : Element) :
    (r.handled root).map siteOf = r.sites .standalone none root :=
  map_siteOf_from (List.forall_mem_nil _)

lemma flatMap_perm_of_forall₂ {α β γ : Type} {R : α → β → Prop} {g : α → List γ} {g' : β → List γ}
    {as : List α} {bs : List β} (h : List.Forall₂ R as bs)
    (hg : ∀ a ∈ as, ∀ b, R a b → (g a).Perm (g' b)) : (as.flatMap g).Perm (bs.flatMap g') := by
  induction h with
  | nil => exact .refl _
  | cons hab _ ih =>
    obtain ⟨hfirst, hrest⟩ := List.forall_mem_cons.mp hg
    rw [List.flatMap_cons, List.flatMap_cons]
    exact (hfirst _ hab).append (ih hrest)

/-- In another order a load finds the same. -/
theorem sites_perm {e f : Element} (h : r.Rearranged e f) :
    (r.sites mode chain e).Perm (r.sites mode chain f) := by
  induction e using childInduction generalizing f mode chain with
  | step e ih =>
    cases h with
    | same => exact .refl _
    | @permute _ between children passed each order =>
      have hmode : (inside { e with children := children }).mode = (inside e).mode :=
        mode_congr (by rfl) 0 0
      have hchain : (inside { e with children := children }).chainId? = (inside e).chainId? :=
        chainId?_congr (by rfl) (by rfl) 0 0
      rw [sites_of_passed passed, sites_of_passed (e := { e with children := children }) passed,
        hmode, hchain]
      exact (flatMap_perm_of_forall₂ each fun c hc d hcd => ih c hc hcd).trans
        (order.flatMap_right _)

/-! What is registered of elements with ids. -/

/-- The definition that an element with an id comes to, if it translates. -/
def Defines (r : Registry) (s : Site) (definition : String × Recipe) : Prop :=
  ∃ p, r.parserFor? s.element.name = some p ∧
    (p.parse s.element s.mode).result = .ok definition.2 ∧ s.name = definition.1

/-- An element that a parser handles and that has an id. -/
def Named (r : Registry) (s : Site) : Prop :=
  r.parserFor? s.element.name ≠ none ∧ s.element.hasText "id" = true

lemma nameAt_of_id {o : Occurrence} (h : o.element.hasText "id" = true) (r : Registry)
    (staged : Table Recipe) (kind : RecipeKind) :
    r.nameAt staged kind o = (siteOf o).name := by
  rw [← componentName_positionOf r staged kind o.element o.path, Site.name]
  cases hc : (positionOf o.path).chainId? with
  | some chain => simp [componentName_of_chain hc, h, siteOf, hc]
  | none => simp [componentName_of_no_chain hc, ownName, h, siteOf, hc]

/-- A step for such an element does not fail if it translates and its name is new. -/
lemma register_eq_ok_iff {o : Occurrence} (h : r.Named (siteOf o)) {staged next : Table Recipe} :
    (r.register staged o).result = .ok next ↔
      ∃ d, r.Defines (siteOf o) d ∧ d.1 ∉ Table.keys (r.definitions ++ staged) ∧
        next = staged ++ [d] := by
  obtain ⟨p, hp⟩ := Option.ne_none_iff_exists'.mp h.1
  have hparser : r.parserFor? o.element.name = some p := hp
  have hname := nameAt_of_id h.2 r staged p.kind
  have hkeys : (siteOf o).name ∈ Table.keys (r.definitions ++ staged) ↔
      (siteOf o).name ∈ r.names ∨ (siteOf o).name ∈ staged.keys := Table.mem_keys_append ..
  constructor
  · intro hstep
    obtain ⟨hnone, -⟩ | ⟨q, recipe, hq, hparse, hnew, hfree, rfl⟩ := register_cases hstep
    · exact absurd hnone h.1
    · obtain rfl : p = q := Option.some.inj (hparser.symm.trans hq)
      rw [hname] at hnew hfree ⊢
      exact ⟨((siteOf o).name, recipe), ⟨p, hp, hparse, rfl⟩,
        hkeys.not.mpr (not_or.mpr ⟨hnew, hfree⟩), rfl⟩
  · rintro ⟨⟨_, recipe⟩, ⟨q, hq, hparse, rfl⟩, hfree, rfl⟩
    obtain rfl : p = q := Option.some.inj (hp.symm.trans hq)
    have hresult : (p.parse o.element (modeAt o)).result = .ok recipe := hparse
    simp only [register, hparser, hresult, hname, if_neg (hkeys.not.mp hfree)]

/-- Elements with ids are registered all or not at all: if each translates, and under new names. -/
theorem foldlM_register_eq_ok_iff {l : List Occurrence} (h : ∀ s ∈ l.map siteOf, r.Named s)
    {staged next : Table Recipe} :
    (l.foldlM r.register staged).result = .ok next ↔
      ∃ added, List.Forall₂ r.Defines (l.map siteOf) added ∧
        Table.Fresh (r.definitions ++ staged) added ∧ next = staged ++ added := by
  induction l generalizing staged with
  | nil =>
    constructor
    · intro hnext
      cases hnext
      exact ⟨[], .nil, Table.fresh_nil _, (List.append_nil _).symm⟩
    · rintro ⟨added, hdefines, -, rfl⟩
      cases hdefines
      rw [List.append_nil]
      rfl
  | cons o rest ih =>
    obtain ⟨ho, hrest⟩ := List.forall_mem_cons.mp h
    rw [List.foldlM_cons, Traced.result_bind, List.map_cons]
    constructor
    · intro hnext
      cases hfirst : (r.register staged o).result with
      | error report => rw [hfirst] at hnext; cases hnext
      | ok first =>
        rw [hfirst] at hnext
        obtain ⟨d, hd, hfree, rfl⟩ := (register_eq_ok_iff ho).mp hfirst
        obtain ⟨added, hdefines, hfresh, rfl⟩ := (ih hrest).mp hnext
        refine ⟨d :: added, .cons hd hdefines, Table.fresh_cons_iff.mpr ⟨hfree, ?_⟩, by simp⟩
        rwa [List.append_assoc]
    · rintro ⟨_, hdefines, hfresh, rfl⟩
      cases hdefines with
      | @cons _ d _ added hd hdefines =>
        obtain ⟨hfree, hfresh⟩ := Table.fresh_cons_iff.mp hfresh
        rw [(register_eq_ok_iff ho).mpr ⟨d, hd, hfree, rfl⟩]
        rw [List.append_assoc] at hfresh
        exact (ih hrest).mpr ⟨added, hdefines, hfresh, by simp⟩

/-- A load of elements with ids succeeds exactly if all of them translate, and under new names that
differ. It appends what they come to. -/
theorem load_eq_ok_iff {root : Element} (h : ∀ s ∈ r.sites .standalone none root, r.Named s)
    {loaded : Registry} {n : Nat} :
    (r.load root).result = .ok (loaded, n) ↔
      ∃ added, List.Forall₂ r.Defines (r.sites .standalone none root) added ∧
        r.definitions.Fresh added ∧ loaded = r.extend added ∧ n = added.length := by
  rw [← map_siteOf_handled] at h ⊢
  have hfold (staged : Table Recipe) :
      ((r.handled root).foldlM r.register []).result = .ok staged ↔
        List.Forall₂ r.Defines ((r.handled root).map siteOf) staged ∧
          r.definitions.Fresh staged := by
    rw [foldlM_register_eq_ok_iff h]
    simp
  rw [result_load]
  constructor
  · intro hload
    cases hs : ((r.handled root).foldlM r.register []).result with
    | error report => rw [hs] at hload; cases hload
    | ok staged =>
      rw [hs] at hload
      cases hload
      obtain ⟨hdefines, hfresh⟩ := (hfold staged).mp hs
      exact ⟨staged, hdefines, hfresh, rfl, rfl⟩
  · rintro ⟨added, hdefines, hfresh, rfl, rfl⟩
    rw [(hfold added).mpr ⟨hdefines, hfresh⟩]
    rfl

/-- What a load appends is appended in some order wherever the same is found in another one. -/
theorem exists_load_of_perm {e f : Element} (h : ∀ s ∈ r.sites .standalone none e, r.Named s)
    (hperm : (r.sites .standalone none e).Perm (r.sites .standalone none f)) {loaded : Registry}
    {n : Nat} (hload : (r.load e).result = .ok (loaded, n)) :
    ∃ added added', loaded = r.extend added ∧ added.Perm added' ∧
      (r.load f).result = .ok (r.extend added', n) := by
  have hf : ∀ s ∈ r.sites .standalone none f, r.Named s := fun s hs =>
    h s (hperm.mem_iff.mpr hs)
  obtain ⟨added, hdefines, hfresh, rfl, rfl⟩ := (load_eq_ok_iff h).mp hload
  obtain ⟨added', hdefines', hadded⟩ := List.perm_comp_forall₂ hperm.symm hdefines
  exact ⟨added, added', rfl, hadded.symm, (load_eq_ok_iff hf).mpr
    ⟨added', hdefines', hfresh.perm hadded.symm, rfl, hadded.symm.length_eq⟩⟩

end

/-- Where every element that is loaded has an id, the order of children does not decide whether a
load succeeds, and of what it appends to the registry it decides nothing but the order. -/
theorem load_rearranged (r : Registry) {e f : Element} (rearranged : r.Rearranged e f)
    (named : ∀ o ∈ r.handled e, o.element.hasText "id" = true) :
    ((∃ loaded n, (r.load e).result = .ok (loaded, n)) ↔
      ∃ loaded n, (r.load f).result = .ok (loaded, n)) ∧
    ∀ loaded n loaded' n', (r.load e).result = .ok (loaded, n) →
      (r.load f).result = .ok (loaded', n') →
      n = n' ∧ ∃ added added', loaded = r.extend added ∧ loaded' = r.extend added' ∧
        added.Perm added' := by
  have hperm : (r.sites .standalone none e).Perm (r.sites .standalone none f) :=
    sites_perm rearranged
  have he : ∀ s ∈ r.sites .standalone none e, r.Named s := by
    rw [← map_siteOf_handled]
    intro s hs
    obtain ⟨o, ho, rfl⟩ := List.mem_map.mp hs
    exact ⟨((r.handles_iff o).mp (List.mem_filter.mp ho).2).1, named o ho⟩
  refine ⟨⟨?_, ?_⟩, ?_⟩
  · rintro ⟨loaded, n, hload⟩
    obtain ⟨-, added', -, -, hloaded⟩ := exists_load_of_perm he hperm hload
    exact ⟨_, n, hloaded⟩
  · rintro ⟨loaded, n, hload⟩
    have hf : ∀ s ∈ r.sites .standalone none f, r.Named s := fun s hs =>
      he s (hperm.mem_iff.mpr hs)
    obtain ⟨-, added', -, -, hloaded⟩ := exists_load_of_perm hf hperm.symm hload
    exact ⟨_, n, hloaded⟩
  · intro loaded n loaded' n' hload hload'
    obtain ⟨added, added', rfl, hadded, hloaded⟩ := exists_load_of_perm he hperm hload
    rw [hload'] at hloaded
    cases hloaded
    exact ⟨rfl, added, added', rfl, rfl, hadded⟩

/-- Gateways with ids, two of them in a chain below another element. -/
def arrangedDocument : Element :=
  (Element.named "beans").withChildren
    [(Element.named "gateway").withAttribute "id" "a",
      (Element.named "profile").withChildren
        [((Element.named "chain").withAttribute "id" "c").withChildren
          [(Element.named "gateway").withAttribute "id" "a", Element.named "filter",
            (Element.named "gateway").withAttributes [("id", "b"), ("request-channel", "in")]]]]

def rearrangedDocument : Element :=
  (Element.named "beans").withChildren
    [(Element.named "profile").withChildren
      [((Element.named "chain").withAttribute "id" "c").withChildren
        [(Element.named "gateway").withAttributes [("id", "b"), ("request-channel", "in")],
          (Element.named "gateway").withAttribute "id" "a", Element.named "filter"]],
      (Element.named "gateway").withAttribute "id" "a"]

theorem load_rearranged_chain :
    standard.Rearranged arrangedDocument rearrangedDocument ∧
      (∀ o ∈ standard.handled arrangedDocument, o.element.hasText "id" = true) ∧
      ∃ loaded loaded', (standard.load arrangedDocument).result = .ok (loaded, 3) ∧
        (standard.load rearrangedDocument).result = .ok (loaded', 3) ∧
        ∃ added added', loaded = standard.extend added ∧ loaded' = standard.extend added' ∧
          added.Perm added' := by
  have hnamed : ∀ o ∈ standard.handled arrangedDocument, o.element.hasText "id" = true := by
    decide
  have hrearranged : standard.Rearranged arrangedDocument rearrangedDocument := by
    refine .permute rfl (.cons (.same _) (.cons ?_ .nil)) (.swap _ _ _)
    refine .permute rfl (.cons ?_ .nil) (.refl _)
    refine .permute rfl (.cons (.same _) (.cons (.same _) (.cons (.same _) .nil))) ?_
    exact @List.perm_append_comm _ [_, _] [_]
  obtain ⟨loaded, hload⟩ : ∃ loaded, (standard.load arrangedDocument).result = .ok (loaded, 3) :=
    ⟨_, rfl⟩
  obtain ⟨loaded', hload'⟩ :
      ∃ loaded, (standard.load rearrangedDocument).result = .ok (loaded, 3) := ⟨_, rfl⟩
  have h := (load_rearranged standard hrearranged hnamed).2 _ _ _ _ hload hload'
  exact ⟨hrearranged, hnamed, loaded, loaded', hload, hload', h.2⟩

end GatewayRecipes.Registry
