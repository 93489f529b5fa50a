import GatewayRecipes.Proofs.Occurrence
import GatewayRecipes.Proofs.Table
import GatewayRecipes.Proofs.Traced
import GatewayRecipes.Registry.Basic

/-! Loading a document as a fold over a list of its elements. The elements are those that a parser
handles with no handled element around them. Each step registers one of them, or fails and ends
the load. -/
namespace GatewayRecipes.Registry
open Element

/-- Whether an element is loaded where it stands: it has a parser, and no ancestor has one. -/
def handles (r : Registry) (o : Occurrence) : Bool :=
  (r.parserFor? o.element.name).isSome && o.path.all fun a => (r.parserFor? a.1.name).isNone

/-- The elements of a document that are loaded, in the order of the document. -/
def handled (r : Registry) (root : Element) : List Occurrence := root.occurrences.filter r.handles

/-- Elements directly inside a chain are parsed inline. -/
def modeAt (o : Occurrence) : Mode :=
  if o.parent?.any (·.name == "chain") then .inline else .standalone

/-- The id of an element, or a generated name. -/
def ownName (r : Registry) (staged : Table Recipe) (kind : RecipeKind) (e : Element) : String :=
  if e.hasText "id" then e.attributeD "id" else r.generatedName staged kind

/-- The component name of an element. Directly inside a chain with an id it starts with that, and
goes on with the id of the element or with its index in the chain. -/
def nameAt (r : Registry) (staged : Table Recipe) (kind : RecipeKind) (o : Occurrence) : String :=
  match o.parent? with
  | some parent =>
    if parent.name = "chain" ∧ parent.hasText "id" = true then
      if o.element.hasText "id" then
        parent.attributeD "id" ++ "$child." ++ o.element.attributeD "id"
      else parent.attributeD "id" ++ "$child#" ++ toString o.index
    else r.ownName staged kind o.element
  | none => r.ownName staged kind o.element

/-- One step of a load: parse an element and add its recipe to those staged before it, unless the
name is in use in the registry or among these. -/
def register (r : Registry) (staged : Table Recipe) (o : Occurrence) :
    Traced Report (Table Recipe) :=
  match r.parserFor? o.element.name with
  | none => pure staged
  | some p =>
    let parsed := p.parse o.element (modeAt o)
    match parsed.result with
    | .error cause =>
      ⟨parsed.notices, .error ⟨["parsing " ++ describe o.element], .definition cause⟩⟩
    | .ok recipe =>
      let name := r.nameAt staged p.kind o
      if name ∈ r.names ∨ name ∈ staged.keys then
        ⟨parsed.notices,
          .error ⟨["registering " ++ describe o.element], .duplicateComponent name⟩⟩
      else
        ⟨parsed.notices ++ [.definitionRegistered name recipe.kind (modeAt o)],
          .ok (staged ++ [(name, recipe)])⟩

def positionOf : List (Element × Nat) → Position
  | [] => ⟨none, 0⟩
  | (parent, index) :: _ => ⟨some parent, index⟩

lemma isTaken_iff (r : Registry) (staged : Table Recipe) (name : String) :
    r.isTaken staged name = true ↔ name ∈ r.names ∨ name ∈ staged.keys := by
  rw [isTaken, Bool.or_eq_true, names, Table.mem_keys_iff, Table.mem_keys_iff]

lemma mode_positionOf (e : Element) (path : List (Element × Nat)) :
    (positionOf path).mode = modeAt ⟨e, path⟩ := by
  cases path with
  | nil => rfl
  | cons a rest =>
    obtain ⟨p, k⟩ := a
    cases h : p.name == "chain" <;>
      simp [Position.mode, Position.chain?, positionOf, modeAt, Occurrence.parent?, h,
        Option.filter]

lemma chainId?_positionOf (p : Element) (k : Nat) (rest : List (Element × Nat)) :
    (positionOf ((p, k) :: rest)).chainId? =
      if p.name = "chain" ∧ p.hasText "id" = true then some (p.attributeD "id") else none := by
  by_cases hc : p.name = "chain"
  · simp [Position.chainId?, Position.chain?, positionOf, textAttribute?_eq, Option.filter, hc]
  · simp [Position.chainId?, Position.chain?, positionOf, Option.filter, hc]

/-- Of the parent of an element, only the name and the id count. -/
lemma mode_congr {e f : Element} (hname : f.name = e.name) (i j : Nat) :
    (⟨some f, j⟩ : Position).mode = (⟨some e, i⟩ : Position).mode := by
  simp [Position.mode, Position.chain?, Option.filter, hname]

lemma chainId?_congr {e f : Element} (hname : f.name = e.name)
    (hid : f.textAttribute? "id" = e.textAttribute? "id") (i j : Nat) :
    (⟨some f, j⟩ : Position).chainId? = (⟨some e, i⟩ : Position).chainId? := by
  cases hc : e.name == "chain" <;>
    simp [Position.chainId?, Position.chain?, Option.filter, hname, hid, hc]

lemma componentName_of_chain {position : Position} {chain : String}
    (h : position.chainId? = some chain) (r : Registry) (staged : Table Recipe)
    (kind : RecipeKind) (e : Element) :
    r.componentName staged kind position e =
      if e.hasText "id" then chain ++ "$child." ++ e.attributeD "id"
      else chain ++ "$child#" ++ toString position.index := by
  rw [componentName, h, textAttribute?_eq]
  cases e.hasText "id" with
  | true => rfl
  | false => rfl

lemma componentName_of_no_chain {position : Position} (h : position.chainId? = none)
    (r : Registry) (staged : Table Recipe) (kind : RecipeKind) (e : Element) :
    r.componentName staged kind position e = r.ownName staged kind e := by
  rw [componentName, h, textAttribute?_eq, ownName]
  cases e.hasText "id" with
  | true => rfl
  | false => rfl

lemma componentName_positionOf (r : Registry) (staged : Table Recipe) (kind : RecipeKind)
    (e : Element) (path : List (Element × Nat)) :
    r.componentName staged kind (positionOf path) e = r.nameAt staged kind ⟨e, path⟩ := by
  cases path with
  | nil => exact componentName_of_no_chain rfl r staged kind e
  | cons a rest =>
    obtain ⟨p, k⟩ := a
    have hid := chainId?_positionOf p k rest
    by_cases hc : p.name = "chain" ∧ p.hasText "id" = true
    · rw [if_pos hc] at hid
      rw [componentName_of_chain hid]
      exact (if_pos hc).symm
    · rw [if_neg hc] at hid
      rw [componentName_of_no_chain hid]
      exact (if_neg hc).symm

/-- Staging an element that has a parser is a step of the fold. -/
lemma stage_eq_register {r : Registry} {e : Element} {p : DefinitionParser}
    (hp : r.parserFor? e.name = some p) (path : List (Element × Nat)) (staged : Table Recipe) :
    r.stage p (positionOf path) e staged = r.register staged ⟨e, path⟩ := by
  rw [stage, mode_positionOf e path, componentName_positionOf, register, hp]
  cases h : (p.parse e (modeAt ⟨e, path⟩)).result with
  | error cause =>
    rw [Traced.bind_of_error (by rw [Traced.result_mapError, h]; rfl)]
    simp [h]
  | ok recipe =>
    rw [Traced.bind_of_ok (by rw [Traced.result_mapError, h]; rfl)]
    by_cases ht : r.isTaken staged (r.nameAt staged p.kind ⟨e, path⟩) = true
    · have hm := (r.isTaken_iff staged _).mp ht
      simp [h, ht, hm]
    · have hm := (r.isTaken_iff staged _).not.mp ht
      have hk := (not_or.mp hm).2
      simp only [ht, hm, h, if_false, Table.put_of_not_mem hk]
      rfl

lemma handles_iff (r : Registry) (o : Occurrence) :
    r.handles o = true ↔
      r.parserFor? o.element.name ≠ none ∧ ∀ a ∈ o.path, r.parserFor? a.1.name = none := by
  simp [handles, ← Option.isSome_iff_ne_none]

/-- Below an element with a parser nothing is loaded. -/
lemma filter_handles_below {r : Registry} {e : Element} (he : r.parserFor? e.name ≠ none)
    (path : List (Element × Nat)) (i : Nat) (children : List Element) :
    (e.occurrencesBelow path i children).filter r.handles = [] := by
  rw [List.filter_eq_nil_iff]
  intro o ho hh
  obtain ⟨k, hk⟩ := mem_path_of_below ho
  exact he (((r.handles_iff o).mp hh).2 (e, k) hk)

lemma walk_of_handled {r : Registry} {e : Element} {p : DefinitionParser}
    (h : r.parserFor? e.name = some p) (position : Position) (staged : Table Recipe) :
    r.walk position staged e = r.stage p position e staged := by
  cases e
  simp only [walk, h]

lemma walk_of_passed {r : Registry} {e : Element} (h : r.parserFor? e.name = none)
    (position : Position) (staged : Table Recipe) :
    r.walk position staged e = r.walkChildren e 0 staged e.children := by
  cases e
  simp only [walk, h]

lemma walkChildren_eq_foldlM {r : Registry} {e : Element} {path : List (Element × Nat)}
    {children : List Element}
    (h : ∀ c ∈ children, ∀ (i : Nat) (staged : Table Recipe), r.walk ⟨some e, i⟩ staged c =
      ((c.occurrencesFrom ((e, i) :: path)).filter r.handles).foldlM r.register staged)
    (i : Nat) (staged : Table Recipe) :
    r.walkChildren e i staged children =
      ((e.occurrencesBelow path i children).filter r.handles).foldlM r.register staged := by
  induction children generalizing i staged with
  | nil => rfl
  | cons c rest ih =>
    rw [walkChildren, occurrencesBelow, List.filter_append, List.foldlM_append, h c (by simp)]
    congr 1
    funext next
    exact ih (fun d hd => h d (List.mem_cons_of_mem c hd)) (i + 1) next

/-- A walk from an element without handled ancestors folds over what is handled there. -/
theorem walk_eq_foldlM (r : Registry) {e : Element} {path : List (Element × Nat)}
    (hpath : ∀ a ∈ path, r.parserFor? a.1.name = none) (staged : Table Recipe) :
    r.walk (positionOf path) staged e =
      ((e.occurrencesFrom path).filter r.handles).foldlM r.register staged := by
  -- By induction on the tree, for all ways at once: a child is reached by a longer one, on which
  -- there is no parser either as long as the walk goes on.
  induction e using childInduction generalizing path staged with
  | step e ih =>
    rw [occurrencesFrom_eq]
    cases hp : r.parserFor? e.name with
    | some p =>
      have hn : r.parserFor? e.name ≠ none := by simp [hp]
      have hh : r.handles ⟨e, path⟩ = true := (r.handles_iff _).mpr ⟨hn, hpath⟩
      rw [List.filter_cons_of_pos hh, filter_handles_below hn, walk_of_handled hp,
        stage_eq_register hp path]
      simp
    | none =>
      have hh : ¬ r.handles ⟨e, path⟩ = true := fun h => ((r.handles_iff _).mp h).1 hp
      rw [List.filter_cons_of_neg hh, walk_of_passed hp]
      refine walkChildren_eq_foldlM ?_ 0 staged
      intro c hc i next
      have hbelow : ∀ a ∈ (e, i) :: path, r.parserFor? a.1.name = none :=
        List.forall_mem_cons.mpr ⟨hp, hpath⟩
      exact ih c hc hbelow next

/-- A load stages what the fold over the handled elements gives. -/
theorem walk_root (r : Registry) (root : Element) :
    r.walk ⟨none, 0⟩ [] root = (r.handled root).foldlM r.register [] := by
  have hpath : ∀ a ∈ ([] : List (Element × Nat)), r.parserFor? a.1.name = none := by simp
  exact r.walk_eq_foldlM hpath []

/-- A step that does not fail adds the recipe of an element that has a parser, under a name that
is not in use. -/
lemma register_cases {r : Registry} {staged next : Table Recipe} {o : Occurrence}
    (h : (r.register staged o).result = .ok next) :
    (r.parserFor? o.element.name = none ∧ next = staged) ∨
      ∃ p recipe, r.parserFor? o.element.name = some p ∧
        (p.parse o.element (modeAt o)).result = .ok recipe ∧
        r.nameAt staged p.kind o ∉ r.names ∧ r.nameAt staged p.kind o ∉ staged.keys ∧
        next = staged ++ [(r.nameAt staged p.kind o, recipe)] := by
  rw [register] at h
  cases hp : r.parserFor? o.element.name with
  | none =>
    rw [hp] at h
    cases h
    exact .inl ⟨rfl, rfl⟩
  | some p =>
    rw [hp] at h
    cases hr : (p.parse o.element (modeAt o)).result with
    | error cause =>
      simp only [hr] at h
      cases h
    | ok recipe =>
      simp only [hr] at h
      split at h
      · cases h
      · next hn =>
        obtain ⟨hn', hs⟩ := not_or.mp hn
        cases h
        exact .inr ⟨p, recipe, rfl, hr, hn', hs, rfl⟩

/-- Staged names repeat neither each other nor names of the registry. -/
theorem fresh_of_register {r : Registry} {l : List Occurrence} {staged : Table Recipe}
    (h : (l.foldlM r.register []).result = .ok staged) : r.definitions.Fresh staged := by
  refine Traced.foldlM_induction (fun _ => r.definitions.Fresh) ?_ (Table.fresh_nil _) h
  intro before o staged next hs hstep
  obtain ⟨-, rfl⟩ | ⟨p, recipe, -, -, hr, hk, rfl⟩ := register_cases hstep
  · exact hs
  · refine hs.append (Table.fresh_singleton ?_)
    rw [Table.mem_keys_append]
    exact not_or.mpr ⟨hr, hk⟩

/-- What holds of all recipes that parsers make holds of all that are staged. -/
theorem forall_of_register {r : Registry} {P : Recipe → Prop}
    (hparse : ∀ p ∈ r.parsers, ∀ e mode recipe, (p.parse e mode).result = .ok recipe → P recipe)
    {l : List Occurrence} {staged : Table Recipe}
    (h : (l.foldlM r.register []).result = .ok staged) : ∀ d ∈ staged, P d.2 := by
  refine Traced.foldlM_induction (fun _ staged => ∀ d ∈ staged, P d.2) ?_ (List.forall_mem_nil _) h
  intro before o staged next hs hstep
  obtain ⟨-, rfl⟩ | ⟨p, recipe, hp, hrecipe, -, -, rfl⟩ := register_cases hstep
  · exact hs
  · have hmem := List.mem_of_find?_eq_some hp
    exact List.forall_mem_append.mpr
      ⟨hs, List.forall_mem_singleton.mpr (hparse p hmem _ _ _ hrecipe)⟩

lemma exists_parser_of_handled {r : Registry} {root : Element} {o : Occurrence}
    (ho : o ∈ r.handled root) : ∃ p, r.parserFor? o.element.name = some p :=
  Option.ne_none_iff_exists'.mp ((r.handles_iff o).mp (List.mem_filter.mp ho).2).1

/-- No handled element is met twice. -/
lemma nodup_handled (r : Registry) (root : Element) :
    ((r.handled root).map Occurrence.address).Nodup :=
  root.nodup_addresses.sublist (List.filter_sublist.map Occurrence.address)

/-- Every element that has a parser stages one recipe. -/
lemma length_of_steps {r : Registry} {l : List Occurrence} {staged : Table Recipe}
    (hl : ∀ o ∈ l, ∃ p, r.parserFor? o.element.name = some p)
    (h : (l.foldlM r.register []).result = .ok staged) : staged.length = l.length := by
  refine Traced.foldlM_induction (fun before staged =>
    (∀ o ∈ before, ∃ p, r.parserFor? o.element.name = some p) → staged.length = before.length)
    ?_ (fun _ => rfl) h hl
  intro before o staged next hs hstep hbefore
  have hlen := hs fun q hq => hbefore q (List.mem_append_left [o] hq)
  obtain ⟨hnone, -⟩ | ⟨p, recipe, -, -, -, -, rfl⟩ := register_cases hstep
  · obtain ⟨p, hp⟩ := hbefore o (by simp)
    cases hnone.symm.trans hp
  · simp [hlen]

/-- Every handled element stages one recipe. -/
theorem length_of_register {r : Registry} {root : Element} {staged : Table Recipe}
    (h : ((r.handled root).foldlM r.register []).result = .ok staged) :
    staged.length = (r.handled root).length :=
  length_of_steps (fun _ => exists_parser_of_handled) h

/-- A load registers the handled elements one by one, and then puts all of them behind what was
registered before. -/
theorem load_eq_foldlM (r : Registry) (root : Element) :
    r.load root = do
      let staged ← (r.handled root).foldlM r.register []
      Traced.note (.definitionsLoaded staged.length (r.size + staged.length))
      return ({ r with definitions := r.definitions ++ staged }, staged.length) := by
  rw [load, walk_root]
  apply Traced.bind_congr_ok
  intro staged h
  simp only [(fresh_of_register h).putAll_eq_append, size, List.length_append]

/-- A load that does not fail appends as many definitions as it counts, with new names. -/
theorem load_cases {r loaded : Registry} {root : Element} {n : Nat}
    (h : (r.load root).result = .ok (loaded, n)) :
    ∃ staged, ((r.handled root).foldlM r.register []).result = .ok staged ∧
      r.definitions.Fresh staged ∧ loaded = { r with definitions := r.definitions ++ staged } ∧
      n = staged.length := by
  rw [load_eq_foldlM, Traced.result_bind] at h
  cases hs : ((r.handled root).foldlM r.register []).result with
  | error e => rw [hs] at h; cases h
  | ok staged =>
    rw [hs] at h
    cases h
    exact ⟨staged, rfl, fresh_of_register hs, rfl, rfl⟩

/-- Loading a document is a fold of `register` over its handled elements. On success it counts
each of them. They are told apart by their places, which for an element with a parent is the
index among all children of that. -/
theorem load_registers_handled (r : Registry) (root : Element) :
    (r.load root = do
      let staged ← (r.handled root).foldlM r.register []
      Traced.note (.definitionsLoaded staged.length (r.size + staged.length))
      return ({ r with definitions := r.definitions ++ staged }, staged.length)) ∧
    (∀ loaded n, (r.load root).result = .ok (loaded, n) → n = (r.handled root).length) ∧
    ((r.handled root).map Occurrence.address).Nodup ∧
    ∀ o ∈ r.handled root, ∀ p, o.parent? = some p → p.children[o.index]? = some o.element := by
  refine ⟨r.load_eq_foldlM root, ?_, ?_, ?_⟩
  · intro loaded n h
    obtain ⟨staged, hs, -, -, rfl⟩ := load_cases h
    exact length_of_register hs
  · exact r.nodup_handled root
  · intro o ho p hp
    exact children_index (List.mem_filter.mp ho).1 hp

/-- Equal elements of a chain are named after their places. -/
example : (standard.after (standard.load ((Element.named "beans").withChildren
    [((Element.named "gateway").withAttribute "id" "a").withChildren [Element.named "gateway"],
      ((Element.named "chain").withAttribute "id" "c").withChildren
        [Element.named "gateway", Element.named "filter", Element.named "gateway"]]))).names =
    ["a", "c$child#0", "c$child#2"] := by rfl

end GatewayRecipes.Registry
