import GatewayRecipes.Proofs.Registry.Counter
import GatewayRecipes.Proofs.Registry.Failure

/-! Documents whose gateways have ids of their own choice or none. A generated name never meets an
id that comes before it, and one that comes later only by a counter that has been given out. -/
namespace GatewayRecipes.Registry
open Element

/-! Gateways under names of their own. -/

/-- Whether an element is loaded as a gateway, under its id or a generated name. -/
def OwnNamed (r : Registry) (o : Occurrence) : Prop :=
  r.parserFor? o.element.name = some .gateway ∧
    ∀ staged, r.nameAt staged .gatewayProxyFactory o =
      r.ownName staged .gatewayProxyFactory o.element

section
variable {r : Registry} {before after : List Occurrence} {o : Occurrence}
  {staged next : Table Recipe}

lemma ownName_of_id {e : Element} {id : String} (h : e.textAttribute? "id" = some id)
    (r : Registry) (staged : Table Recipe) (kind : RecipeKind) : r.ownName staged kind e = id := by
  obtain ⟨htext, hvalue⟩ := hasText_of_textAttribute? h
  rw [ownName, if_pos htext, hvalue]

lemma ownName_of_no_id {e : Element} (h : e.textAttribute? "id" = none) (r : Registry)
    (staged : Table Recipe) (kind : RecipeKind) :
    r.ownName staged kind e = r.generatedName staged kind := by
  rw [ownName, hasText, h, if_neg (by simp)]

/-- Only a chain with an id gives its gateways other names. -/
lemma nameAt_eq_ownName
    (h : ∀ p, o.parent? = some p → p.name = "chain" → p.hasText "id" = false) (r : Registry)
    (staged : Table Recipe) (kind : RecipeKind) :
    r.nameAt staged kind o = r.ownName staged kind o.element := by
  unfold nameAt
  split
  · next p hp => exact if_neg fun hc => by simp [h p hp hc.1] at hc
  · rfl

/-- A step without failure stages such a gateway under its own name. -/
lemma exists_staged_of_register (ho : r.OwnNamed o)
    (h : (r.register staged o).result = .ok next) :
    ∃ recipe, r.ownName staged .gatewayProxyFactory o.element ∉ staged.keys ∧
      next = staged ++ [(r.ownName staged .gatewayProxyFactory o.element, recipe)] := by
  obtain ⟨hnone, -⟩ | ⟨p, recipe, hp, -, -, hfree, rfl⟩ := register_cases h
  · rw [ho.1] at hnone
    cases hnone
  · obtain rfl : DefinitionParser.gateway = p := Option.some.inj (ho.1.symm.trans hp)
    rw [← ho.2 staged]
    exact ⟨recipe, hfree, rfl⟩

/-- It gives out a counter or none. -/
lemma numbered_register (ho : r.OwnNamed o) {counters : List Nat}
    (h : Numbered .gatewayProxyFactory r.names before staged counters)
    (hstep : (r.register staged o).result = .ok next) :
    ∃ counters, Numbered .gatewayProxyFactory r.names (before ++ [o]) next counters := by
  obtain ⟨recipe, hfree, rfl⟩ := exists_staged_of_register ho hstep
  cases hid : o.element.textAttribute? "id" with
  | some id =>
    rw [ownName_of_id hid] at hfree ⊢
    exact ⟨counters, h.snoc_named hid hfree recipe⟩
  | none =>
    obtain ⟨n, hn, hunused, hbelow⟩ := r.generatedName_cases staged .gatewayProxyFactory
    rw [ownName_of_no_id hid, hn]
    exact ⟨counters ++ [n], h.snoc_unnamed hid hunused hbelow recipe⟩

lemma exists_numbered (hbefore : ∀ o ∈ before, r.OwnNamed o)
    (h : (before.foldlM r.register []).result = .ok staged) :
    ∃ counters, Numbered .gatewayProxyFactory r.names before staged counters := by
  refine Traced.foldlM_induction (fun before staged => (∀ o ∈ before, r.OwnNamed o) →
    ∃ counters, Numbered .gatewayProxyFactory r.names before staged counters)
    ?_ (fun _ => ⟨[], .nil _ _⟩) h hbefore
  intro before o staged next ih hstep hall
  obtain ⟨counters, hn⟩ := ih fun q hq => hall q (List.mem_append_left _ hq)
  exact numbered_register (hall o (by simp)) hn hstep

/-- An id that no element before has, and no registered definition, is in use exactly if it is a
generated name that was given out: there is less room below its counter than elements to be named
before. -/
theorem mem_keys_iff_room (hbefore : ∀ o ∈ before, r.OwnNamed o)
    (h : (before.foldlM r.register []).result = .ok staged) {id : String}
    (hid : id ∉ r.names ++ ids before) :
    id ∈ staged.keys ↔ ∃ n, id = counted .gatewayProxyFactory n ∧
      room .gatewayProxyFactory (r.names ++ ids before) n < unnamed before := by
  obtain ⟨counters, hn⟩ := exists_numbered hbefore h
  rw [hn.mem_keys]
  constructor
  · rintro (hmem | ⟨n, hmem, rfl⟩)
    · exact absurd (List.mem_append_right _ hmem) hid
    · exact ⟨n, rfl, (hn.mem_iff hid).mp hmem⟩
  · rintro ⟨n, rfl, hroom⟩
    exact .inr ⟨n, (hn.mem_iff hid).mpr hroom, rfl⟩

/-- A gateway that translates is refused under its own name only if that is an id in use. -/
lemma register_error (ho : r.OwnNamed o) {recipe : Recipe}
    (htranslate : (Gateway.translate (modeAt o) o.element).result = .ok recipe) {report : Report}
    (h : (r.register staged o).result = .error report) :
    ∃ id, o.element.textAttribute? "id" = some id ∧ (id ∈ r.names ∨ id ∈ staged.keys) ∧
      report = ⟨["registering " ++ describe o.element], .duplicateComponent id⟩ := by
  cases register_eq_error_iff.mp h with
  | untranslated hp failed =>
    cases ho.1.symm.trans hp
    cases htranslate.symm.trans failed
  | taken hp parsed inUse =>
    cases ho.1.symm.trans hp
    have hname : r.nameAt staged DefinitionParser.gateway.kind o =
        r.ownName staged .gatewayProxyFactory o.element := ho.2 staged
    rw [hname] at inUse ⊢
    cases hid : o.element.textAttribute? "id" with
    | some id =>
      rw [ownName_of_id hid] at inUse ⊢
      exact ⟨id, rfl, inUse, rfl⟩
    | none =>
      -- Generated names are free.
      obtain ⟨n, hn, hfree, -⟩ := r.generatedName_cases staged .gatewayProxyFactory
      rw [ownName_of_no_id hid, hn, ← List.mem_append] at inUse
      exact absurd inUse hfree

end

/-! Loads of gateways. -/

section
variable {r : Registry} {root : Element}

/-- A document of gateways, all of which translate, and in which no chain has an id. Ids of its
gateways are distinct, and no definition of the registry has one of them as its name. -/
structure Nameable (r : Registry) (root : Element) : Prop where
  gateways : ∀ o ∈ r.handled root, r.parserFor? o.element.name = some .gateway
  chains : ∀ o ∈ root.occurrences, o.element.name = "chain" → o.element.hasText "id" = false
  translated : ∀ o ∈ r.handled root, (Gateway.translate (modeAt o) o.element).result.isOk = true
  distinct : (ids (r.handled root)).Nodup
  unregistered : ∀ id ∈ ids (r.handled root), id ∉ r.names

namespace Nameable
variable {before after : List Occurrence} {o : Occurrence}

lemma ownNamed (h : r.Nameable root) (ho : o ∈ r.handled root) : r.OwnNamed o := by
  refine ⟨h.gateways o ho, fun staged => nameAt_eq_ownName (fun parent hparent => ?_) _ _ _⟩
  obtain ⟨q, hq, rfl⟩ := parent_mem (List.mem_filter.mp ho).1 hparent
  exact h.chains q hq

lemma ownNamed_before (h : r.Nameable root) (hsplit : r.handled root = before ++ o :: after) :
    ∀ q ∈ before, r.OwnNamed q :=
  fun _ hq => h.ownNamed (hsplit ▸ List.mem_append_left _ hq)

lemma exists_recipe (h : r.Nameable root) (ho : o ∈ r.handled root) :
    ∃ recipe, (Gateway.translate (modeAt o) o.element).result = .ok recipe := by
  have hok := h.translated o ho
  cases hr : (Gateway.translate (modeAt o) o.element).result with
  | error e => rw [hr] at hok; cases hok
  | ok recipe => exact ⟨recipe, rfl⟩

/-- No element before has the id, and neither has a definition of the registry. -/
lemma id_not_mem (h : r.Nameable root) (hsplit : r.handled root = before ++ o :: after)
    {id : String} (hid : o.element.textAttribute? "id" = some id) : id ∉ r.names ++ ids before := by
  have hids : ids (r.handled root) = ids before ++ id :: ids after := by
    rw [hsplit, ids_append, ids, ids, List.filterMap_cons, hid]
    rfl
  have hdistinct := hids ▸ h.distinct
  rw [List.mem_append, not_or]
  refine ⟨h.unregistered id (hids ▸ by simp), fun hm => ?_⟩
  exact (List.nodup_append.mp hdistinct).2.2 id hm id (List.mem_cons_self ..) rfl

end Nameable

/-- Whether the counter in an id is given out before its element comes: fewer counters below it
are free than elements without an id stand before. -/
def Overtaken (r : Registry) (root : Element) (o : Occurrence) (n : Nat) : Prop :=
  ∃ before after, r.handled root = before ++ o :: after ∧
    o.element.textAttribute? "id" = some (counted .gatewayProxyFactory n) ∧
    room .gatewayProxyFactory (r.names ++ ids before) n < unnamed before

lemma not_overtaken_of_register (h : r.Nameable root) {staged : Table Recipe}
    (hok : ((r.handled root).foldlM r.register []).result = .ok staged) (o : Occurrence)
    (n : Nat) : ¬ r.Overtaken root o n := by
  rintro ⟨before, after, hsplit, hid, hroom⟩
  obtain ⟨c, d, hc, hd⟩ := Traced.foldlM_split (hsplit ▸ hok)
  have ho := h.ownNamed (o := o) (hsplit ▸ by simp)
  obtain ⟨recipe, hfree, -⟩ := exists_staged_of_register ho hd
  rw [ownName_of_id hid] at hfree
  exact hfree ((mem_keys_iff_room (h.ownNamed_before hsplit) hc
    (h.id_not_mem hsplit hid)).mpr ⟨n, rfl, hroom⟩)

lemma overtaken_of_register (h : r.Nameable root) {before after : List Occurrence}
    {o : Occurrence} {staged : Table Recipe} {report : Report}
    (hsplit : r.handled root = before ++ o :: after)
    (hbefore : (before.foldlM r.register []).result = .ok staged)
    (ho : (r.register staged o).result = .error report) :
    ∃ n, r.Overtaken root o n ∧
      report = ⟨["registering " ++ describe o.element],
        .duplicateComponent (counted .gatewayProxyFactory n)⟩ := by
  have hmem : o ∈ r.handled root := hsplit ▸ by simp
  obtain ⟨recipe, htranslate⟩ := h.exists_recipe hmem
  obtain ⟨id, hid, htaken, rfl⟩ := register_error (h.ownNamed hmem) htranslate ho
  have hnew := h.id_not_mem hsplit hid
  have hkeys := htaken.resolve_left fun hm => hnew (List.mem_append_left _ hm)
  obtain ⟨n, rfl, hroom⟩ :=
    (mem_keys_iff_room (h.ownNamed_before hsplit) hbefore hnew).mp hkeys
  exact ⟨n, ⟨before, after, hsplit, hid, hroom⟩, rfl⟩

end

/-- Gateways with distinct new ids, or none, are loaded unless one of these ids is a generated name
that was given out before. A load that fails reports such an id. -/
theorem load_succeeds_iff (r : Registry) (root : Element) (nameable : r.Nameable root) :
    ((∃ loaded n, (r.load root).result = .ok (loaded, n)) ↔ ∀ o n, ¬ r.Overtaken root o n) ∧
    ∀ report, (r.load root).result = .error report →
      ∃ o n, r.Overtaken root o n ∧ report = ⟨["registering " ++ describe o.element],
        .duplicateComponent (counted .gatewayProxyFactory n)⟩ := by
  have hload := r.result_load root
  obtain ⟨staged, hok⟩ | ⟨before, o, after, staged, report, hsplit, hbefore, ho, herror⟩ :=
    Traced.foldlM_cases r.register (r.handled root) []
  · rw [hok] at hload
    refine ⟨⟨fun _ => not_overtaken_of_register nameable hok, fun _ => ⟨_, _, hload⟩⟩, ?_⟩
    intro report he
    rw [hload] at he
    cases he
  · rw [herror] at hload
    obtain ⟨n, hn, rfl⟩ := overtaken_of_register nameable hsplit hbefore ho
    refine ⟨⟨fun ⟨_, _, hok⟩ => ?_, fun hnone => absurd hn (hnone o n)⟩, fun report he => ?_⟩
    · rw [hload] at hok
      cases hok
    · rw [hload] at he
      cases he
      exact ⟨o, n, hn, rfl⟩

def gatewaysOf (names : List (Option String)) : Element :=
  (Element.named "beans").withChildren (names.map fun
    | some id => (Element.named "gateway").withAttribute "id" id
    | none => Element.named "gateway")

/-- Behind one gateway without an id, the second counter may be an id and the first one may not. -/
theorem load_succeeds_iff_second :
    let second := gatewaysOf [none, some "gateway-proxy-factory#1", none]
    let first := gatewaysOf [none, some "gateway-proxy-factory#0", none]
    ((standard.extend []).Nameable second ∧
      (∃ loaded, ((standard.extend []).load second).result = .ok (loaded, 3)) ∧
      ∀ o n, ¬ (standard.extend []).Overtaken second o n) ∧
    (standard.extend []).Nameable first ∧ ∃ o n, (standard.extend []).Overtaken first o n := by
  intro second first
  have hsecond : (standard.extend []).Nameable second :=
    ⟨parserFor?_of_handled, by decide, by decide, by decide, by decide⟩
  have hfirst : (standard.extend []).Nameable first :=
    ⟨parserFor?_of_handled, by decide, by decide, by decide, by decide⟩
  obtain ⟨loaded, hok⟩ :
      ∃ loaded, ((standard.extend []).load second).result = .ok (loaded, 3) := ⟨_, rfl⟩
  have herror : ((standard.extend []).load first).result =
      .error ⟨["registering <gateway id=\"gateway-proxy-factory#0\">"],
        .duplicateComponent "gateway-proxy-factory#0"⟩ := by rfl
  refine ⟨⟨hsecond, ⟨loaded, hok⟩, ?_⟩, hfirst, ?_⟩
  · exact (load_succeeds_iff _ second hsecond).1.mp ⟨_, _, hok⟩
  · obtain ⟨o, n, h, -⟩ := (load_succeeds_iff _ first hfirst).2 _ herror
    exact ⟨o, n, h⟩

/-- A generated name may stand in the way of an id that comes later. -/
theorem nameable_not_loaded :
    ¬ ∀ (definitions : Table Recipe) (root : Element), (standard.extend definitions).Nameable root →
      ∃ loaded n, ((standard.extend definitions).load root).result = .ok (loaded, n) := by
  intro h
  let root := gatewaysOf [none, some "gateway-proxy-factory#0"]
  have herror : ((standard.extend []).load root).result =
      .error ⟨["registering <gateway id=\"gateway-proxy-factory#0\">"],
        .duplicateComponent "gateway-proxy-factory#0"⟩ := by rfl
  obtain ⟨loaded, n, hok⟩ := h [] root
    ⟨parserFor?_of_handled, by decide, by decide, by decide, by decide⟩
  cases herror.symm.trans hok

end GatewayRecipes.Registry
