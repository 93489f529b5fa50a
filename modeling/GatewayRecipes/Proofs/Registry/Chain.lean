import GatewayRecipes.Proofs.Registry.Counter
import GatewayRecipes.Proofs.Registry.Taken

/-! Names in chains with ids. Such a name joins the id of the chain to that of the element by a
marker that either of them may contain, so elements of different chains can get the same one. -/
namespace GatewayRecipes.Registry
open Element

/-! Where a marker stands. -/

/-- What stands behind the id of a chain. -/
def marker : List Char := ['$', 'c', 'h', 'i', 'l', 'd']

/-- No end of the marker is a beginning of it. -/
lemma marker_overlap {a b s s' : List Char} (h : marker = a ++ b) (hs : marker ++ s = b ++ s')
    (hb : b ≠ []) : a = [] := by
  obtain ⟨c, b, rfl⟩ := List.exists_cons_of_ne_nil hb
  have hc : c = '$' := (List.cons_eq_cons.mp hs).1.symm
  have hmarker : ∀ t ∈ marker.tails, t.head? = some '$' → t = marker := by decide
  have htail := hmarker (c :: b) ((List.mem_tails _ _).mpr ⟨a, h.symm⟩) (congrArg some hc)
  rwa [htail, List.self_eq_append_left] at h

/-- Behind one marker there is another one, or it is the same. -/
lemma marker_split {t s s' : List Char} (h : marker ++ s = t ++ (marker ++ s')) :
    t = [] ∧ s = s' ∨ ∃ w, t = marker ++ w ∧ s = w ++ (marker ++ s') := by
  rcases List.append_eq_append_iff.mp h with hw | ⟨b, ht, hb⟩
  · exact .inr hw
  · by_cases hnil : b = []
    · rw [hnil, List.append_nil] at ht
      rw [hnil, List.nil_append] at hb
      exact .inr ⟨[], by rw [ht, List.append_nil], hb.symm⟩
    · obtain rfl := marker_overlap ht hb hnil
      exact .inl ⟨rfl, List.append_cancel_left h⟩

/-! Names of elements in chains. -/

/-- What an element that stands directly in a chain with an id is named after: the id of the chain,
its own id, and its place where it has none. -/
structure Member where
  chain : String
  id : Option String
  index : Nat

namespace Member

/-- What stands behind the marker. -/
def label (m : Member) : String :=
  match m.id with
  | some id => "." ++ id
  | none => "#" ++ toString m.index

def name (m : Member) : String :=
  match m.id with
  | some id => m.chain ++ "$child." ++ id
  | none => m.chain ++ "$child#" ++ toString m.index

/-- Chain ids are equal, and so are own ids or, where there are none, places. -/
def Same (m m' : Member) : Prop :=
  m.chain = m'.chain ∧ m.id = m'.id ∧ (m.id = none → m.index = m'.index)

/-- The chain id of the second goes on from that of the first behind a marker, and what the second
would be called in a chain that has only the rest for its id is the id of the first. -/
def Nests (m m' : Member) : Prop :=
  ∃ z, m'.chain = m.chain ++ "$child." ++ z ∧ m.id = some ({ m' with chain := z } : Member).name

lemma toList_name (m : Member) :
    m.name.toList = m.chain.toList ++ (marker ++ m.label.toList) := by
  rw [name, label]
  cases m.id with
  | some id => simp [marker]
  | none => simp [marker]

lemma label_eq_iff (m m' : Member) :
    m.label = m'.label ↔ m.id = m'.id ∧ (m.id = none → m.index = m'.index) := by
  have hne (a b : String) : "." ++ a ≠ "#" ++ b := by
    intro h
    have hhead := congrArg (·.toList.head?) h
    simp at hhead
  cases hid : m.id with
  | some id =>
    cases hid' : m'.id with
    | some id' => simp [label, hid, hid', String.append_right_inj]
    | none => simp [label, hid, hid', hne]
  | none =>
    cases hid' : m'.id with
    | some id' => simp [label, hid, hid', (hne _ _).symm]
    | none =>
      simp only [label, hid, hid', String.append_right_inj, toString_injective.eq_iff, true_and,
        forall_const]

/-- Behind a marker there is one more only in an id, and not in a place. -/
lemma exists_of_label {m : Member} {w s : List Char} (h : m.label.toList = w ++ (marker ++ s)) :
    ∃ z, w = '.' :: z ∧ m.id = some (String.ofList (z ++ (marker ++ s))) := by
  rw [label] at h
  cases hid : m.id with
  | some id =>
    have hcons : '.' :: id.toList = w ++ (marker ++ s) := by simpa [hid] using h
    rcases List.cons_eq_append_iff.mp hcons with ⟨-, hs⟩ | ⟨z, rfl, hz⟩
    · cases hs
    · exact ⟨z, rfl, by rw [← hz, String.ofList_toList]⟩
  | none =>
    have hcons : '#' :: Nat.toDigits 10 m.index = w ++ (marker ++ s) := by
      simpa [hid, Nat.toString_eq_ofList_toDigits] using h
    rcases List.cons_eq_append_iff.mp hcons with ⟨-, hs⟩ | ⟨z, rfl, hz⟩
    · cases hs
    · have hmem : '$' ∈ Nat.toDigits 10 m.index := by
        rw [hz]
        exact List.mem_append_right _ (List.mem_cons_self ..)
      have hdigit := Nat.isDigit_of_mem_toDigits (by decide) (by decide) hmem
      cases hdigit

lemma Nests.name_eq {m m' : Member} (h : m.Nests m') : m.name = m'.name := by
  obtain ⟨z, hchain, hid⟩ := h
  rw [name, hid]
  simp only [name, hchain]
  cases m'.id with
  | some id => simp [String.append_assoc]
  | none => simp [String.append_assoc]

/-- Behind the chain id of one, the chain id of the other can only go on by a marker. -/
lemma nests_of_split {m m' : Member} {w : List Char}
    (hchain : m'.chain.toList = m.chain.toList ++ (marker ++ w))
    (hlabel : m.label.toList = w ++ (marker ++ m'.label.toList)) : m.Nests m' := by
  obtain ⟨z, rfl, hid⟩ := exists_of_label hlabel
  refine ⟨String.ofList z, ?_, ?_⟩
  · rw [← String.toList_inj, hchain]
    simp [marker]
  · rw [hid, Option.some.injEq, ← String.toList_inj, toList_name, String.toList_ofList,
      String.toList_ofList]
    rfl

lemma same_or_nests_of_split {m m' : Member} {t : List Char}
    (hchain : m'.chain.toList = m.chain.toList ++ t)
    (ht : marker ++ m.label.toList = t ++ (marker ++ m'.label.toList)) :
    m.Same m' ∨ m.Nests m' := by
  obtain ⟨rfl, hlabel⟩ | ⟨w, rfl, hlabel⟩ := marker_split ht
  · rw [List.append_nil] at hchain
    exact .inl ⟨(String.toList_inj.mp hchain).symm,
      (label_eq_iff m m').mp (String.toList_inj.mp hlabel)⟩
  · exact .inr (nests_of_split hchain hlabel)

lemma Same.symm {m m' : Member} (h : m.Same m') : m'.Same m := by
  obtain ⟨hchain, hid, hindex⟩ := h
  exact ⟨hchain.symm, hid.symm, fun hnone => (hindex (hid.trans hnone)).symm⟩

lemma Same.name_eq {m m' : Member} (h : m.Same m') : m.name = m'.name := by
  obtain ⟨hchain, hid, hindex⟩ := h
  rw [name, name, hchain, ← hid]
  cases hm : m.id with
  | some id => rfl
  | none => rw [hindex hm]

/-- Names are equal exactly if they say the same or one nests in the other. -/
theorem name_eq_iff (m m' : Member) :
    m.name = m'.name ↔ m.Same m' ∨ m.Nests m' ∨ m'.Nests m := by
  constructor
  · intro h
    rw [← String.toList_inj, toList_name, toList_name] at h
    -- The chain id that ends first is the beginning of the other.
    rcases List.append_eq_append_iff.mp h with ⟨t, hchain, ht⟩ | ⟨t, hchain, ht⟩
    · exact (same_or_nests_of_split hchain ht).imp_right .inl
    · exact (same_or_nests_of_split hchain ht).imp Same.symm .inr
  · rintro (h | h | h)
    · exact h.name_eq
    · exact h.name_eq
    · exact h.name_eq.symm

/-- An element stands directly in a chain with an id, and is named after this. -/
structure Describes (m : Member) (o : Occurrence) : Prop where
  parent : ∃ parent, o.parent? = some parent ∧ parent.name = "chain" ∧
    parent.textAttribute? "id" = some m.chain
  id : o.element.textAttribute? "id" = m.id
  index : o.index = m.index

/-- The name of such an element depends on nothing else, and not on what has been loaded. -/
lemma Describes.nameAt_eq {m : Member} {o : Occurrence} (h : m.Describes o) (r : Registry)
    (staged : Table Recipe) (kind : RecipeKind) : r.nameAt staged kind o = m.name := by
  obtain ⟨parent, hparent, hname, hchain⟩ := h.parent
  obtain ⟨htext, hvalue⟩ := hasText_of_textAttribute? hchain
  simp only [nameAt, hparent, hname, htext, hvalue, and_self, if_true]
  rw [name, ← h.id, ← h.index, textAttribute?_eq]
  cases o.element.hasText "id" with
  | true => rfl
  | false => rfl

end Member

lemma ComesTo.name_eq {r : Registry} {call : LoadCall} {before : List Occurrence}
    {staged : Table Recipe} {o : Occurrence} {name : String}
    (h : r.ComesTo call before staged o name) {m : Member} (hm : m.Describes o) :
    m.name = name := by
  obtain ⟨p, -, hname⟩ := h.named
  rw [← hname, hm.nameAt_eq]

lemma HasName.name_eq {r : Registry} {calls : List LoadCall} {call : LoadCall}
    {before : List Occurrence} {o : Occurrence} {name : String}
    (h : r.HasName calls call before o name) {m : Member} (hm : m.Describes o) :
    m.name = name := by
  cases h with
  | registered split succeeded named => exact named.name_eq hm
  | staged split named => exact named.name_eq hm

/-- In a chain with an id, the name of an element tells what it is named after, unless elements
nest in each other. So when a name in use is reported for such an element, another one that has it
was loaded before. If that stands in a chain with an id too, both are named after the same, or one
nests in the other. -/
theorem chain_names (parsers : List DefinitionParser) (calls : List LoadCall) :
    (∀ (r : Registry) (staged : Table Recipe) (kind : RecipeKind) (m : Member) (o : Occurrence),
      m.Describes o → r.componentName staged kind (positionOf o.path) o.element = m.name) ∧
    (∀ m m' : Member, m.name = m'.name ↔ m.Same m' ∨ m.Nests m' ∨ m'.Nests m) ∧
    let r := (built parsers).afterAll calls
    ∀ (call : LoadCall) report name, (call.run r).result = .error report →
      report.cause = .duplicateComponent name →
      ∃ before staged o q, r.NameTaken call before staged o name ∧
        (built parsers).HasName calls call before q name ∧
        ∀ m m' : Member, m.Describes o → m'.Describes q →
          m.Same m' ∨ m.Nests m' ∨ m'.Nests m := by
  refine ⟨?_, Member.name_eq_iff, ?_⟩
  · intro r staged kind m o hm
    rw [componentName_positionOf]
    exact hm.nameAt_eq r staged kind
  · intro r call report name herror hcause
    obtain ⟨before, staged, o, htaken, -⟩ := exists_nameTaken herror hcause
    obtain ⟨q, hq⟩ := exists_hasName htaken
    refine ⟨before, staged, o, q, htaken, hq, fun m m' hm hm' => ?_⟩
    rw [← Member.name_eq_iff, htaken.name_eq hm, hq.name_eq hm']

def inChain (id : String) (e : Element) : Element :=
  ((Element.named "chain").withAttribute "id" id).withChildren [e]

/-- Of two gateways only the outer one has an id. The other gets the same name and is refused in a
later load. -/
theorem chain_names_nested :
    let outer := (Element.named "gateway").withAttribute "id" "b$child#0"
    let first := LoadCall.element (inChain "a" outer)
    let second := LoadCall.element (inChain "a$child.b" (Element.named "gateway"))
    let r := (built [.gateway]).afterAll [first]
    Member.Nests ⟨"a", some "b$child#0", 0⟩ ⟨"a$child.b", none, 0⟩ ∧
    (second.run r).result =
      .error ⟨["registering <gateway>"], .duplicateComponent "a$child.b$child#0"⟩ ∧
    ∃ before staged o q, r.NameTaken second before staged o "a$child.b$child#0" ∧
      (built [.gateway]).HasName [first] second before q "a$child.b$child#0" := by
  intro outer first second r
  have herror : (second.run r).result =
      .error ⟨["registering <gateway>"], .duplicateComponent "a$child.b$child#0"⟩ := by rfl
  refine ⟨⟨"b", rfl, rfl⟩, herror, ?_⟩
  obtain ⟨before, staged, o, q, htaken, hq, -⟩ :=
    (chain_names [.gateway] [first]).2.2 second _ _ herror rfl
  exact ⟨before, staged, o, q, htaken, hq⟩

/-- An id that contains the marker gives an element the name of one in another chain. -/
theorem chain_names_not_injective :
    let outer := (Element.named "gateway").withAttribute "id" "b$child.c"
    let inner := (Element.named "gateway").withAttribute "id" "c"
    let document := (Element.named "beans").withChildren
      [inChain "a" outer, inChain "a$child.b" inner]
    let m : Member := ⟨"a", some "b$child.c", 0⟩
    let m' : Member := ⟨"a$child.b", some "c", 0⟩
    (∃ o o', standard.handled document = [o, o'] ∧ m.Describes o ∧ m'.Describes o' ∧
      m.chain ≠ m'.chain ∧ m.id ≠ m'.id ∧
      ∀ staged kind, standard.componentName staged kind (positionOf o.path) o.element =
        standard.componentName staged kind (positionOf o'.path) o'.element) ∧
    (standard.load document).result =
      .error ⟨["registering <gateway id=\"c\">"], .duplicateComponent "a$child.b$child.c"⟩ := by
  intro outer inner document m m'
  refine ⟨⟨_, _, rfl, ⟨⟨_, rfl, rfl, rfl⟩, rfl, rfl⟩, ⟨⟨_, rfl, rfl, rfl⟩, rfl, rfl⟩, by decide,
    by decide, fun staged kind => rfl⟩, rfl⟩

end GatewayRecipes.Registry
