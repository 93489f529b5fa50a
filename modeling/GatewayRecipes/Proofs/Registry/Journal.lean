import GatewayRecipes.Proofs.Gateway.Diagnostics
import GatewayRecipes.Proofs.Registry.Failure
import Mathlib.Data.List.Flatten

/-! What a registry reports of its loads, against what it holds. A definition is reported when it is
staged, and staged definitions are dropped if a later element of their document is refused. Their
reports stay. -/
namespace GatewayRecipes

/-- The component names that notices call registered. -/
def registrations (notices : List Notice) : List String :=
  notices.filterMap fun
    | .definitionRegistered component _ _ => some component
    | _ => none

/-- The loads that notices report, with their counts and totals. -/
def loadReports (notices : List Notice) : List (Nat × Nat) :=
  notices.filterMap fun
    | .definitionsLoaded count total => some (count, total)
    | _ => none

@[simp] lemma registrations_append (a b : List Notice) :
    registrations (a ++ b) = registrations a ++ registrations b := by simp [registrations]

@[simp] lemma loadReports_append (a b : List Notice) :
    loadReports (a ++ b) = loadReports a ++ loadReports b := by simp [loadReports]

/-- Elements that are left out add nothing to a list of lists exactly if their lists are empty. -/
lemma flatMap_filter_eq_iff {α β : Type} {l : List α} {p : α → Bool} {f : α → List β} :
    (l.filter p).flatMap f = l.flatMap f ↔ ∀ a ∈ l, ¬ p a = true → f a = [] := by
  induction l with
  | nil => simp
  | cons a rest ih =>
    rw [List.forall_mem_cons, ← ih, List.flatMap_cons]
    by_cases h : p a = true
    · simp [h]
    · have hlength := ((List.filter_sublist (p := p) (l := rest)).flatMap f).length_le
      rw [List.filter_cons_of_neg h]
      constructor
      · intro heq
        have hsum := congrArg List.length heq
        rw [List.length_append] at hsum
        have hnil : f a = [] := List.length_eq_zero_iff.mp (by omega)
        exact ⟨fun _ => hnil, by simpa [hnil] using heq⟩
      · rintro ⟨hnil, heq⟩
        rw [hnil h, heq, List.nil_append]

def Notice.ofRegistry : Notice → Bool
  | .definitionRegistered .. => true
  | .definitionsLoaded .. => true
  | _ => false

lemma Notice.level_of_ofRegistry {n : Notice} (h : n.ofRegistry = true) : n.level = .debug := by
  cases n with
  | methodRepeated method => cases h
  | gatewayTranslated mode id properties => rfl
  | parseCalled element id mode => rfl
  | definitionRegistered component kind mode => rfl
  | definitionsLoaded count total => rfl

/-- Whether none of some notices is for registries to give. -/
def Foreign (notices : List Notice) : Prop := ∀ n ∈ notices, n.ofRegistry = false

section
variable {notices : List Notice}

lemma Foreign.registrations_eq_nil (h : Foreign notices) : registrations notices = [] := by
  rw [registrations, List.filterMap_eq_nil_iff]
  intro n hn
  cases n with
  | definitionRegistered component kind mode => cases h _ hn
  | _ => rfl

lemma Foreign.loadReports_eq_nil (h : Foreign notices) : loadReports notices = [] := by
  rw [loadReports, List.filterMap_eq_nil_iff]
  intro n hn
  cases n with
  | definitionsLoaded count total => cases h _ hn
  | _ => rfl

end

namespace DefinitionParser

/-- Whether a parser leaves the notices of registries to these. -/
def Quiet (p : DefinitionParser) : Prop := ∀ e mode, Foreign (p.parse e mode).notices

lemma quiet_gateway : gateway.Quiet := by
  intro e mode n hn
  change n ∈ (Gateway.translate mode e).notices at hn
  by_cases h : e.name = "gateway"
  · rw [Gateway.notices_translate h, List.mem_append] at hn
    obtain hmethod | hsummary := hn
    · have hwarn := Gateway.level_of_mem_methodNotices hmethod
      rw [← Bool.not_eq_true]
      intro hregistry
      cases hwarn.symm.trans (Notice.level_of_ofRegistry hregistry)
    · obtain ⟨recipe, -, rfl⟩ := Option.map_eq_some_iff.mp (Option.mem_toList.mp hsummary)
      rfl
  · rw [Gateway.translate, if_neg h] at hn
    cases hn

lemma quiet_recording {p : DefinitionParser} (h : p.Quiet) : p.recording.Quiet := by
  intro e mode n hn
  obtain rfl | hinner := List.mem_cons.mp hn
  · rfl
  · exact h e mode n hinner

lemma quiet_marking (element : String) (kind : RecipeKind) (marker : String) :
    (marking element kind marker).Quiet := by
  intro e mode n hn
  cases hn

end DefinitionParser

namespace Registry
open Element

/-- Whether all parsers leave the notices of registries to these. -/
def Quiet (r : Registry) : Prop := ∀ p ∈ r.parsers, p.Quiet

/-! A step. -/

section
variable {r : Registry} {staged next : Table Recipe} {o : Occurrence} {report : Report}

/-- A step announces nothing and stages nothing, or announces last the one name that it stages. -/
lemma register_announces (hr : r.Quiet) (staged : Table Recipe) (o : Occurrence) :
    (Foreign (r.register staged o).notices ∧
        ∀ next, (r.register staged o).result = .ok next → next = staged) ∨
      ∃ quiet name recipe, Foreign quiet ∧ r.register staged o =
        ⟨quiet ++ [.definitionRegistered name recipe.kind (modeAt o)],
          .ok (staged ++ [(name, recipe)])⟩ := by
  rw [register]
  cases hp : r.parserFor? o.element.name with
  | none =>
    refine .inl ⟨List.forall_mem_nil _, ?_⟩
    rintro _ ⟨⟩
    rfl
  | some p =>
    have hquiet := hr p (List.mem_of_find?_eq_some hp) o.element (modeAt o)
    simp only
    cases (p.parse o.element (modeAt o)).result with
    | error cause =>
      refine .inl ⟨hquiet, ?_⟩
      rintro _ ⟨⟩
    | ok recipe =>
      simp only
      split
      · refine .inl ⟨hquiet, ?_⟩
        rintro _ ⟨⟩
      · exact .inr ⟨_, _, recipe, hquiet, rfl⟩

/-- A step that succeeds announces the names that it stages. -/
lemma keys_register (hr : r.Quiet) (h : (r.register staged o).result = .ok next) :
    next.keys = staged.keys ++ registrations (r.register staged o).notices := by
  obtain ⟨hquiet, hsame⟩ | ⟨quiet, name, recipe, hquiet, hstep⟩ := register_announces hr staged o
  · rw [hsame next h, hquiet.registrations_eq_nil, List.append_nil]
  · rw [hstep] at h ⊢
    cases h
    rw [registrations_append, hquiet.registrations_eq_nil, Table.keys_append]
    rfl

/-- A step that fails announces nothing. -/
lemma registrations_register_of_error (hr : r.Quiet)
    (h : (r.register staged o).result = .error report) :
    registrations (r.register staged o).notices = [] := by
  obtain ⟨hquiet, -⟩ | ⟨quiet, name, recipe, -, hstep⟩ := register_announces hr staged o
  · exact hquiet.registrations_eq_nil
  · rw [hstep] at h
    cases h

lemma loadReports_register (hr : r.Quiet) (staged : Table Recipe) (o : Occurrence) :
    loadReports (r.register staged o).notices = [] := by
  obtain ⟨hquiet, -⟩ | ⟨quiet, name, recipe, hquiet, hstep⟩ := register_announces hr staged o
  · exact hquiet.loadReports_eq_nil
  · rw [hstep, loadReports_append, hquiet.loadReports_eq_nil]
    rfl

end

/-! The steps of a load. -/

section
variable {r : Registry} {staged next : Table Recipe} {l before after : List Occurrence}
  {o : Occurrence} {report : Report}

lemma keys_foldlM_register (hr : r.Quiet) (h : (l.foldlM r.register staged).result = .ok next) :
    next.keys = staged.keys ++ registrations (l.foldlM r.register staged).notices := by
  induction l generalizing staged with
  | nil =>
    cases h
    exact (List.append_nil _).symm
  | cons o rest ih =>
    rw [List.foldlM_cons] at h ⊢
    cases ho : (r.register staged o).result with
    | error report =>
      rw [Traced.bind_of_error ho] at h
      cases h
    | ok middle =>
      rw [Traced.bind_of_ok ho] at h ⊢
      rw [ih h, keys_register hr ho, registrations_append, List.append_assoc]

/-- Where steps fail, what was staged until then is announced, and nothing else. -/
lemma registrations_foldlM_register_of_error (hr : r.Quiet)
    (hbefore : (before.foldlM r.register []).result = .ok staged)
    (ho : (r.register staged o).result = .error report) :
    registrations ((before ++ o :: after).foldlM r.register []).notices = staged.keys := by
  rw [List.foldlM_append, Traced.bind_of_ok hbefore, List.foldlM_cons, Traced.bind_of_error ho,
    registrations_append, registrations_register_of_error hr ho, List.append_nil,
    keys_foldlM_register hr hbefore]
  rfl

lemma loadReports_foldlM_register (hr : r.Quiet) (staged : Table Recipe) (l : List Occurrence) :
    loadReports (l.foldlM r.register staged).notices = [] := by
  induction l generalizing staged with
  | nil => rfl
  | cons o rest ih =>
    have hstep := loadReports_register hr staged o
    rw [List.foldlM_cons]
    cases ho : (r.register staged o).result with
    | error report => rw [Traced.bind_of_error ho, hstep]
    | ok middle => rw [Traced.bind_of_ok ho, loadReports_append, hstep, ih middle, List.nil_append]

end

/-! A call. -/

/-- What a call on a registry reports, by what comes of it. -/
inductive Reported (r : Registry) (call : LoadCall) : Prop
  /-- Where there is no tree to load, nothing is announced. -/
  | unread (cause : Report) (noTree : call.root? = none)
      (failed : (call.run r).result = .error cause)
      (announced : registrations (call.run r).notices = [])
      (loads : loadReports (call.run r).notices = [])
  /-- The names that are announced come behind those of the registry, and are counted. -/
  | loaded (next : Registry)
      (succeeded : (call.run r).result =
        .ok (next, (registrations (call.run r).notices).length))
      (kept : next.names = r.names ++ registrations (call.run r).notices)
      (loads : loadReports (call.run r).notices =
        [((registrations (call.run r).notices).length, next.size)])
  /-- The names of the elements before the one that is refused are announced, and are lost. -/
  | aborted (root : Element) (before after : List Occurrence) (o : Occurrence)
      (staged : Table Recipe) (cause refusal : Report) (tree : call.root? = some root)
      (failed : (call.run r).result = .error cause)
      (split : r.handled root = before ++ o :: after)
      (reached : (before.foldlM r.register []).result = .ok staged)
      (refused : r.Refused staged o refusal) (each : staged.length = before.length)
      (announced : registrations (call.run r).notices = staged.keys)
      (loads : loadReports (call.run r).notices = [])

def answers (r : Registry) : List LoadCall → List (Traced Report (Registry × Nat))
  | [] => []
  | call :: rest => call.run r :: (r.after (call.run r)).answers rest

def journal (r : Registry) (calls : List LoadCall) : List Notice :=
  (r.answers calls).flatMap (·.notices)

section
variable {r : Registry}

/-- A load that succeeds announces what it adds, and reports itself last. -/
lemma notices_load {root : Element} {staged : Table Recipe} (hr : r.Quiet)
    (h : ((r.handled root).foldlM r.register []).result = .ok staged) :
    registrations (r.load root).notices = staged.keys ∧
      loadReports (r.load root).notices = [(staged.length, r.size + staged.length)] ∧
      (r.load root).result =
        .ok ({ r with definitions := r.definitions ++ staged }, staged.length) := by
  have hnone := loadReports_foldlM_register hr [] (r.handled root)
  rw [load_eq_foldlM, Traced.bind_of_ok h, registrations_append, loadReports_append, hnone,
    keys_foldlM_register hr h]
  exact ⟨List.append_nil _, rfl, rfl⟩

/-- A load that fails announces what was staged before. -/
lemma notices_load_of_error {root : Element} {report : Report} (hr : r.Quiet)
    (h : (r.load root).result = .error report) :
    ∃ before o after staged, r.handled root = before ++ o :: after ∧
      (before.foldlM r.register []).result = .ok staged ∧ r.Refused staged o report ∧
      registrations (r.load root).notices = staged.keys ∧
      loadReports (r.load root).notices = [] := by
  have hfold := load_eq_error_iff_fold.mp h
  obtain ⟨before, o, after, staged, hsplit, hbefore, hrefused⟩ := load_eq_error_iff.mp h
  refine ⟨before, o, after, staged, hsplit, hbefore, hrefused, ?_⟩
  rw [load_eq_foldlM, Traced.bind_of_error hfold]
  refine ⟨?_, loadReports_foldlM_register hr [] _⟩
  rw [hsplit]
  exact registrations_foldlM_register_of_error hr hbefore (register_eq_error_iff.mpr hrefused)

theorem reported (hr : r.Quiet) (call : LoadCall) : r.Reported call := by
  obtain ⟨hroot, report, -, hfail⟩ | ⟨root, steps, hroot, hload⟩ := call.run_cases
  · exact .unread report hroot (by rw [hfail]; rfl) (by rw [hfail]; rfl) (by rw [hfail]; rfl)
  · have hnotices : (call.run r).notices = (r.load root).notices := by rw [hload]; rfl
    cases hresult : ((r.handled root).foldlM r.register []).result with
    | ok staged =>
      obtain ⟨hannounced, hloads, hok⟩ := notices_load hr hresult
      have hlength : (registrations (r.load root).notices).length = staged.length := by
        rw [hannounced, Table.keys, List.length_map]
      refine .loaded { r with definitions := r.definitions ++ staged } ?_ ?_ ?_
      · rw [hnotices, hlength, hload, Traced.result_mapError, hok]
        rfl
      · rw [hnotices, hannounced, names, Table.keys_append]
        rfl
      · rw [hnotices, hlength, hloads, size, size, List.length_append]
    | error report =>
      have herror := load_eq_error_iff_fold.mpr hresult
      obtain ⟨before, o, after, staged, hsplit, hbefore, hrefused, hannounced, hloads⟩ :=
        notices_load_of_error hr herror
      have hparsers : ∀ q ∈ before, ∃ p, r.parserFor? q.element.name = some p := fun q hq =>
        exists_parser_of_handled (hsplit ▸ List.mem_append_left _ hq)
      have hfail : (call.run r).result = .error ⟨steps ++ report.steps, report.cause⟩ := by
        rw [hload, Traced.result_mapError, herror]
        rfl
      exact .aborted root before after o staged _ report hroot hfail hsplit hbefore hrefused
        (length_of_steps hparsers hbefore) (hnotices ▸ hannounced) (hnotices ▸ hloads)

lemma quiet_afterAll (hr : r.Quiet) (calls : List LoadCall) : (r.afterAll calls).Quiet := by
  obtain ⟨added, -, -, h⟩ := r.afterAll_eq_append calls
  rw [h]
  exact hr

lemma names_after_of_ok {outcome : Registry × Nat} (hr : r.Quiet) {call : LoadCall}
    (h : (call.run r).result = .ok outcome) :
    (r.after (call.run r)).names = r.names ++ registrations (call.run r).notices := by
  cases reported hr call with
  | unread cause noTree failed announced loads => cases failed.symm.trans h
  | loaded next succeeded kept loads => rw [after_of_ok succeeded, kept]
  | aborted root before after o staged cause refusal tree failed split reached refused each
      announced loads => cases failed.symm.trans h

/-- The names of a registry are those that its calls announce, as far as they succeed. -/
theorem names_afterAll (hr : r.Quiet) (calls : List LoadCall) :
    (r.afterAll calls).names = r.names ++
      ((r.answers calls).filter (·.result.isOk)).flatMap fun answer =>
        registrations answer.notices := by
  induction calls generalizing r with
  | nil => exact (List.append_nil _).symm
  | cons call rest ih =>
    have hquiet : (r.after (call.run r)).Quiet := quiet_afterAll hr [call]
    rw [afterAll, answers, ih hquiet]
    cases h : (call.run r).result with
    | ok outcome =>
      have hpass : (call.run r).result.isOk = true := by rw [h]; rfl
      rw [List.filter_cons, if_pos hpass, names_after_of_ok hr h, List.flatMap_cons,
        List.append_assoc]
    | error report =>
      have hpass : ¬ (call.run r).result.isOk = true := by
        rw [h]
        exact Bool.false_ne_true
      rw [List.filter_cons, if_neg hpass, after_of_error h]

lemma registrations_journal (r : Registry) (calls : List LoadCall) :
    registrations (r.journal calls) =
      (r.answers calls).flatMap fun answer => registrations answer.notices :=
  List.filterMap_flatMap

lemma quiet_built {parsers : List DefinitionParser} (h : ∀ p ∈ parsers, p.Quiet) :
    (built parsers).Quiet := by
  suffices hall : ∀ r : Registry, r.Quiet → (parsers.foldl withParser r).Quiet from
    hall empty (List.forall_mem_nil _)
  induction parsers with
  | nil => exact fun r hr => hr
  | cons p rest ih =>
    obtain ⟨hp, hrest⟩ := List.forall_mem_cons.mp h
    exact fun r hr => ih hrest (r.withParser p) (List.forall_mem_cons.mpr ⟨hp, hr⟩)

end

/-- After any calls on a new registry, its names are those that the calls announced which
succeeded. So what all calls announced are its names exactly if no call that failed announced
anything. A call that fails announces every element before the one that is refused, and no load; a
call that succeeds counts what it announces and the definitions after it. -/
theorem journal_of_calls (parsers : List DefinitionParser) (quiet : ∀ p ∈ parsers, p.Quiet)
    (calls : List LoadCall) :
    let r := built parsers
    ((r.afterAll calls).names = ((r.answers calls).filter (·.result.isOk)).flatMap fun answer =>
      registrations answer.notices) ∧
    (registrations (r.journal calls) = (r.afterAll calls).names ↔
      ∀ answer ∈ r.answers calls, ¬ answer.result.isOk = true →
        registrations answer.notices = []) ∧
    ∀ call, (r.afterAll calls).Reported call := by
  intro r
  have hr : r.Quiet := quiet_built quiet
  have hnew : r.names = [] := congrArg Table.keys (definitions_built parsers)
  have hnames := names_afterAll hr calls
  rw [hnew, List.nil_append] at hnames
  refine ⟨hnames, ?_, fun call => reported (quiet_afterAll hr calls) call⟩
  rw [registrations_journal, hnames, eq_comm, flatMap_filter_eq_iff]

def gatewaysCall (ids : List String) : LoadCall :=
  .element ((Element.named "beans").withChildren
    (ids.map fun id => (Element.named "gateway").withAttribute "id" id))

/-- Of a call that fails at its last element, the others are announced but not loaded. -/
theorem journal_of_calls_recorded :
    let parsers := [DefinitionParser.recording .gateway, .marking "filter" .gatewayProxyFactory ""]
    let calls := [gatewaysCall ["b", "a", "a"], gatewaysCall ["a"]]
    (∀ p ∈ parsers, p.Quiet) ∧ ((built parsers).afterAll calls).names = ["a"] ∧
      registrations ((built parsers).journal calls) = ["b", "a", "a"] ∧
      ((built parsers).afterAll calls).Reported (gatewaysCall ["c", "a"]) := by
  intro parsers calls
  have quiet : ∀ p ∈ parsers, p.Quiet :=
    List.forall_mem_cons.mpr ⟨DefinitionParser.quiet_recording DefinitionParser.quiet_gateway,
      List.forall_mem_singleton.mpr (DefinitionParser.quiet_marking _ _ _)⟩
  obtain ⟨names, -, reported⟩ := journal_of_calls parsers quiet calls
  exact ⟨quiet, names.trans rfl, rfl, reported _⟩

/-- A name that is used twice in a document is announced once and not registered. -/
theorem journal_ne_names :
    registrations (standard.journal [gatewaysCall ["a", "a"]]) ≠
        (standard.afterAll [gatewaysCall ["a", "a"]]).names ∧
      registrations (standard.journal [gatewaysCall ["a", "a"]]) = ["a"] ∧
      (standard.afterAll [gatewaysCall ["a", "a"]]).names = [] := by
  have announced : registrations (standard.journal [gatewaysCall ["a", "a"]]) = ["a"] := rfl
  have held : (standard.afterAll [gatewaysCall ["a", "a"]]).names = [] := rfl
  refine ⟨?_, announced, held⟩
  rw [announced, held]
  exact List.cons_ne_nil "a" []

end Registry
end GatewayRecipes
