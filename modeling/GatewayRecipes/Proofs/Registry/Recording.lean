import GatewayRecipes.Proofs.Registry.Failure

/-! Registries whose parsers record their calls. They load what they would load without that, and
what they record are the elements that loads come to, be they kept or not. -/
namespace GatewayRecipes

/-! Computations that record no calls. -/

/-- Whether a computation records no call of a parser. -/
def Traced.Silent {ε α : Type} (x : Traced ε α) : Prop := recordedCalls x.notices = []

section
open Traced
variable {ε α β : Type}

lemma recordedCalls_bind (x : Traced ε α) {f : α → Traced ε β} (hf : ∀ a, (f a).Silent) :
    recordedCalls (x >>= f).notices = recordedCalls x.notices := by
  cases hx : x.result with
  | error e => rw [bind_of_error hx]
  | ok a => rw [bind_of_ok hx, recordedCalls_append, hf a, List.append_nil]

lemma Traced.Silent.bind {x : Traced ε α} {f : α → Traced ε β} (hx : x.Silent)
    (hf : ∀ a, (f a).Silent) : (x >>= f).Silent :=
  (recordedCalls_bind x hf).trans hx

end

namespace Gateway
open Traced

lemma silent_addMethods (hasMapper : Bool) (table : Table Recipe) (methods : List Element) :
    (addMethods hasMapper table methods).Silent := by
  induction methods generalizing table with
  | nil => rfl
  | cons method rest ih =>
    refine Silent.bind rfl fun named => ?_
    obtain ⟨name, metadata⟩ := named
    simp only
    split
    · exact Silent.bind rfl fun _ => ih _
    · exact ih _

/-- A translation records nothing of its own. -/
lemma silent_translate (mode : Mode) (e : Element) : (translate mode e).Silent := by
  rw [translate]
  split
  · refine Silent.bind ?_ fun r => rfl
    cases mode with
    | inline => rfl
    | standalone =>
      exact Silent.bind rfl fun _ => Silent.bind (silent_addMethods _ _ _) fun _ => rfl
  · rfl

end Gateway

namespace Registry
open Element

/-- A registry with its parsers made to record their calls. -/
def recorded (r : Registry) : Registry := { r with parsers := r.parsers.map .recording }

/-- Whether no parser records a call by itself. -/
def Silent (r : Registry) : Prop := ∀ p ∈ r.parsers, ∀ e mode, (p.parse e mode).Silent

lemma silent_standard : standard.Silent := by
  intro p hp
  obtain rfl : p = .gateway := List.mem_singleton.mp hp
  exact fun e mode => Gateway.silent_translate mode e

/-- What is recorded of an element: its id as it is written, if it has one, and the mode in which
it is parsed. -/
def callOf (o : Occurrence) : Option String × Mode := (o.element.attribute? "id", modeAt o)

/-! A step. -/

section
variable {r : Registry} {staged : Table Recipe} {o : Occurrence}

lemma parserFor?_recorded (r : Registry) (name : String) :
    r.recorded.parserFor? name = (r.parserFor? name).map .recording := by
  rw [parserFor?, parserFor?, recorded, List.find?_map]
  rfl

lemma handled_recorded (r : Registry) (root : Element) :
    r.recorded.handled root = r.handled root := by
  have hhandles : r.recorded.handles = r.handles := by
    funext o
    simp [handles, parserFor?_recorded]
  rw [handled, hhandles, handled]

/-- A step records its element before it does what it does without that. -/
lemma register_recorded {p : DefinitionParser} (hp : r.parserFor? o.element.name = some p)
    (staged : Table Recipe) :
    r.recorded.register staged o =
      ⟨.parseCalled o.element.name (o.element.attribute? "id") (modeAt o) ::
        (r.register staged o).notices, (r.register staged o).result⟩ := by
  have hparse : p.recording.parse o.element (modeAt o) =
      ⟨.parseCalled o.element.name (o.element.attribute? "id") (modeAt o) ::
        (p.parse o.element (modeAt o)).notices, (p.parse o.element (modeAt o)).result⟩ := rfl
  have hname : r.recorded.nameAt staged p.recording.kind o = r.nameAt staged p.kind o := rfl
  have hnames : r.recorded.names = r.names := rfl
  rw [register, register, parserFor?_recorded, hp]
  simp only [Option.map_some, hparse, hname, hnames]
  cases (p.parse o.element (modeAt o)).result with
  | error cause => rfl
  | ok recipe =>
    simp only
    split
    · rfl
    · rfl

lemma silent_register (hr : r.Silent) (staged : Table Recipe) (o : Occurrence) :
    (r.register staged o).Silent := by
  rw [register]
  cases hp : r.parserFor? o.element.name with
  | none => rfl
  | some p =>
    have hsilent := hr p (List.mem_of_find?_eq_some hp) o.element (modeAt o)
    rw [Traced.Silent] at hsilent
    simp only
    cases (p.parse o.element (modeAt o)).result with
    | error cause => exact hsilent
    | ok recipe =>
      simp only
      split
      · exact hsilent
      · rw [Traced.Silent, recordedCalls_append, hsilent]
        rfl

end

/-! A load. -/

/-- The elements that a load comes to when others are staged: all up to the first that fails, and
that one too. -/
def reachedFrom (r : Registry) (staged : Table Recipe) : List Occurrence → List Occurrence
  | [] => []
  | o :: rest =>
    o :: match (r.register staged o).result with
      | .ok next => r.reachedFrom next rest
      | .error _ => []

/-- The elements of a document that a load comes to. -/
def reached (r : Registry) (root : Element) : List Occurrence := r.reachedFrom [] (r.handled root)

section
variable {r : Registry} {staged : Table Recipe}

lemma reachedFrom_of_ok {l : List Occurrence} {next : Table Recipe}
    (h : (l.foldlM r.register staged).result = .ok next) : r.reachedFrom staged l = l := by
  induction l generalizing staged with
  | nil => rfl
  | cons o rest ih =>
    rw [List.foldlM_cons, Traced.result_bind] at h
    rw [reachedFrom]
    cases ho : (r.register staged o).result with
    | error report => rw [ho] at h; cases h
    | ok middle =>
      rw [ho] at h
      exact congrArg (o :: ·) (ih h)

lemma reachedFrom_of_error {before after : List Occurrence} {o : Occurrence}
    {next : Table Recipe} {report : Report}
    (hbefore : (before.foldlM r.register staged).result = .ok next)
    (ho : (r.register next o).result = .error report) :
    r.reachedFrom staged (before ++ o :: after) = before ++ [o] := by
  induction before generalizing staged with
  | nil =>
    cases hbefore
    rw [List.nil_append, reachedFrom, ho]
    rfl
  | cons first rest ih =>
    rw [List.foldlM_cons, Traced.result_bind] at hbefore
    rw [List.cons_append, reachedFrom]
    cases hfirst : (r.register staged first).result with
    | error report => rw [hfirst] at hbefore; cases hbefore
    | ok middle =>
      rw [hfirst] at hbefore
      exact congrArg (first :: ·) (ih hbefore)

lemma foldlM_register_recorded (hr : r.Silent) {l : List Occurrence}
    (hl : ∀ o ∈ l, ∃ p, r.parserFor? o.element.name = some p) (staged : Table Recipe) :
    (l.foldlM r.recorded.register staged).result = (l.foldlM r.register staged).result ∧
      recordedCalls (l.foldlM r.recorded.register staged).notices =
        (r.reachedFrom staged l).map callOf := by
  induction l generalizing staged with
  | nil => exact ⟨rfl, rfl⟩
  | cons o rest ih =>
    obtain ⟨⟨p, hp⟩, hrest⟩ := List.forall_mem_cons.mp hl
    have hsilent := silent_register hr staged o
    have hcall : recordedCalls (r.recorded.register staged o).notices = [callOf o] := by
      rw [register_recorded hp]
      exact congrArg (callOf o :: ·) hsilent
    have hresult : (r.recorded.register staged o).result = (r.register staged o).result := by
      rw [register_recorded hp]
    rw [List.foldlM_cons, List.foldlM_cons, reachedFrom, Traced.result_bind, Traced.result_bind,
      hresult]
    cases hnext : (r.register staged o).result with
    | error report =>
      rw [Traced.bind_of_error (hresult.trans hnext)]
      exact ⟨rfl, hcall⟩
    | ok next =>
      obtain ⟨hsame, hcalls⟩ := ih hrest next
      rw [Traced.bind_of_ok (hresult.trans hnext), recordedCalls_append, hcall, hcalls]
      exact ⟨hsame, rfl⟩

lemma load_recorded (hr : r.Silent) (root : Element) :
    (r.recorded.load root).result =
        (r.load root).result.map (fun outcome => (outcome.1.recorded, outcome.2)) ∧
      recordedCalls (r.recorded.load root).notices = (r.reached root).map callOf := by
  obtain ⟨hsame, hcalls⟩ :=
    foldlM_register_recorded hr (fun o => exists_parser_of_handled (o := o)) []
  constructor
  · rw [result_load, result_load, handled_recorded, hsame]
    cases ((r.handled root).foldlM r.register []).result with
    | error report => rfl
    | ok staged => rfl
  · rw [load_eq_foldlM, handled_recorded, recordedCalls_bind]
    · exact hcalls
    · exact fun staged => rfl

end

/-! Runs of calls. -/

/-- The elements that a call comes to, none where it has nothing to load. -/
def attempted (r : Registry) (call : LoadCall) : List Occurrence :=
  (call.root?.map r.reached).getD []

/-- What calls answer, an error or a number of definitions, with the definitions after each. -/
def outcomes (r : Registry) : List LoadCall → List (Except Report Nat × Table Recipe)
  | [] => []
  | call :: rest =>
    let after := r.after (call.run r)
    ((call.run r).result.map (·.2), after.definitions) :: after.outcomes rest

def history (r : Registry) : List LoadCall → List (Option String × Mode)
  | [] => []
  | call :: rest =>
    recordedCalls (call.run r).notices ++ (r.after (call.run r)).history rest

/-- The elements that calls come to. -/
def attempts (r : Registry) : List LoadCall → List Occurrence
  | [] => []
  | call :: rest => r.attempted call ++ (r.after (call.run r)).attempts rest

section
variable {r : Registry}

lemma run_recorded (hr : r.Silent) (call : LoadCall) :
    (call.run r.recorded).result =
        (call.run r).result.map (fun outcome => (outcome.1.recorded, outcome.2)) ∧
      recordedCalls (call.run r.recorded).notices = (r.attempted call).map callOf := by
  obtain ⟨hroot, report, -, hfail⟩ | ⟨root, steps, hroot, hload⟩ := call.run_cases
  · rw [hfail, hfail, attempted, hroot]
    exact ⟨rfl, rfl⟩
  · obtain ⟨hsame, hcalls⟩ := load_recorded hr root
    rw [hload, hload, attempted, hroot, Traced.result_mapError, Traced.result_mapError, hsame]
    refine ⟨?_, hcalls⟩
    cases (r.load root).result with
    | error report => rfl
    | ok outcome => rfl

lemma after_recorded (hr : r.Silent) (call : LoadCall) :
    r.recorded.after (call.run r.recorded) = (r.after (call.run r)).recorded := by
  rw [after, after, (run_recorded hr call).1]
  cases (call.run r).result with
  | error report => rfl
  | ok outcome => rfl

lemma silent_after (hr : r.Silent) (call : LoadCall) : (r.after (call.run r)).Silent := by
  obtain ⟨added, -, -, h⟩ := r.after_run call
  rw [h]
  exact hr

/-- Recording changes neither answers nor definitions, and what is recorded is what calls come to. -/
theorem runs_recorded (hr : r.Silent) (calls : List LoadCall) :
    r.recorded.outcomes calls = r.outcomes calls ∧
      r.recorded.history calls = (r.attempts calls).map callOf := by
  induction calls generalizing r with
  | nil => exact ⟨rfl, rfl⟩
  | cons call rest ih =>
    obtain ⟨hresult, hcalls⟩ := run_recorded hr call
    obtain ⟨houtcomes, hhistory⟩ := ih (silent_after hr call)
    have hanswer : (call.run r.recorded).result.map (·.2) = (call.run r).result.map (·.2) := by
      rw [hresult]
      cases (call.run r).result with
      | error report => rfl
      | ok outcome => rfl
    constructor
    · simp only [outcomes, after_recorded hr, hanswer, houtcomes]
      rfl
    · rw [history, attempts, after_recorded hr, hcalls, hhistory, List.map_append]

lemma attempted_of_root {call : LoadCall} {root : Element} (hroot : call.root? = some root) :
    r.attempted call = r.reached root := by
  rw [attempted, hroot]
  rfl

lemma reached_of_ok {root : Element} {loaded : Registry} {n : Nat}
    (h : (r.load root).result = .ok (loaded, n)) : r.reached root = r.handled root := by
  obtain ⟨staged, hstaged, -⟩ := load_cases h
  exact reachedFrom_of_ok hstaged

lemma reached_of_error {root : Element} {report : Report}
    (h : (r.load root).result = .error report) :
    ∃ before o after staged, r.handled root = before ++ o :: after ∧
      r.reached root = before ++ [o] ∧ (before.foldlM r.register []).result = .ok staged ∧
      r.Refused staged o report := by
  obtain ⟨before, o, after, staged, hsplit, hbefore, hrefused⟩ := load_eq_error_iff.mp h
  refine ⟨before, o, after, staged, hsplit, ?_, hbefore, hrefused⟩
  rw [reached, hsplit]
  exact reachedFrom_of_error hbefore (register_eq_error_iff.mpr hrefused)

end

/-- A new registry with a recorded gateway parser answers all calls like one without the recording
and has the same definitions after each. Its record is that of the elements that the calls come to,
one call after the other. A call that cannot read its file or its document comes to none, one that
succeeds to every handled element, and one that fails to those up to the first that is refused. No
element is come to twice by one call. -/
theorem recording_transparent (calls : List LoadCall) :
    let recorder := empty.withParser (.recording .gateway)
    recorder.outcomes calls = standard.outcomes calls ∧
    recorder.history calls = (standard.attempts calls).map callOf ∧
    ∀ (r : Registry) (call : LoadCall), (call.root? = none → r.attempted call = []) ∧
      ∀ root, call.root? = some root →
        (∀ loaded n, (call.run r).result = .ok (loaded, n) →
          r.attempted call = r.handled root) ∧
        (∀ report, (call.run r).result = .error report →
          ∃ before o after staged cause, r.handled root = before ++ o :: after ∧
            r.attempted call = before ++ [o] ∧
            (before.foldlM r.register []).result = .ok staged ∧ r.Refused staged o cause) ∧
        ((r.attempted call).map Occurrence.address).Nodup := by
  intro recorder
  obtain ⟨houtcomes, hhistory⟩ := runs_recorded silent_standard calls
  refine ⟨houtcomes, hhistory, fun r call => ⟨fun hroot => ?_, fun root hroot => ?_⟩⟩
  · rw [attempted, hroot]
    rfl
  · obtain ⟨hnone, -⟩ | ⟨_, say, hsome, hload⟩ := call.run_cases
    · cases hnone.symm.trans hroot
    · cases hroot.symm.trans hsome
      rw [hload, Traced.result_mapError, attempted_of_root hroot]
      cases hresult : (r.load root).result with
      | ok outcome =>
        have hall := reached_of_ok hresult
        exact ⟨fun _ _ _ => hall, nofun, hall ▸ r.nodup_handled root⟩
      | error report =>
        obtain ⟨before, o, after, staged, hsplit, hreached, hbefore, hrefused⟩ :=
          reached_of_error hresult
        refine ⟨nofun, fun _ _ => ⟨before, o, after, staged, report, hsplit, hreached, hbefore,
          hrefused⟩, ?_⟩
        have hsublist : (before ++ [o]).Sublist (r.handled root) := by
          rw [hsplit]
          exact List.Sublist.append_left (List.singleton_sublist.mpr (List.mem_cons_self ..)) before
        rw [hreached]
        exact (r.nodup_handled root).sublist (hsublist.map Occurrence.address)

/-- What fails is recorded and registers nothing, and the next call is not affected. -/
example :
    let gateways := [(Element.named "gateway").withAttribute "id" "a",
      (Element.named "gateway").withAttribute "id" "a", Element.named "gateway"]
    let calls := [LoadCall.element ((Element.named "beans").withChildren gateways),
      .element (Element.named "gateway")]
    (empty.withParser (.recording .gateway)).history calls =
        [(some "a", .standalone), (some "a", .standalone), (none, .standalone)] ∧
      (standard.afterAll calls).names = ["gateway-proxy-factory#0"] := by
  exact ⟨rfl, rfl⟩

end Registry
end GatewayRecipes
