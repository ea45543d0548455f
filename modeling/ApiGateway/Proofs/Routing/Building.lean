import ApiGateway.Proofs.Routing.Backends
import ApiGateway.Proofs.Routing.LongestPrefix
import Mathlib.Data.List.Nodup

/-!
# What building a table comes to

A build goes through the usable definitions in their order. The first one with a fault ends
it, and the error tells this fault: the locator of the definition comes before its methods,
and these come one by one (`Definition.Fault`). Without a fault the routes share one backend
for each canonical locator, and the first definition with a locator decides the health path
of its backend (`SharesBackends`). `build_outcome` puts both together.
-/

namespace ApiGateway.Routing

/-! ## The first failure -/

section FirstFailure

variable {ε σ α β : Type}

/-- Steps fail with the first one that fails, after those before it. -/
theorem foldlM_eq_error_iff {step : σ → α → Except ε σ} {start : σ} {items : List α} {error : ε} :
    items.foldlM step start = .error error ↔ ∃ before bad after middle,
      items = before ++ bad :: after ∧ before.foldlM step start = .ok middle ∧
        step middle bad = .error error := by
  constructor
  · induction items generalizing start with
    | nil => nofun
    | cons item rest inductionHypothesis =>
        intro failed
        rw [List.foldlM_cons] at failed
        cases first : step start item with
        | error other =>
            rw [first] at failed
            cases failed
            exact ⟨[], item, rest, start, rfl, rfl, first⟩
        | ok next =>
            rw [first] at failed
            obtain ⟨before, bad, after, middle, rfl, passed, fails⟩ := inductionHypothesis failed
            refine ⟨item :: before, bad, after, middle, rfl, ?_, fails⟩
            rw [List.foldlM_cons, first]
            exact passed
  · rintro ⟨before, bad, after, middle, rfl, passed, fails⟩
    rw [List.foldlM_append, passed]
    simp only [bind, Except.bind, List.foldlM_cons, fails]

/-- Items are mapped if all of them are. -/
theorem exists_mapM_eq_ok_iff {f : α → Except ε β} {items : List α} :
    (∃ values, items.mapM f = .ok values) ↔ ∀ item ∈ items, ∃ value, f item = .ok value := by
  induction items with
  | nil => simp [pure, Except.pure]
  | cons item rest inductionHypothesis =>
      rw [List.mapM_cons, List.forall_mem_cons, ← inductionHypothesis]
      cases f item with
      | error error => simp [bind, Except.bind]
      | ok value => cases rest.mapM f <;> simp [bind, Except.bind, pure, Except.pure]

/-- Items are mapped up to the first one that fails. -/
theorem mapM_eq_error_iff {f : α → Except ε β} {items : List α} {error : ε} :
    items.mapM f = .error error ↔ ∃ before bad after values,
      items = before ++ bad :: after ∧ before.mapM f = .ok values ∧ f bad = .error error := by
  constructor
  · induction items with
    | nil => nofun
    | cons item rest inductionHypothesis =>
        intro failed
        rw [List.mapM_cons] at failed
        cases first : f item with
        | error other =>
            rw [first] at failed
            cases failed
            exact ⟨[], item, rest, [], rfl, rfl, first⟩
        | ok value =>
            rw [first] at failed
            cases later : rest.mapM f with
            | ok values => rw [later] at failed; cases failed
            | error other =>
                rw [later] at failed
                cases failed
                obtain ⟨before, bad, after, values, rfl, passed, fails⟩ := inductionHypothesis later
                refine ⟨item :: before, bad, after, value :: values, rfl, ?_, fails⟩
                rw [List.mapM_cons, first, passed]
                rfl
  · rintro ⟨before, bad, after, values, rfl, passed, fails⟩
    rw [List.mapM_append, passed, List.mapM_cons, fails]
    rfl

end FirstFailure

/-! ## Faults -/

/-- A text names a method if what is left of it without blanks around it is, in upper case, a
token. -/
def IsMethodName (text : String) : Prop :=
  ∃ upper, Text.upperAscii? (Text.trim text.toList) = some upper ∧ upper ≠ [] ∧
    ∀ c ∈ upper, Http.isTokenChar c = true

/-- Nothing is wrong with the locator and the methods of a definition. -/
structure Definition.IsSound (definition : Definition) : Prop where
  located : ∃ url, Url.parse definition.target = .ok url
  methods : ∀ text ∈ definition.methods, IsMethodName text

/-- The first thing that is wrong with a definition, as an error. -/
inductive Definition.Fault (definition : Definition) : GatewayError → Prop where
  | locator {error : UrlError} (rejected : Url.parse definition.target = .error error) :
      Fault definition (.config ("invalid upstream for prefix " ++ definition.pathPrefix ++ ": " ++
        error.message))
  | method {url : Url} {before after : List String} {text : String}
      (parsed : Url.parse definition.target = .ok url)
      (split : definition.methods = before ++ text :: after)
      (sound : ∀ earlier ∈ before, IsMethodName earlier) (bad : ¬ IsMethodName text) :
      Fault definition (.config ("invalid method " ++ Text.quoted text ++ " for prefix " ++
        definition.canonicalPrefix))

theorem isMethod_iff {text : List Char} :
    Http.isMethod text = true ↔ text ≠ [] ∧ ∀ c ∈ text, Http.isTokenChar c = true := by
  simp [Http.isMethod]

theorem exists_method?_iff {text : String} :
    (∃ method, method? text = some method) ↔ IsMethodName text := by
  simp only [method?, IsMethodName, ← isMethod_iff]
  cases Text.upperAscii? (Text.trim text.toList) with
  | none => simp
  | some upper => cases valid : Http.isMethod upper <;> simp [valid]

/-- The method that a text names, or the text itself if it names none. -/
def methodOf (text : String) : Except String String :=
  match method? text with
  | some method => .ok method
  | none => .error text

theorem exists_methodOf_iff {text : String} :
    (∃ method, methodOf text = .ok method) ↔ IsMethodName text := by
  rw [← exists_method?_iff, methodOf]
  cases method? text <;> simp

theorem methodOf_eq_error_iff {text other : String} :
    methodOf text = .error other ↔ other = text ∧ ¬ IsMethodName text := by
  rw [← exists_method?_iff, methodOf]
  cases method? text <;> simp [eq_comm]

theorem methodsOf_eq (texts : List String) :
    methodsOf texts = (texts.mapM methodOf).map fun methods =>
      (methods.mergeSort fun a b => a ≤ b).eraseDups := by
  have same : methodsOf texts = do
      let methods ← texts.mapM methodOf
      return (methods.mergeSort fun a b => a ≤ b).eraseDups := rfl
  rw [same]
  cases texts.mapM methodOf <;> rfl

theorem exists_methodsOf_iff {texts : List String} :
    (∃ methods, methodsOf texts = .ok methods) ↔ ∀ text ∈ texts, IsMethodName text := by
  simp only [← exists_methodOf_iff, ← exists_mapM_eq_ok_iff, methodsOf_eq]
  cases texts.mapM methodOf <;> simp [Except.map]

/-- The methods of a definition are refused for the first text that names none. -/
theorem methodsOf_eq_error_iff {texts : List String} {text : String} :
    methodsOf texts = .error text ↔ ∃ before after, texts = before ++ text :: after ∧
      (∀ earlier ∈ before, IsMethodName earlier) ∧ ¬ IsMethodName text := by
  have fails : methodsOf texts = .error text ↔ texts.mapM methodOf = .error text := by
    rw [methodsOf_eq]
    cases texts.mapM methodOf <;> simp [Except.map]
  rw [fails, mapM_eq_error_iff]
  constructor
  · rintro ⟨before, bad, after, values, rfl, passed, refused⟩
    obtain ⟨rfl, unnamed⟩ := methodOf_eq_error_iff.mp refused
    refine ⟨before, after, rfl, fun earlier member => ?_, unnamed⟩
    exact exists_methodOf_iff.mp (exists_mapM_eq_ok_iff.mp ⟨values, passed⟩ earlier member)
  · rintro ⟨before, after, rfl, named, unnamed⟩
    obtain ⟨values, passed⟩ := exists_mapM_eq_ok_iff.mpr fun earlier member =>
      exists_methodOf_iff.mpr (named earlier member)
    exact ⟨before, text, after, values, rfl, passed, methodOf_eq_error_iff.mpr ⟨rfl, unnamed⟩⟩

/-! ## Adding a definition -/

variable {defaultTimeout : Duration} {definition : Definition}

theorem exists_add_iff {draft : Draft} :
    (∃ next, draft.add defaultTimeout definition = .ok next) ↔ definition.IsSound := by
  constructor
  · rintro ⟨next, added⟩
    obtain ⟨url, methods, parsed, accepted, -⟩ := Draft.add_eq_ok added
    exact ⟨⟨url, parsed⟩, exists_methodsOf_iff.mp ⟨methods, accepted⟩⟩
  · rintro ⟨⟨url, parsed⟩, named⟩
    obtain ⟨methods, accepted⟩ := exists_methodsOf_iff.mpr named
    simp only [Draft.add, parsed, accepted]
    exact ⟨_, rfl⟩

/-- A definition that is not added has a fault, and the error tells it. -/
theorem add_eq_error_iff {draft : Draft} {error : GatewayError} :
    (∃ shadowings, draft.add defaultTimeout definition = .error ⟨error, shadowings⟩) ↔
      definition.Fault error := by
  constructor
  · rintro ⟨shadowings, refused⟩
    simp only [Draft.add] at refused
    split at refused
    · next rejected =>
        cases refused
        exact .locator rejected
    · next url parsed =>
        split at refused
        · next text unnamed =>
            cases refused
            obtain ⟨before, after, split, named, bad⟩ := methodsOf_eq_error_iff.mp unnamed
            exact .method parsed split named bad
        · cases refused
  · rintro (rejected | ⟨parsed, split, named, bad⟩)
    · simp only [Draft.add, rejected]
      exact ⟨_, rfl⟩
    · have unnamed := methodsOf_eq_error_iff.mpr ⟨_, _, split, named, bad⟩
      simp only [Draft.add, parsed, unnamed]
      exact ⟨_, rfl⟩

/-! ## Sharing -/

/-- A definition is the first one with the locator of a backend, and the health path of the backend
is its own, or `/healthz` if it has none. -/
structure Definition.Introduces (definitions : List Definition) (backend : Backend)
    (definition : Definition) : Prop where
  parsed : Url.parse definition.target = .ok backend.url
  first : ∃ before after, definitions = before ++ definition :: after ∧
    ∀ other ∈ before, ∀ url, Url.parse other.target = .ok url → url.text ≠ backend.key
  healthPath : backend.healthPath =
    if definition.healthPath = "" then "/healthz" else definition.healthPath

theorem Definition.Introduces.concat {definitions : List Definition} {backend : Backend}
    (introduces : definition.Introduces definitions backend) (last : Definition) :
    definition.Introduces (definitions ++ [last]) backend := by
  obtain ⟨parsed, ⟨before, after, rfl, others⟩, healthPath⟩ := introduces
  exact ⟨parsed, ⟨before, after ++ [last], by simp, others⟩, healthPath⟩

theorem Definition.introduces_of_fresh {definitions : List Definition} {url : Url}
    (parsed : Url.parse definition.target = .ok url)
    (fresh : ∀ other ∈ definitions, ∀ url', Url.parse other.target = .ok url' →
      url'.text ≠ url.text) :
    definition.Introduces (definitions ++ [definition]) (definition.backend url) := by
  refine ⟨parsed, ⟨definitions, [], rfl, fresh⟩, ?_⟩
  simp only [Definition.backend, String.isEmpty_iff]
  rfl

/-- A backend that is inserted is new, or there is one with its key. -/
theorem mem_insertBackend {backend inserted : Backend} {backends : List Backend}
    (ascending : (backends.map Backend.key).Pairwise (· < ·))
    (member : backend ∈ insertBackend inserted backends) :
    backend ∈ backends ∨ backend = inserted ∧ inserted.key ∉ backends.map Backend.key := by
  induction backends with
  | nil => exact .inr ⟨List.mem_singleton.mp member, List.not_mem_nil⟩
  | cons first rest inductionHypothesis =>
      obtain ⟨isFirst, ascendingRest⟩ := List.pairwise_cons.mp ascending
      simp only [insertBackend] at member
      split at member
      · next before =>
          rcases List.mem_cons.mp member with rfl | known
          · refine .inr ⟨rfl, fun present => ?_⟩
            rcases List.mem_cons.mp present with same | later
            · exact lt_irrefl _ (same ▸ before)
            · exact lt_asymm before (isFirst _ later)
          · exact .inl known
      · split at member
        · exact .inl member
        · next different =>
            rcases List.mem_cons.mp member with rfl | later
            · exact .inl List.mem_cons_self
            · rcases inductionHypothesis ascendingRest later with known | ⟨isNew, absent⟩
              · exact .inl (List.mem_cons_of_mem _ known)
              · refine .inr ⟨isNew, ?_⟩
                rw [List.map_cons, List.mem_cons, not_or]
                exact ⟨different, absent⟩

/-- The backends of a draft of some definitions. -/
structure Draft.Shares (definitions : List Definition) (draft : Draft) : Prop where
  ascending : (draft.backends.map Backend.key).Pairwise (· < ·)
  known : ∀ definition ∈ definitions, ∀ url, Url.parse definition.target = .ok url →
    url.text ∈ draft.backends.map Backend.key
  introduced : ∀ backend ∈ draft.backends, ∃ definition : Definition,
    definition.Introduces definitions backend

theorem Draft.Shares.add {definitions : List Definition} {draft next : Draft}
    (shares : draft.Shares definitions)
    (added : draft.add defaultTimeout definition = .ok next) :
    next.Shares (definitions ++ [definition]) := by
  obtain ⟨url, methods, parsed, -, -, inserted⟩ := Draft.add_eq_ok added
  refine ⟨?_, ?_, ?_⟩
  · rw [inserted]
    exact pairwise_insertBackend _ shares.ascending
  · intro other member url' parsed'
    rw [inserted, mem_keys_insertBackend]
    rcases List.mem_append.mp member with earlier | last
    · exact .inr (shares.known other earlier url' parsed')
    · rw [List.mem_singleton.mp last, parsed] at parsed'
      cases parsed'
      exact .inl rfl
  · intro backend member
    rw [inserted] at member
    rcases mem_insertBackend shares.ascending member with known | ⟨rfl, absent⟩
    · obtain ⟨first, introduces⟩ := shares.introduced backend known
      exact ⟨first, introduces.concat definition⟩
    · refine ⟨definition,
        Definition.introduces_of_fresh parsed fun other earlier url' parsed' => ?_⟩
      intro same
      have present := shares.known other earlier url' parsed'
      rw [same] at present
      exact absent present

namespace Table

/-- The routes of a table come from its definitions and share its backends. -/
structure SharesBackends (defaultTimeout : Duration) (definitions : List Definition)
    (table : Table) : Prop where
  /-- There is one route for each definition, with the locator of the definition. -/
  yields : ∃ routes, List.Forall₂ (Definition.Yields defaultTimeout) definitions routes ∧
    table.routes.Perm routes
  /-- There is one backend for each canonical locator of a route, and they are in order. -/
  ascending : (table.backends.map Backend.key).Pairwise (· < ·)
  keys : ∀ text, text ∈ table.backends.map Backend.key ↔
    ∃ route ∈ table.routes, route.target.text = text
  /-- A route is bound to the one backend with its own canonical locator. -/
  bound : ∀ route ∈ table.routes, ∃ backend, table.backend? route.backendKey = some backend ∧
    ∀ other ∈ table.backends, other.url.text = route.target.text ↔ other = backend
  /-- The first definition with a locator decides the health path of its backend. -/
  introduced : ∀ backend ∈ table.backends, ∃ definition : Definition,
    definition.Introduces definitions backend

/-- Backends in the order of their keys are told apart by them. -/
theorem eq_of_key_eq {backends : List Backend}
    (ascending : (backends.map Backend.key).Pairwise (· < ·)) {backend other : Backend}
    (member : backend ∈ backends) (also : other ∈ backends) (same : backend.key = other.key) :
    backend = other :=
  List.inj_on_of_nodup_map (ascending.imp ne_of_lt) member also same

theorem sharesBackends_of_build {definitions : List Definition} {table : Table}
    {shadowings : List Shadowing}
    (built : Table.build definitions defaultTimeout = .ok (table, shadowings)) :
    SharesBackends defaultTimeout (definitions.filter Definition.isUsable) table := by
  obtain ⟨draft, drafted, sorted, backends⟩ := draft_of_build built
  have shares : draft.Shares (definitions.filter Definition.isUsable) :=
    draft_follows (fun before draft => draft.Shares before) ⟨.nil, nofun, nofun⟩
      (fun _ _ shares added => shares.add added) drafted
  obtain ⟨ascending, -, introduced⟩ := shares
  rw [← backends] at ascending introduced
  refine ⟨⟨draft.routes, forall₂_routes_of_draft drafted, ?_⟩, ascending,
    fun text => mem_keys_build_iff built, fun route member => ?_, introduced⟩
  · rw [sorted]
    exact List.mergeSort_perm _ _
  · obtain ⟨backend, known, isKey⟩ := List.mem_map.mp (backendKey_mem_build built member)
    have found : table.backend? route.backendKey = some backend := by
      cases looked : table.backend? route.backendKey with
      | none =>
          have absent := List.find?_eq_none.mp looked backend known
          exact absurd (beq_iff_eq.mpr isKey) absent
      | some other =>
          have also : other.key = route.backendKey := by simpa using List.find?_some looked
          rw [eq_of_key_eq ascending (List.mem_of_find?_eq_some looked) known
            (also.trans isKey.symm)]
    refine ⟨backend, found, fun other also => ⟨fun same => ?_, fun same => ?_⟩⟩
    · exact eq_of_key_eq ascending also known (same.trans isKey.symm)
    · rw [same]
      exact isKey

theorem exists_build_iff {definitions : List Definition} :
    (∃ table shadowings, Table.build definitions defaultTimeout = .ok (table, shadowings)) ↔
      ∃ drafted, draft definitions defaultTimeout = .ok drafted := by
  rw [build]
  cases draft definitions defaultTimeout <;> simp [Except.map]

theorem build_eq_error_iff {definitions : List Definition} {failure : BuildFailure} :
    Table.build definitions defaultTimeout = .error failure ↔
      draft definitions defaultTimeout = .error failure := by
  rw [build]
  cases draft definitions defaultTimeout <;> simp [Except.map]

/-- Definitions are drafted if nothing is wrong with any of them. -/
theorem exists_foldlM_iff {definitions : List Definition} {start : Draft} :
    (∃ drafted, definitions.foldlM (Draft.add defaultTimeout) start = .ok drafted) ↔
      ∀ definition ∈ definitions, definition.IsSound := by
  induction definitions generalizing start with
  | nil => simp [pure, Except.pure]
  | cons first rest inductionHypothesis =>
      have own : (∃ next, start.add defaultTimeout first = .ok next) ↔ first.IsSound :=
        exists_add_iff
      rw [List.foldlM_cons, List.forall_mem_cons, ← own]
      cases start.add defaultTimeout first with
      | error failure => simp [bind, Except.bind]
      | ok next => simpa [bind, Except.bind] using inductionHypothesis

/-- A build fails exactly if some usable definition has a fault, and with the fault of the first
one; otherwise it makes a table whose routes share backends. -/
theorem build_outcome (definitions : List Definition) (defaultTimeout : Duration) :
    (∀ error, (∃ shadowings, Table.build definitions defaultTimeout =
        .error ⟨error, shadowings⟩) ↔
      ∃ before bad after, definitions.filter Definition.isUsable = before ++ bad :: after ∧
        (∀ definition ∈ before, definition.IsSound) ∧ bad.Fault error) ∧
    ((∃ table shadowings, Table.build definitions defaultTimeout = .ok (table, shadowings)) ↔
      ∀ definition ∈ definitions, definition.pathPrefix ≠ "" → definition.target ≠ "" →
        definition.IsSound) ∧
    ∀ table shadowings, Table.build definitions defaultTimeout = .ok (table, shadowings) →
      SharesBackends defaultTimeout (definitions.filter Definition.isUsable) table := by
  refine ⟨fun error => ?_, ?_, fun table shadowings built => sharesBackends_of_build built⟩
  · simp only [build_eq_error_iff, draft, foldlM_eq_error_iff]
    constructor
    · rintro ⟨shadowings, before, bad, after, middle, split, passed, refused⟩
      exact ⟨before, bad, after, split, exists_foldlM_iff.mp ⟨middle, passed⟩,
        add_eq_error_iff.mp ⟨shadowings, refused⟩⟩
    · rintro ⟨before, bad, after, split, sound, fault⟩
      obtain ⟨middle, passed⟩ := exists_foldlM_iff.mpr sound
      obtain ⟨shadowings, refused⟩ := add_eq_error_iff.mpr fault
      exact ⟨shadowings, before, bad, after, middle, split, passed, refused⟩
  · rw [exists_build_iff, draft, exists_foldlM_iff]
    simp only [List.mem_filter, Definition.isUsable, Bool.and_eq_true, Bool.not_eq_true',
      String.isEmpty_eq_false_iff, and_imp]

end Table

end ApiGateway.Routing
