import DiagCheck.Proofs.Pipeline.Loading
import DiagCheck.Proofs.Pipeline.Members
import DiagCheck.Proofs.Config.Acceptance

/-! Where specifications lead. A specification is refused for its shape, for its module or for its
path, in this order, and otherwise what it leads to is called. -/
namespace DiagCheck.Pipeline

/-- The specification names the module and the path, which stand around its first colon. -/
structure Names (spec module path : Text) : Prop where
  parts : spec = module ++ ':' :: path
  first : ':' ∉ module
  module_ne_nil : module ≠ []
  path_ne_nil : path ≠ []

/-- What comes of a specification. -/
inductive Leads (env : Environment) (spec : Text) : Except Fault Product → Prop where
  | noColon : ':' ∉ spec → Leads env spec (.error (.noSpecification spec))
  | emptySide : spec = m ++ ':' :: p → ':' ∉ m → m = [] ∨ p = [] →
      Leads env spec (.error (.noSpecification spec))
  | relative : Names spec m p → m.head? = some '.' → Leads env spec (.error .relativeName)
  | notLoaded : Names spec m p → Loads env m (.error (.reason t)) →
      Leads env spec (.error (.notLoaded m t))
  | failed : Names spec m p → Loads env m (.error (.failure f)) →
      Leads env spec (.error (.failure f))
  | astray : Names spec m p → Loads env m (.ok members) →
      GoesAstray (.module members) (Text.pieces '.' p) → Leads env spec (.error (.noFactory spec))
  | called : Names spec m p → Loads env m (.ok members) →
      Reaches (.module members) (Text.pieces '.' p) item → call item = x → Leads env spec x

variable {env : Environment} {spec m p t : Text} {members : List (Text × Item)} {item : Item}
  {x : Except Fault Product} {y : Except Refusal (List (Text × Item))}

theorem Names.cut? (h : Names spec m p) : Text.cut? ':' spec = some (m, p) :=
  Text.cut?_eq_some_iff.mpr ⟨h.parts, h.first⟩

/-- A specification that names nothing has no colon, or nothing on a side of the first. -/
theorem names_or (spec : Text) : (∃ m p, Names spec m p) ∨ ':' ∉ spec ∨
    ∃ m p, spec = m ++ ':' :: p ∧ ':' ∉ m ∧ (m = [] ∨ p = []) := by
  cases cut : Text.cut? ':' spec with
  | none => exact .inr (.inl (Text.cut?_eq_none_iff.mp cut))
  | some sides =>
    obtain ⟨m, p⟩ := sides
    obtain ⟨parts, first⟩ := Text.cut?_eq_some_iff.mp cut
    by_cases empty : m = [] ∨ p = []
    · exact .inr (.inr ⟨m, p, parts, first, empty⟩)
    · obtain ⟨left, right⟩ := not_or.mp empty
      exact .inl ⟨m, p, parts, first, left, right⟩

/-! ## Resolution by cases -/

theorem resolve_of_no_colon (h : ':' ∉ spec) :
    resolve env spec = .error (.noSpecification spec) := by
  rw [resolve, Text.cut?_eq_none_iff.mpr h]

theorem resolve_of_empty_side (parts : spec = m ++ ':' :: p) (first : ':' ∉ m)
    (empty : m = [] ∨ p = []) : resolve env spec = .error (.noSpecification spec) := by
  rw [resolve, Text.cut?_eq_some_iff.mpr ⟨parts, first⟩]
  exact if_pos empty

theorem resolve_of_relative (h : Names spec m p) (relative : m.head? = some '.') :
    resolve env spec = .error .relativeName := by
  rw [resolve, h.cut?]
  dsimp only
  rw [if_neg (not_or.mpr ⟨h.module_ne_nil, h.path_ne_nil⟩), if_pos relative]

/-- What comes of a specification once its module is loaded, or is not. -/
def follow (spec module path : Text) : Except Refusal (List (Text × Item)) → Except Fault Product
  | .error (.reason t) => .error (.notLoaded module t)
  | .error (.failure f) => .error (.failure f)
  | .ok members => match walk (.module members) (Text.pieces '.' path) with
    | none => .error (.noFactory spec)
    | some item => call item

theorem resolve_of_loads (h : Names spec m p) (loaded : Loads env m y) :
    resolve env spec = follow spec m p y := by
  obtain ⟨absolute, rfl⟩ := loads_iff.mp loaded
  rw [resolve, h.cut?]
  dsimp only
  rw [if_neg (not_or.mpr ⟨h.module_ne_nil, h.path_ne_nil⟩), if_neg absolute.2]
  rfl

theorem follow_of_astray (h : GoesAstray (.module members) (Text.pieces '.' p)) :
    follow spec m p (.ok members) = .error (.noFactory spec) := by
  rw [follow, walk_eq_none_iff.mpr h]

theorem follow_of_reaches (h : Reaches (.module members) (Text.pieces '.' p) item) :
    follow spec m p (.ok members) = call item := by
  rw [follow, walk_eq_some_iff.mpr h]

theorem leads_follow (h : Names spec m p) (loaded : Loads env m y) :
    Leads env spec (follow spec m p y) := by
  rcases y with r | members
  · cases r with
    | reason t => exact .notLoaded h loaded
    | failure f => exact .failed h loaded
  · cases walked : walk (.module members) (Text.pieces '.' p) with
    | none =>
      have lost := walk_eq_none_iff.mp walked
      rw [follow_of_astray lost]
      exact .astray h loaded lost
    | some item =>
      have reached := walk_eq_some_iff.mp walked
      rw [follow_of_reaches reached]
      exact .called h loaded reached rfl

/-- Something comes of every specification. -/
theorem leads_resolve (env : Environment) (spec : Text) : Leads env spec (resolve env spec) := by
  rcases names_or spec with ⟨m, p, names⟩ | none | ⟨m, p, parts, first, empty⟩
  · by_cases relative : m.head? = some '.'
    · rw [resolve_of_relative names relative]
      exact .relative names relative
    · have loaded : Loads env m (loadFrom env [] (Text.pieces '.' m)) :=
        loads_iff.mpr ⟨⟨names.module_ne_nil, relative⟩, rfl⟩
      rw [resolve_of_loads names loaded]
      exact leads_follow names loaded
  · rw [resolve_of_no_colon none]
    exact .noColon none
  · rw [resolve_of_empty_side parts first empty]
    exact .emptySide parts first empty

theorem leads_iff : Leads env spec x ↔ resolve env spec = x := by
  constructor
  · intro h
    cases h with
    | noColon none => exact resolve_of_no_colon none
    | emptySide parts first empty => exact resolve_of_empty_side parts first empty
    | relative names relative => exact resolve_of_relative names relative
    | notLoaded names loaded => exact resolve_of_loads names loaded
    | failed names loaded => exact resolve_of_loads names loaded
    | astray names loaded lost =>
      exact (resolve_of_loads names loaded).trans (follow_of_astray lost)
    | called names loaded reached made =>
      exact (resolve_of_loads names loaded).trans ((follow_of_reaches reached).trans made)
  · rintro rfl
    exact leads_resolve env spec

/-- The module inside the package is also one of its members. -/
example : resolve scripted "pkg:mod.build".toList = .ok (.stack "pkg.mod.build".toList) := by rfl

/-! ## Faults of resolution -/

/-- No call says that a specification is none, or that something is not there. -/
theorem call_ne_error {f : Fault} (callable : f ≠ .notCallable) (own : ∀ e, f ≠ .failure e) :
    call item ≠ .error f := by
  intro h
  rcases call_error h with same | ⟨e, same⟩
  · exact callable same
  · exact own e same

theorem resolve_eq_noSpecification_iff : resolve env spec = .error (.noSpecification spec) ↔
    ':' ∉ spec ∨ ∃ m p, spec = m ++ ':' :: p ∧ ':' ∉ m ∧ (m = [] ∨ p = []) := by
  constructor
  · intro h
    cases leads_iff.mpr h with
    | noColon none => exact .inl none
    | emptySide parts first empty => exact .inr ⟨_, _, parts, first, empty⟩
    | called _ _ _ made => exact absurd made (call_ne_error nofun nofun)
  · rintro (none | ⟨m, p, parts, first, empty⟩)
    · exact resolve_of_no_colon none
    · exact resolve_of_empty_side parts first empty

theorem resolve_eq_notLoaded_iff : resolve env spec = .error (.notLoaded m t) ↔
    (∃ p, Names spec m p) ∧ Loads env m (.error (.reason t)) := by
  constructor
  · intro h
    cases leads_iff.mpr h with
    | notLoaded names loaded => exact ⟨⟨_, names⟩, loaded⟩
    | called _ _ _ made => exact absurd made (call_ne_error nofun nofun)
  · rintro ⟨⟨p, names⟩, loaded⟩
    exact resolve_of_loads names loaded

theorem resolve_eq_noFactory_iff : resolve env spec = .error (.noFactory spec) ↔
    ∃ m p members, Names spec m p ∧ Loads env m (.ok members) ∧
      GoesAstray (.module members) (Text.pieces '.' p) := by
  constructor
  · intro h
    cases leads_iff.mpr h with
    | astray names loaded lost => exact ⟨_, _, _, names, loaded, lost⟩
    | called _ _ _ made => exact absurd made (call_ne_error nofun nofun)
  · rintro ⟨m, p, members, names, loaded, lost⟩
    exact (resolve_of_loads names loaded).trans (follow_of_astray lost)

/-- The faults of the configuration are those of the specification, with a message for each, and
those that what is loaded or called brings along. -/
theorem isConfiguration_of_resolve {f : Fault} (h : resolve env spec = .error f) :
    f.isConfiguration = true ↔
      f = .noSpecification spec ∧ f.message =
          "Pipeline must be given as 'module:callable', got ".toList ++ Text.quoted spec ∨
      (∃ m t, f = .notLoaded m t ∧ f.message =
          "Cannot import pipeline module ".toList ++ Text.quoted m ++ ": ".toList ++ t) ∨
      f = .noFactory spec ∧ f.message =
          "Pipeline factory ".toList ++ Text.quoted spec ++ " not found".toList ∨
      ∃ e, f = .failure e ∧ e.isConfiguration = true := by
  constructor
  · intro own
    cases leads_iff.mpr h with
    | noColon => exact .inl ⟨rfl, rfl⟩
    | emptySide => exact .inl ⟨rfl, rfl⟩
    | relative => cases own
    | notLoaded => exact .inr (.inl ⟨_, _, rfl, rfl⟩)
    | failed => exact .inr (.inr (.inr ⟨_, rfl, own⟩))
    | astray => exact .inr (.inr (.inl ⟨rfl, rfl⟩))
    | called _ _ _ made =>
      rcases call_error made with rfl | ⟨e, rfl⟩
      · cases own
      · exact .inr (.inr (.inr ⟨e, rfl, own⟩))
  · rintro (⟨rfl, -⟩ | ⟨m, t, rfl, -⟩ | ⟨rfl, -⟩ | ⟨e, rfl, own⟩)
    · rfl
    · rfl
    · rfl
    · exact own

/-! ## Names that are none -/

theorem GoesAstray.of_not_isName (well : item.WellNamed) {names : List Text} {name : Text}
    (inside : name ∈ names) (none : ¬IsName name) : GoesAstray item names := by
  refine walk_eq_none_iff.mp (Option.eq_none_iff_forall_ne_some.mpr fun last walked => ?_)
  have reached := walk_eq_some_iff.mp walked
  exact none ((reached.wellNamed well).1 name inside)

theorem Environment.WellNamed.of_lookup (well : env.WellNamed) {name : Text} {source : Source}
    (own : env.lookup name = some source)
    (kind : source = .module members ∨ source = .package members) :
    (Item.module members).WellNamed := by
  obtain ⟨before, after, split, -⟩ := List.lookup_eq_some_iff.mp own
  exact well (name, source) (by simp [split]) members kind

theorem Environment.WellNamed.of_outcome (well : env.WellNamed) {name : Text}
    (h : env.outcome name = .ok members) : (Item.module members).WellNamed := by
  unfold Environment.outcome at h
  split at h
  all_goals cases h
  · next own => exact well.of_lookup own (.inl rfl)
  · next own => exact well.of_lookup own (.inr rfl)

theorem Loads.wellNamed (well : env.WellNamed) (h : Loads env m (.ok members)) :
    (Item.module members).WellNamed := by
  generalize result : Except.ok members = y at h
  cases h with
  | outermost => exact well.of_outcome result.symm
  | inside => exact well.of_outcome result.symm
  | notInside => cases result
  | broken => cases result

theorem wellNamed_scripted : scripted.WellNamed := by
  have build : (Item.module scripted.buildMembers).WellNamed := by
    refine .module (by decide +kernel) ?_
    simp only [scripted.buildMembers, List.forall_mem_cons]
    exact ⟨.factory, nofun⟩
  simp only [Environment.WellNamed, scripted, List.forall_mem_cons]
  refine ⟨?stack, ?package, ?inside, nofun, nofun, nofun⟩
  all_goals
    rintro members (same | same)
    all_goals cases same
  case stack =>
    refine .module (by decide +kernel) ?_
    simp only [List.forall_mem_cons]
    refine ⟨.factory, .factory, ?_, .thing, .failing, nofun⟩
    refine .record (by decide +kernel) ?_
    simp only [List.forall_mem_cons]
    refine ⟨.factory, ?_, nofun⟩
    refine .record (by decide +kernel) ?_
    simp only [List.forall_mem_cons]
    exact ⟨.factory, nofun⟩
  case package =>
    refine .module (by decide +kernel) ?_
    simp only [List.forall_mem_cons]
    exact ⟨build, .thing, nofun⟩
  case inside => exact build

theorem names_of_ofValue {check : Config.Checker} (faithful : check.Faithful)
    {v : Config.Value} {c : Config} (h : Config.ofValue check v = .ok c) :
    ∃ m p, Names c.pipeline m p := by
  obtain ⟨entries, -, accepted, made⟩ := (Config.ofValue_eq_ok_iff faithful).mp h
  obtain ⟨m, a, left, right, characters, shape⟩ := accepted.specification made
  have first : ':' ∉ m := Config.colon_not_mem fun c hc => characters c (List.mem_append_left a hc)
  rcases shape with shape | shape
  · exact ⟨m, a, shape, first, left, right⟩
  · exact ⟨m, a ++ ['\n'], shape.trans (List.append_assoc ..), first, left, by simp⟩

/-- Of every specification comes what it leads to. Its shape is to blame exactly when there is no
colon or a side of the first is empty, its module exactly when that cannot be loaded and says why,
and its path exactly when it goes astray, as it does at each part that is no name. Each of these
has its message; other faults are those of loading and of the call. The specification of a
configuration has the right shape, whichever faithful checker lets it pass. -/
theorem resolve_classified (env : Environment) (spec : Text) :
    (∀ x, resolve env spec = x ↔ Leads env spec x) ∧
    (resolve env spec = .error (.noSpecification spec) ↔
      ':' ∉ spec ∨ ∃ m p, spec = m ++ ':' :: p ∧ ':' ∉ m ∧ (m = [] ∨ p = [])) ∧
    (∀ m t, resolve env spec = .error (.notLoaded m t) ↔
      (∃ p, Names spec m p) ∧ Loads env m (.error (.reason t))) ∧
    (resolve env spec = .error (.noFactory spec) ↔ ∃ m p members, Names spec m p ∧
      Loads env m (.ok members) ∧ GoesAstray (.module members) (Text.pieces '.' p)) ∧
    (∀ f, resolve env spec = .error f → (f.isConfiguration = true ↔
      f = .noSpecification spec ∧ f.message =
          "Pipeline must be given as 'module:callable', got ".toList ++ Text.quoted spec ∨
      (∃ m t, f = .notLoaded m t ∧ f.message =
          "Cannot import pipeline module ".toList ++ Text.quoted m ++ ": ".toList ++ t) ∨
      f = .noFactory spec ∧ f.message =
          "Pipeline factory ".toList ++ Text.quoted spec ++ " not found".toList ∨
      ∃ e, f = .failure e ∧ e.isConfiguration = true)) ∧
    (env.WellNamed → ∀ m p members, Names spec m p → Loads env m (.ok members) →
      (∃ part ∈ Text.pieces '.' p, part = [] ∨ ':' ∈ part) →
        resolve env spec = .error (.noFactory spec)) ∧
    scripted.WellNamed ∧
    (∀ check : Config.Checker, check.Faithful → ∀ v c, Config.ofValue check v = .ok c →
      ∃ m p, Names c.pipeline m p) ∧
    Config.Checker.Faithful Config.Schema.check := by
  refine ⟨fun x => leads_iff.symm, resolve_eq_noSpecification_iff,
    fun m t => resolve_eq_notLoaded_iff, resolve_eq_noFactory_iff,
    fun f => isConfiguration_of_resolve, ?_, wellNamed_scripted,
    fun _ faithful _ _ => names_of_ofValue faithful, Config.faithful_check⟩
  rintro well m p members names loaded ⟨part, inside, bad⟩
  have none : ¬IsName part := fun good => bad.elim good.1 good.2
  have lost : GoesAstray _ (Text.pieces '.' p) := .of_not_isName (loaded.wellNamed well) inside none
  exact resolve_eq_noFactory_iff.mpr ⟨m, p, members, names, loaded, lost⟩

end DiagCheck.Pipeline
