import DiagCheck.Proofs.Config.Checker
import DiagCheck.Proofs.Config.Properties

/-! Values without violations. A faithful checker lets exactly those values pass that have all the
members they must have, no others, and fit values. Of them a configuration is built, always. -/
namespace DiagCheck.Config

open Value

/-- The entries go against the schema nowhere. -/
structure Accepted (entries : List (Scalar × Value)) : Prop where
  fits : ∀ name v f, member? name entries = some v → ¬Unfit name v f
  pipeline : ∃ v, member? pipelineKey entries = some v
  known : schema.unknown entries = []

variable {v w : Value} {name : Text} {entries : List (Scalar × Value)} {c : Config} {f : Flaw}
  {x : Violation} {check : Checker}

/-! ## Violations -/

theorem mem_memberViolations : x ∈ schema.memberViolations entries ↔
    ∃ name v f, member? name entries = some v ∧ Unfit name v f ∧ x = ⟨[name], f⟩ := by
  simp only [Schema.memberViolations, List.mem_flatMap, Option.mem_toList, List.mem_map,
    Prod.exists]
  constructor
  · rintro ⟨name, demands, property, v, there, f, unfit, rfl⟩
    exact ⟨name, v, f, there, exists_property_iff.mp ⟨demands, property, unfit⟩, rfl⟩
  · rintro ⟨name, v, f, there, unfit, rfl⟩
    obtain ⟨demands, property, unfit⟩ := exists_property_iff.mpr unfit
    exact ⟨name, demands, property, v, there, f, unfit, rfl⟩

theorem missing_eq (entries : List (Scalar × Value)) :
    schema.missing entries = if member? pipelineKey entries = none then [pipelineKey] else [] := by
  show [pipelineKey].filter _ = _
  cases there : member? pipelineKey entries <;> simp [there]

theorem violations_map (entries : List (Scalar × Value)) : schema.violations (.map entries) =
    schema.memberViolations entries ++
      (if member? pipelineKey entries = none then [⟨[], .missing pipelineKey⟩] else []) ++
      if schema.unknown entries = [] then []
      else [⟨[], .unknownKeys (Schema.sortKeys (schema.unknown entries))⟩] := by
  rw [Schema.violations, missing_eq]
  split <;> rfl

theorem violations_of_no_map (none : ∀ entries, v ≠ .map entries) :
    schema.violations v = [⟨[], .notOfType v .object⟩] := by
  cases v with
  | map entries => exact absurd rfl (none entries)
  | _ => rfl

theorem violations_eq_nil_iff :
    schema.violations v = [] ↔ ∃ entries, v = .map entries ∧ Accepted entries := by
  constructor
  · intro h
    cases v with
    | map entries =>
      rw [violations_map, List.append_eq_nil_iff, List.append_eq_nil_iff] at h
      obtain ⟨⟨members, missing⟩, unknown⟩ := h
      refine ⟨entries, rfl, fun name v f there unfit => ?_, ?_, ?_⟩
      · have inside := mem_memberViolations.mpr ⟨name, v, f, there, unfit, rfl⟩
        rw [members] at inside
        exact List.not_mem_nil inside
      · cases there : member? pipelineKey entries with
        | none => simp [there] at missing
        | some v => exact ⟨v, rfl⟩
      · by_contra some
        simp [some] at unknown
    | scalar _ => cases h
    | list _ => cases h
  · rintro ⟨entries, rfl, accepted⟩
    obtain ⟨v, there⟩ := accepted.pipeline
    have members : schema.memberViolations entries = [] := by
      refine List.eq_nil_iff_forall_not_mem.mpr fun x inside => ?_
      obtain ⟨name, v, f, there, unfit, -⟩ := mem_memberViolations.mp inside
      exact accepted.fits name v f there unfit
    simp [violations_map, members, there, accepted.known]

/-! ## Configurations -/

theorem member_eq_some_iff {α : Type} {view : Value → Option α} {a d : α} :
    member entries name view d = some a ↔
      (member? name entries = none ∧ a = d) ∨
        ∃ v, member? name entries = some v ∧ view v = some a := by
  unfold member
  cases member? name entries <;> simp [eq_comm]

theorem ofEntries_eq_some_iff : ofEntries entries = some c ↔
    (member? pipelineKey entries).bind text? = some c.pipeline ∧
      member entries evmVersionKey text? "constantinople".toList = some c.evmVersion ∧
      member entries recoveryKey bool? false = some c.recovery ∧
      member entries leadKey text? "  ".toList = some c.lead ∧
      member entries formattedKey bool? true = some c.formatted := by
  unfold ofEntries
  simp only [Option.bind_eq_bind, Option.bind_eq_some_iff, Option.pure_def, Option.some.injEq]
  constructor
  · rintro ⟨pipeline, first, evmVersion, second, recovery, third, lead, fourth, formatted, fifth,
      rfl⟩
    exact ⟨first, second, third, fourth, fifth⟩
  · rintro ⟨first, second, third, fourth, fifth⟩
    exact ⟨_, first, _, second, _, third, _, fourth, _, fifth, rfl⟩

theorem build_eq_ok_iff : build v = .ok c ↔
    ∃ entries, v = .map entries ∧ schema.unknown entries = [] ∧ ofEntries entries = some c := by
  unfold build
  split
  · next entries =>
    by_cases known : schema.unknown entries = []
    · cases made : ofEntries entries <;> simp [known, made]
    · simp [known]
  · next none => exact iff_of_false nofun fun ⟨entries, same, _⟩ => none entries same

theorem exists_text? (own : name ∈ [pipelineKey, leadKey, evmVersionKey])
    (fits : ∀ f, ¬Unfit name v f) : ∃ t, v.text? = some t := by
  cases text : v.points? with
  | none => exact absurd (.notText own text) (fits _)
  | some ps => exact ⟨ps.toText, by rw [text?, text]; rfl⟩

theorem exists_bool? (own : name ∈ [recoveryKey, formattedKey]) (fits : ∀ f, ¬Unfit name v f) :
    ∃ b, v.bool? = some b := by
  cases boolean : v.bool? with
  | none => exact absurd (.notBool own boolean) (fits _)
  | some b => exact ⟨b, rfl⟩

theorem Accepted.exists_member {α : Type} {view : Value → Option α} (accepted : Accepted entries)
    (name : Text) (own : ∀ v, (∀ f, ¬Unfit name v f) → ∃ a, view v = some a) (d : α) :
    ∃ a, member entries name view d = some a := by
  unfold member
  cases there : member? name entries with
  | none => exact ⟨d, rfl⟩
  | some v => exact own v fun f => accepted.fits name v f there

/-- What passes the checker makes up a configuration. -/
theorem Accepted.exists_config (accepted : Accepted entries) : ∃ c, ofEntries entries = some c := by
  have text (name : Text) (own : name ∈ [pipelineKey, leadKey, evmVersionKey]) :=
    accepted.exists_member name fun _ => exists_text? own
  have boolean (name : Text) (own : name ∈ [recoveryKey, formattedKey]) :=
    accepted.exists_member name fun _ => exists_bool? own
  obtain ⟨v, there⟩ := accepted.pipeline
  obtain ⟨pipeline, first⟩ := exists_text? (by decide) fun f => accepted.fits _ v f there
  obtain ⟨evmVersion, second⟩ := text evmVersionKey (by decide) "constantinople".toList
  obtain ⟨recovery, third⟩ := boolean recoveryKey (by decide) false
  obtain ⟨lead, fourth⟩ := text leadKey (by decide) "  ".toList
  obtain ⟨formatted, fifth⟩ := boolean formattedKey (by decide) true
  exact ⟨⟨pipeline, evmVersion, recovery, lead, formatted⟩, ofEntries_eq_some_iff.mpr
    ⟨by rw [there]; exact first, second, third, fourth, fifth⟩⟩

/-- The pipeline of a configuration is a specification. -/
theorem Accepted.specification (accepted : Accepted entries) (made : ofEntries entries = some c) :
    Specification c.pipeline := by
  obtain ⟨v, there, text⟩ := Option.bind_eq_some_iff.mp (ofEntries_eq_some_iff.mp made).1
  obtain ⟨ps, points, same⟩ := Option.map_eq_some_iff.mp text
  rw [← same]
  refine specification_of_isFound (Bool.not_eq_false _ ▸ fun fails => ?_)
  exact accepted.fits _ v _ there (.noSpecification points fails)

theorem ofValue_eq_ok_iff (faithful : check.Faithful) : ofValue check v = .ok c ↔
    ∃ entries, v = .map entries ∧ Accepted entries ∧ ofEntries entries = some c := by
  unfold ofValue
  constructor
  · intro h
    split at h
    · cases h
    · next checked =>
      obtain ⟨entries, rfl, accepted⟩ :=
        violations_eq_nil_iff.mp (faithful.eq_ok_iff.mp checked)
      obtain ⟨_, same, -, made⟩ := build_eq_ok_iff.mp h
      cases same
      exact ⟨entries, rfl, accepted, made⟩
  · rintro ⟨entries, rfl, accepted, made⟩
    rw [faithful.accepts (violations_eq_nil_iff.mpr ⟨entries, rfl, accepted⟩)]
    exact build_eq_ok_iff.mpr ⟨entries, rfl, accepted.known, made⟩

/-- Nothing but what the checker complains of stands in the way of a configuration. -/
theorem ofValue_eq_error_iff (faithful : check.Faithful) {e : Fault} :
    ofValue check v = .error e ↔ ∃ p, check schema v = .error p ∧ e = .ofComplaint p := by
  unfold ofValue
  constructor
  · intro h
    split at h
    · next p complaint =>
      cases h
      exact ⟨p, complaint, rfl⟩
    · next checked =>
      obtain ⟨entries, rfl, accepted⟩ :=
        violations_eq_nil_iff.mp (faithful.eq_ok_iff.mp checked)
      obtain ⟨c, made⟩ := accepted.exists_config
      rw [build_eq_ok_iff.mpr ⟨entries, rfl, accepted.known, made⟩] at h
      cases h
  · rintro ⟨p, complaint, rfl⟩
    rw [complaint]

end DiagCheck.Config
