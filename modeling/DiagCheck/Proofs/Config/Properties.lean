import DiagCheck.Proofs.Config.Object

/-! Values of single properties. A factory is named by two names, a version is a text that is not
empty, and of the other values only the kind counts. -/
namespace DiagCheck.Config

/-! ## Specifications -/

/-- Two names of word characters and dots with a colon between them, and perhaps a newline. -/
def Specification (t : Text) : Prop :=
  ∃ m a, m ≠ [] ∧ a ≠ [] ∧ (∀ c ∈ m ++ a, c = '.' ∨ c = '_' ∨ isAlphanumeric c = true) ∧
    (t = m ++ ':' :: a ∨ t = m ++ ':' :: a ++ ['\n'])

theorem isNameCharacter_iff {c : Char} :
    isNameCharacter c = true ↔ c = '.' ∨ c = '_' ∨ isAlphanumeric c = true := by
  simp only [isNameCharacter, isWord, Bool.or_eq_true, beq_iff_eq]
  rw [or_comm, or_comm (b := c = '_')]

theorem isName_iff {t : Text} :
    isName t = true ↔ t ≠ [] ∧ ∀ c ∈ t, c = '.' ∨ c = '_' ∨ isAlphanumeric c = true := by
  simp only [isName, Bool.and_eq_true, bne_iff_ne, List.all_eq_true, isNameCharacter_iff]

theorem isNameCharacter_colon : isNameCharacter ':' = false := by decide +kernel

theorem colon_not_mem {t : Text} (h : ∀ c ∈ t, c = '.' ∨ c = '_' ∨ isAlphanumeric c = true) :
    ':' ∉ t := by
  intro inside
  have character := isNameCharacter_iff.mpr (h ':' inside)
  rw [isNameCharacter_colon] at character
  cases character

theorem isNamePair_iff {t : Text} :
    isNamePair t = true ↔
      ∃ m a, isName m = true ∧ isName a = true ∧ t = m ++ ':' :: a := by
  constructor
  · intro h
    unfold isNamePair at h
    split at h
    · next m a cut =>
      rw [Bool.and_eq_true] at h
      exact ⟨m, a, h.1, h.2, (Text.cut?_eq_some_iff.mp cut).1⟩
    · cases h
  · rintro ⟨m, a, first, second, rfl⟩
    have plain : ':' ∉ m := colon_not_mem (isName_iff.mp first).2
    have cut : Text.cut? ':' (m ++ ':' :: a) = some (m, a) :=
      Text.cut?_eq_some_iff.mpr ⟨rfl, plain⟩
    simp only [isNamePair, cut, first, second, Bool.and_self]

theorem isSpecification_iff {t : Text} : isSpecification t = true ↔ Specification t := by
  have names {m a : Text} : isName m = true ∧ isName a = true ↔
      m ≠ [] ∧ a ≠ [] ∧ ∀ c ∈ m ++ a, c = '.' ∨ c = '_' ∨ isAlphanumeric c = true := by
    rw [isName_iff, isName_iff, List.forall_mem_append]
    tauto
  rw [isSpecification, Bool.or_eq_true, Bool.and_eq_true, beq_iff_eq, isNamePair_iff,
    isNamePair_iff, List.getLast?_eq_some_iff]
  constructor
  · rintro (⟨m, a, first, second, rfl⟩ | ⟨⟨s, rfl⟩, m, a, first, second, pair⟩)
    · obtain ⟨hm, ha, characters⟩ := names.mp ⟨first, second⟩
      exact ⟨m, a, hm, ha, characters, .inl rfl⟩
    · obtain ⟨hm, ha, characters⟩ := names.mp ⟨first, second⟩
      rw [List.dropLast_concat] at pair
      exact ⟨m, a, hm, ha, characters, .inr (by rw [pair])⟩
  · rintro ⟨m, a, hm, ha, characters, rfl | rfl⟩
    · obtain ⟨first, second⟩ := names.mpr ⟨hm, ha, characters⟩
      exact .inl ⟨m, a, first, second, rfl⟩
    · obtain ⟨first, second⟩ := names.mpr ⟨hm, ha, characters⟩
      exact .inr ⟨⟨_, rfl⟩, m, a, first, second, List.dropLast_concat ..⟩

/-! ## Values -/

open Value

/-- What is wrong with the value of a property. -/
inductive Misfit : Text → Value → Text → Prop where
  | notText : name ∈ [pipelineKey, leadKey, evmVersionKey] → (∀ t, v ≠ string t) →
      Misfit name v (v.literal ++ " is not of type 'string'".toList)
  | notBool : name ∈ [recoveryKey, formattedKey] → (∀ b, v ≠ boolean b) →
      Misfit name v (v.literal ++ " is not of type 'boolean'".toList)
  | noSpecification : ¬Specification t →
      Misfit pipelineKey (string t)
        (Text.quoted t ++ " does not match ".toList ++ "'^[\\\\w.]+:[\\\\w.]+$'".toList)
  | empty : Misfit evmVersionKey (string []) "'' should be non-empty".toList

/-- The value is not of the type that its property has. -/
inductive OffType : Text → Value → Prop where
  | notText : name ∈ [pipelineKey, leadKey, evmVersionKey] → (∀ t, v ≠ string t) → OffType name v
  | notBool : name ∈ [recoveryKey, formattedKey] → (∀ b, v ≠ boolean b) → OffType name v

/-- What the schema finds wrong with the value of a property. -/
inductive Unfit : Text → Value → Flaw → Prop where
  | notText : name ∈ [pipelineKey, leadKey, evmVersionKey] → v.points? = none →
      Unfit name v (.notOfType v .string)
  | notBool : name ∈ [recoveryKey, formattedKey] → v.bool? = none →
      Unfit name v (.notOfType v .boolean)
  | noSpecification : v.points? = some ps → specification.isFound ps = false →
      Unfit pipelineKey v (.noMatch ps specification.text)
  | empty : v.points? = some [] → Unfit evmVersionKey v (.tooShort [] 1)

variable {v : Value} {t name message : Text} {b : Bool} {f g : Flaw} {ps : Points}

/-! ## Demands -/

theorem admits_string (v : Value) : Kind.string.admits v = v.points?.isSome := by
  cases v with
  | scalar s => cases s <;> rfl
  | _ => rfl

theorem admits_boolean (v : Value) : Kind.boolean.admits v = v.bool?.isSome := by
  cases v with
  | scalar s => cases s <;> rfl
  | _ => rfl

theorem flaw?_string : (Demand.type .string).flaw? v = some f ↔
    v.points? = none ∧ f = .notOfType v .string := by
  rw [Demand.flaw?, admits_string]
  cases v.points? <;> simp [eq_comm]

theorem flaw?_boolean : (Demand.type .boolean).flaw? v = some f ↔
    v.bool? = none ∧ f = .notOfType v .boolean := by
  rw [Demand.flaw?, admits_boolean]
  cases v.bool? <;> simp [eq_comm]

theorem flaw?_pattern {p : Pattern} : (Demand.pattern p).flaw? v = some f ↔
    ∃ ps, v.points? = some ps ∧ p.isFound ps = false ∧ f = .noMatch ps p.text := by
  rw [Demand.flaw?]
  cases v.points? with
  | none => simp
  | some ps =>
    simp only [Option.bind_some, Option.some.injEq, exists_eq_left']
    cases p.isFound ps <;> simp [eq_comm]

theorem flaw?_minLength {n : Nat} : (Demand.minLength n).flaw? v = some f ↔
    ∃ ps, v.points? = some ps ∧ ps.length < n ∧ f = .tooShort ps n := by
  rw [Demand.flaw?]
  cases v.points? with
  | none => simp
  | some ps => simp [eq_comm]

theorem mem_flaws {demands : List Demand} :
    f ∈ Schema.flaws demands v ↔ ∃ demand ∈ demands, demand.flaw? v = some f :=
  List.mem_filterMap

theorem exists_property_iff : (∃ demands, (name, demands) ∈ schema.properties ∧
    f ∈ Schema.flaws demands v) ↔ Unfit name v f := by
  simp only [mem_flaws]
  constructor
  · rintro ⟨demands, property, demand, inside, found⟩
    simp only [schema, List.mem_cons, List.not_mem_nil, or_false, Prod.mk.injEq] at property
    rcases property with ⟨rfl, rfl⟩ | ⟨rfl, rfl⟩ | ⟨rfl, rfl⟩ | ⟨rfl, rfl⟩ | ⟨rfl, rfl⟩
    all_goals simp only [List.mem_cons, List.not_mem_nil, or_false] at inside
    · rcases inside with rfl | rfl
      · obtain ⟨none, rfl⟩ := flaw?_string.mp found
        exact .notText (by decide) none
      · obtain ⟨ps, text, fails, rfl⟩ := flaw?_pattern.mp found
        exact .noSpecification text fails
    · rcases inside with rfl | rfl
      · obtain ⟨none, rfl⟩ := flaw?_string.mp found
        exact .notText (by decide) none
      · obtain ⟨ps, text, short, rfl⟩ := flaw?_minLength.mp found
        obtain rfl : ps = [] := List.length_eq_zero_iff.mp (by omega)
        exact .empty text
    · subst inside
      obtain ⟨none, rfl⟩ := flaw?_boolean.mp found
      exact .notBool (by decide) none
    · subst inside
      obtain ⟨none, rfl⟩ := flaw?_string.mp found
      exact .notText (by decide) none
    · subst inside
      obtain ⟨none, rfl⟩ := flaw?_boolean.mp found
      exact .notBool (by decide) none
  · intro h
    cases h with
    | notText own none =>
      have demand := flaw?_string.mpr ⟨none, rfl⟩
      simp only [List.mem_cons, List.not_mem_nil, or_false] at own
      rcases own with rfl | rfl | rfl
      · exact ⟨_, .head _, _, .head _, demand⟩
      · exact ⟨_, .tail _ (.tail _ (.tail _ (.head _))), _, .head _, demand⟩
      · exact ⟨_, .tail _ (.head _), _, .head _, demand⟩
    | notBool own none =>
      have demand := flaw?_boolean.mpr ⟨none, rfl⟩
      simp only [List.mem_cons, List.not_mem_nil, or_false] at own
      rcases own with rfl | rfl
      · exact ⟨_, .tail _ (.tail _ (.head _)), _, .head _, demand⟩
      · exact ⟨_, .tail _ (.tail _ (.tail _ (.tail _ (.head _)))), _, .head _, demand⟩
    | noSpecification text fails =>
      exact ⟨_, .head _, _, .tail _ (.head _), flaw?_pattern.mpr ⟨_, text, fails, rfl⟩⟩
    | empty text =>
      exact ⟨_, .tail _ (.head _), _, .tail _ (.head _),
        flaw?_minLength.mpr ⟨[], text, by decide, rfl⟩⟩

/-! ## Flaws -/

theorem Unfit.unique (h : Unfit name v f) (other : Unfit name v g) : f = g := by
  have apart : ∀ n ∈ [pipelineKey, leadKey, evmVersionKey], n ∉ [recoveryKey, formattedKey] := by
    decide
  cases h with
  | notText own none =>
    cases other with
    | notText _ _ => rfl
    | notBool own' _ => exact absurd own' (apart _ own)
    | noSpecification text _ => exact nomatch none.symm.trans text
    | empty text => exact nomatch none.symm.trans text
  | notBool own none =>
    cases other with
    | notText own' _ => exact absurd own (apart _ own')
    | notBool _ _ => rfl
    | noSpecification _ _ => exact absurd own (by decide)
    | empty _ => exact absurd own (by decide)
  | noSpecification text _ =>
    generalize same : pipelineKey = n at other
    cases other with
    | notText _ none => exact nomatch none.symm.trans text
    | notBool own' _ => exact absurd (same ▸ own') (by decide)
    | noSpecification text' _ =>
      obtain rfl := Option.some.inj (text.symm.trans text')
      rfl
    | empty _ => exact absurd same (by decide)
  | empty text =>
    generalize same : evmVersionKey = n at other
    cases other with
    | notText _ none => exact nomatch none.symm.trans text
    | notBool own' _ => exact absurd (same ▸ own') (by decide)
    | noSpecification _ _ => exact absurd same (by decide)
    | empty _ => rfl

theorem message_notOfType (v : Value) (k : Kind) : (Flaw.notOfType v k).message =
    v.literal ++ (" is not of type '".toList ++ (k.name ++ ['\x27'])) := by
  show v.literal ++ " is not of type '".toList ++ k.name ++ ['\x27'] = _
  rw [List.append_assoc, List.append_assoc]

theorem message_noMatch (t : Text) : (Flaw.noMatch t.points specification.text).message =
    Text.quoted t ++ " does not match ".toList ++ "'^[\\\\w.]+:[\\\\w.]+$'".toList := by
  have pattern : Text.quoted specification.text = "'^[\\\\w.]+:[\\\\w.]+$'".toList := by
    decide +kernel
  show t.points.quoted ++ " does not match ".toList ++ Text.quoted specification.text = _
  rw [pattern, Points.quoted_points]

theorem isFound_points (t : Text) : specification.isFound t.points = isSpecification t := by
  show isFound t.points = isSpecification t
  rw [isFound, Points.toText_points, BEq.rfl, Bool.true_and]

theorem specification_of_isFound (h : specification.isFound ps = true) :
    Specification ps.toText :=
  isSpecification_iff.mp (Bool.and_eq_true_iff.mp h).2

/-! ## JSON values -/

theorem bool?_eq_none_iff : v.bool? = none ↔ ∀ b, v ≠ boolean b := by
  unfold bool?
  split
  · next b => exact iff_of_false nofun fun h => h b rfl
  · next none => exact iff_of_true rfl none

theorem bool?_eq_some_iff : v.bool? = some b ↔ v = boolean b := by
  unfold bool?
  split
  · next c => simp [boolean]
  · next none => exact iff_of_false nofun (none b)

/-- The schema finds a value unfit for what is wrong with it. -/
theorem unfit_iff_misfit (json : IsJson v) :
    (∃ f, Unfit name v f ∧ f.message = message) ↔ Misfit name v message := by
  constructor
  · rintro ⟨f, unfit, rfl⟩
    cases unfit with
    | notText own none =>
      rw [message_notOfType]
      exact .notText own (json.points?_eq_none_iff.mp none)
    | notBool own none =>
      rw [message_notOfType]
      exact .notBool own (bool?_eq_none_iff.mp none)
    | noSpecification text fails =>
      obtain ⟨t, rfl, rfl⟩ := json.points?_eq_some_iff.mp text
      rw [message_noMatch]
      rw [isFound_points] at fails
      exact .noSpecification fun own => by simp [isSpecification_iff.mpr own] at fails
    | empty text =>
      obtain ⟨t, rfl, empty⟩ := json.points?_eq_some_iff.mp text
      obtain rfl : t = [] := Text.points_injective empty.symm
      exact .empty
  · intro h
    cases h with
    | notText own none =>
      exact ⟨_, .notText own (json.points?_eq_none_iff.mpr none), message_notOfType v .string⟩
    | notBool own none =>
      exact ⟨_, .notBool own (bool?_eq_none_iff.mpr none), message_notOfType v .boolean⟩
    | @noSpecification t fails =>
      rw [← isSpecification_iff, Bool.not_eq_true, ← isFound_points] at fails
      exact ⟨_, .noSpecification (points?_string t) fails, message_noMatch t⟩
    | empty => exact ⟨_, .empty (points?_string []), rfl⟩

/-- The message about a value has too large a number if the value is shown for its type. -/
theorem unfit_unwritable_iff (json : IsJson v) :
    (∃ f, Unfit name v f ∧ f.isWritable = false) ↔ OffType name v ∧ v.isWritable = false := by
  constructor
  · rintro ⟨f, unfit, unwritable⟩
    cases unfit with
    | notText own none => exact ⟨.notText own (json.points?_eq_none_iff.mp none), unwritable⟩
    | notBool own none => exact ⟨.notBool own (bool?_eq_none_iff.mp none), unwritable⟩
    | noSpecification _ _ => cases unwritable
    | empty _ => cases unwritable
  · rintro ⟨offType, unwritable⟩
    cases offType with
    | notText own none =>
      exact ⟨_, .notText own (json.points?_eq_none_iff.mpr none), unwritable⟩
    | notBool own none => exact ⟨_, .notBool own (bool?_eq_none_iff.mpr none), unwritable⟩

end DiagCheck.Config
