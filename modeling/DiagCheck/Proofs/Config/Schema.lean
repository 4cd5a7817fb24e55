import DiagCheck.Proofs.Config.Acceptance
import DiagCheck.Proofs.Expectation.Grammar

/-! Which JSON values are configurations, and what is reported of the others. Of an object that is
none, the most relevant violation is reported: a missing factory, then all unknown keys, then the
unfit value whose name comes last. -/
namespace DiagCheck.Config

open Value

/-- The value of a property, or its default where the object does not have it. -/
def Gives (members : List (Text × Value)) (name : Text) (v default : Value) : Prop :=
  (name, v) ∈ members ∨ name ∉ members.map (·.1) ∧ v = default

/-- The members make up this configuration. -/
structure Conforms (members : List (Text × Value)) (c : Config) : Prop where
  known : ∀ m ∈ members, m.1 ∈ schema.names
  pipeline : (pipelineKey, string c.pipeline) ∈ members
  specification : Specification c.pipeline
  evmVersion : Gives members evmVersionKey (string c.evmVersion) (string "constantinople".toList)
  nonempty : c.evmVersion ≠ []
  recovery : Gives members recoveryKey (boolean c.recovery) (boolean false)
  lead : Gives members leadKey (string c.lead) (string "  ".toList)
  formatted : Gives members formattedKey (boolean c.formatted) (boolean true)

def unexpected (keys : List Text) : Text :=
  "Additional properties are not allowed (".toList ++ Text.join [',', ' '] (keys.map Text.quoted) ++
    (if keys.length = 1 then " was" else " were").toList ++ " unexpected)".toList

/-- What is reported of a value that is no configuration. -/
inductive Reported : Value → Text → Prop where
  | notObject : (∀ members, v ≠ object members) →
      Reported v (v.literal ++ " is not of type 'object'".toList)
  | noPipeline : pipelineKey ∉ members.map (·.1) →
      Reported (object members) "'pipeline' is a required property".toList
  | unknown : pipelineKey ∈ members.map (·.1) → keys ≠ [] → keys.Pairwise (· < ·) →
      (∀ k, k ∈ keys ↔ k ∈ members.map (·.1) ∧ k ∉ schema.names) →
      Reported (object members) (unexpected keys)
  /-- Of several unfit values the one with the last name. -/
  | unfit : pipelineKey ∈ members.map (·.1) → (∀ m ∈ members, m.1 ∈ schema.names) →
      (name, v) ∈ members → Misfit name v message →
      (∀ m ∈ members, name < m.1 → ∀ other, ¬Misfit m.1 m.2 other) →
      Reported (object members) (message ++ (" (at ".toList ++ name ++ [')']))

/-- The messages about a value show this of it, whichever of them is reported. -/
inductive Shows : Value → Value → Prop where
  | whole : (∀ members, v ≠ object members) → Shows v v
  | member : (name, w) ∈ members → OffType name w → Shows (object members) w

/-- What is said of a violation and its place. -/
def Violation.detail (x : Violation) : Text := x.flaw.message ++ Fault.place x.path

variable {v w : Value} {name d : Text} {members others : List (Text × Value)} {c : Config}
  {f : Flaw} {x : Violation} {check : Checker}

/-! ## Objects -/

theorem strays_eq_nil_iff : strays members = [] ↔ ∀ m ∈ members, m.1 ∈ schema.names := by
  simp [strays]

theorem mem_strays {k : Text} :
    k ∈ strays members ↔ k ∈ members.map (·.1) ∧ k ∉ schema.names := by
  rw [strays, List.mem_filter, decide_eq_true_iff]

theorem strays_distinct (json : IsJson (object members)) : (strays members).Nodup :=
  (isJson_object json).1.filter _

/-- The violations of an object are those of its members, a missing factory, and strays. -/
theorem violations_object (members : List (Text × Value)) : schema.violations (object members) =
    schema.memberViolations (entriesOf members) ++
      (if pipelineKey ∈ members.map (·.1) then [] else [⟨[], .missing pipelineKey⟩]) ++
      if strays members = [] then []
      else [⟨[], .unknownKeys ((Text.sort (strays members)).map keyOf)⟩] := by
  rw [object, violations_map]
  simp only [member?_entriesOf, unknown_entriesOf, sortKeys_map_keyOf, List.map_eq_nil_iff,
    lookup_eq_none_iff, ite_not]

theorem mem_memberViolations_entriesOf (json : IsJson (object members)) :
    x ∈ schema.memberViolations (entriesOf members) ↔
      ∃ name v f, (name, v) ∈ members ∧ Unfit name v f ∧ x = ⟨[name], f⟩ := by
  simp only [mem_memberViolations, member?_entriesOf, lookup_eq_some_iff (isJson_object json).1]

/-- Equal names lead to equal values. -/
theorem eq_of_mem (json : IsJson (object members)) (h : (name, v) ∈ members)
    (other : (name, w) ∈ members) : v = w := by
  rw [← lookup_eq_some_iff (isJson_object json).1] at h other
  exact Option.some.inj (h.symm.trans other)

theorem object_or (h : IsJson v) : (∃ members, v = object members) ∨
    (∀ members, v ≠ object members) ∧ ∀ entries, v ≠ .map entries := by
  cases h with
  | object _ _ => exact .inl ⟨_, rfl⟩
  | _ => exact .inr (And.intro (fun _ same => by cases same) (fun _ same => by cases same))

/-! ## Conformity -/

/-- Views of one kind of value find what the object gives, or take the default. -/
theorem member_eq_some_iff_gives {α : Type} {a d : α} {view : Value → Option α}
    {wrap : α → Value} (json : IsJson (object members)) (injective : Function.Injective wrap)
    (own : ∀ v, IsJson v → ∀ a, view v = some a ↔ v = wrap a) :
    member (entriesOf members) name view d = some a ↔ Gives members name (wrap a) (wrap d) := by
  obtain ⟨distinct, json⟩ := isJson_object json
  simp only [member_eq_some_iff, member?_entriesOf, lookup_eq_none_iff,
    lookup_eq_some_iff distinct, Gives, injective.eq_iff]
  constructor
  · rintro (absent | ⟨v, here, view⟩)
    · exact .inr absent
    · rw [(own v (json _ here) a).mp view] at here
      exact .inl here
  · rintro (here | absent)
    · exact .inr ⟨_, here, (own _ (json _ here) a).mpr rfl⟩
    · exact .inl absent

theorem text?_eq_some_iff {t : Text} (json : IsJson v) : v.text? = some t ↔ v = string t := by
  constructor
  · intro h
    obtain ⟨ps, points, rfl⟩ := Option.map_eq_some_iff.mp h
    obtain ⟨s, rfl, rfl⟩ := json.points?_eq_some_iff.mp points
    rw [Points.toText_points]
  · rintro rfl
    exact text?_string t

theorem member_text_iff {a d : Text} (json : IsJson (object members)) :
    member (entriesOf members) name text? d = some a ↔
      Gives members name (string a) (string d) :=
  member_eq_some_iff_gives json string_injective fun _ json _ => text?_eq_some_iff json

theorem member_bool_iff {a d : Bool} (json : IsJson (object members)) :
    member (entriesOf members) name bool? d = some a ↔
      Gives members name (boolean a) (boolean d) :=
  member_eq_some_iff_gives json boolean_injective fun _ _ _ => bool?_eq_some_iff

theorem conforms_of_accepted (json : IsJson (object members))
    (accepted : Accepted (entriesOf members)) (made : ofEntries (entriesOf members) = some c) :
    Conforms members c := by
  have given := ofEntries_eq_some_iff.mp made
  rw [member?_entriesOf, member_text_iff json, member_bool_iff json, member_text_iff json,
    member_bool_iff json] at given
  obtain ⟨pipeline, evmVersion, recovery, lead, formatted⟩ := given
  obtain ⟨v, there, text⟩ := Option.bind_eq_some_iff.mp pipeline
  rw [lookup_eq_some_iff (isJson_object json).1] at there
  have known := accepted.known
  rw [unknown_entriesOf, List.map_eq_nil_iff, strays_eq_nil_iff] at known
  refine ⟨known, ?_, accepted.specification made, evmVersion, ?_, recovery, lead, formatted⟩
  · obtain rfl := (text?_eq_some_iff ((isJson_object json).2 _ there)).mp text
    exact there
  · intro empty
    rcases evmVersion with here | ⟨-, default⟩
    · rw [empty] at here
      refine accepted.fits evmVersionKey (string []) _ ?_ (.empty (points?_string []))
      rwa [member?_entriesOf, lookup_eq_some_iff (isJson_object json).1]
    · rw [empty, string_injective.eq_iff] at default
      exact absurd default (by decide)

theorem Conforms.not_unfit (json : IsJson (object members)) (h : Conforms members c)
    (here : (name, v) ∈ members) : ¬Unfit name v f := by
  have given {w e : Value} (gives : Gives members name w e) : v = w := by
    rcases gives with there | ⟨absent, -⟩
    · exact eq_of_mem json here there
    · exact absurd (List.mem_map_of_mem here) absent
  intro unfit
  cases unfit with
  | notText own none =>
    simp only [List.mem_cons, List.not_mem_nil, or_false] at own
    rcases own with rfl | rfl | rfl
    · obtain rfl := eq_of_mem json here h.pipeline
      cases none
    · obtain rfl := given h.lead
      cases none
    · obtain rfl := given h.evmVersion
      cases none
  | notBool own none =>
    simp only [List.mem_cons, List.not_mem_nil, or_false] at own
    rcases own with rfl | rfl
    · obtain rfl := given h.recovery
      cases none
    · obtain rfl := given h.formatted
      cases none
  | noSpecification text fails =>
    obtain rfl := eq_of_mem json here h.pipeline
    obtain rfl := Option.some.inj text
    rw [isFound_points, isSpecification_iff.mpr h.specification] at fails
    cases fails
  | empty text =>
    obtain rfl := given h.evmVersion
    exact h.nonempty (Text.points_injective (Option.some.inj text))

theorem accepted_of_conforms (json : IsJson (object members)) (h : Conforms members c) :
    Accepted (entriesOf members) ∧ ofEntries (entriesOf members) = some c := by
  have distinct := (isJson_object json).1
  have pipeline : member? pipelineKey (entriesOf members) = some (string c.pipeline) := by
    rw [member?_entriesOf, lookup_eq_some_iff distinct]
    exact h.pipeline
  refine ⟨⟨fun name v f there => ?_, ⟨_, pipeline⟩, ?_⟩, ofEntries_eq_some_iff.mpr ?_⟩
  · rw [member?_entriesOf, lookup_eq_some_iff distinct] at there
    exact h.not_unfit json there
  · rw [unknown_entriesOf, List.map_eq_nil_iff]
    exact strays_eq_nil_iff.mpr h.known
  · rw [pipeline, member_text_iff json, member_bool_iff json, member_text_iff json,
      member_bool_iff json]
    exact ⟨text?_string _, h.evmVersion, h.recovery, h.lead, h.formatted⟩

theorem ofValue_eq_ok_iff_conforms (faithful : check.Faithful) (json : IsJson v) :
    ofValue check v = .ok c ↔ ∃ members, v = object members ∧ Conforms members c := by
  rw [ofValue_eq_ok_iff faithful]
  constructor
  · rintro ⟨entries, rfl, accepted, made⟩
    rcases object_or json with ⟨members, same⟩ | ⟨-, none⟩
    · obtain rfl := Value.map.inj same
      exact ⟨members, rfl, conforms_of_accepted json accepted made⟩
    · exact absurd rfl (none entries)
  · rintro ⟨members, rfl, h⟩
    exact ⟨_, rfl, accepted_of_conforms json h⟩

/-! ## The most relevant violation -/

theorem literal_keyOf (k : Text) : (keyOf k).literal = Text.quoted k := by
  rw [keyOf, Scalar.literal, Points.quoted_points]

theorem message_unknownKeys (ks : List Text) :
    (Flaw.unknownKeys (ks.map keyOf)).message = unexpected ks := by
  have quoted : (ks.map keyOf).map Scalar.literal = ks.map Text.quoted := by
    rw [List.map_map]
    exact List.map_congr_left fun k _ => literal_keyOf k
  delta unexpected
  rw [← quoted, ← List.length_map keyOf]
  rfl

/-- A violation of the whole goes before those of members, and before later ones of the whole. -/
theorem isBest_of_whole {xs ys : List Violation} (inside : ∀ y ∈ xs, ∃ name, y.path = [name])
    (whole : ∀ y ∈ ys, y.path = []) (f : Flaw) : IsBest (xs ++ ⟨[], f⟩ :: ys) ⟨[], f⟩ := by
  refine ⟨xs, ys, rfl, fun y hy => ?_, fun y hy above => ?_⟩
  · obtain ⟨name, path⟩ := inside y hy
    exact .inl (by rw [path]; exact Nat.zero_lt_one)
  · rcases above with shorter | ⟨-, less⟩
    · exact Nat.not_lt_zero _ shorter
    · rw [whole y hy] at less
      exact List.lt_irrefl _ less

theorem path_of_memberViolations {entries : List (Scalar × Value)}
    (inside : x ∈ schema.memberViolations entries) : ∃ name, x.path = [name] := by
  obtain ⟨name, v, f, -, -, rfl⟩ := mem_memberViolations.mp inside
  exact ⟨name, rfl⟩

theorem isBest_missing (absent : pipelineKey ∉ members.map (·.1)) :
    IsBest (schema.violations (object members)) ⟨[], .missing pipelineKey⟩ := by
  rw [violations_object, if_neg absent, List.append_assoc]
  refine isBest_of_whole (fun _ => path_of_memberViolations) (fun y hy => ?_) _
  split at hy
  · cases hy
  · rw [List.mem_singleton.mp hy]

theorem isBest_unknown (has : pipelineKey ∈ members.map (·.1)) (some : strays members ≠ []) :
    IsBest (schema.violations (object members))
      ⟨[], .unknownKeys ((Text.sort (strays members)).map keyOf)⟩ := by
  rw [violations_object, if_pos has, if_neg some, List.append_nil]
  exact isBest_of_whole (fun _ => path_of_memberViolations) (List.forall_mem_nil _) _

theorem violations_of_known (has : pipelineKey ∈ members.map (·.1))
    (known : ∀ m ∈ members, m.1 ∈ schema.names) :
    schema.violations (object members) = schema.memberViolations (entriesOf members) := by
  rw [violations_object, if_pos has, if_pos (strays_eq_nil_iff.mpr known), List.append_nil,
    List.append_nil]

theorem outranks_member {m n : Text} {g : Flaw} :
    (⟨[m], f⟩ : Violation).outranks ⟨[n], g⟩ ↔ n < m := by
  simp [Violation.outranks, List.cons_lt_cons_iff]

theorem detail_whole (f : Flaw) : (⟨[], f⟩ : Violation).detail = f.message := List.append_nil _

theorem detail_member (own : name ∈ schema.names) (f : Flaw) :
    (⟨[name], f⟩ : Violation).detail = f.message ++ (" (at ".toList ++ name ++ [')']) := by
  have ne : name ≠ [] := fun empty => absurd (empty ▸ own) (by decide)
  have place : Fault.place [name] = " (at ".toList ++ name ++ [')'] := if_neg ne
  rw [Violation.detail, place]

theorem best_notObject (none : ∀ entries, v ≠ .map entries)
    (best : IsBest (schema.violations v) x) :
    x.detail = v.literal ++ " is not of type 'object'".toList := by
  rw [violations_of_no_map none] at best
  rw [List.mem_singleton.mp best.mem, detail_whole, message_notOfType]
  rfl

theorem best_of_absent (absent : pipelineKey ∉ members.map (·.1))
    (best : IsBest (schema.violations (object members)) x) :
    x.detail = "'pipeline' is a required property".toList := by
  rw [best.unique (isBest_missing absent), detail_whole]
  decide +kernel

theorem best_of_strays (has : pipelineKey ∈ members.map (·.1)) (some : strays members ≠ [])
    (best : IsBest (schema.violations (object members)) x) :
    x.detail = unexpected (Text.sort (strays members)) := by
  rw [best.unique (isBest_unknown has some), detail_whole, message_unknownKeys]

/-- Of unfit values alone the one with the last name is the most relevant violation. -/
theorem best_of_known (json : IsJson (object members)) (has : pipelineKey ∈ members.map (·.1))
    (known : ∀ m ∈ members, m.1 ∈ schema.names)
    (best : IsBest (schema.violations (object members)) x) :
    ∃ name v f, (name, v) ∈ members ∧ Unfit name v f ∧ x = ⟨[name], f⟩ ∧
      ∀ m ∈ members, name < m.1 → ∀ g, ¬Unfit m.1 m.2 g := by
  rw [violations_of_known has known] at best
  obtain ⟨name, v, f, here, unfit, rfl⟩ := (mem_memberViolations_entriesOf json).mp best.mem
  refine ⟨name, v, f, here, unfit, rfl, fun m hm above g other => ?_⟩
  have inside := (mem_memberViolations_entriesOf json).mpr ⟨m.1, m.2, g, hm, other, rfl⟩
  exact best.not_outranked inside (outranks_member.mpr above)

theorem exists_best_of_reported (json : IsJson v) (h : Reported v d) :
    ∃ x, IsBest (schema.violations v) x ∧ x.detail = d := by
  generalize whole : v = u at h
  cases h with
  | notObject none =>
    subst whole
    rcases object_or json with ⟨members, same⟩ | ⟨-, noMap⟩
    · exact absurd same (none members)
    · have best : IsBest (schema.violations v) ⟨[], .notOfType v .object⟩ := by
        rw [violations_of_no_map noMap]
        exact isBest_of_whole (List.forall_mem_nil _) (List.forall_mem_nil _) _
      exact ⟨_, best, best_notObject noMap best⟩
  | noPipeline absent =>
    subst whole
    exact ⟨_, isBest_missing absent, best_of_absent absent (isBest_missing absent)⟩
  | @unknown keys members has some ascending all =>
    subst whole
    have sorted : Text.sort (strays members) = keys :=
      Text.eq_of_ascending (Text.ascending_sort (strays_distinct json)) ascending fun k => by
        rw [Text.sort, List.mem_mergeSort, mem_strays, all]
    have strange : strays members ≠ [] := by
      rw [ne_eq, ← Text.sort_eq_nil_iff, sorted]
      exact some
    have best := isBest_unknown has strange
    exact ⟨_, best, sorted ▸ best_of_strays has strange best⟩
  | @unfit members name w message has known here misfit last =>
    subst whole
    have values := (isJson_object json).2
    obtain ⟨f, unfit, rfl⟩ := (unfit_iff_misfit (values _ here)).mpr misfit
    have inside := (mem_memberViolations_entriesOf json).mpr ⟨name, w, f, here, unfit, rfl⟩
    rw [← violations_of_known has known] at inside
    obtain ⟨x, best⟩ := exists_isBest (List.ne_nil_of_mem inside)
    refine ⟨x, best, ?_⟩
    obtain ⟨name', w', f', here', unfit', rfl, last'⟩ := best_of_known json has known best
    -- Neither name comes after the other one.
    rcases lt_trichotomy name name' with above | rfl | above
    · exact absurd ((unfit_iff_misfit (values _ here')).mp ⟨f', unfit', rfl⟩)
        (last (name', w') here' above _)
    · obtain rfl := eq_of_mem json here here'
      rw [unfit.unique unfit', detail_member (known _ here')]
    · exact absurd unfit (last' (name, w) here above f)

/-- What is reported is the most relevant violation. -/
theorem reported_iff (json : IsJson v) :
    Reported v d ↔ ∃ x, IsBest (schema.violations v) x ∧ x.detail = d := by
  refine ⟨exists_best_of_reported json, ?_⟩
  rintro ⟨x, best, rfl⟩
  rcases object_or json with ⟨members, rfl⟩ | ⟨none, noMap⟩
  · by_cases has : pipelineKey ∈ members.map (·.1)
    · by_cases known : ∀ m ∈ members, m.1 ∈ schema.names
      · obtain ⟨name, v, f, here, unfit, rfl, last⟩ := best_of_known json has known best
        have values := (isJson_object json).2
        rw [detail_member (known _ here)]
        refine .unfit has known here ((unfit_iff_misfit (values _ here)).mp ⟨f, unfit, rfl⟩) ?_
        intro m hm above other misfit
        obtain ⟨g, unfit, -⟩ := (unfit_iff_misfit (values _ hm)).mpr misfit
        exact last m hm above g unfit
      · have strange : strays members ≠ [] := fun none => known (strays_eq_nil_iff.mp none)
        rw [best_of_strays has strange best]
        refine .unknown has ?_ (Text.ascending_sort (strays_distinct json)) fun k => ?_
        · exact fun none => strange (Text.sort_eq_nil_iff.mp none)
        · rw [Text.sort, List.mem_mergeSort, mem_strays]
    · rw [best_of_absent has best]
      exact .noPipeline has
  · rw [best_notObject noMap best]
    exact .notObject none

/-! ## Numbers that are shown -/

theorem isWritable_unknownKeys (ks : List Text) :
    (Flaw.unknownKeys (ks.map keyOf)).isWritable = true := by
  show (ks.map keyOf).all Scalar.isWritable = true
  rw [List.all_map, List.all_eq_true]
  exact fun _ _ => rfl

theorem unwritable_iff (json : IsJson v) :
    (∃ x ∈ schema.violations v, x.flaw.isWritable = false) ↔
      ∃ w, Shows v w ∧ w.isWritable = false := by
  rcases object_or json with ⟨members, rfl⟩ | ⟨none, noMap⟩
  · have values := (isJson_object json).2
    constructor
    · rintro ⟨x, inside, unwritable⟩
      rw [violations_object, List.mem_append, List.mem_append] at inside
      rcases inside with (inside | inside) | inside
      · obtain ⟨name, v, f, here, unfit, rfl⟩ := (mem_memberViolations_entriesOf json).mp inside
        obtain ⟨offType, large⟩ := (unfit_unwritable_iff (values _ here)).mp ⟨f, unfit, unwritable⟩
        exact ⟨v, .member here offType, large⟩
      · split at inside
        · cases inside
        · rw [List.mem_singleton.mp inside] at unwritable
          cases unwritable
      · split at inside
        · cases inside
        · rw [List.mem_singleton.mp inside, isWritable_unknownKeys] at unwritable
          cases unwritable
    · rintro ⟨w, shown, large⟩
      generalize whole : object members = u at shown
      cases shown with
      | whole none => exact absurd whole.symm (none members)
      | member here offType =>
        obtain rfl := object_injective whole
        obtain ⟨f, unfit, unwritable⟩ :=
          (unfit_unwritable_iff (values _ here)).mpr ⟨offType, large⟩
        have inside := (mem_memberViolations_entriesOf json).mpr ⟨_, _, f, here, unfit, rfl⟩
        rw [violations_object, List.append_assoc]
        exact ⟨_, List.mem_append_left _ inside, unwritable⟩
  · rw [violations_of_no_map noMap]
    simp only [List.mem_singleton, exists_eq_left]
    constructor
    · intro large
      exact ⟨v, .whole none, large⟩
    · rintro ⟨w, shown, large⟩
      cases shown with
      | whole _ => exact large
      | member _ _ => exact absurd rfl (none _)

theorem isWritable_of_shows (all : ∀ m ∈ members, m.2.isWritable = true)
    (shown : Shows (object members) w) : w.isWritable = true := by
  generalize whole : object members = u at shown
  cases shown with
  | whole none => exact absurd whole.symm (none members)
  | member here _ =>
    obtain rfl := object_injective whole
    exact all _ here

/-! ## Outcomes -/

theorem strays_perm (h : members.Perm others) : (strays members).Perm (strays others) :=
  (h.map _).filter _

theorem strays_perm_nil (h : members.Perm others) : strays others = [] ↔ strays members = [] := by
  rw [← List.length_eq_zero_iff, ← (strays_perm h).length_eq, List.length_eq_zero_iff]

theorem member?_perm (json : IsJson (object members)) (h : members.Perm others) (name : Text) :
    member? name (entriesOf others) = member? name (entriesOf members) := by
  rw [member?_entriesOf, member?_entriesOf, lookup_perm h (isJson_object json).1]

theorem violations_perm (json : IsJson (object members)) (h : members.Perm others) :
    schema.violations (object others) = schema.violations (object members) := by
  have values : schema.memberViolations (entriesOf others) =
      schema.memberViolations (entriesOf members) := by
    simp only [Schema.memberViolations, member?_perm json h]
  have keys : pipelineKey ∈ others.map (·.1) ↔ pipelineKey ∈ members.map (·.1) :=
    (h.map _).mem_iff.symm
  simp only [violations_object, values, keys, strays_perm_nil h,
    Text.sort_perm (strays_perm h) (strays_distinct json)]

theorem build_perm (json : IsJson (object members)) (h : members.Perm others) :
    build (object others) = build (object members) := by
  have made : ofEntries (entriesOf others) = ofEntries (entriesOf members) := by
    simp only [ofEntries, member, member?_perm json h]
  simp only [object, build, unknown_entriesOf, List.map_eq_nil_iff, strays_perm_nil h, made]

theorem ofValue_perm (faithful : check.Faithful) (json : IsJson (object members))
    (h : members.Perm others) : ofValue check (object others) = ofValue check (object members) := by
  rw [ofValue, ofValue, faithful.congr (violations_perm json h), build_perm json h]

theorem isConfiguration_tooLongToWrite :
    (Fault.failure tooLongToWrite).isConfiguration = false := by
  decide

/-- A fault is the most relevant violation, or a number in some message has too many digits. -/
theorem fault_cases (faithful : check.Faithful) (json : IsJson v) {e : Fault}
    (h : ofValue check v = .error e) :
    ((∀ w, Shows v w → w.isWritable = true) ∧ e.isConfiguration = true ∧
      ∃ detail, Reported v detail ∧ e.message = "Invalid configuration: ".toList ++ detail) ∨
    (∃ w, Shows v w ∧ w.isWritable = false) ∧ e = .failure tooLongToWrite := by
  obtain ⟨p, complaint, rfl⟩ := (ofValue_eq_error_iff faithful).mp h
  have answers := faithful.answers schema v
  rw [complaint] at answers
  cases answers with
  | @reported x writable best =>
    refine .inl ⟨fun w shown => ?_, rfl, x.detail, (reported_iff json).mpr ⟨x, best, rfl⟩, rfl⟩
    by_contra large
    rw [Bool.not_eq_true] at large
    obtain ⟨y, inside, unwritable⟩ := (unwritable_iff json).mpr ⟨w, shown, large⟩
    rw [writable y inside] at unwritable
    cases unwritable
  | failed inside unwritable =>
    exact .inr ⟨(unwritable_iff json).mp ⟨_, inside, unwritable⟩, rfl⟩

theorem fault_of_reported (faithful : check.Faithful) (json : IsJson v)
    (writable : ∀ w, Shows v w → w.isWritable = true) (h : Reported v d) :
    ∃ e, ofValue check v = .error e ∧ e.isConfiguration = true ∧
      e.message = "Invalid configuration: ".toList ++ d := by
  obtain ⟨x, best, rfl⟩ := (reported_iff json).mp h
  have all : ∀ y ∈ schema.violations v, y.flaw.isWritable = true := by
    intro y inside
    by_contra unwritable
    rw [Bool.not_eq_true] at unwritable
    obtain ⟨w, shown, large⟩ := (unwritable_iff json).mp ⟨y, inside, unwritable⟩
    rw [writable w shown] at large
    cases large
  exact ⟨_, (ofValue_eq_error_iff faithful).mpr ⟨_, faithful.reports all best, rfl⟩, rfl, rfl⟩

theorem fault_of_unwritable (faithful : check.Faithful) (json : IsJson v) (shown : Shows v w)
    (large : w.isWritable = false) : ofValue check v = .error (.failure tooLongToWrite) := by
  obtain ⟨y, inside, unwritable⟩ := (unwritable_iff json).mpr ⟨w, shown, large⟩
  exact (ofValue_eq_error_iff faithful).mpr ⟨_, faithful.fails inside unwritable, rfl⟩

/-- A JSON value is a configuration if and only if it is an object that conforms to the schema. Of
any other the most relevant violation is reported, unless a message about the value would show a
number that has too many digits, which cannot be written. The order of the members is of no
account. -/
theorem ofValue_schema (faithful : check.Faithful) (json : IsJson v) :
    (∀ c, ofValue check v = .ok c ↔ ∃ members, v = object members ∧ Conforms members c) ∧
    (∀ message, (∃ e, ofValue check v = .error e ∧ e.isConfiguration = true ∧
        e.message = message) ↔
      (∀ w, Shows v w → w.isWritable = true) ∧
        ∃ detail, Reported v detail ∧ message = "Invalid configuration: ".toList ++ detail) ∧
    (∀ e, ofValue check v = .error e ∧ e.isConfiguration = false ↔
      (∃ w, Shows v w ∧ w.isWritable = false) ∧ e = .failure tooLongToWrite) ∧
    ∀ members others, v = object members → members.Perm others →
      ofValue check (object others) = ofValue check v := by
  refine ⟨fun c => ofValue_eq_ok_iff_conforms faithful json, fun message => ?_, fun e => ?_, ?_⟩
  · constructor
    · rintro ⟨e, fails, own, rfl⟩
      rcases fault_cases faithful json fails with ⟨writable, -, reported⟩ | ⟨-, rfl⟩
      · exact ⟨writable, reported⟩
      · rw [isConfiguration_tooLongToWrite] at own
        cases own
    · rintro ⟨writable, detail, reported, rfl⟩
      exact fault_of_reported faithful json writable reported
  · constructor
    · rintro ⟨fails, other⟩
      rcases fault_cases faithful json fails with ⟨-, own, -⟩ | large
      · rw [own] at other
        cases other
      · exact large
    · rintro ⟨⟨w, shown, large⟩, rfl⟩
      exact ⟨fault_of_unwritable faithful json shown large, isConfiguration_tooLongToWrite⟩
  · rintro members others rfl perm
    exact ofValue_perm faithful json perm

/-- One object conforms, another has three unfit values, a third has unknown keys as well, and in
the last one a number has too many digits. -/
theorem ofValue_schema_several :
    let fit := [(formattedKey, boolean false), (pipelineKey, string "a.módulo:b_1\n".toList)]
    let unfit : List (Text × Value) :=
      [(formattedKey, string []), (pipelineKey, .scalar (.int 5)), (evmVersionKey, string [])]
    let strange := [("z".toList, string []), (pipelineKey, string []), ("a".toList, string [])]
    let large : List (Text × Value) := [(leadKey, .scalar (.int (Nat.pow 10 4300)))]
    Schema.check.Faithful ∧
      IsJson (object fit) ∧ IsJson (object unfit) ∧ IsJson (object strange) ∧
      IsJson (object large) ∧
      ofValue Schema.check (object fit) =
        .ok { pipeline := "a.módulo:b_1\n".toList, formatted := false } ∧
      (∃ e, ofValue Schema.check (object unfit) = .error e ∧ e.isConfiguration = true ∧
        e.message = "Invalid configuration: 5 is not of type 'string' (at pipeline)".toList) ∧
      ofValue Schema.check (object unfit.reverse) = ofValue Schema.check (object unfit) ∧
      (∃ e, ofValue Schema.check (object strange) = .error e ∧ e.isConfiguration = true ∧
        e.message = "Invalid configuration: ".toList ++ unexpected ["a".toList, "z".toList]) ∧
      ofValue Schema.check (object large) = .error (.failure tooLongToWrite) := by
  intro fit unfit strange large
  have fitJson : IsJson (object fit) := by
    refine .object (by decide) ?_
    simp only [fit, List.forall_mem_cons]
    exact ⟨.boolean false, .string _, by simp⟩
  have unfitJson : IsJson (object unfit) := by
    refine .object (by decide) ?_
    simp only [unfit, List.forall_mem_cons]
    exact ⟨.string _, .int 5, .string _, by simp⟩
  have strangeJson : IsJson (object strange) := by
    refine .object (by decide) ?_
    simp only [strange, List.forall_mem_cons]
    exact ⟨.string _, .string _, .string _, by simp⟩
  have largeJson : IsJson (object large) := by
    refine .object (by decide) ?_
    simp only [large, List.forall_mem_cons]
    exact ⟨.int _, by simp⟩
  have specification : Specification "a.módulo:b_1\n".toList :=
    isSpecification_iff.mp (by decide +kernel)
  have conforms : Conforms fit { pipeline := "a.módulo:b_1\n".toList, formatted := false } :=
    ⟨by decide, by simp [fit], specification, .inr ⟨by decide, rfl⟩, by decide,
      .inr ⟨by decide, rfl⟩, .inr ⟨by decide, rfl⟩, .inl (by simp [fit])⟩
  have misfit : Reported (object unfit) "5 is not of type 'string' (at pipeline)".toList := by
    have has : pipelineKey ∈ unfit.map (·.1) := by decide
    have known : ∀ m ∈ unfit, m.1 ∈ schema.names := by decide
    have wrong : Misfit pipelineKey (.scalar (.int 5)) _ :=
      .notText (by decide) fun _ same => by cases same
    have last : ∀ m ∈ unfit, ¬pipelineKey < m.1 := by decide
    exact .unfit has known (by simp [unfit]) wrong fun m hm above => absurd above (last m hm)
  have unknown : Reported (object strange) (unexpected ["a".toList, "z".toList]) := by
    have has : pipelineKey ∈ strange.map (·.1) := by decide
    have ours : ∀ k ∈ ["a".toList, "z".toList], k ∈ strange.map (·.1) ∧ k ∉ schema.names := by
      decide
    have rest : ∀ k ∈ strange.map (·.1), k ∉ schema.names → k ∈ ["a".toList, "z".toList] := by
      decide
    exact .unknown has (by decide) (by decide) fun k => ⟨ours k, fun ⟨h, new⟩ => rest k h new⟩
  refine ⟨faithful_check, fitJson, unfitJson, strangeJson, largeJson, ?_, ?_, ?_, ?_, ?_⟩
  · exact ((ofValue_schema faithful_check fitJson).1 _).mpr ⟨fit, rfl, conforms⟩
  · have short : ∀ m ∈ unfit, m.2.isWritable = true := by decide +kernel
    exact ((ofValue_schema faithful_check unfitJson).2.1 _).mpr
      ⟨fun _ => isWritable_of_shows short, _, misfit, rfl⟩
  · exact (ofValue_schema faithful_check unfitJson).2.2.2 unfit unfit.reverse rfl
      (List.reverse_perm unfit).symm
  · have short : ∀ m ∈ strange, m.2.isWritable = true := by decide +kernel
    exact ((ofValue_schema faithful_check strangeJson).2.1 _).mpr
      ⟨fun _ => isWritable_of_shows short, _, unknown, rfl⟩
  · have shown : Shows (object large) (.scalar (.int (Nat.pow 10 4300))) :=
      .member (.head _) (.notText (by decide) fun _ same => by cases same)
    have long : (Value.scalar (.int (Nat.pow 10 4300))).isWritable = false := by decide +kernel
    exact (((ofValue_schema faithful_check largeJson).2.2.1 _).mpr ⟨⟨_, shown, long⟩, rfl⟩).1

/-- A number with too many digits stands where a specification belongs. The value is no
configuration, and that is not what is said of it. -/
theorem ofValue_large_number :
    let members : List (Text × Value) := [(pipelineKey, .scalar (.int (Nat.pow 16 3600)))]
    IsJson (object members) ∧ (∀ c, ¬Conforms members c) ∧
      (∃ detail, Reported (object members) detail) ∧
      ∃ e, ofValue Schema.check (object members) = .error e ∧ e.isConfiguration = false ∧
        e.message = Numeral.tooLongToWrite := by
  intro members
  have json : IsJson (object members) := by
    refine .object (by decide) ?_
    simp only [members, List.forall_mem_cons]
    exact ⟨.int _, by simp⟩
  have none : ∀ t, (Value.scalar (.int (Nat.pow 16 3600))) ≠ string t := fun _ same => by cases same
  have reported : ∃ detail, Reported (object members) detail := by
    have last : ∀ m ∈ members, ¬pipelineKey < m.1 := by decide
    exact ⟨_, .unfit (by decide) (by decide) (.head _) (.notText (by decide) none)
      fun m hm above => absurd above (last m hm)⟩
  have shown : Shows (object members) (.scalar (.int (Nat.pow 16 3600))) :=
    .member (.head _) (.notText (by decide) none)
  refine ⟨json, fun c conforms => ?_, reported, _,
    fault_of_unwritable faithful_check json shown (by decide +kernel),
    isConfiguration_tooLongToWrite, rfl⟩
  exact none c.pipeline (eq_of_mem json (.head _) conforms.pipeline)

end DiagCheck.Config
