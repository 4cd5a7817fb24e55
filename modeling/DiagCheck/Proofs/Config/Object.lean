import Mathlib.Data.List.Lex
import DiagCheck.Config.Basic

/-! Configurations as JSON values. The keys of an object are distinct texts, so its members are
found by name, and their order makes no difference to what is found. -/
namespace DiagCheck

namespace Text

theorem points_injective : Function.Injective points :=
  Function.LeftInverse.injective Points.toText_points

theorem lt_of_le_of_ne {s t : Text} (h : le s t = true) (ne : s ≠ t) : s < t := by
  induction s generalizing t with
  | nil =>
    cases t with
    | nil => exact absurd rfl ne
    | cons d t => exact List.nil_lt_cons d t
  | cons c s ih =>
    cases t with
    | nil => cases h
    | cons d t =>
      simp only [le, codes, List.map_cons, leCodes, Bool.or_eq_true, decide_eq_true_eq,
        Bool.and_eq_true, beq_iff_eq] at h
      rw [List.cons_lt_cons_iff]
      rcases h with first | ⟨first, rest⟩
      · exact .inl first
      · have first : c = d := Char.toNat_inj.mp first
        exact .inr ⟨first, ih rest fun same => ne (by rw [first, same])⟩

theorem eq_of_ascending {s t : List Text} (ascending : s.Pairwise (· < ·))
    (ascending' : t.Pairwise (· < ·)) (h : ∀ x, x ∈ s ↔ x ∈ t) : s = t := by
  have distinct {l : List Text} (ascending : l.Pairwise (· < ·)) : l.Nodup := by
    refine ascending.imp fun {a b} below => ?_
    rintro rfl
    exact List.lt_irrefl a below
  have perm : s.Perm t :=
    (List.perm_ext_iff_of_nodup (distinct ascending) (distinct ascending')).mpr h
  exact perm.eq_of_pairwise (fun _ _ _ _ below above => absurd below (List.lt_asymm above))
    ascending ascending'

/-- Sorting puts distinct texts in ascending order. -/
theorem ascending_sort {ts : List Text} (distinct : ts.Nodup) : (sort ts).Pairwise (· < ·) := by
  have distinct : (sort ts).Pairwise (· ≠ ·) :=
    (List.mergeSort_perm ts le).nodup_iff.mpr distinct
  exact ((pairwise_sort ts).and distinct).imp fun ⟨below, ne⟩ => lt_of_le_of_ne below ne

theorem sort_eq_nil_iff {ts : List Text} : sort ts = [] ↔ ts = [] := by
  have perm : (sort ts).Perm ts := List.mergeSort_perm ts le
  rw [← List.length_eq_zero_iff, perm.length_eq, List.length_eq_zero_iff]

theorem sort_perm {s t : List Text} (h : s.Perm t) (distinct : s.Nodup) : sort s = sort t := by
  refine eq_of_ascending (ascending_sort distinct) (ascending_sort (h.nodup_iff.mp distinct)) ?_
  intro x
  rw [sort, sort, List.mem_mergeSort, List.mem_mergeSort]
  exact h.mem_iff

end Text

namespace Config

namespace Value

def string (t : Text) : Value := .scalar (.text t.points)

def boolean (b : Bool) : Value := .scalar (.bool b)

def entriesOf (members : List (Text × Value)) : List (Scalar × Value) :=
  members.map fun m => (.text m.1.points, m.2)

def object (members : List (Text × Value)) : Value := .map (entriesOf members)

inductive IsJson : Value → Prop where
  | null : IsJson (.scalar .null)
  | boolean (b : Bool) : IsJson (boolean b)
  | int (i : Int) : IsJson (.scalar (.int i))
  | float (x : Binary64) : IsJson (.scalar (.float x))
  | string (t : Text) : IsJson (string t)
  | array : (∀ v ∈ vs, IsJson v) → IsJson (.list vs)
  | object : (members.map (·.1)).Nodup → (∀ m ∈ members, IsJson m.2) → IsJson (object members)

theorem string_injective : Function.Injective string := by
  intro s t h
  exact Text.points_injective (Scalar.text.inj (Value.scalar.inj h))

theorem boolean_injective : Function.Injective boolean := by
  intro a b h
  exact Scalar.bool.inj (Value.scalar.inj h)

theorem object_injective : Function.Injective object := by
  intro ms ns h
  refine List.map_injective_iff.mpr ?_ (Value.map.inj h)
  rintro ⟨k, v⟩ ⟨l, w⟩ same
  obtain ⟨key, value⟩ := Prod.mk.inj same
  exact Prod.ext (Text.points_injective (Scalar.text.inj key)) value

variable {members others : List (Text × Value)} {v : Value}

theorem isJson_object (h : IsJson (object members)) :
    (members.map (·.1)).Nodup ∧ ∀ m ∈ members, IsJson m.2 := by
  generalize whole : object members = w at h
  cases h with
  | object distinct json =>
    obtain rfl := object_injective whole
    exact ⟨distinct, json⟩
  | _ => cases whole

/-- A JSON value that is no string is no text of halves either. -/
theorem IsJson.string_or (h : IsJson v) :
    (∃ t, v = Value.string t) ∨ ∀ ps, v ≠ .scalar (.text ps) := by
  cases h with
  | string t => exact .inl ⟨t, rfl⟩
  | _ => exact .inr (fun _ same => by cases same)

theorem points?_string (t : Text) : (string t).points? = some t.points := rfl

theorem text?_string (t : Text) : (string t).text? = some t :=
  congrArg some (Points.toText_points t)

theorem IsJson.points?_eq_none_iff (json : IsJson v) : v.points? = none ↔ ∀ t, v ≠ Value.string t := by
  rcases json.string_or with ⟨t, rfl⟩ | none
  · exact iff_of_false nofun fun h => h t rfl
  · refine iff_of_true ?_ fun t => none t.points
    unfold points?
    split
    · next ps => exact absurd rfl (none ps)
    · rfl

theorem IsJson.points?_eq_some_iff {ps : Points} (json : IsJson v) :
    v.points? = some ps ↔ ∃ t, v = Value.string t ∧ ps = t.points := by
  constructor
  · intro h
    rcases json.string_or with ⟨t, rfl⟩ | none
    · exact ⟨t, rfl, (Option.some.inj h).symm⟩
    · rw [json.points?_eq_none_iff.mpr fun t => none t.points] at h
      cases h
  · rintro ⟨t, rfl, rfl⟩
    rfl

/-! ## Members by name -/

theorem member?_entriesOf (name : Text) (members : List (Text × Value)) :
    member? name (entriesOf members) = members.lookup name := by
  unfold member? entriesOf
  induction members with
  | nil => rfl
  | cons m members ih =>
    obtain ⟨k, v⟩ := m
    rw [List.map_cons, List.lookup_cons, List.lookup_cons, ih]
    have keys : (Scalar.text name.points == Scalar.text k.points) = (name == k) := by
      rw [Bool.eq_iff_iff, beq_iff_eq, beq_iff_eq, Scalar.text.injEq, Text.points_injective.eq_iff]
    rw [keys]

theorem lookup_eq_none_iff {name : Text} :
    members.lookup name = none ↔ name ∉ members.map (·.1) := by
  rw [List.lookup_eq_none_iff, List.mem_map]
  constructor
  · rintro h ⟨m, hm, rfl⟩
    simpa using h m hm
  · intro h m hm
    exact bne_iff_ne.mpr fun same => h ⟨m, hm, same.symm⟩

theorem lookup_eq_some_iff {name : Text} (distinct : (members.map (·.1)).Nodup) :
    members.lookup name = some v ↔ (name, v) ∈ members := by
  constructor
  · intro h
    obtain ⟨before, after, rfl, _⟩ := List.lookup_eq_some_iff.mp h
    exact List.mem_append_right _ (List.mem_cons_self ..)
  · intro h
    obtain ⟨before, after, rfl⟩ := List.append_of_mem h
    refine List.lookup_eq_some_iff.mpr ⟨before, after, rfl, ?_⟩
    intro m hm
    rw [List.map_append, List.nodup_append] at distinct
    have ne := distinct.2.2 m.1 (List.mem_map_of_mem hm) name (by simp)
    simpa using ne.symm

theorem lookup_perm (h : members.Perm others) (distinct : (members.map (·.1)).Nodup)
    (name : Text) : members.lookup name = others.lookup name := by
  have distinct' : (others.map (·.1)).Nodup := (h.map _).nodup_iff.mp distinct
  refine Option.ext fun v => ?_
  rw [lookup_eq_some_iff distinct, lookup_eq_some_iff distinct', h.mem_iff]

end Value

/-! ## Unknown keys -/

/-- The keys of an object that no configuration uses. -/
def strays (members : List (Text × Value)) : List Text :=
  (members.map (·.1)).filter fun k => k ∉ schema.names

def keyOf (k : Text) : Scalar := .text k.points

theorem isUnknown_keyOf (k : Text) : schema.isUnknown (keyOf k) = decide (k ∉ schema.names) := by
  rw [Bool.eq_iff_iff, Schema.isUnknown, List.all_eq_true, decide_eq_true_iff]
  constructor
  · intro h known
    exact bne_iff_ne.mp (h k known) rfl
  · intro h n hn
    refine bne_iff_ne.mpr fun same => h ?_
    rwa [Text.points_injective (Scalar.text.inj same)]

theorem unknown_entriesOf (members : List (Text × Value)) :
    schema.unknown (Value.entriesOf members) = (strays members).map keyOf := by
  have keys : (Value.entriesOf members).map (·.1) = (members.map (·.1)).map keyOf := by
    simp only [Value.entriesOf, List.map_map]
    rfl
  have test : schema.isUnknown ∘ keyOf = fun k => decide (k ∉ schema.names) :=
    funext isUnknown_keyOf
  rw [Schema.unknown, keys, List.filter_map, test, strays]

theorem sortCodes_keyOf (k : Text) : (keyOf k).sortCodes = k.codes := by
  simp only [keyOf, Scalar.sortCodes, Points.codes, Text.points, Text.codes, List.map_map]
  rfl

theorem sortKeys_map_keyOf (ks : List Text) :
    Schema.sortKeys (ks.map keyOf) = (Text.sort ks).map keyOf := by
  refine (List.map_mergeSort ?_).symm
  intro a _ b _
  rw [sortCodes_keyOf, sortCodes_keyOf, Text.le]

end Config

end DiagCheck
