import DiagCheck.Pipeline

/-! Paths of members. A path leads on as long as each of its names is that of a member, and the
names of members are not empty and have no colon if those of the modules are like that. -/
namespace DiagCheck.Pipeline

/-- The path of names leads from the first thing to the last. -/
inductive Reaches : Item → List Text → Item → Prop where
  | here (item : Item) : Reaches item [] item
  | member : item.member? name = some next → Reaches next names last →
      Reaches item (name :: names) last

/-- The path leads to a thing that has no member of the next name. -/
def GoesAstray (item : Item) (names : List Text) : Prop :=
  ∃ before name after last, names = before ++ name :: after ∧ Reaches item before last ∧
    last.member? name = none

/-- The name can stand in a path. -/
def IsName (name : Text) : Prop := name ≠ [] ∧ ':' ∉ name

instance (name : Text) : Decidable (IsName name) := inferInstanceAs (Decidable (_ ∧ _))

/-- Whatever the thing holds has a name that can stand in a path, and so on inside. -/
inductive Item.WellNamed : Item → Prop where
  | factory : WellNamed (factory label)
  | failing : WellNamed (failing f)
  | module : (∀ m ∈ ms, IsName m.1) → (∀ m ∈ ms, WellNamed m.2) → WellNamed (module ms)
  | record : (∀ m ∈ ms, IsName m.1) → (∀ m ∈ ms, WellNamed m.2) → WellNamed (record ms)
  | thing : WellNamed (thing k flaw)
  | sort : WellNamed (sort k)
  | bound : WellNamed owner → WellNamed (bound owner home name m)
  | unbound : WellNamed (unbound home name m)

def Environment.WellNamed (env : Environment) : Prop :=
  ∀ entry ∈ env, ∀ members, entry.2 = .module members ∨ entry.2 = .package members →
    (Item.module members).WellNamed

variable {item next last : Item} {name : Text} {names : List Text} {k home : Kind} {m : Member}

theorem walk_eq_some_iff : walk item names = some last ↔ Reaches item names last := by
  constructor
  · intro h
    induction names generalizing item with
    | nil =>
      cases h
      exact .here _
    | cons name names ih =>
      cases found : item.member? name with
      | none => simp [walk, found] at h
      | some next => exact .member found (ih (by simpa [walk, found] using h))
  · intro h
    induction h with
    | here item => rfl
    | member found _ ih => simpa [walk, found] using ih

theorem walk_eq_none_iff : walk item names = none ↔ GoesAstray item names := by
  constructor
  · intro h
    induction names generalizing item with
    | nil => cases h
    | cons name names ih =>
      cases found : item.member? name with
      | none => exact ⟨[], name, names, item, rfl, .here _, found⟩
      | some next =>
        have lost : walk next names = none := by simpa [walk, found] using h
        obtain ⟨before, other, after, last, rfl, reached, none⟩ := ih lost
        exact ⟨name :: before, other, after, last, rfl, .member found reached, none⟩
  · rintro ⟨before, name, after, last, rfl, reached, none⟩
    rw [walk_append, walk_eq_some_iff.mpr reached, Option.bind_some, walk, none]

/-- A call gives what the failing thing fails with, if it is not just that the thing is none that
can be called as it is. -/
theorem call_error {f : Fault} (h : call item = .error f) :
    f = .notCallable ∨ ∃ e, f = .failure e := by
  fun_induction call item with
  | case1 | case3 | case5 | case7 => cases h
  | case2 e =>
    cases h
    exact .inr ⟨e, rfl⟩
  | case6 owner home name m _ flaw =>
    cases h
    cases flaw with
    | unhashable => exact .inl rfl
    | _ => exact .inr ⟨_, rfl⟩
  | case9 owner home name m _ ih => exact ih h
  | _ =>
    cases h
    exact .inl rfl

/-! ## Names of members -/

theorem isName_of_listed (k : Kind) :
    ∀ line ∈ k.listed, ∀ name ∈ Text.pieces ' ' line.2.toList, IsName name := by
  cases k
  all_goals
    simp only [Kind.listed, List.forall_mem_cons, List.not_mem_nil, false_implies, implies_true,
      and_true]
    repeat' apply And.intro
  -- Each list of names is opened as a list of characters before it is gone through.
  all_goals
    rw [String.toList_ofList]
    decide +kernel

theorem isName_of_listed? (h : k.listed? name = some m) : IsName name := by
  rw [Kind.listed?, Option.map_eq_some_iff] at h
  obtain ⟨line, found, -⟩ := h
  have among := List.find?_some found
  exact isName_of_listed k line (List.mem_of_find?_eq_some found) name
    (List.contains_iff_mem.mp among)

theorem isName_of_member? (h : k.member? name = some (home, m)) : IsName name := by
  unfold Kind.member? at h
  split at h
  · next own => exact isName_of_listed? own
  · obtain ⟨_, found, -⟩ := Option.map_eq_some_iff.mp h
    exact isName_of_listed? found

namespace Item

theorem isName_of_description : ∀ m ∈ description, IsName m.1 := by decide +kernel

theorem wellNamed_of_description : ∀ m ∈ description, m.2.WellNamed := by
  simp only [description, List.forall_mem_cons]
  exact ⟨.thing, .thing, .thing, .thing, .thing, nofun⟩

/-- The own members of a thing. -/
theorem WellNamed.members (h : item.WellNamed) :
    ∀ m ∈ item.members, IsName m.1 ∧ m.2.WellNamed := by
  cases h with
  | module names inside =>
    intro m hm
    rcases List.mem_append.mp hm with hm | hm
    · exact ⟨names m hm, inside m hm⟩
    · exact ⟨isName_of_description m hm, wellNamed_of_description m hm⟩
  | record names inside => exact fun m hm => ⟨names m hm, inside m hm⟩
  | _ => exact nofun

theorem wellNamed_memberDocument : (memberDocument home name m).WellNamed := by
  unfold memberDocument
  split
  · exact .thing
  · split <;> exact .thing

theorem wellNamed_sortDocument : (sortDocument k).WellNamed := by
  unfold sortDocument
  split
  all_goals first | exact .thing | exact .unbound

theorem WellNamed.value? {v : Value} (h : item.WellNamed) (found : item.value? v = some next) :
    next.WellNamed := by
  unfold Item.value? at found
  split at found
  all_goals cases found
  all_goals first
    | exact .thing
    | exact .sort
    | exact wellNamed_memberDocument
    | exact wellNamed_sortDocument
    | skip
  cases h
  assumption

theorem WellNamed.take? (h : item.WellNamed) (found : item.take? home name m = some next) :
    next.WellNamed := by
  cases m with
  | property v => exact h.value? found
  | slot v => exact h.value? found
  | operation c =>
    cases found
    exact .bound h
  | method c =>
    cases found
    exact .bound h
  | shared c =>
    cases found
    exact .bound .sort
  | loose c =>
    cases found
    exact .bound .thing
  | maker =>
    cases found
    exact .bound .sort
  | constant k flaw =>
    cases found
    exact .thing

theorem wellNamed_takeUnbound : (takeUnbound k home name m).WellNamed := by
  cases m with
  | shared c => exact .bound .sort
  | loose c => exact .bound .thing
  | maker => exact .bound .sort
  | constant k flaw => exact .thing
  | _ => exact .unbound

theorem sortMember?_spec (found : sortMember? k name = some next) :
    IsName name ∧ next.WellNamed := by
  unfold sortMember? at found
  split at found
  · obtain ⟨⟨home, m⟩, listed, rfl⟩ := Option.map_eq_some_iff.mp found
    exact ⟨isName_of_member? listed, wellNamed_takeUnbound⟩
  · next home m listed _ => exact ⟨isName_of_member? listed, WellNamed.sort.take? found⟩
  · next home m _ _ listed _ =>
    refine ⟨isName_of_member? listed, ?_⟩
    split at found
    · exact WellNamed.sort.take? found
    · cases found
      exact wellNamed_takeUnbound

/-- A step along a path takes a name that can stand in it, and leads to such a thing again. -/
theorem WellNamed.member? (h : item.WellNamed) (found : item.member? name = some next) :
    IsName name ∧ next.WellNamed := by
  unfold Item.member? at found
  split at found
  · next own =>
    cases found
    obtain ⟨before, after, split, -⟩ := List.lookup_eq_some_iff.mp own
    exact h.members (name, next) (by simp [split])
  · exact sortMember?_spec found
  · obtain ⟨⟨home, m⟩, listed, taken⟩ := Option.bind_eq_some_iff.mp found
    exact ⟨isName_of_member? listed, h.take? taken⟩

end Item

theorem Reaches.wellNamed (h : Reaches item names last) (well : item.WellNamed) :
    (∀ name ∈ names, IsName name) ∧ last.WellNamed := by
  induction h with
  | here item => exact ⟨nofun, well⟩
  | member found _ ih =>
    obtain ⟨own, inside⟩ := well.member? found
    obtain ⟨others, further⟩ := ih inside
    exact ⟨List.forall_mem_cons.mpr ⟨own, others⟩, further⟩

end DiagCheck.Pipeline
