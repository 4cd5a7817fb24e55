import Mathlib.Data.List.Induction
import DiagCheck.Pipeline

/-! Modules by their dotted names. A module is loaded inside the one that its name without the
last part leads to, so of the modules on the way to it the outermost that does not let it through
is the one that counts. -/
namespace DiagCheck

namespace Text

variable {c : Char} {t : Text}

theorem exists_pieces (c : Char) (t : Text) : ∃ p ps, pieces c t = p :: ps := by
  cases t with
  | nil => exact ⟨[], [], rfl⟩
  | cons d t =>
    simp only [pieces]
    split
    · exact ⟨_, _, rfl⟩
    · split <;> exact ⟨_, _, rfl⟩

theorem pieces_of_not_mem (h : c ∉ t) : pieces c t = [t] := by
  induction t with
  | nil => rfl
  | cons d t ih =>
    obtain ⟨other, rest⟩ := not_or.mp (mt List.mem_cons.mpr h)
    rw [pieces, if_neg (Ne.symm other), ih rest]

theorem empty_piece {ps : List Text} (h : pieces c t = [] :: ps) : t = [] ∨ t.head? = some c := by
  cases t with
  | nil => exact .inl rfl
  | cons d t =>
    simp only [pieces] at h
    split at h
    · next mark => exact .inr (congrArg some mark)
    · split at h <;> cases h

theorem pieces_append (c : Char) (s t : Text) :
    pieces c (s ++ c :: t) = pieces c s ++ pieces c t := by
  induction s with
  | nil =>
    simp only [List.nil_append, pieces, if_pos]
    rfl
  | cons d s ih =>
    rw [List.cons_append, pieces, pieces, ih]
    split
    · rfl
    · obtain ⟨p, ps, first⟩ := exists_pieces c s
      rw [first]
      rfl

/-- Every text is a single piece, or one more piece behind a shorter text and a mark. -/
theorem induction_pieces {motive : Text → Prop} (single : ∀ t, c ∉ t → motive t)
    (more : ∀ s t, c ∉ t → motive s → motive (s ++ c :: t)) (t : Text) : motive t := by
  have front (s : Text) : ∀ t, c ∉ t → motive (s ++ t) := by
    induction s using List.reverseRecOn with
    | nil => exact single
    | append_singleton s d ih =>
      intro t plain
      rw [List.append_assoc, List.singleton_append]
      by_cases mark : d = c
      · subst mark
        have whole : motive s := by simpa using ih [] List.not_mem_nil
        exact more s t plain whole
      · exact ih (d :: t) (mt List.mem_cons.mp (not_or.mpr ⟨Ne.symm mark, plain⟩))
  simpa using front t [] List.not_mem_nil

end Text

namespace Pipeline

/-- The environment has a package of that name. -/
def Environment.HasPackage (env : Environment) (name : Text) : Prop :=
  ∃ members, env.lookup name = some (.package members)

/-- What loading a module comes to once the modules around it let it through. -/
def Environment.outcome (env : Environment) (name : Text) :
    Except Refusal (List (Text × Item)) :=
  match env.lookup name with
  | none => .error (.reason (noModule name))
  | some (.unavailable reason) => .error (.reason reason)
  | some (.failing f) => .error (.failure f)
  | some (.module members) | some (.package members) => .ok members

/-- Why there is no module inside one that is no package. -/
def noPackage (name step : Text) : Text :=
  noModule (name ++ '.' :: step) ++ "; ".toList ++ Text.quoted name ++ " is not a package".toList

/-- What loading the module of a dotted name comes to. Around it is the module that is named by
all parts but the last. -/
inductive Loads (env : Environment) : Text → Except Refusal (List (Text × Item)) → Prop where
  | outermost : name ≠ [] → '.' ∉ name → Loads env name (env.outcome name)
  | inside : '.' ∉ step → Loads env around (.ok members) → env.HasPackage around →
      Loads env (around ++ '.' :: step) (env.outcome (around ++ '.' :: step))
  | notInside : '.' ∉ step → Loads env around (.ok members) → ¬env.HasPackage around →
      Loads env (around ++ '.' :: step) (.error (.reason (noPackage around step)))
  | broken : '.' ∉ step → Loads env around (.error r) →
      Loads env (around ++ '.' :: step) (.error r)

variable {env : Environment} {name parent step s t : Text} {steps : List Text}
  {x : Except Refusal (List (Text × Item))}

/-- The name has a first part, so it is relative to nothing. -/
def IsAbsolute (name : Text) : Prop := name ≠ [] ∧ name.head? ≠ some '.'

theorem isAbsolute_append_iff : IsAbsolute (s ++ '.' :: t) ↔ IsAbsolute s := by
  cases s with
  | nil => simp [IsAbsolute]
  | cons c s => simp [IsAbsolute]

/-! ## Names from their parts -/

/-- The name of a module from the one around it and the last part. -/
def below (parent step : Text) : Text := if parent = [] then step else parent ++ ['.'] ++ step

theorem below_nil (step : Text) : below [] step = step := if_pos rfl

theorem below_of_ne_nil (h : parent ≠ []) : below parent step = parent ++ '.' :: step := by
  rw [below, if_neg h, List.append_assoc]
  rfl

theorem foldl_below_pieces (h : IsAbsolute name) :
    (Text.pieces '.' name).foldl below [] = name := by
  induction name using Text.induction_pieces (c := '.') with
  | single t plain => rw [Text.pieces_of_not_mem plain, List.foldl_cons, List.foldl_nil, below_nil]
  | more s t plain ih =>
    have absolute := isAbsolute_append_iff.mp h
    rw [Text.pieces_append, Text.pieces_of_not_mem plain, List.foldl_append, ih absolute,
      List.foldl_cons, List.foldl_nil, below_of_ne_nil absolute.1]

/-! ## Loading part by part -/

theorem loadFrom_singleton : loadFrom env parent [step] = env.outcome (below parent step) := by
  unfold loadFrom below Environment.outcome
  split <;> rfl

theorem loadFrom_of_package (h : env.HasPackage (below parent s)) :
    loadFrom env parent (s :: t :: steps) = loadFrom env (below parent s) (t :: steps) := by
  obtain ⟨members, there⟩ := h
  unfold below at there ⊢
  rw [loadFrom]
  simp only [there]

theorem loadFrom_of_no_package (h : ¬env.HasPackage (below parent s)) :
    loadFrom env parent (s :: t :: steps) = (env.outcome (below parent s)).bind fun _ =>
      .error (.reason (noPackage (below parent s) t)) := by
  have shape : below parent s ++ ['.'] ++ t = below parent s ++ '.' :: t := by simp
  rw [loadFrom, Environment.outcome, noPackage, ← shape]
  simp only [← below.eq_def]
  cases there : env.lookup (below parent s) with
  | none => rfl
  | some source =>
    cases source with
    | package members => exact absurd ⟨members, there⟩ h
    | _ => rfl

theorem outcome_of_package (h : env.HasPackage name) :
    ∃ members, env.outcome name = .ok members := by
  obtain ⟨members, there⟩ := h
  exact ⟨members, by rw [Environment.outcome, there]⟩

/-- What a module lets through, given the name of the module and the next part. -/
def loadInside (env : Environment) (name step : Text) : Except Refusal (List (Text × Item)) :=
  match env.lookup name with
  | some (.package _) => env.outcome (name ++ '.' :: step)
  | _ => .error (.reason (noPackage name step))

theorem loadInside_of_package (h : env.HasPackage name) :
    loadInside env name step = env.outcome (name ++ '.' :: step) := by
  obtain ⟨members, there⟩ := h
  rw [loadInside, there]

theorem loadInside_of_no_package (h : ¬env.HasPackage name) :
    loadInside env name step = .error (.reason (noPackage name step)) := by
  unfold loadInside
  split
  · next members there => exact absurd ⟨members, there⟩ h
  · rfl

/-- The last part is looked for inside the module that the others lead to. -/
theorem loadFrom_concat (h : below parent s ≠ []) :
    loadFrom env parent (s :: steps ++ [t]) =
      (loadFrom env parent (s :: steps)).bind fun _ =>
        loadInside env (steps.foldl below (below parent s)) t := by
  induction steps generalizing parent s with
  | nil =>
    rw [loadFrom_singleton, List.foldl_nil]
    by_cases package : env.HasPackage (below parent s)
    · obtain ⟨members, loaded⟩ := outcome_of_package package
      rw [loaded, List.cons_append, List.nil_append, loadFrom_of_package package,
        loadFrom_singleton, below_of_ne_nil h]
      exact (loadInside_of_package package).symm
    · rw [loadInside_of_no_package package]
      exact loadFrom_of_no_package package
  | cons u steps ih =>
    rw [List.cons_append, List.cons_append, List.foldl_cons]
    by_cases package : env.HasPackage (below parent s)
    · have further : below (below parent s) u ≠ [] := by
        rw [below_of_ne_nil h]
        simp
      rw [loadFrom_of_package package, loadFrom_of_package package]
      exact ih further
    -- What is no package stops the loading, however many parts follow.
    · rw [loadFrom_of_no_package package, loadFrom_of_no_package package]
      cases env.outcome (below parent s) <;> rfl

theorem loadFrom_pieces_append (h : IsAbsolute name) (plain : '.' ∉ step) :
    loadFrom env [] (Text.pieces '.' (name ++ '.' :: step)) =
      (loadFrom env [] (Text.pieces '.' name)).bind fun _ => loadInside env name step := by
  obtain ⟨first, rest, parts⟩ := Text.exists_pieces '.' name
  have whole := foldl_below_pieces h
  rw [parts, List.foldl_cons] at whole
  have named : below [] first ≠ [] := by
    rw [below_nil]
    rintro rfl
    rcases Text.empty_piece parts with empty | mark
    · exact h.1 empty
    · exact h.2 mark
  rw [Text.pieces_append, Text.pieces_of_not_mem plain, parts, loadFrom_concat named, whole]

/-- A module is loaded part by part from the outermost one on just as its dotted name says. -/
theorem loads_iff : Loads env name x ↔
    IsAbsolute name ∧ loadFrom env [] (Text.pieces '.' name) = x := by
  constructor
  · intro h
    induction h with
    | @outermost name nonempty plain =>
      have head : name.head? ≠ some '.' := fun first => plain (List.mem_of_head? first)
      rw [Text.pieces_of_not_mem plain, loadFrom_singleton, below_nil]
      exact ⟨⟨nonempty, head⟩, rfl⟩
    | inside plain _ package ih =>
      obtain ⟨absolute, loaded⟩ := ih
      rw [loadFrom_pieces_append absolute plain, loaded]
      exact ⟨isAbsolute_append_iff.mpr absolute, loadInside_of_package package⟩
    | notInside plain _ package ih =>
      obtain ⟨absolute, loaded⟩ := ih
      rw [loadFrom_pieces_append absolute plain, loaded]
      exact ⟨isAbsolute_append_iff.mpr absolute, loadInside_of_no_package package⟩
    | broken plain _ ih =>
      obtain ⟨absolute, failed⟩ := ih
      rw [loadFrom_pieces_append absolute plain, failed]
      exact ⟨isAbsolute_append_iff.mpr absolute, rfl⟩
  · rintro ⟨absolute, rfl⟩
    -- The name is taken apart from its end on, as the relation puts it together.
    induction name using Text.induction_pieces (c := '.') with
    | single t plain =>
      rw [Text.pieces_of_not_mem plain, loadFrom_singleton, below_nil]
      exact .outermost absolute.1 plain
    | more s t plain ih =>
      have absolute := isAbsolute_append_iff.mp absolute
      have around := ih absolute
      rw [loadFrom_pieces_append absolute plain]
      cases loaded : loadFrom env [] (Text.pieces '.' s) with
      | error r => exact .broken plain (loaded ▸ around)
      | ok members =>
        rw [loaded] at around
        by_cases package : env.HasPackage s
        · exact loadInside_of_package package ▸ .inside plain around package
        · exact loadInside_of_no_package package ▸ .notInside plain around package

end Pipeline

end DiagCheck
