import Mathlib.Data.List.Forall2
import DiagCheck.Proofs.Text.Lines
import DiagCheck.Proofs.Expectation.Span

/-! Blocks of annotations as their single lines. A block gives what its lines give, in their
order, and it fails by its first bad line. So blocks can be put together, and lines that say
nothing count for nothing but the numbers of the lines behind them. -/
namespace DiagCheck.Expectation

/-- Slashes and then blanks, and nothing else. -/
def Idle (line : Text) : Prop :=
  ∃ slashes blanks, line = slashes ++ blanks ∧ (∀ c ∈ slashes, c = '/') ∧
    ∀ c ∈ blanks, isBlank c = true

/-- The second block is the first with idle lines put into it. -/
inductive Padded : List Text → List Text → Prop where
  | nil : Padded [] []
  | line (l : Text) : Padded ls ms → Padded (l :: ls) (l :: ms)
  | idle : Idle l → Padded ls ms → Padded ls (l :: ms)

/-- The failure of a block that has more lines in front. -/
def Failure.behind (lines : Nat) (f : Failure) : Failure := { f with line := lines + f.line }

/-- The line number that a failure comes with. A number that is too long is reported without. -/
def Failure.number? (f : Failure) : Option Nat :=
  if f.defect.isMalformed then some f.line else none

variable {n : Nat} {l : Text} {ls ms before after : List Text} {ds : List Diagnostic} {f : Failure}

/-! ## Idle lines -/

theorem isBlank_of_isLineEnd {c : Char} (h : Text.isLineEnd c = true) : isBlank c = true := by
  simp only [Text.isLineEnd, Bool.or_eq_true, beq_iff_eq] at h
  rcases h with rfl | rfl <;> decide

/-- What is left of slashes and blanks without some of the last is that again. -/
theorem Idle.dropLineEnd (h : Idle l) : Idle (Text.dropLineEnd l) := by
  obtain ⟨slashes, blanks, rfl, slash, blank⟩ := h
  obtain ⟨rest, whole⟩ := Text.dropEnd_prefix Text.isLineEnd (slashes ++ blanks)
  rcases List.append_eq_append_iff.mp whole with ⟨more, shape, -⟩ | ⟨more, shape, rfl⟩
  · refine ⟨_, [], (List.append_nil _).symm, fun c hc => slash c ?_, nofun⟩
    rw [shape]
    exact List.mem_append_left _ hc
  · exact ⟨slashes, more, shape, slash, fun c hc => blank c (List.mem_append_left _ hc)⟩

/-- The lines that say nothing are just the idle ones. -/
theorem read_eq_none_iff_idle : read l = .ok none ↔ Idle l := by
  have body : read l = .ok none ↔
      ∀ c ∈ (Text.dropLineEnd l).dropWhile (· == '/'), isBlank c = true := by
    rw [read_eq_none_iff]
    exact List.dropWhile_eq_nil_iff
  rw [body]
  constructor
  · intro blank
    have whole : Text.dropLineEnd l ++ l.rtakeWhile Text.isLineEnd = l :=
      List.rdropWhile_append_rtakeWhile
    refine ⟨(Text.dropLineEnd l).takeWhile (· == '/'),
      (Text.dropLineEnd l).dropWhile (· == '/') ++ l.rtakeWhile Text.isLineEnd, ?_, ?_, ?_⟩
    · rw [← List.append_assoc, List.takeWhile_append_dropWhile, whole]
    · intro c hc
      have passed := List.all_eq_true.mp (List.all_takeWhile (p := (· == '/'))) c hc
      exact beq_iff_eq.mp passed
    · intro c hc
      rcases List.mem_append.mp hc with hc | hc
      · exact blank c hc
      · exact isBlank_of_isLineEnd (List.mem_rtakeWhile_imp hc)
  · intro idle
    obtain ⟨slashes, blanks, shape, slash, blank⟩ := idle.dropLineEnd
    have passed : ∀ c ∈ slashes, (c == '/') = true := fun c hc => beq_iff_eq.mpr (slash c hc)
    rw [shape, List.dropWhile_append_of_pos passed]
    intro c hc
    exact blank c ((List.dropWhile_suffix _).subset hc)

/-! ## Results of single lines -/

/-- The diagnostics of a block are what its lines say, where they say something. -/
theorem readFrom_eq_ok_iff : readFrom n ls = .ok ds ↔
    ∃ rs : List (Option Diagnostic), List.Forall₂ (fun l r => read l = .ok r) ls rs ∧
      rs.filterMap id = ds := by
  constructor
  · intro h
    induction ls generalizing n ds with
    | nil =>
      cases h
      exact ⟨[], .nil, rfl⟩
    | cons l ls ih =>
      simp only [readFrom] at h
      split at h
      · cases h
      · next own =>
        obtain ⟨rs, each, rfl⟩ := ih h
        exact ⟨none :: rs, .cons own each, rfl⟩
      · next d own =>
        obtain ⟨es, rest, rfl⟩ := map_eq_ok h
        obtain ⟨rs, each, rfl⟩ := ih rest
        exact ⟨some d :: rs, .cons own each, rfl⟩
  · rintro ⟨rs, each, rfl⟩
    induction each generalizing n with
    | nil => rfl
    | @cons l r ls rs own _ ih =>
      cases r with
      | none =>
        simp only [readFrom, own, ih]
        rfl
      | some d =>
        simp only [readFrom, own, ih, Except.map]
        rfl

theorem exists_readFrom (h : ∀ l ∈ ls, ∃ r, read l = .ok r) (n : Nat) :
    ∃ ds, readFrom n ls = .ok ds := by
  induction ls generalizing n with
  | nil => exact ⟨[], rfl⟩
  | cons l ls ih =>
    obtain ⟨⟨r, own⟩, others⟩ := List.forall_mem_cons.mp h
    obtain ⟨ds, rest⟩ := ih others (n + 1)
    cases r with
    | none => exact ⟨ds, by simp [readFrom, own, rest]⟩
    | some d => exact ⟨d :: ds, by simp [readFrom, own, rest, Except.map]⟩

/-- The first line that cannot be read is the one that counts. -/
theorem readFrom_eq_error_iff : readFrom n ls = .error f ↔
    ∃ before l after, ls = before ++ l :: after ∧ (∀ m ∈ before, ∃ r, read m = .ok r) ∧
      read l = .error f.defect ∧ f.line = n + before.length := by
  constructor
  · intro h
    induction ls generalizing n with
    | nil => cases h
    | cons l ls ih =>
      have later : (∃ r, read l = .ok r) → readFrom (n + 1) ls = .error f →
          ∃ before bad after, l :: ls = before ++ bad :: after ∧
            (∀ m ∈ before, ∃ r, read m = .ok r) ∧ read bad = .error f.defect ∧
            f.line = n + before.length := by
        intro own failed
        obtain ⟨before, bad, after, rfl, good, refused, number⟩ := ih failed
        refine ⟨l :: before, bad, after, rfl, List.forall_mem_cons.mpr ⟨own, good⟩, refused, ?_⟩
        rw [number, List.length_cons]
        omega
      simp only [readFrom] at h
      split at h
      · next own =>
        cases h
        exact ⟨[], l, ls, rfl, List.forall_mem_nil _, own, rfl⟩
      · next own => exact later ⟨_, own⟩ h
      · next own =>
        refine later ⟨_, own⟩ ?_
        cases rest : readFrom (n + 1) ls with
        | ok es => simp [rest, Except.map] at h
        | error g => simpa [rest, Except.map] using h
  · rintro ⟨before, l, after, rfl, good, refused, number⟩
    obtain ⟨ds, front⟩ := exists_readFrom good n
    simp only [readFrom_append, front, readFrom, refused, ← number, Except.map]

/-! ## Blocks in a row -/

theorem readFrom_add (k n : Nat) (ls : List Text) :
    readFrom (k + n) ls = (readFrom n ls).mapError (Failure.behind k) := by
  induction ls generalizing n with
  | nil => rfl
  | cons l ls ih =>
    simp only [readFrom]
    split
    · rfl
    · exact ih (n + 1)
    · rw [Nat.add_assoc, ih (n + 1)]
      cases readFrom (n + 1) ls <;> rfl

theorem readAll_append (ls ms : List Text) : readAll (ls ++ ms) = match readAll ls with
    | .error f => .error f
    | .ok ds => ((readAll ms).mapError (Failure.behind ls.length)).map (ds ++ ·) := by
  rw [readAll, readFrom_append, Nat.add_comm, readFrom_add]
  rfl

/-! ## Padding -/

theorem Padded.readFrom_eq_ok (h : Padded ls ms) (read : readFrom n ls = .ok ds) (k : Nat) :
    readFrom k ms = .ok ds := by
  obtain ⟨rs, each, rfl⟩ := readFrom_eq_ok_iff.mp read
  clear read
  rw [readFrom_eq_ok_iff]
  induction h generalizing rs with
  | nil => exact ⟨rs, each, rfl⟩
  | line l _ ih =>
    cases each with
    | @cons _ r _ rs own each =>
      obtain ⟨ss, later, same⟩ := ih rs each
      exact ⟨r :: ss, .cons own later, by rw [List.filterMap_cons, List.filterMap_cons, same]⟩
  | idle idle _ ih =>
    obtain ⟨ss, later, same⟩ := ih rs each
    exact ⟨none :: ss, .cons (read_eq_none_iff_idle.mpr idle) later, same⟩

theorem Padded.readable (h : Padded ls ms) (good : ∀ l ∈ ls, ∃ r, read l = .ok r) :
    ∀ m ∈ ms, ∃ r, read m = .ok r := by
  induction h with
  | nil => exact good
  | line l _ ih =>
    obtain ⟨own, others⟩ := List.forall_mem_cons.mp good
    exact List.forall_mem_cons.mpr ⟨own, ih others⟩
  | idle idle _ ih =>
    exact List.forall_mem_cons.mpr ⟨⟨none, read_eq_none_iff_idle.mpr idle⟩, ih good⟩

/-- A line of the first block is there in the second, between its padded neighbours. -/
theorem Padded.split (h : Padded (before ++ l :: after) ms) :
    ∃ front back, ms = front ++ l :: back ∧ Padded before front ∧ Padded after back := by
  generalize whole : before ++ l :: after = ls at h
  induction h generalizing before with
  | nil => simp at whole
  | line m padded ih =>
    cases before with
    | nil =>
      obtain ⟨rfl, rfl⟩ := List.cons.inj whole
      exact ⟨[], _, rfl, .nil, padded⟩
    | cons b before =>
      obtain ⟨rfl, rfl⟩ := List.cons.inj whole
      obtain ⟨front, back, rfl, hf, hb⟩ := ih rfl
      exact ⟨b :: front, back, rfl, .line b hf, hb⟩
  | idle idle _ ih =>
    obtain ⟨front, back, rfl, hf, hb⟩ := ih whole
    exact ⟨_ :: front, back, rfl, .idle idle hf, hb⟩

theorem Padded.length_le (h : Padded ls ms) : ls.length ≤ ms.length := by
  induction h with
  | nil => exact Nat.le_refl _
  | line _ _ ih => exact Nat.succ_le_succ ih
  | idle _ _ ih => exact Nat.le_succ_of_le ih

/-- The bad line stays the first one, behind as many more lines as were put in front of it. -/
theorem Padded.readAll_eq_error (h : Padded ls ms) (failed : readAll ls = .error f) :
    ∃ more, readAll ms = .error (f.behind more) ∧
      Padded (ls.take (f.line - 1)) (ms.take (more + f.line - 1)) := by
  obtain ⟨before, l, after, rfl, good, refused, number⟩ := readFrom_eq_error_iff.mp failed
  obtain ⟨front, back, rfl, padded, -⟩ := h.split
  have longer := padded.length_le
  refine ⟨front.length - before.length, readFrom_eq_error_iff.mpr ?_, ?_⟩
  · refine ⟨front, l, back, rfl, padded.readable good, refused, ?_⟩
    simp only [Failure.behind, number]
    omega
  · have old : f.line - 1 = before.length := by omega
    have new : front.length - before.length + f.line - 1 = front.length := by omega
    rw [old, new, List.take_left, List.take_left]
    exact padded

/-- Blocks of annotations are read line by line. The first bad line of two blocks in a row is that
of the first block, or else that of the second with its number counted on; a number that is too
long is reported in either case as it is. Otherwise the diagnostics of both stand in a row. They
are what the single lines say, and lines of slashes and blanks only count as lines. -/
theorem readAll_composed (xs ys : List Text) :
    (∀ f, readAll xs = .error f → readAll (xs ++ ys) = .error f) ∧
    (∀ ds es, readAll xs = .ok ds → readAll ys = .ok es → readAll (xs ++ ys) = .ok (ds ++ es)) ∧
    (∀ ds f, readAll xs = .ok ds → readAll ys = .error f →
      ∃ g, readAll (xs ++ ys) = .error g ∧ g.defect = f.defect ∧
        (f.defect.isMalformed = true →
          f.number? = some f.line ∧ g.number? = some (xs.length + f.line) ∧
          f.message = f.defect.message ++ " (expectation line ".toList ++
            Numeral.ofNat f.line ++ [')'] ∧
          g.message = f.defect.message ++ " (expectation line ".toList ++
            Numeral.ofNat (xs.length + f.line) ++ [')']) ∧
        (f.defect.isMalformed = false →
          f.number? = none ∧ g.number? = none ∧ g.message = f.message)) ∧
    (∀ ds, readAll xs = .ok ds ↔ ∃ rs : List (Option Diagnostic),
      List.Forall₂ (fun l r => read l = .ok r) xs rs ∧ rs.filterMap id = ds) ∧
    (∀ f, readAll xs = .error f ↔ ∃ before l after, xs = before ++ l :: after ∧
      (∀ m ∈ before, ∃ r, read m = .ok r) ∧ read l = .error f.defect ∧
      f.line = 1 + before.length) ∧
    ∀ zs, Padded xs zs →
      (∀ ds, readAll xs = .ok ds → readAll zs = .ok ds) ∧
      ∀ f, readAll xs = .error f → ∃ more, readAll zs = .error (f.behind more) ∧
        Padded (xs.take (f.line - 1)) (zs.take (more + f.line - 1)) := by
  refine ⟨?_, ?_, ?_, fun _ => readFrom_eq_ok_iff, fun _ => readFrom_eq_error_iff, ?_⟩
  · intro f failed
    rw [readAll_append, failed]
  · intro ds es first second
    simp only [readAll_append, first, second, Except.mapError, Except.map]
  · intro ds f first failed
    refine ⟨f.behind xs.length, ?_, rfl, ?_, ?_⟩
    · simp only [readAll_append, first, failed, Except.mapError, Except.map]
    · intro malformed
      simp [Failure.number?, Failure.message, Failure.behind, malformed]
    · intro wellFormed
      simp [Failure.number?, Failure.message, Failure.behind, wellFormed]
  · intro zs padded
    exact ⟨fun ds first => padded.readFrom_eq_ok first 1, fun f => padded.readAll_eq_error⟩

end DiagCheck.Expectation
