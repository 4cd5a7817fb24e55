import DiagCheck.Proofs.Compiler.Account
import DiagCheck.Proofs.Render.Highlight

/-! Locations in the compiled text and in the source. A finding behind the version line and its
diagnostic tell the same characters, each in its own offsets, so the highlights of the source are
where the compiler pointed. -/
namespace DiagCheck

/-- The characters from one offset up to another. Neither is negative. -/
def Text.slice (t : Text) (start stop : Int) : Text := (t.take stop.toNat).drop start.toNat

/-- Behind a lead the same characters have offsets that are larger by its length. -/
theorem Text.slice_append {lead : Text} {start stop : Int} (hstart : lead.length ≤ start)
    (hstop : lead.length ≤ stop) (t : Text) :
    slice (lead ++ t) start stop = slice t (start - lead.length) (stop - lead.length) := by
  have front : lead.take stop.toNat = lead := List.take_of_length_le (by omega)
  have behind : lead.drop start.toNat = [] := List.drop_of_length_le (by omega)
  have first : start.toNat - lead.length = (start - lead.length).toNat := by omega
  have last : stop.toNat - lead.length = (stop - lead.length).toNat := by omega
  rw [slice, slice, List.take_append, front, List.drop_append, behind, List.nil_append, first, last]

namespace Compiler

namespace Finding

/-- Both ends of the finding lie behind the version line. -/
def Behind (f : Finding) (start stop : Int) : Prop :=
  f.span = some (start, stop) ∧ versionLine.length ≤ start ∧ versionLine.length ≤ stop

/-- The finding is about the character with this number in the compiled text. -/
def PointsAt (f : Finding) (k : Int) : Prop :=
  ∃ start stop, f.Behind start stop ∧ start ≤ k ∧ k < stop

/-- The diagnostic says of the source what the finding says of the compiled text. -/
structure Located (source : Text) (f : Finding) (d : Diagnostic) : Prop where
  same : ∀ start stop, f.Behind start stop →
    Text.slice source d.start d.stop = Text.slice (versionLine ++ source) start stop
  /-- Each end is moved back or dropped without regard to the other one. -/
  ends : ∀ start stop, f.span = some (start, stop) →
    d.start = (if versionLine.length ≤ start then start - versionLine.length else -1) ∧
    d.stop = if versionLine.length ≤ stop then stop - versionLine.length else -1
  nowhere : f.span = none → d.start = -1 ∧ d.stop = -1
  bare : (∀ start stop, ¬f.Behind start stop) → ∀ levels, Highlight.paint d levels = levels

variable {f : Finding} {start stop : Int}

@[simp] theorem kind_toDiagnostic (length : Int) (f : Finding) :
    (f.toDiagnostic length).kind = f.kind := by
  unfold toDiagnostic
  cases f.span <;> rfl

theorem ends_toDiagnostic (h : f.span = some (start, stop)) (length : Int) :
    (f.toDiagnostic length).start = shift length start ∧
      (f.toDiagnostic length).stop = shift length stop := by
  simp [toDiagnostic, h]

theorem ends_of_behind (h : f.Behind start stop) :
    (f.toDiagnostic versionLine.length).start = start - versionLine.length ∧
      (f.toDiagnostic versionLine.length).stop = stop - versionLine.length := by
  obtain ⟨span, hstart, hstop⟩ := h
  rw [← shift_of_le hstart, ← shift_of_le hstop]
  exact ends_toDiagnostic span versionLine.length

theorem hasSpan_toDiagnostic_iff :
    (f.toDiagnostic versionLine.length).hasSpan = true ↔ ∃ start stop, f.Behind start stop := by
  simp only [Diagnostic.hasSpan, Bool.and_eq_true, decide_eq_true_eq]
  cases span : f.span with
  | none => simp [toDiagnostic, Behind, span, absent]
  | some ends =>
    obtain ⟨start, stop⟩ := ends
    obtain ⟨hstart, hstop⟩ := ends_toDiagnostic span versionLine.length
    rw [hstart, hstop, shift_nonneg_iff, shift_nonneg_iff]
    constructor
    · intro behind
      exact ⟨start, stop, span, behind⟩
    · rintro ⟨_, _, same, behind⟩
      cases span.symm.trans same
      exact behind

theorem covers_toDiagnostic_iff {i : Nat} :
    Highlight.Covers (f.toDiagnostic versionLine.length) i ↔
      f.PointsAt (i + versionLine.length) := by
  constructor
  · rintro ⟨span, hstart, hstop⟩
    obtain ⟨start, stop, behind⟩ := hasSpan_toDiagnostic_iff.mp span
    rw [(ends_of_behind behind).1] at hstart
    rw [(ends_of_behind behind).2] at hstop
    exact ⟨start, stop, behind, by omega, by omega⟩
  · rintro ⟨start, stop, behind, hstart, hstop⟩
    refine ⟨hasSpan_toDiagnostic_iff.mpr ⟨start, stop, behind⟩, ?_, ?_⟩
    · rw [(ends_of_behind behind).1]
      omega
    · rw [(ends_of_behind behind).2]
      omega

theorem outside_toDiagnostic_iff {source : Text} :
    Highlight.Outside source.length (f.toDiagnostic versionLine.length) ↔
      ∃ start stop, f.Behind start stop ∧
        (((versionLine ++ source).length : Int) < start ∨
          ((versionLine ++ source).length : Int) < stop) := by
  rw [List.length_append]
  constructor
  · rintro ⟨span, outside⟩
    obtain ⟨start, stop, behind⟩ := hasSpan_toDiagnostic_iff.mp span
    rw [(ends_of_behind behind).1, (ends_of_behind behind).2] at outside
    exact ⟨start, stop, behind, by omega⟩
  · rintro ⟨start, stop, behind, outside⟩
    refine ⟨hasSpan_toDiagnostic_iff.mpr ⟨start, stop, behind⟩, ?_⟩
    rw [(ends_of_behind behind).1, (ends_of_behind behind).2]
    omega

theorem located (source : Text) (f : Finding) :
    f.Located source (f.toDiagnostic versionLine.length) := by
  constructor
  · intro start stop behind
    rw [(ends_of_behind behind).1, (ends_of_behind behind).2,
      Text.slice_append behind.2.1 behind.2.2]
  · intro start stop span
    exact ends_toDiagnostic span versionLine.length
  · intro span
    simp [toDiagnostic, span, absent]
  · intro nowhere levels
    have uncovered (i : Nat) : ¬Highlight.Covers (f.toDiagnostic versionLine.length) i := by
      rintro ⟨span, _⟩
      obtain ⟨start, stop, behind⟩ := hasSpan_toDiagnostic_iff.mp span
      exact nowhere start stop behind
    refine List.ext_getElem? fun i => ?_
    simp only [Highlight.getElem?_paint, uncovered, if_false, Option.map_id_fun', id_eq]

end Finding

/-- The findings that stand on their own. -/
def Script.primary (s : Script) : List Finding :=
  s.findings.filter fun f => f.secondary == some false

theorem Script.hasSpan_of_mem_lacking {s : Script} {d : Diagnostic} (h : d ∈ s.lacking) :
    d.hasSpan = false := by
  unfold lacking at h
  split at h
  · split at h
    · split at h
      · obtain rfl := List.mem_singleton.mp h
        rfl
      · cases h
    · cases h
  · cases h

namespace Stack

variable {s : Stack} {job : Job} {ds : List Diagnostic}

theorem diagnostics_of_examine (h : (s.examine job).result = .ok (.diagnostics ds)) :
    ds = s.upcoming.lacking ++
      s.upcoming.primary.map (Finding.toDiagnostic versionLine.length) :=
  (Script.course_diagnostics_iff.mp ((result_examine_iff s job _).mp h)).2.2.2

theorem sources_examine (s : Stack) (job : Job) :
    (s.examine job).stack.sources = some [([], versionLine ++ job.source)] := by
  rw [(s.examine_follows job).2, prepare_eq]

/-- Only a primary finding has a span in the source. -/
theorem exists_mem_of_examine (h : (s.examine job).result = .ok (.diagnostics ds))
    {p : Diagnostic → Prop} (spans : ∀ d, p d → d.hasSpan = true) :
    (∃ d ∈ ds, p d) ↔
      ∃ f ∈ s.upcoming.primary, p (Finding.toDiagnostic versionLine.length f) := by
  rw [diagnostics_of_examine h]
  constructor
  · rintro ⟨d, hd, own⟩
    rcases List.mem_append.mp hd with hd | hd
    · have bare := Script.hasSpan_of_mem_lacking hd
      exact absurd (spans d own) (Bool.eq_false_iff.mp bare)
    · obtain ⟨f, hf, rfl⟩ := List.mem_map.mp hd
      exact ⟨f, hf, own⟩
  · rintro ⟨f, hf, own⟩
    exact ⟨_, List.mem_append_right _ (List.mem_map_of_mem hf), own⟩

theorem outside_of_examine (h : (s.examine job).result = .ok (.diagnostics ds)) :
    (∃ d ∈ ds, Highlight.Outside job.source.length d) ↔
      ∃ f ∈ s.upcoming.primary, ∃ start stop, f.Behind start stop ∧
        (((versionLine ++ job.source).length : Int) < start ∨
          ((versionLine ++ job.source).length : Int) < stop) := by
  rw [exists_mem_of_examine h fun d outside => outside.1]
  simp only [Finding.outside_toDiagnostic_iff]

theorem covered_of_examine (h : (s.examine job).result = .ok (.diagnostics ds))
    (p : Text → Prop) (i : Nat) :
    (∃ d ∈ ds, p d.kind ∧ Highlight.Covers d i) ↔
      ∃ f ∈ s.upcoming.primary, p f.kind ∧ f.PointsAt (i + versionLine.length) := by
  rw [exists_mem_of_examine h fun d own => own.2.1]
  simp only [Finding.kind_toDiagnostic, Finding.covers_toDiagnostic_iff]

/-- The overlay marks the characters that the compiler pointed at. A finding behind the version
line and its diagnostic tell the same characters, and one with an end elsewhere paints nothing.
Highlights are refused if a primary finding behind the version line reaches beyond the compiled
text. Otherwise a character of the source is an error where some primary finding that is no
warning points at it, and a warning where only warnings do. -/
theorem overlay_of_examine (h : (s.examine job).result = .ok (.diagnostics ds)) :
    let compiled := versionLine ++ job.source
    let primary := s.upcoming.findings.filter fun f => f.secondary == some false
    (s.examine job).stack.sources = some [([], compiled)] ∧
    (∃ known, (∀ d ∈ known, d.hasSpan = false) ∧
      ds = known ++ primary.map (Finding.toDiagnostic versionLine.length)) ∧
    (∀ f ∈ primary, f.Located job.source (f.toDiagnostic versionLine.length)) ∧
    ((∃ e, Highlight.levels job.source.length ds = .error e) ↔
      ∃ f ∈ primary, ∃ start stop, f.Behind start stop ∧
        ((compiled.length : Int) < start ∨ (compiled.length : Int) < stop)) ∧
    ∀ levels, Highlight.levels job.source.length ds = .ok levels →
      levels.length = job.source.length ∧ ∀ i < job.source.length,
        (levels[i]? = some .error ↔ ∃ f ∈ primary,
          f.kind ≠ "Warning".toList ∧ f.PointsAt (i + versionLine.length)) ∧
        (levels[i]? = some .warning ↔
          (∃ f ∈ primary, f.kind = "Warning".toList ∧ f.PointsAt (i + versionLine.length)) ∧
          ¬∃ f ∈ primary, f.kind ≠ "Warning".toList ∧ f.PointsAt (i + versionLine.length)) := by
  intro compiled primary
  refine ⟨sources_examine s job, ?_, fun f _ => f.located job.source, ?_, ?_⟩
  · exact ⟨_, fun d => Script.hasSpan_of_mem_lacking, diagnostics_of_examine h⟩
  · rw [Highlight.refused_iff_outside]
    exact outside_of_examine h
  · intro levels painted
    refine ⟨Highlight.length_levels painted, fun i inside => ?_⟩
    have errors := covered_of_examine h (· ≠ "Warning".toList) i
    have warnings := covered_of_examine h (· = "Warning".toList) i
    rw [Highlight.getElem?_levels painted inside, Option.some.injEq, Option.some.injEq,
      Highlight.levelAt_eq_error_iff, Highlight.levelAt_eq_warning_iff, errors, warnings]
    exact ⟨Iff.rfl, Iff.rfl⟩

/-- An error lies in a warning; another one, which begins in the version line, and a secondary one
behind the end do not count. -/
theorem overlay_of_examine_straddling :
    let source := "uint x;".toList
    let primary (kind : String) (start stop : Int) : Finding := {
      kind := kind.toList, comment := none, span := some (start, stop), secondary := some false }
    let warning := primary "Warning" 23 28
    let error := primary "TypeError" 25 27
    let straddling := primary "TypeError" 20 30
    let behind := { primary "TypeError" 99 99 with secondary := some true }
    let s : Stack := { queue := [{ findings := [warning, error, straddling, behind] }] }
    let job : Job := { source, evmVersion := [] }
    let ds := [warning, error, straddling].map (Finding.toDiagnostic versionLine.length)
    (s.examine job).result = .ok (.diagnostics ds) ∧
      Text.slice source 2 4 = Text.slice (versionLine ++ source) 25 27 ∧
      (straddling.toDiagnostic versionLine.length).start = -1 ∧
      (straddling.toDiagnostic versionLine.length).stop = 7 ∧
      ∃ levels, Highlight.levels source.length ds = .ok levels ∧ levels[3]? = some .error ∧
        levels[4]? = some .warning ∧ levels[5]? ≠ some .error := by
  intro source primary warning error straddling behind s job ds
  have examined : (s.examine job).result = .ok (.diagnostics ds) := rfl
  obtain ⟨_, _, located, _, marked⟩ := overlay_of_examine examined
  have counted : s.upcoming.findings.filter (fun f => f.secondary == some false) =
      [warning, error, straddling] := rfl
  rw [counted] at located marked
  have inError : error.PointsAt (3 + versionLine.length) :=
    ⟨25, 27, ⟨rfl, by decide, by decide⟩, by decide, by decide⟩
  have same := (located error (by simp)).same 25 27 ⟨rfl, by decide, by decide⟩
  obtain ⟨start, stop⟩ := (located straddling (by simp)).ends 20 30 rfl
  have painted : Highlight.levels source.length ds =
      .ok [.warning, .warning, .error, .error, .warning, .none, .none] := rfl
  have third := (marked _ painted).2 3 (by decide)
  refine ⟨examined, same, start, stop, _, painted, third.1.mpr ?_, rfl, by decide⟩
  exact ⟨error, by simp, by decide, inError⟩

end Stack

end Compiler

end DiagCheck
