import DiagCheck.Proofs.Render.Erasure
import DiagCheck.Proofs.TestCase.Updated

/-! Tests without escape characters. What is written for such a test is read again without any,
and the faults that may end it are told without any. -/
namespace DiagCheck

theorem Diagnostic.IsPlain.text {d : Diagnostic} (h : d.IsPlain) : d.text.IsPlain := by
  simp [Diagnostic.text, h.kind, h.message]

theorem Text.isPlain_join {separator : Text} {ts : List Text} (plain : separator.IsPlain)
    (h : ∀ t ∈ ts, t.IsPlain) : IsPlain (join separator ts) := by
  induction ts with
  | nil => exact isPlain_nil
  | cons t ts ih =>
    have own := h t (List.mem_cons_self ..)
    cases ts with
    | nil => exact own
    | cons u us =>
      have rest := ih fun v hv => h v (List.mem_cons_of_mem t hv)
      exact isPlain_append.mpr ⟨isPlain_append.mpr ⟨own, plain⟩, rest⟩

namespace Expectation

theorem isPlain_of_read {line : Text} {d : Diagnostic} (plain : line.IsPlain)
    (h : read line = .ok (some d)) : d.IsPlain := by
  obtain ⟨kind, message, _⟩ := readBody_eq_ok (read_eq_some_iff.mp h).2
  have cut : Text.dropLineEnd line <+: line := Text.dropEnd_prefix _ _
  have body : (body line).IsPlain := (plain.subset cut.subset).subset (body_suffix line).subset
  have start : d.kind <+: Expectation.body line := kind ▸ List.takeWhile_prefix _
  exact ⟨body.subset start.subset, body.subset message.subset⟩

theorem isPlain_of_readAll {t : Text} {ds : List Diagnostic} (plain : t.IsPlain)
    (h : readAll (Text.lines t) = .ok ds) : ∀ d ∈ ds, d.IsPlain := by
  intro d hd
  obtain ⟨l, hl, own⟩ := exists_line_of_readFrom h d hd
  exact isPlain_of_read (plain.of_mem_lines hl) own

theorem exists_line_of_failure {n : Nat} {ls : List Text} {f : Failure}
    (h : readFrom n ls = .error f) : ∃ l ∈ ls, read l = .error f.defect := by
  obtain ⟨before, l, after, rfl, -, own, -⟩ := readFrom_eq_error_iff.mp h
  exact ⟨l, by simp, own⟩

theorem isPlain_message_of_readAll {ls : List Text} {f : Failure} (h : readAll ls = .error f)
    (malformed : f.defect.isMalformed = true) : f.message.IsPlain := by
  obtain ⟨l, _, own⟩ := exists_line_of_failure h
  obtain ⟨span, _, breaks⟩ := readBody_eq_error_iff.mp (read_eq_error_iff.mp own).2
  have defect : f.defect.message.IsPlain := by
    rcases breaks.defect with kind | ⟨c, named, kind⟩ | ⟨n, _, kind⟩
    · rw [kind]
      decide +kernel
    · have message : f.defect.message =
          "Invalid test expectation. Expected character '".toList ++ [c] ++ "'.".toList := by
        rw [kind]
        rfl
      have other : c ≠ '\x1b' := by
        rintro rfl
        exact absurd named (by decide)
      simp [message, other]
    · simp [kind, Defect.isMalformed] at malformed
  simp [Failure.message, malformed, defect]

end Expectation

namespace Compiler

/-- Nothing that a run may show of the script has an escape character. -/
structure Script.IsPlain (s : Script) : Prop where
  diagnostics : s.Collects → ∀ d ∈ s.diagnostics, d.IsPlain
  failures : ∀ call ∈ s.calls, ∀ f, s.Fails f call → f.name.IsPlain ∧ f.message.IsPlain

theorem Script.isPlain_default : Script.IsPlain {} := by
  constructor
  · intro _ d hd
    cases hd
  · intro call _ f fails
    cases call <;> cases fails

theorem Inconsistency.isPlain_reason {f : Failure} (h : f.name.IsPlain) :
    (Inconsistency.failed f).reason.IsPlain := by
  have reason : (Inconsistency.failed f).reason = "Code generation raised ".toList ++ f.name ++
      " even though analysis was successful.".toList := rfl
  simp [reason, h]

end Compiler

namespace TestCase

open Compiler

/-- Nothing that a run may show of the test has an escape character, the names of settings that
mean nothing included. -/
structure IsPlain (t : TestCase) : Prop where
  source : t.source.IsPlain
  expectations : ∀ d ∈ t.expectations, d.IsPlain
  settings : ∀ key ∈ t.settings.keys, Text.IsPlain key

variable {t : TestCase}

theorem isPlain_updatedBlock (plain : ∀ d ∈ t.obtained, d.IsPlain)
    (writable : ∀ d ∈ t.obtained, d.Writable) : t.updatedBlock.IsPlain := by
  rw [updatedBlock, printAnnotations_of_writable writable]
  split
  · exact Text.isPlain_nil
  · next some =>
    rw [Listing.plainText, if_neg some]
    refine Text.isPlain_flatMap fun d hd => ?_
    simp [(plain d hd).text]

/-- A plain test whose file was updated is plain again. -/
theorem isPlain_reread (source : t.source.IsPlain) (plain : ∀ d ∈ t.obtained, d.IsPlain)
    (writable : ∀ d ∈ t.obtained, d.Writable) {name : Text} {options : Options} {v : TestCase}
    (made : t.reread name options = .ok v) : v.IsPlain := by
  obtain ⟨es, read, rfl⟩ := reread_eq_ok_iff.mp made
  have expectations := Expectation.isPlain_of_readAll (isPlain_updatedBlock plain writable) read
  exact ⟨source, expectations, by simp [Settings.keys]⟩

theorem isPlain_unopenable {path : Text} (h : path.IsPlain) :
    (Fault.unopenable path).message.IsPlain := by
  have message : (Fault.unopenable path).message =
      "Cannot open test contract: \"".toList ++ path ++ "\".".toList := rfl
  simp [message, h]

theorem isPlain_unknownSettings {names : List Text} (h : ∀ name ∈ names, name.IsPlain) :
    (Fault.unknownSettings names).message.IsPlain := by
  have listed : Text.IsPlain (Text.join ", ".toList (Text.sort names)) :=
    Text.isPlain_join (by simp) fun name hn => h name (List.mem_mergeSort.mp hn)
  exact Text.isPlain_append.mpr ⟨by simp, listed⟩

theorem isPlain_of_ofFile {d : Directory} {path : Text} {options : Options} {f : Fault}
    (plain : path.IsPlain) (h : ofFile d path options = .error f) (ends : f.endsTest = true) :
    f.message.IsPlain := by
  have lines : ∀ ls, ofLines path options ls = .error f → f.message.IsPlain := by
    intro ls h
    unfold ofLines at h
    split at h
    · next e _ =>
      cases h
      cases e <;> decide +kernel
    · unfold ofSections at h
      split at h
      · next g read =>
        cases h
        exact Expectation.isPlain_message_of_readAll read ends
      · cases h
  unfold ofFile at h
  split at h
  · cases h
    cases ends
  · cases h
    exact isPlain_unopenable plain
  · unfold ofFeed at h
    split at h
    · next made =>
      cases h
      exact lines _ made
    · split at h
      · cases h
        exact isPlain_unopenable plain
      · cases h

theorem isPlain_of_run {stack : Stack} {lead : Text} {formatted : Bool} {f : Fault}
    (fresh : t.hasRun = false) (plain : stack.upcoming.IsPlain)
    (h : (t.run stack lead formatted).result = .error f) (ends : f.endsTest = true) :
    f.message.IsPlain := by
  obtain ⟨course, _⟩ := stack.examine_follows t.job
  generalize (stack.examine t.job).result = x at course
  cases x with
  | error e =>
    obtain rfl : .compiler e = f := Except.error.inj ((run_of_fault fresh course ..).1.symm.trans h)
    cases course with
    | failed made _ fails => exact (plain.failures _ made _ fails).2
    | interrupted reached failed _ => exact (plain.failures _ reached _ failed).2
    | unmarked _ _ _ => cases ends
  | ok outcome =>
    cases outcome with
    | inconsistent i =>
      obtain rfl : .inconsistent i = f :=
        Except.error.inj ((run_of_inconsistent fresh course ..).1.symm.trans h)
      cases course with
      | refused _ _ => exact (by decide +kernel)
      | crashed reached failed _ _ =>
        exact Inconsistency.isPlain_reason (plain.failures _ reached _ failed).1
    | diagnostics ds =>
      have collects : stack.upcoming.Collects := by
        cases course with
        | collected collects => exact collects
      rw [(run_of_collects fresh collects lead formatted).2] at h
      split at h
      · cases h
      · split at h
        · cases h
        · cases h
          cases ends

end TestCase

end DiagCheck
