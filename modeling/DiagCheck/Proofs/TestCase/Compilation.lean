import DiagCheck.Proofs.Sections.Parts
import DiagCheck.Proofs.TestCase.Verdict

/-! What of a test file is compiled. The stack gets the lines of the source and is told whether the
key for full optimisation is there; no other setting and no annotation has a say in it. -/
namespace DiagCheck.TestCase

open Compiler

/-- Between the marks a line gives the key for full optimisation some value. -/
def AsksOptimisation (s : Text) : Prop :=
  ∃ l ∈ Sections.settingsPart (Text.lines s), Sections.Gives optimiseKey l

/-- The lines in front of the first mark, each with one newline behind it. -/
def sourceOf (s : Text) : Text :=
  ((Sections.sourcePart (Text.lines s)).map Text.dropLineEnd).flatMap (· ++ ['\n'])

instance (s : Text) : Decidable (AsksOptimisation s) :=
  inferInstanceAs (Decidable (∃ l ∈ _, Sections.Gives optimiseKey l))

/-- The job that is made of a text. -/
def jobOf (s : Text) (o : Options) : Job where
  source := sourceOf s
  evmVersion := o.evmVersion
  optimise := AsksOptimisation s
  recovery := o.recovery

variable {name name' s s' : Text} {o : Options} {t t' : TestCase} {stack : Stack}

theorem job_of_text (made : ofText name o s = .ok t) : t.job = jobOf s o := by
  obtain ⟨r, es, sections, _, rfl⟩ := ofText_eq_ok_iff.mp made
  obtain ⟨source, _, given⟩ := Sections.ofLines_parts sections
  have asked : (r.settings.get? optimiseKey).isSome = true ↔ AsksOptimisation s := by
    rw [given optimiseKey]
    constructor
    · rintro ⟨l, inside, _, gives⟩
      exact ⟨l, inside, gives⟩
    · rintro ⟨l, inside, gives⟩
      refine ⟨l, inside, ?_, gives⟩
      by_contra opens
      exact Sections.not_gives_of_opensSettings (Bool.of_not_eq_false opens) (by decide)
        (by decide) gives
  have optimise : (r.settings.get? optimiseKey).isSome = decide (AsksOptimisation s) := by
    rw [Bool.eq_iff_iff, asked, decide_eq_true_eq]
  simp [job, jobOf, sourceOf, source, optimise, List.flatMap_map]

theorem jobOf_congr (source : sourceOf s = sourceOf s')
    (key : AsksOptimisation s ↔ AsksOptimisation s') (o : Options) : jobOf s o = jobOf s' o := by
  simp only [jobOf, source, key]

theorem expectations_of_text (made : ofText name o s = .ok t) {ds : List Diagnostic} :
    t.expectations = ds ↔
      Expectation.readAll (Sections.annotationsPart (Text.lines s)) = .ok ds := by
  obtain ⟨r, es, sections, read, rfl⟩ := ofText_eq_ok_iff.mp made
  rw [← (Sections.ofLines_parts sections).2.1, read, Except.ok.injEq]

theorem hasRun_of_text (made : ofText name o s = .ok t) : t.hasRun = false := by
  obtain ⟨_, _, _, _, rfl⟩ := ofText_eq_ok_iff.mp made
  rfl

/-- A run whose examination gives diagnostics compares them with what is expected. -/
theorem run_of_diagnostics {ds : List Diagnostic} (fresh : t.hasRun = false)
    (given : (stack.examine t.job).result = .ok (.diagnostics ds)) (lead : Text)
    (formatted : Bool) :
    (t.run stack lead formatted).test.obtained = ds ∧
    ((t.run stack lead formatted).result = .ok true ↔ t.expectations = ds) := by
  have course := (stack.examine_follows t.job).1
  rw [given] at course
  cases course with
  | collected collects =>
    refine ⟨by rw [(run_of_collects fresh collects lead formatted).1], ?_⟩
    rw [run_eq_true_iff fresh]
    exact and_iff_right collects

/-- Any other examination ends all runs of its job in one way. -/
theorem run_of_no_diagnostics {job : Job}
    (none : ∀ ds, (stack.examine job).result ≠ .ok (.diagnostics ds)) :
    ∃ f, ∀ t : TestCase, t.hasRun = false → t.job = job → ∀ lead formatted,
      (t.run stack lead formatted).result = .error f := by
  have course := (stack.examine_follows job).1
  generalize (stack.examine job).result = x at none course
  rcases x with f | i | ds
  · exact ⟨_, fun t fresh _ lead formatted => (run_of_fault fresh course lead formatted).1⟩
  · exact absurd rfl (none i)
  · exact ⟨_, fun t fresh _ lead formatted => (run_of_inconsistent fresh course lead formatted).1⟩

/-- Texts with the same source, both with or both without the key, are compiled alike on a stack,
whatever else stands in them. Their runs obtain the same diagnostics, or end in the same fault. A
run passes exactly if the annotations of its own text say what both obtained. -/
theorem run_of_same_source (made : ofText name o s = .ok t) (made' : ofText name' o s' = .ok t')
    (source : (Sections.sourcePart (Text.lines s)).map Text.dropLineEnd =
      (Sections.sourcePart (Text.lines s')).map Text.dropLineEnd)
    (key : AsksOptimisation s ↔ AsksOptimisation s') (stack : Stack) (lead lead' : Text)
    (formatted formatted' : Bool) :
    let r := t.run stack lead formatted
    let r' := t'.run stack lead' formatted'
    let text := versionLine ++ sourceOf s
    let profile := if AsksOptimisation s then Optimiser.full else .minimal
    versionLine.length = 23 ∧
    r.stack = {
      queue := stack.remaining, current := stack.upcoming
      sources := some [([], text)], evmVersion := some o.evmVersion, recovery := some o.recovery
      optimiser := some profile
      calls := stack.calls ++ [.reset, .setSources [([], text)], .setEvmVersion o.evmVersion,
        .setErrorRecovery o.recovery, .setOptimiser profile] ++ stack.upcoming.calls } ∧
    r'.stack = r.stack ∧
    ((∃ ds, (stack.examine (jobOf s o)).result = .ok (.diagnostics ds) ∧
        r.test.obtained = ds ∧ r'.test.obtained = ds ∧
        (r.result = .ok true ↔
          Expectation.readAll (Sections.annotationsPart (Text.lines s)) = .ok ds) ∧
        (r'.result = .ok true ↔
          Expectation.readAll (Sections.annotationsPart (Text.lines s')) = .ok ds)) ∨
      (∀ ds, (stack.examine (jobOf s o)).result ≠ .ok (.diagnostics ds)) ∧
        ∃ f, r.result = .error f ∧ r'.result = .error f) := by
  intro r r' text profile
  have job := job_of_text made
  have job' : t'.job = jobOf s o := by
    rw [job_of_text made', jobOf_congr (congrArg (List.flatMap (· ++ ['\n'])) source) key]
  have fresh := hasRun_of_text made
  have fresh' := hasRun_of_text made'
  have left : r.stack = (stack.examine (jobOf s o)).stack := by rw [← job, ← stack_run fresh]
  have left' : r'.stack = (stack.examine (jobOf s o)).stack := by rw [← job', ← stack_run fresh']
  refine ⟨versionLine_length, ?_, left'.trans left.symm, ?_⟩
  · have profile_eq : (if (jobOf s o).optimise then Optimiser.full else .minimal) = profile := by
      simp [jobOf, profile]
    rw [left, (stack.examine_follows _).2, Stack.prepare_eq, Stack.setup, profile_eq]
    rfl
  · by_cases compared : ∃ ds, (stack.examine (jobOf s o)).result = .ok (.diagnostics ds)
    · obtain ⟨ds, given⟩ := compared
      obtain ⟨obtained, passed⟩ := run_of_diagnostics fresh (job.symm ▸ given) lead formatted
      obtain ⟨obtained', passed'⟩ := run_of_diagnostics fresh' (job'.symm ▸ given) lead' formatted'
      rw [expectations_of_text made] at passed
      rw [expectations_of_text made'] at passed'
      exact .inl ⟨ds, given, obtained, obtained', passed, passed'⟩
    · have none : ∀ ds, (stack.examine (jobOf s o)).result ≠ .ok (.diagnostics ds) :=
        fun ds given => compared ⟨ds, given⟩
      obtain ⟨f, ended⟩ := run_of_no_diagnostics none
      exact .inr ⟨none, f, ended t fresh job lead formatted, ended t' fresh' job' lead' formatted'⟩

/-- One text has carriage returns and says twice, in its own way, that it is to be optimised; only
the other one expects what is found. -/
theorem run_of_same_source_optimised :
    let s := ("contract C {}\r\n\r\n// ====\r\n// optimize-yul : no\n" ++
      "//  optimize-yul:\n// ----\n").toList
    let s' := ("contract C {}\n\n// ==== x\n// lang: yul\n// optimize-yul: true\n// ----\n" ++
      "// TypeError: (9-10): bad\n").toList
    let source := "contract C {}\n\n".toList
    let t : TestCase := {
      name := "a".toList, options := {}, source, settings := []
      understood := [(optimiseKey, "true".toList)], optimise := true, expectations := [] }
    let t' : TestCase := {
      name := "b".toList, options := {}, source, settings := [("lang".toList, "yul".toList)]
      understood := [(optimiseKey, "true".toList)], optimise := true, expectations := [{
        kind := "TypeError".toList, message := "bad".toList, start := 9, stop := 10 }] }
    let found : Finding := {
      kind := "TypeError".toList, comment := some "bad".toList, span := some (32, 33),
      secondary := some false }
    let stack : Stack := { queue := [{ findings := [found] }] }
    ofText t.name {} s = .ok t ∧ ofText t'.name {} s' = .ok t' ∧
      (t.run stack [] false).stack = (t'.run stack [] true).stack ∧
      (t.run stack [] false).stack.optimiser = some .full ∧
      (t.run stack [] false).result ≠ .ok true ∧ (t'.run stack [] true).result = .ok true := by
  intro s s' source t t' found stack
  have made : ofText t.name {} s = .ok t := by decide +kernel
  have made' : ofText t'.name {} s' = .ok t' := by decide +kernel
  have part : (Sections.sourcePart (Text.lines s)).map Text.dropLineEnd =
      (Sections.sourcePart (Text.lines s')).map Text.dropLineEnd := by decide +kernel
  have asks : AsksOptimisation s := by decide +kernel
  have asks' : AsksOptimisation s' := by decide +kernel
  obtain ⟨_, left, same, compared⟩ :=
    run_of_same_source made made' part (iff_of_true asks asks') stack [] [] false true
  have obtained : (stack.examine (jobOf s {})).result = .ok (.diagnostics t'.expectations) := by
    decide +kernel
  refine ⟨made, made', same.symm, by rw [left, if_pos asks], ?_⟩
  rcases compared with ⟨ds, given, _, _, passed, passed'⟩ | ⟨none, _⟩
  · rw [obtained] at given
    cases given
    rw [ne_eq, passed, passed']
    decide +kernel
  · exact absurd obtained (none _)

end DiagCheck.TestCase
