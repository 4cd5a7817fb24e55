import DiagCheck.Proofs.Compiler.Script

/-! An examination answer by answer: which calls are made behind the setup, which of them ends it
and what it comes to, each told by what the script answers. -/
namespace DiagCheck.Compiler

theorem Inconsistency.cause_eq_none_iff {i : Inconsistency} : i.cause = none ↔ i = .refused := by
  cases i <;> simp [cause]

theorem Inconsistency.cause_eq_some_iff {i : Inconsistency} {f : Failure} :
    i.cause = some f ↔ i = .failed f := by
  cases i <;> simp [cause]

namespace Script

/-- The call is answered by a failure that is not dealt with. Of the failures of code generation
only an interrupt is left to others. -/
def Escapes (s : Script) (f : Failure) (c : Call) : Prop :=
  s.Fails f c ∧ (c = .compile → f.reach = .interrupt)

/-- The findings are asked for and given, and each says whether it is secondary. The diagnostics
are then those of the primary findings, behind what is `known` already. -/
def Reports (s : Script) (made : List Call) (known ds : List Diagnostic) : Prop :=
  .findings ∈ made ∧ s.refusal = none ∧ (∀ g ∈ s.findings, g.secondary ≠ none) ∧
    ds = known ++ (s.findings.filter fun g => g.secondary == some false).map
      (Finding.toDiagnostic versionLine.length)

/-- Code generation was reached and lacked a feature. -/
def Lacks (s : Script) (made : List Call) (f : Failure) : Prop :=
  .compile ∈ made ∧ s.compile = .error f ∧ f.reach = .unimplemented

/-- The calls made behind the setup and what came of them, as the script answers. -/
structure Account (s : Script) (made : List Call) (x : Except Fault Outcome) : Prop where
  /-- No call is made twice or out of turn. -/
  order : made.Sublist [.parse, .analyze, .compile, .findings]
  parse : .parse ∈ made
  analyze : .analyze ∈ made ↔ s.parse = .ok true
  compile : .compile ∈ made ↔ .analyze ∈ made ∧ s.analyze = .ok true
  findings : .findings ∈ made ↔
    (∀ i, x ≠ .ok (.inconsistent i)) ∧ ∀ c ∈ made, c ≠ .findings → ∀ f, ¬s.Escapes f c
  /-- An escape ends the examination at its call. -/
  last : ∀ c ∈ made, ∀ f, s.Escapes f c → made.getLast? = some c
  escaped : ∀ f, x = .error (.failure f) ↔ ∃ c ∈ made, s.Escapes f c
  refused : (∃ i, x = .ok (.inconsistent i) ∧ i.cause = none) ↔
    .compile ∈ made ∧ s.compile = .ok false
  crashed : ∀ f, (∃ i, x = .ok (.inconsistent i) ∧ i.cause = some f) ↔
    .compile ∈ made ∧ s.compile = .error f ∧ f.reach ≠ .unimplemented ∧ f.reach ≠ .interrupt
  unmarked : x = .error .unmarkedFinding ↔
    .findings ∈ made ∧ s.refusal = none ∧ ∃ g ∈ s.findings, g.secondary = none
  lacking : ∀ f, s.Lacks made f → ∀ ds, x = .ok (.diagnostics ds) ↔ s.Reports made
    [⟨"UnimplementedFeatureError".toList, commentText f.text, absent, absent⟩] ds
  complete : (∀ f, ¬s.Lacks made f) → ∀ ds, x = .ok (.diagnostics ds) ↔ s.Reports made [] ds

variable {s : Script} {f : Failure} {c : Call}

theorem calls_sublist : s.calls.Sublist [.parse, .analyze, .compile, .findings] := by
  unfold calls
  apply List.Sublist.cons_cons
  rcases s.parse with f | _ | _
  · exact List.nil_sublist _
  · simp
  apply List.Sublist.cons_cons
  rcases s.analyze with f | _ | _
  · exact List.nil_sublist _
  · simp
  apply List.Sublist.cons_cons
  rcases s.compile with f | _ | _
  · dsimp only
    split <;> simp
  · simp
  · simp

theorem getLast?_of_asked (asked : .findings ∈ s.calls) : s.calls.getLast? = some .findings := by
  rcases findings_mem_calls.mp asked with parsed | ⟨parsed, analyzed⟩ | ⟨reached, compiled⟩
  · simp [calls, parsed]
  · simp [calls, parsed, analyzed]
  · obtain ⟨parsed, analyzed⟩ := compile_mem_calls.mp reached
    rcases compiled with compiled | ⟨g, compiled, lacks⟩
    · simp [calls, parsed, analyzed, compiled]
    · simp [calls, parsed, analyzed, compiled, lacks]

/-- Behind a call from which a failure escapes there is no other. -/
theorem getLast?_of_escapes (made : c ∈ s.calls) (escapes : s.Escapes f c) :
    s.calls.getLast? = some c := by
  obtain ⟨fails, interrupts⟩ := escapes
  cases c with
  | parse =>
    have stopped : s.parse = .error f := fails
    simp [calls, stopped]
  | analyze =>
    have parsed := analyze_mem_calls.mp made
    have stopped : s.analyze = .error f := fails
    simp [calls, parsed, stopped]
  | compile =>
    obtain ⟨parsed, analyzed⟩ := compile_mem_calls.mp made
    have stopped : s.compile = .error f := fails
    simp [calls, parsed, analyzed, stopped, interrupts rfl]
  | findings => exact getLast?_of_asked made
  | _ => exact fails.elim

theorem course_failure_iff :
    s.Course (.error (.failure f)) ↔ ∃ c ∈ s.calls, s.Escapes f c := by
  constructor
  · intro course
    cases course with
    | failed made other fails => exact ⟨_, made, fails, fun same => absurd same other⟩
    | interrupted reached failed interrupts => exact ⟨_, reached, failed, fun _ => interrupts⟩
  · rintro ⟨c, made, fails, interrupts⟩
    by_cases generating : c = .compile
    · subst generating
      exact .interrupted made fails (interrupts rfl)
    · exact .failed made generating fails

theorem course_refused_iff :
    s.Course (.ok (.inconsistent .refused)) ↔ .compile ∈ s.calls ∧ s.compile = .ok false := by
  constructor
  · intro course
    cases course with
    | refused reached refused => exact ⟨reached, refused⟩
  · rintro ⟨reached, refused⟩
    exact .refused reached refused

theorem course_crashed_iff :
    s.Course (.ok (.inconsistent (.failed f))) ↔
      .compile ∈ s.calls ∧ s.compile = .error f ∧ f.reach ≠ .unimplemented ∧
        f.reach ≠ .interrupt := by
  constructor
  · intro course
    cases course with
    | crashed reached failed lacks interrupts => exact ⟨reached, failed, lacks, interrupts⟩
  · rintro ⟨reached, failed, lacks, interrupts⟩
    exact .crashed reached failed lacks interrupts

theorem course_unmarked_iff :
    s.Course (.error .unmarkedFinding) ↔
      .findings ∈ s.calls ∧ s.refusal = none ∧ ∃ g ∈ s.findings, g.secondary = none := by
  constructor
  · intro course
    cases course with
    | unmarked asked given unmarked => exact ⟨asked, given, unmarked⟩
  · rintro ⟨asked, given, unmarked⟩
    exact .unmarked asked given unmarked

theorem course_diagnostics_iff {ds : List Diagnostic} :
    s.Course (.ok (.diagnostics ds)) ↔ s.Reports s.calls s.lacking ds := by
  constructor
  · intro course
    cases course with
    | collected collects => exact ⟨collects.asked, collects.given, collects.marked, rfl⟩
  · rintro ⟨asked, given, marked, rfl⟩
    exact .collected ⟨asked, given, marked⟩

/-- The findings are asked for unless the outcome is fatal or a failure has escaped before. -/
theorem findings_mem_calls_iff :
    .findings ∈ s.calls ↔ (∀ i, ¬s.Course (.ok (.inconsistent i))) ∧
      ∀ c ∈ s.calls, c ≠ .findings → ∀ f, ¬s.Escapes f c := by
  constructor
  · intro asked
    refine ⟨?_, ?_⟩
    · intro i course
      cases course with
      | refused reached refused => grind [findings_mem_calls, compile_mem_calls]
      | crashed reached failed lacks _ => grind [findings_mem_calls, compile_mem_calls]
    · intro c made other f escapes
      have last := (getLast?_of_escapes made escapes).symm.trans (getLast?_of_asked asked)
      exact other (Option.some.inj last)
  · rintro ⟨consistent, handled⟩
    rw [findings_mem_calls]
    -- Stage by stage: a failure would escape, `false` leads to the findings, and with `true` the
    -- next stage decides. Only code generation can also end in a fatal outcome.
    have parse : Call.parse ∈ s.calls := List.mem_cons_self ..
    rcases parsed : s.parse with f | _ | _
    · exact absurd ⟨parsed, nofun⟩ (handled .parse parse nofun f)
    · exact .inl rfl
    have analyze := analyze_mem_calls.mpr parsed
    rcases analyzed : s.analyze with f | _ | _
    · exact absurd ⟨analyzed, nofun⟩ (handled .analyze analyze nofun f)
    · exact .inr (.inl ⟨rfl, rfl⟩)
    have reached := compile_mem_calls.mpr ⟨parsed, analyzed⟩
    refine .inr (.inr ⟨reached, ?_⟩)
    rcases compiled : s.compile with f | _ | _
    · by_cases lacks : f.reach = .unimplemented
      · exact .inr ⟨f, rfl, lacks⟩
      · have interrupts : f.reach ≠ .interrupt := by
          intro interrupts
          exact handled .compile reached nofun f ⟨compiled, fun _ => interrupts⟩
        exact absurd (.crashed reached compiled lacks interrupts) (consistent (.failed f))
    · exact absurd (.refused reached compiled) (consistent .refused)
    · exact .inl rfl

theorem lacking_of_lacks (h : s.Lacks s.calls f) :
    s.lacking = [⟨"UnimplementedFeatureError".toList, commentText f.text, absent, absent⟩] := by
  obtain ⟨reached, failed, lacks⟩ := h
  simp only [lacking, if_pos reached, failed, if_pos lacks]
  rfl

theorem lacking_of_complete (h : ∀ f, ¬s.Lacks s.calls f) : s.lacking = [] := by
  unfold lacking
  split
  · next reached =>
    split
    · next f failed =>
      split
      · next lacks => exact absurd ⟨reached, failed, lacks⟩ (h f)
      · rfl
    · rfl
  · rfl

end Script

namespace Stack

theorem result_examine_iff (s : Stack) (job : Job) (x : Except Fault Outcome) :
    (s.examine job).result = x ↔ s.upcoming.Course x := by
  have own := (s.examine_follows job).1
  constructor
  · rintro rfl
    exact own
  · exact own.unique

/-- An examination sets the stack up for its job and then makes the calls that the answers of the
next script lead to; what it comes to is told by the answers too. -/
theorem examine_accounted (s : Stack) (job : Job) :
    ∃ made, (s.examine job).stack.calls = s.calls ++ [.reset,
        .setSources [([], versionLine ++ job.source)], .setEvmVersion job.evmVersion,
        .setErrorRecovery job.recovery,
        .setOptimiser (if job.optimise then .full else .minimal)] ++ made ∧
      s.upcoming.Account made (s.examine job).result := by
  refine ⟨s.upcoming.calls, by rw [(s.examine_follows job).2]; rfl, ?_⟩
  constructor
  · exact Script.calls_sublist
  · exact List.mem_cons_self ..
  · exact Script.analyze_mem_calls
  · rw [Script.compile_mem_calls, Script.analyze_mem_calls]
  · simp only [ne_eq, result_examine_iff]
    exact Script.findings_mem_calls_iff
  · intro c made f
    exact Script.getLast?_of_escapes made
  · intro f
    rw [result_examine_iff, Script.course_failure_iff]
  · simp only [Inconsistency.cause_eq_none_iff, exists_eq_right]
    rw [result_examine_iff, Script.course_refused_iff]
  · intro f
    simp only [Inconsistency.cause_eq_some_iff, exists_eq_right]
    rw [result_examine_iff, Script.course_crashed_iff]
  · rw [result_examine_iff, Script.course_unmarked_iff]
  · intro f lacks ds
    rw [result_examine_iff, Script.course_diagnostics_iff, Script.lacking_of_lacks lacks]
  · intro complete ds
    rw [result_examine_iff, Script.course_diagnostics_iff, Script.lacking_of_complete complete]

end Stack

end DiagCheck.Compiler
