import DiagCheck.Compiler.Examination

/-! What an examination comes to, told by the script of its stack. The calls, the failure that
ends them and the diagnostics are those of the script, whatever source is examined. -/
namespace DiagCheck.Compiler

namespace Script

/-- The calls that follow the setup. Findings are asked for unless code generation was reached
and neither went through nor lacked a feature. -/
def calls (s : Script) : List Call :=
  .parse :: match s.parse with
    | .error _ => []
    | .ok false => [.findings]
    | .ok true => .analyze :: match s.analyze with
      | .error _ => []
      | .ok false => [.findings]
      | .ok true => .compile :: match s.compile with
        | .ok true => [.findings]
        | .ok false => []
        | .error f => if f.reach = .unimplemented then [.findings] else []

/-- The call is answered by the failure. -/
def Fails (s : Script) (f : Failure) : Call → Prop
  | .parse => s.parse = .error f
  | .analyze => s.analyze = .error f
  | .compile => s.compile = .error f
  | .findings => s.refusal = some f
  | _ => False

/-- The diagnostic for a feature that code generation lacks. -/
def lacking (s : Script) : List Diagnostic :=
  if Call.compile ∈ s.calls then match s.compile with
    | .error f =>
      if f.reach = .unimplemented then [Stack.unimplementedDiagnostic f.text] else []
    | .ok _ => []
  else []

/-- The diagnostics of the findings that stand on their own, behind a lacking feature. -/
def diagnostics (s : Script) : List Diagnostic :=
  s.lacking ++ (s.findings.filter fun f => f.secondary == some false).map
    (Finding.toDiagnostic versionLine.length)

/-- The findings are asked for and given, and each says whether it is secondary. -/
structure Collects (s : Script) : Prop where
  asked : .findings ∈ s.calls
  given : s.refusal = none
  marked : ∀ g ∈ s.findings, g.secondary ≠ none

instance (s : Script) : Decidable s.Collects :=
  decidable_of_iff (.findings ∈ s.calls ∧ s.refusal = none ∧ ∀ g ∈ s.findings, g.secondary ≠ none)
    ⟨fun ⟨a, b, c⟩ => ⟨a, b, c⟩, fun ⟨a, b, c⟩ => ⟨a, b, c⟩⟩

/-- What an examination comes to. -/
inductive Course (s : Script) : Except Fault Outcome → Prop where
  | failed : c ∈ s.calls → c ≠ .compile → s.Fails f c → Course s (.error (.failure f))
  | refused : .compile ∈ s.calls → s.compile = .ok false →
      Course s (.ok (.inconsistent .refused))
  | crashed : .compile ∈ s.calls → s.compile = .error f → f.reach ≠ .unimplemented →
      f.reach ≠ .interrupt → Course s (.ok (.inconsistent (.failed f)))
  | interrupted : .compile ∈ s.calls → s.compile = .error f → f.reach = .interrupt →
      Course s (.error (.failure f))
  | unmarked : .findings ∈ s.calls → s.refusal = none →
      (∃ g ∈ s.findings, g.secondary = none) → Course s (.error .unmarkedFinding)
  | collected : s.Collects → Course s (.ok (.diagnostics s.diagnostics))

/-- The offsets of the findings have numerals that may be written. -/
def Writable (s : Script) : Prop :=
  ∀ f ∈ s.findings, ∀ r ∈ f.span, Numeral.Fits r.1 ∧ Numeral.Fits r.2

theorem analyze_mem_calls {s : Script} : .analyze ∈ s.calls ↔ s.parse = .ok true := by
  unfold calls
  rcases s.parse with f | _ | _
  · simp
  · simp
  · rcases s.analyze with f | _ | _ <;> simp

theorem compile_mem_calls {s : Script} :
    .compile ∈ s.calls ↔ s.parse = .ok true ∧ s.analyze = .ok true := by
  unfold calls
  rcases s.parse with f | _ | _
  · simp
  · simp
  · rcases s.analyze with f | _ | _ <;> simp

/-- Findings are asked for unless a call failed or the stack contradicted itself. -/
theorem findings_mem_calls {s : Script} :
    .findings ∈ s.calls ↔ s.parse = .ok false ∨ (s.parse = .ok true ∧ s.analyze = .ok false) ∨
      (.compile ∈ s.calls ∧
        (s.compile = .ok true ∨ ∃ f, s.compile = .error f ∧ f.reach = .unimplemented)) := by
  rw [compile_mem_calls]
  unfold calls
  rcases s.parse with f | _ | _
  · simp
  · simp
  · rcases s.analyze with f | _ | _
    · simp
    · simp
    · rcases s.compile with f | _ | _ <;> simp

/-- A failure of a call other than code generation, call by call. -/
theorem fails_cases {s : Script} {c : Call} {f : Failure} (made : c ∈ s.calls)
    (other : c ≠ .compile) (fails : s.Fails f c) :
    s.parse = .error f ∨ (s.parse = .ok true ∧ s.analyze = .error f) ∨
      (.findings ∈ s.calls ∧ s.refusal = some f) := by
  cases c with
  | parse => exact .inl fails
  | analyze => exact .inr (.inl ⟨analyze_mem_calls.mp made, fails⟩)
  | findings => exact .inr (.inr ⟨made, fails⟩)
  | compile => exact absurd rfl other
  | _ => exact fails.elim

theorem fits_shift {length : Nat} {offset : Int} (fits : Numeral.Fits offset)
    (known : 0 ≤ shift length offset) : Numeral.Fits (shift length offset) := by
  rw [shift_of_le (shift_nonneg_iff.mp known)]
  have behind := shift_nonneg_iff.mp known
  have bound := (Numeral.length_ofNat_le_iff (by decide)).mp fits
  have closer : (offset - length).natAbs ≤ offset.natAbs := by omega
  exact (Numeral.length_ofNat_le_iff (by decide)).mpr (Nat.lt_of_le_of_lt closer bound)

theorem writable_toDiagnostic {length : Nat} {f : Finding}
    (fits : ∀ r ∈ f.span, Numeral.Fits r.1 ∧ Numeral.Fits r.2) :
    (f.toDiagnostic length).Writable := by
  unfold Finding.toDiagnostic
  cases span : f.span with
  | none => exact Diagnostic.writable_of_absent rfl rfl
  | some r => exact ⟨fits_shift (fits r span).1, fits_shift (fits r span).2⟩

theorem writable_diagnostics {s : Script} (h : s.Writable) : ∀ d ∈ s.diagnostics, d.Writable := by
  intro d hd
  rcases List.mem_append.mp hd with hd | hd
  · unfold lacking at hd
    split at hd
    · split at hd
      · split at hd
        · obtain rfl := List.mem_singleton.mp hd
          exact Diagnostic.writable_of_absent rfl rfl
        · cases hd
      · cases hd
    · cases hd
  · obtain ⟨f, hf, rfl⟩ := List.mem_map.mp hd
    exact writable_toDiagnostic (h f (List.mem_filter.mp hf).1)

/-- A script has one course. -/
theorem Course.unique {s : Script} {x y : Except Fault Outcome} (h : s.Course x)
    (k : s.Course y) : x = y := by
  -- Two constructors never go together: their guards tell different answers of the script.
  cases h <;> cases k <;>
    grind [→ fails_cases, findings_mem_calls, compile_mem_calls, Collects]

end Script

theorem Finding.primary?_eq_none_iff {fs : List Finding} :
    primary? fs = none ↔ ∃ g ∈ fs, g.secondary = none := by
  simp [primary?]

theorem Finding.primary?_of_marked {fs : List Finding} (h : ∀ g ∈ fs, g.secondary ≠ none) :
    primary? fs = some (fs.filter fun f => f.secondary == some false) := by
  have marked : fs.all (fun f => f.secondary.isSome) = true := by
    simpa [Option.isSome_iff_ne_none] using h
  rw [primary?, if_pos marked]

namespace Stack

theorem course_collect {s : Stack} (asked : .findings ∈ s.current.calls) :
    s.current.Course (s.collect s.current.lacking).2 := by
  unfold collect findings
  cases refusal : s.current.refusal with
  | some f => exact .failed asked (by simp) refusal
  | none =>
    by_cases marked : ∀ g ∈ s.current.findings, g.secondary ≠ none
    · simp only [Finding.primary?_of_marked marked]
      exact .collected ⟨asked, refusal, marked⟩
    · simp only [Classical.not_forall, Classical.not_not] at marked
      obtain ⟨g, hg, unmarked⟩ := marked
      simp only [Finding.primary?_eq_none_iff.mpr ⟨g, hg, unmarked⟩]
      exact .unmarked asked refusal ⟨g, hg, unmarked⟩

theorem stack_collect (s : Stack) (known : List Diagnostic) :
    (s.collect known).1 = s.record .findings := by
  unfold collect findings
  split
  · next h => rw [← (Prod.mk.inj h).1]
  · next h =>
    split <;> rw [← (Prod.mk.inj h).1]

/-- The findings are the last thing asked for, when everything else has been. -/
theorem collect_spec {p s : Stack} {known : List Diagnostic} (before : List Call)
    (calls : p.current.calls = before ++ [.findings])
    (state : s = { p with calls := p.calls ++ before }) (lacking : p.current.lacking = known) :
    p.current.Course (s.collect known).2 ∧
    (s.collect known).1 = { p with calls := p.calls ++ p.current.calls } := by
  subst state lacking
  have asked : .findings ∈ p.current.calls := by simp [calls]
  refine ⟨course_collect (s := { p with calls := p.calls ++ before }) asked, ?_⟩
  rw [stack_collect]
  simp [record, calls]

/-- An examination takes the course of the script and makes its calls. -/
def Follows (s : Stack) (job : Job) : Prop :=
  s.upcoming.Course (s.examine job).result ∧
  (s.examine job).stack =
    { s.prepare job with calls := s.calls ++ setup job ++ s.upcoming.calls }

/-- The part of `examine_follows` in which code generation is reached. -/
theorem examine_follows_of_accepted (s : Stack) (job : Job) (parsed : s.upcoming.parse = .ok true)
    (analyzed : s.upcoming.analyze = .ok true) : s.Follows job := by
  have current : (s.prepare job).current = s.upcoming := rfl
  rw [Follows, ← calls_prepare]
  rw [← current] at parsed analyzed ⊢
  unfold examine advance
  generalize s.prepare job = p at parsed analyzed ⊢
  simp only [parse, analyze, compile, parsed, show (p.record .parse).current = p.current from rfl,
    analyzed, show ((p.record .parse).record .analyze).current = p.current from rfl]
  have reached : .compile ∈ p.current.calls := Script.compile_mem_calls.mpr ⟨parsed, analyzed⟩
  cases compiled : p.current.compile with
  | ok generated =>
    cases generated with
    | true =>
      have calls : p.current.calls = [.parse, .analyze, .compile, .findings] := by
        simp [Script.calls, parsed, analyzed, compiled]
      have lacking : p.current.lacking = [] := by simp [Script.lacking, compiled]
      exact collect_spec [.parse, .analyze, .compile] calls (by simp [record]) lacking
    | false =>
      have calls : p.current.calls = [.parse, .analyze, .compile] := by
        simp [Script.calls, parsed, analyzed, compiled]
      have course := Script.Course.refused reached compiled
      exact ⟨course, by simp [progressOf, record, calls]⟩
  | error f =>
    by_cases lacks : f.reach = .unimplemented
    · have calls : p.current.calls = [.parse, .analyze, .compile, .findings] := by
        simp [Script.calls, parsed, analyzed, compiled, lacks]
      have lacking : p.current.lacking = [unimplementedDiagnostic f.text] := by
        simp [Script.lacking, reached, compiled, lacks]
      simp only [progressOf, lacks]
      exact collect_spec [.parse, .analyze, .compile] calls (by simp [record]) lacking
    · have calls : p.current.calls = [.parse, .analyze, .compile] := by
        simp [Script.calls, parsed, analyzed, compiled, lacks]
      by_cases interrupts : f.reach = .interrupt
      · have course := Script.Course.interrupted reached compiled interrupts
        simp only [progressOf, interrupts]
        exact ⟨course, by simp [record, calls]⟩
      · have course := Script.Course.crashed reached compiled lacks interrupts
        have inconsistent : progressOf (.error f) = .ok (.inconsistent (.failed f)) := by
          cases reach : f.reach <;> simp_all [progressOf]
        simp only [inconsistent]
        exact ⟨course, by simp [record, calls]⟩

theorem examine_follows (s : Stack) (job : Job) : s.Follows job := by
  by_cases accepted : s.upcoming.parse = .ok true ∧ s.upcoming.analyze = .ok true
  · exact examine_follows_of_accepted s job accepted.1 accepted.2
  have current : (s.prepare job).current = s.upcoming := rfl
  rw [Follows, ← calls_prepare]
  rw [← current] at accepted ⊢
  unfold examine advance
  generalize s.prepare job = p at accepted ⊢
  simp only [parse, analyze]
  cases parsed : p.current.parse with
  | error f =>
    have calls : p.current.calls = [.parse] := by simp [Script.calls, parsed]
    have course : p.current.Course (.error (.failure f)) :=
      .failed (c := .parse) (by simp [calls]) (by decide) parsed
    exact ⟨course, by simp [record, calls]⟩
  | ok b =>
    cases b with
    | false =>
      have calls : p.current.calls = [.parse, .findings] := by simp [Script.calls, parsed]
      exact collect_spec [.parse] calls rfl (by simp [Script.lacking, calls])
    | true =>
      simp only [show (p.record .parse).current = p.current from rfl]
      cases analyzed : p.current.analyze with
      | error f =>
        have calls : p.current.calls = [.parse, .analyze] := by
          simp [Script.calls, parsed, analyzed]
        have course : p.current.Course (.error (.failure f)) :=
          .failed (c := .analyze) (by simp [calls]) (by decide) analyzed
        exact ⟨course, by simp [record, calls]⟩
      | ok b =>
        cases b with
        | false =>
          have calls : p.current.calls = [.parse, .analyze, .findings] := by
            simp [Script.calls, parsed, analyzed]
          exact collect_spec [.parse, .analyze] calls (by simp [record])
            (by simp [Script.lacking, calls])
        | true => exact absurd ⟨parsed, analyzed⟩ accepted

end Stack

end DiagCheck.Compiler
