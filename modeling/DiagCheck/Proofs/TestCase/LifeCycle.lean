import DiagCheck.Proofs.TestCase.Verdict

/-! The life of a test. Whatever is done with a test in whatever order, only its first run changes
it, and only in what it has obtained; every further run is refused and leaves no trace. -/
namespace DiagCheck.TestCase

open Compiler

/-- What can be done with a test. -/
inductive Operation where
  | run (stack : Stack) (lead : Text) (formatted : Bool)
  | validate
  | printSource (lead : Text) (formatted : Bool)
  | printDifference (lead : Text) (formatted : Bool)
  | printAnnotations (lead : Text)
  | printSettings (lead : Text)
  /-- The updated file is written over the one that the path leads to, or as a new one. -/
  | update (d : Directory) (path : Text)

/-- What comes of an operation: the test as it is afterwards, and all that can be seen. -/
structure Response where
  test : TestCase
  /-- The stack of a run, as the run leaves it. -/
  stack : Option Stack := none
  log : List LogLine := []
  text : Text := []
  directory : Option Directory := none
  /-- Whether the two lists agree, where this is asked for. -/
  result : Except Fault (Option Bool) := .ok none

def Response.ofOutput (t : TestCase) (x : Output α) (answer : α → Option Bool) : Response :=
  { test := t, text := x.text, result := (x.result.map answer).mapError .report }

def perform (t : TestCase) : Operation → Response
  | .run stack lead formatted =>
    let r := t.run stack lead formatted
    { test := r.test, stack := some r.stack, log := r.log, text := r.report
      result := r.result.map some }
  | .validate => { test := t, result := t.validate.map fun _ => none }
  | .printSource lead formatted => .ofOutput t (t.printSource lead formatted) fun _ => none
  | .printDifference lead formatted => .ofOutput t (t.printDifference lead formatted) some
  | .printAnnotations lead => .ofOutput t (t.printAnnotations lead) fun _ => none
  | .printSettings lead => { test := t, text := t.settingsText lead }
  | .update d path =>
    { Response.ofOutput t t.printUpdated fun _ => none with
      directory := some (d.write path (Utf8.encode t.printUpdated.text)) }

/-- The test after some operations, whether or not they end in faults. -/
def afterAll (t : TestCase) (os : List Operation) : TestCase :=
  os.foldl (fun t o => (t.perform o).test) t

/-- The stack that the test is run on. -/
def Operation.stack? : Operation → Option Stack
  | .run stack _ _ => some stack
  | _ => none

/-- A test from a text, from a file, or from lines that are given one by one. -/
inductive Made (t : TestCase) : Prop where
  | built : t.Built → Made t
  | lines (name : Text) (options : Options) (ls : List Text) : ofLines name options ls = .ok t →
      Made t

variable {t : TestCase} {os : List Operation} {stack : Stack}

theorem Made.exists_sections (made : t.Made) :
    ∃ name options r, ofSections name options r = .ok t := by
  have lines : ∃ name options ls, ofLines name options ls = .ok t := by
    cases made with
    | built built =>
      obtain ⟨name, options, s, h⟩ := built.exists_text
      exact ⟨name, options, Text.lines s, h⟩
    | lines name options ls h => exact ⟨name, options, ls, h⟩
  obtain ⟨name, options, ls, h⟩ := lines
  unfold ofLines at h
  split at h
  · cases h
  · next r _ => exact ⟨name, options, r, h⟩

theorem Made.fresh (made : t.Made) : t.obtained = [] ∧ t.hasRun = false := by
  obtain ⟨name, options, r, h⟩ := made.exists_sections
  unfold ofSections at h
  split at h
  · cases h
  · cases h
    exact ⟨rfl, rfl⟩

theorem Made.optimiseKey_not_mem (made : t.Made) : optimiseKey ∉ t.settings.keys := by
  obtain ⟨name, options, r, h⟩ := made.exists_sections
  exact optimiseKey_not_mem_keys h

theorem Made.understood (made : t.Made) :
    t.understood = if t.optimise then [(optimiseKey, "true".toList)] else [] := by
  obtain ⟨name, options, r, h⟩ := made.exists_sections
  exact understood_of_ofSections h

/-- The diagnostics of an examination, and none if it has no such outcome. -/
def diagnosticsOf : Except Compiler.Fault Outcome → List Diagnostic
  | .ok (.diagnostics ds) => ds
  | _ => []

theorem diagnosticsOf_eq_nil {x : Except Compiler.Fault Outcome}
    (none : ∀ ds, x ≠ .ok (.diagnostics ds)) : diagnosticsOf x = [] := by
  unfold diagnosticsOf
  split
  · next ds => exact absurd rfl (none ds)
  · rfl

/-- Only a run changes a test. -/
theorem test_perform {o : Operation} (other : o.stack? = none) : (t.perform o).test = t := by
  cases o with
  | run stack lead formatted => cases other
  | _ => rfl

/-- A second run is refused. It leaves its stack alone and writes and logs nothing. -/
theorem perform_run_of_hasRun (ran : t.hasRun = true) (lead : Text) (formatted : Bool) :
    t.perform (.run stack lead formatted) =
      { test := t, stack := some stack, result := .error (.alreadyRun t.name) } := by
  simp only [perform, run_of_hasRun ran, Except.map]

/-- The first run keeps what its examination gives, whatever becomes of its report. -/
theorem test_perform_run (obtained : t.obtained = []) (fresh : t.hasRun = false) (lead : Text)
    (formatted : Bool) :
    (t.perform (.run stack lead formatted)).test =
      { t with obtained := diagnosticsOf (stack.examine t.job).result, hasRun := true } := by
  simp only [perform, run, fresh, Bool.false_eq_true, if_false, settle]
  split
  · next h => simp [h, diagnosticsOf, obtained]
  · next h => simp [h, diagnosticsOf, obtained]
  · next h => simp [h, diagnosticsOf, conclude]

theorem afterAll_of_hasRun (ran : t.hasRun = true) (os : List Operation) : t.afterAll os = t := by
  induction os with
  | nil => rfl
  | cons o os ih =>
    have step : (t.perform o).test = t := by
      cases o with
      | run stack lead formatted => rw [perform_run_of_hasRun ran]
      | _ => rfl
    rw [afterAll, List.foldl_cons, step]
    exact ih

/-- What operations make of a test that has not been run: its first run decides. -/
theorem afterAll_eq (obtained : t.obtained = []) (fresh : t.hasRun = false)
    (os : List Operation) :
    t.afterAll os = match os.findSome? Operation.stack? with
      | none => t
      | some stack =>
        { t with obtained := diagnosticsOf (stack.examine t.job).result, hasRun := true } := by
  induction os with
  | nil => rfl
  | cons o os ih =>
    cases first : o.stack? with
    | none =>
      rw [afterAll, List.foldl_cons, test_perform first, List.findSome?_cons, first]
      exact ih
    | some stack =>
      rw [List.findSome?_cons, first]
      cases o with
      | run stack lead formatted =>
        cases first
        rw [afterAll, List.foldl_cons, test_perform_run obtained fresh]
        exact afterAll_of_hasRun rfl os
      | _ => cases first

/-- After any operations a test is what it was when it was made, but for what its first run
obtained: the diagnostics of the examination, if there were any. From that run on each further
one is refused and changes nothing. -/
theorem first_run_decides (made : t.Made) (os : List Operation) :
    let u := t.afterAll os
    (u.name = t.name ∧ u.options = t.options ∧ u.source = t.source ∧
      u.expectations = t.expectations ∧ u.settings = t.settings ∧ u.understood = t.understood ∧
      u.optimise = t.optimise) ∧
    optimiseKey ∉ u.settings.keys ∧
    (u.optimise = true ↔ u.understood = [(optimiseKey, "true".toList)]) ∧
    (u.optimise = false ↔ u.understood = []) ∧
    match os.findSome? Operation.stack? with
    | none => u.obtained = []
    | some first =>
      (∀ ds, (first.examine t.job).result = .ok (.diagnostics ds) → u.obtained = ds) ∧
      ((∀ ds, (first.examine t.job).result ≠ .ok (.diagnostics ds)) → u.obtained = []) ∧
      ∀ stack lead formatted, u.perform (.run stack lead formatted) =
        { test := u, stack := some stack, result := .error (.alreadyRun t.name) } := by
  intro u
  obtain ⟨obtained, fresh⟩ := made.fresh
  have left : u = _ := afterAll_eq obtained fresh os
  have kept : u.name = t.name ∧ u.options = t.options ∧ u.source = t.source ∧
      u.expectations = t.expectations ∧ u.settings = t.settings ∧ u.understood = t.understood ∧
      u.optimise = t.optimise := by
    rw [left]
    split
    · exact ⟨rfl, rfl, rfl, rfl, rfl, rfl, rfl⟩
    · exact ⟨rfl, rfl, rfl, rfl, rfl, rfl, rfl⟩
  have understood : u.understood = if u.optimise then [(optimiseKey, "true".toList)] else [] := by
    rw [kept.2.2.2.2.2.1, kept.2.2.2.2.2.2]
    exact made.understood
  refine ⟨kept, ?_, ?_, ?_, ?_⟩
  · rw [kept.2.2.2.2.1]
    exact made.optimiseKey_not_mem
  · cases asked : u.optimise <;> simp [understood, asked]
  · cases asked : u.optimise <;> simp [understood, asked]
  · cases ran : os.findSome? Operation.stack? with
    | none =>
      rw [left, ran]
      exact obtained
    | some first =>
      simp only [ran] at left
      refine ⟨?_, ?_, ?_⟩
      · intro ds given
        rw [left, given]
        rfl
      · intro none
        rw [left]
        exact diagnosticsOf_eq_nil none
      · intro stack lead formatted
        rw [perform_run_of_hasRun (by rw [left]), kept.1]

/-- The first run finds something whose offset is too long to be reported. What was found stays
through everything that is done with the test after that. -/
theorem first_run_decides_unreported :
    let t : TestCase := {
      name := "<test>".toList, options := {}, source := "a\n".toList
      settings := [("lang".toList, [])], understood := [(optimiseKey, "true".toList)]
      optimise := true, expectations := [] }
    let found : Finding := {
      kind := "Warning".toList, comment := none, span := some (Nat.pow 10 4300 + 23, 0)
      secondary := some false }
    let e : Diagnostic := {
      kind := "Warning".toList, message := "NONE".toList, start := Nat.pow 10 4300 }
    let stack : Stack := { queue := [{ findings := [found] }] }
    let other : Stack := { queue := [{ parse := .ok false }] }
    let os : List Operation := [
      .validate, .run stack [] true, .printAnnotations [], .run other [] false,
      .update [] "a.sol".toList]
    t.Made ∧ (t.perform (.run stack [] true)).result = .error (.report .offsetTooLong) ∧
      (t.afterAll os).obtained = [e] ∧ (t.afterAll os).understood.length = 1 ∧
      ((t.afterAll os).perform (.run other [] false)).stack = some other := by
  intro t found e stack other os
  have made : t.Made := by
    refine .lines "<test>".toList {} [
      "a\r\n".toList, "// ====".toList, "// lang:".toList, "// optimize-yul: ".toList] ?_
    decide +kernel
  have given : (stack.examine t.job).result = .ok (.diagnostics [e]) := by decide +kernel
  have unreported : (t.perform (.run stack [] true)).result =
      .error (.report .offsetTooLong) := by decide +kernel
  obtain ⟨_, _, asked, _, obtained, _, refused⟩ := first_run_decides made os
  refine ⟨made, unreported, obtained [e] given, ?_, ?_⟩
  · rw [asked.mp rfl]
    rfl
  · rw [refused]

end DiagCheck.TestCase
