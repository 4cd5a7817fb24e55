import DiagCheck.Proofs.Compiler.Isolation
import DiagCheck.Proofs.CommandLine.Acceptance

/-! Sessions as compositions. Each file is run as it would be alone, on a new stack, in the
directory and with the scripts that the files before it have left. -/
namespace DiagCheck

open Compiler

/-- The stack is the only part of a run that can tell stacks with the same script apart. -/
theorem TestCase.run_congr {t : TestCase} {stack other : Stack}
    (script : stack.upcoming = other.upcoming) (lead : Text) (formatted : Bool) :
    t.run stack lead formatted =
      { t.run other lead formatted with stack := (t.run stack lead formatted).stack } := by
  by_cases ran : t.hasRun = true
  · simp only [run_of_hasRun ran]
  · obtain ⟨result, log⟩ := Stack.examine_congr script t.job
    simp only [run, ran, Bool.false_eq_true, if_false, settle, result, log]
    split <;> rfl

namespace CommandLine

variable {c : Config} {accept : Bool} {d : Directory} {path : Text} {paths : List Text}

/-- The run of the test was begun, which is the first thing that is logged. -/
def FileRun.examined (r : FileRun) : Bool := !r.log.isEmpty

def FileRun.calls (r : FileRun) : List Call := (r.stack.map (·.calls)).getD []

theorem conclude_stack (c : Config) (accept : Bool) (d : Directory) (path : Text)
    (r : TestCase.Run) (s : Stack) :
    conclude c accept d path { r with stack := s } =
      { conclude c accept d path r with stack := some s } := by
  unfold conclude
  cases r.result with
  | error f =>
    dsimp only
    split <;> rfl
  | ok b =>
    cases b with
    | true => rfl
    | false =>
      dsimp only
      split
      · unfold update
        dsimp only
        split <;> rfl
      · rfl

theorem log_conclude (c : Config) (accept : Bool) (d : Directory) (path : Text)
    (r : TestCase.Run) : (conclude c accept d path r).log = r.log := by
  unfold conclude
  split
  · split <;> rfl
  · rfl
  · split
    · unfold update
      dsimp only
      split <;> rfl
    · rfl

theorem runFile_congr {stack other : Stack} (queue : stack.queue = other.queue) (c : Config)
    (accept : Bool) (d : Directory) (path : Text) :
    runFile c accept d (some stack) path =
      { runFile c accept d (some other) path with
        stack := (runFile c accept d (some stack) path).stack } := by
  cases loaded : load c d path with
  | error f =>
    simp only [runFile, loaded]
    split <;> rfl
  | ok t =>
    rw [runFile_of_load loaded, runFile_of_load loaded, stack_conclude, ← conclude_stack,
      ← TestCase.run_congr (upcoming_congr queue)]

/-- A file reaches the examination of its test exactly if it can be loaded. -/
theorem examined_runFile (c : Config) (accept : Bool) (d : Directory) (stack : Option Stack)
    (path : Text) :
    (runFile c accept d stack path).examined = true ↔ ∃ t, load c d path = .ok t := by
  cases loaded : load c d path with
  | error f =>
    simp only [runFile, loaded]
    split <;> simp [FileRun.examined]
  | ok t =>
    cases stack with
    | none => simp [runFile, loaded, FileRun.examined]
    | some stack =>
      rw [runFile_of_load loaded, FileRun.examined, log_conclude, TestCase.run,
        (fresh_of_load loaded).hasRun]
      simp

/-- The directory as runs have left it, which was `d` before them. -/
def directoryAfter (d : Directory) (rs : List FileRun) : Directory :=
  (rs.getLast?.map (·.directory)).getD d

theorem directoryAfter_cons (d : Directory) (r : FileRun) (rs : List FileRun) :
    directoryAfter d (r :: rs) = directoryAfter r.directory rs := by
  unfold directoryAfter
  rw [List.getLast?_cons]
  cases rs.getLast? with
  | none => rfl
  | some last => rfl

/-- The stack that a pipeline makes, if it makes one. Nothing has been run on it. -/
def fresh (product : Pipeline.Product) (scripts : List Script) : Option Stack :=
  product.label?.map fun _ => { queue := scripts }

/-- Runs each file on a stack of its own. The directory and the scripts are what is handed on. -/
def runsAlone (c : Config) (accept : Bool) (product : Pipeline.Product) (d : Directory)
    (scripts : List Script) : List Text → List FileRun
  | [] => []
  | path :: paths =>
    let r := runFile c accept d (fresh product scripts) path
    match r.result with
    | .error _ => [r]
    | .ok _ => r :: runsAlone c accept product r.directory
        (Script.behind (if r.examined then 1 else 0) scripts) paths

/-- The file of that number is run alone behind the runs before it. -/
def AloneAt (c : Config) (accept : Bool) (product : Pipeline.Product) (d : Directory)
    (scripts : List Script) (paths : List Text) (rs : List FileRun) (k : Nat) (r : FileRun) :
    Prop :=
  let before := rs.take k
  let directory := directoryAfter d before
  ∃ path, paths[k]? = some path ∧
    r = runFile c accept directory
      (fresh product (Script.behind (before.countP FileRun.examined) scripts)) path ∧
    (r.examined = true ↔ ∃ t, load c directory path = .ok t)

variable {product : Pipeline.Product} {scripts : List Script} {stack : Option Stack}

theorem runsAlone_at {k : Nat} {r : FileRun}
    (h : (runsAlone c accept product d scripts paths)[k]? = some r) :
    AloneAt c accept product d scripts paths (runsAlone c accept product d scripts paths) k r := by
  induction paths generalizing d scripts k with
  | nil => simp [runsAlone] at h
  | cons path paths ih =>
    have first : AloneAt c accept product d scripts (path :: paths)
        (runsAlone c accept product d scripts (path :: paths)) 0
        (runFile c accept d (fresh product scripts) path) := by
      refine ⟨path, rfl, ?_, examined_runFile ..⟩
      simp [directoryAfter, Script.behind_zero]
    simp only [runsAlone] at h first ⊢
    split at h
    · cases k with
      | zero =>
        cases h
        exact first
      | succ k => simp at h
    · cases k with
      | zero =>
        cases h
        exact first
      | succ k =>
        obtain ⟨next, there, run, examined⟩ := ih h
        refine ⟨next, there, ?_, ?_⟩
        · rw [List.take_succ_cons, directoryAfter_cons, List.countP_cons, ← Script.behind_behind]
          exact run
        · rw [List.take_succ_cons, directoryAfter_cons]
          exact examined

/-- The run of a file on a stack that has been used differs from the one on a fresh stack only in
what the stack has been through. -/
theorem runFile_alone (same : stack.map (·.queue) = product.label?.map fun _ => scripts)
    (c : Config) (accept : Bool) (d : Directory) (path : Text) :
    let r := runFile c accept d (fresh product scripts) path
    let s := runFile c accept d stack path
    s.output = r.output ∧ s.log = r.log ∧ s.directory = r.directory ∧ s.result = r.result ∧
    (s.stack.map (·.queue) = product.label?.map fun _ =>
      Script.behind (if r.examined then 1 else 0) scripts) ∧
    s.calls = (stack.map (·.calls)).getD [] ++ r.calls := by
  intro r s
  cases made : product.label? with
  | none =>
    have none : stack = none := by simpa [made] using same
    subst none
    have r_eq : r = s := by
      simp only [r, s, fresh, made]
      rfl
    have gone : s.stack = Option.none := stack_runFile_none c accept d path
    simp [r_eq, FileRun.calls, gone]
  | some label =>
    obtain ⟨used, rfl, queue⟩ : ∃ used, stack = some used ∧ used.queue = scripts := by
      simpa [made] using same
    have new : fresh product scripts = some { queue := scripts } := by rw [fresh, made]; rfl
    have frame : s = { r with stack := s.stack } := by
      simp only [s, r, new]
      exact runFile_congr queue c accept d path
    refine ⟨by rw [frame], by rw [frame], by rw [frame], by rw [frame], ?_⟩
    cases loaded : load c d path with
    | error f =>
      have unexamined : r.examined = false := by
        rw [Bool.eq_false_iff, ne_eq, examined_runFile, loaded]
        simp
      have left : s.stack = some used := (runFile_of_fault loaded accept (some used)).2.2
      have left' : r.stack = some { queue := scripts } := by
        simp only [r, new]
        exact (runFile_of_fault loaded accept _).2.2
      simp [FileRun.calls, left, left', unexamined, queue, Script.behind_zero]
    | ok t =>
      have examined : r.examined = true := (examined_runFile ..).mpr ⟨t, loaded⟩
      have left : s.stack = _ := stack_runFile loaded accept used
      have left' := stack_runFile loaded accept { queue := scripts }
      rw [← new] at left'
      replace left' : r.stack = _ := left'
      have script : used.upcoming = Stack.upcoming { queue := scripts } := upcoming_congr queue
      simp [FileRun.calls, left, left', examined, Stack.prepare_eq, Stack.remaining_eq, queue,
        script]

/-- The results of runs: verdicts for all files, or for some and then the fault of the next. -/
inductive Results (rs : List FileRun) (paths : List Text) :
    Except TestCase.Fault (List Verdict) → Prop where
  | judged (vs : List Verdict) : rs.map (·.result) = vs.map .ok → rs.length = paths.length →
      Results rs paths (.ok vs)
  | ended (vs : List Verdict) (f : TestCase.Fault) :
      rs.map (·.result) = vs.map .ok ++ [.error f] → Results rs paths (.error f)

theorem Results.cons {rs : List FileRun} {x : Except TestCase.Fault (List Verdict)}
    (h : Results rs paths x) {r : FileRun} {v : Verdict} (verdict : r.result = .ok v)
    (path : Text) : Results (r :: rs) (path :: paths) (x.map (v :: ·)) := by
  cases h with
  | judged vs results all => exact .judged (v :: vs) (by simp [verdict, results]) (by simp [all])
  | ended vs f results => exact .ended (v :: vs) f (by simp [verdict, results])

theorem runFiles_alone (same : stack.map (·.queue) = product.label?.map fun _ => scripts)
    (c : Config) (accept : Bool) (d : Directory) (paths : List Text) :
    let rs := runsAlone c accept product d scripts paths
    let s := runFiles c accept d stack paths
    s.output = rs.flatMap (·.output) ∧ s.log = rs.flatMap (·.log) ∧
    s.directory = directoryAfter d rs ∧ Results rs paths s.result ∧
    (s.stack.map (·.calls)).getD [] = (stack.map (·.calls)).getD [] ++ rs.flatMap (·.calls) := by
  induction paths generalizing d stack scripts with
  | nil => exact ⟨rfl, rfl, rfl, .judged [] rfl rfl, (List.append_nil _).symm⟩
  | cons path paths ih =>
    obtain ⟨output, log, directory, result, queue, calls⟩ := runFile_alone same c accept d path
    cases verdict : (runFile c accept d (fresh product scripts) path).result with
    | error f =>
      rw [verdict] at result
      simp only [runsAlone, verdict, runFiles, result, output, log, directory]
      refine ⟨by simp, by simp, rfl, .ended [] f (by simp [verdict]), ?_⟩
      rw [List.flatMap_singleton]
      exact calls
    | ok v =>
      rw [verdict] at result
      obtain ⟨output', log', directory', results, calls'⟩ :=
        ih queue (runFile c accept d stack path).directory
      simp only [runsAlone, verdict, runFiles, result]
      rw [directory] at output' log' directory' results calls' ⊢
      refine ⟨by simp [output, output'], by simp [log, log'], ?_, results.cons verdict path, ?_⟩
      · rw [directoryAfter_cons]
        exact directory'
      · rw [calls', List.flatMap_cons, ← List.append_assoc]
        exact congrArg (· ++ _) calls

/-- Behind the run that ended in a fault no file has a say in anything. -/
theorem runFiles_take (same : stack.map (·.queue) = product.label?.map fun _ => scripts)
    {f : TestCase.Fault} (ended : (runFiles c accept d stack paths).result = .error f)
    (others : List Text) :
    runFiles c accept d stack
      (paths.take (runsAlone c accept product d scripts paths).length ++ others) =
      runFiles c accept d stack paths := by
  induction paths generalizing d stack scripts f with
  | nil => cases ended
  | cons path paths ih =>
    obtain ⟨_, _, directory, result, queue, _⟩ := runFile_alone same c accept d path
    cases verdict : (runFile c accept d (fresh product scripts) path).result with
    | error f =>
      rw [verdict] at result
      simp only [runsAlone, verdict, List.length_singleton, List.take_succ_cons, List.take_zero,
        List.cons_append, List.nil_append, runFiles, result]
    | ok v =>
      rw [verdict] at result
      simp only [runFiles, result] at ended
      have later : ∃ f, (runFiles c accept (runFile c accept d stack path).directory
          (runFile c accept d stack path).stack paths).result = .error f := by
        cases later : (runFiles c accept (runFile c accept d stack path).directory
          (runFile c accept d stack path).stack paths).result with
        | error f => exact ⟨f, rfl⟩
        | ok vs => simp [later, Except.map] at ended
      obtain ⟨g, later⟩ := later
      have ih := ih queue later
      simp only [runsAlone, verdict, List.length_cons, List.take_succ_cons, List.cons_append,
        runFiles, result]
      rw [directory] at ih ⊢
      rw [ih]

/-- The run of a file that ended in a fault left every file as it was. -/
theorem directory_runFile_of_fault {f : TestCase.Fault}
    (ended : (runFile c accept d stack path).result = .error f) :
    (runFile c accept d stack path).directory = d := by
  cases accept with
  | false => exact directory_runFile c d stack path
  | true =>
    cases stack with
    | none => exact directory_runFile_none c true d path
    | some stack =>
      rw [directory_runFile_accept]
      have other : (runFile c true d (some stack) path).result ≠ .ok .failed := by
        rw [ended]
        exact nofun
      exact revise_of_not_failed other

theorem directoryAfter_dropLast {vs : List Verdict} {f : TestCase.Fault}
    (ended : (runsAlone c accept product d scripts paths).map (·.result) =
      vs.map .ok ++ [.error f]) :
    directoryAfter d (runsAlone c accept product d scripts paths) =
      directoryAfter d (runsAlone c accept product d scripts paths).dropLast := by
  generalize runs : runsAlone c accept product d scripts paths = rs at ended ⊢
  obtain ⟨front, back, rfl, _, last⟩ := List.map_eq_append_iff.mp ended
  obtain ⟨r, rfl, fault⟩ := List.map_eq_singleton_iff.mp last
  have there : (runsAlone c accept product d scripts paths)[front.length]? = some r := by
    simp [runs]
  obtain ⟨path, _, run, _⟩ := runsAlone_at there
  have kept : r.directory = directoryAfter d front := by
    rw [runs, List.take_left] at run
    rw [run] at fault ⊢
    exact directory_runFile_of_fault fault
  rw [List.dropLast_concat, ← kept]
  simp [directoryAfter]

theorem ofRuns_eq (factory : Option Text) (verbose : Bool) (r : FileRuns) :
    (Session.ofRuns factory verbose r).result = (r.result.map exitStatus).mapError .test ∧
    (Session.ofRuns factory verbose r).factory = factory ∧
    (Session.ofRuns factory verbose r).stack = r.stack := by
  unfold Session.ofRuns
  dsimp only
  split
  · exact ⟨rfl, rfl, rfl⟩
  · exact ⟨rfl, rfl, rfl⟩

/-- A session whose pipeline is found is the composition of the runs of its files, each of which
is run alone on a new stack, in the directory and with the scripts that the files before it leave.
If all have a verdict, the status is that of the verdicts, and the banner tells how many there are
of each, which makes up all files. A fault that is not a file's own ends the session: the files
before it stay as they were left, and what is named behind it does not matter. -/
theorem session_composed {env : Environment} {argv : List Text} {a : Arguments}
    (asked : Arguments.ofWords argv = .ok a) (started : start env a d = .ok (c, product))
    (scripts : List Script) :
    let s := Session.run env scripts d argv
    ∃ rs : List FileRun,
      (∀ k r, rs[k]? = some r → AloneAt c a.accept product d scripts a.files rs k r) ∧
      s.directory = directoryAfter d rs ∧
      (s.stack.map (·.calls)).getD [] = rs.flatMap (·.calls) ∧
      ((∃ vs : List Verdict,
          rs.map (·.result) = vs.map .ok ∧ rs.length = a.files.length ∧
          s.output = rs.flatMap (·.output) ++ ('\n' :: List.replicate 70 '=' ++ '\n' ::
            (Numeral.ofNat (vs.count .passed) ++ " passed, ".toList ++
              Numeral.ofNat (vs.count .failed) ++ " failed, ".toList ++
              Numeral.ofNat (vs.count .errored) ++ " errored (".toList ++
              Numeral.ofNat a.files.length ++ " total)".toList) ++
            '\n' :: List.replicate 70 '=' ++ ['\n']) ∧
          s.result = .ok (if ∀ v ∈ vs, v = .passed then 0 else 1) ∧
          vs.count .passed + vs.count .failed + vs.count .errored = a.files.length) ∨
        ∃ (vs : List Verdict) (f : TestCase.Fault),
          rs.map (·.result) = vs.map .ok ++ [.error f] ∧
          s.output = rs.flatMap (·.output) ∧ s.result = .error (.test f) ∧
          s.directory = directoryAfter d rs.dropLast ∧
          ∀ others, Session.ofArguments env scripts d
            { a with files := a.files.take rs.length ++ others } = s) := by
  intro s
  have session : ∀ files, Session.ofArguments env scripts d { a with files } =
      Session.ofRuns product.label? a.verbose
        (runFiles c a.accept d (fresh product scripts) files) := by
    intro files
    have started : start env { a with files } d = .ok (c, product) := started
    simp only [Session.ofArguments, started]
    rfl
  have s_eq : s = Session.ofRuns product.label? a.verbose
      (runFiles c a.accept d (fresh product scripts) a.files) := by
    rw [← session]
    simp only [s, Session.run, asked]
  have same : (fresh product scripts).map (·.queue) = product.label?.map fun _ => scripts := by
    rw [fresh, Option.map_map]
    rfl
  have unused : ((fresh product scripts).map (·.calls)).getD [] = [] := by
    unfold fresh
    cases product.label? with
    | none => rfl
    | some label => rfl
  obtain ⟨output, _, directory, results, calls⟩ := runFiles_alone same c a.accept d a.files
  rw [unused, List.nil_append] at calls
  refine ⟨runsAlone c a.accept product d scripts a.files, fun _ _ => runsAlone_at, ?_, ?_, ?_⟩
  · rw [s_eq, directory_ofRuns, directory]
  · rw [← calls, s_eq, (ofRuns_eq _ _ _).2.2]
  · have stop := @runFiles_take c a.accept d a.files product scripts _ same
    generalize runs : runFiles c a.accept d (fresh product scripts) a.files = r at *
    cases verdicts : r.result with
    | error f =>
      rw [verdicts] at results
      cases results with
      | ended vs f results =>
        refine .inr ⟨vs, f, results, ?_, ?_, ?_, ?_⟩
        · simp only [s_eq, Session.ofRuns, verdicts, output]
        · simp only [s_eq, Session.ofRuns, verdicts, Except.map, Except.mapError]
        · rw [s_eq, directory_ofRuns, directory, directoryAfter_dropLast results]
        · intro others
          rw [session, stop verdicts others, s_eq]
    | ok vs =>
      rw [verdicts] at results
      cases results with
      | judged vs results all =>
        have sum : vs.count .passed + vs.count .failed + vs.count .errored = a.files.length := by
          rw [count_verdicts, ← all, ← List.length_map (fun r : FileRun => r.result), results,
            List.length_map]
        refine .inl ⟨vs, results, all, ?_, ?_, sum⟩
        · simp only [s_eq, Session.ofRuns, verdicts, output, banner_eq, sum]
        · simp [s_eq, Session.ofRuns, verdicts, Except.map, Except.mapError, exitStatus]

/-- The first file has no readable annotations, so the second one meets the first script and is
updated. On the next script the compiler breaks down, and the last file is never looked at. -/
theorem session_composed_broken :
    let text := "contract C {}\n// ----\n".toList
    let d : Directory := [
      ("a.sol".toList, Utf8.encode "// ----\n// Warning: (\n".toList),
      ("b.sol".toList, Utf8.encode text), ("c.sol".toList, Utf8.encode text)]
    let found : Finding := {
      kind := "Warning".toList, comment := some "unused".toList, span := none
      secondary := some false }
    let broken : Failure := { name := "ValueError".toList, reach := .ordinary, text := none }
    let scripts : List Script := [{ findings := [found] }, { parse := .error broken }]
    let files := ["a.sol".toList, "b.sol".toList, "./b.sol".toList, "c.sol".toList]
    let argv := ["--pipeline".toList, "fakestack:make_stack".toList, "--accept".toList] ++ files
    let c : Config := { pipeline := "fakestack:make_stack".toList }
    let product : Pipeline.Product := .stack "make_stack".toList
    let s := Session.run scripted scripts d argv
    start scripted { pipeline := c.pipeline, accept := true, files } d =
      .ok (c, product) ∧
      s.directory = [
        ("a.sol".toList, Utf8.encode "// ----\n// Warning: (\n".toList),
        ("b.sol".toList, Utf8.encode "contract C {}\n// ----\n// Warning: unused\n".toList),
        ("c.sol".toList, Utf8.encode text)] ∧
      ∃ rs f, (∀ k r, rs[k]? = some r → AloneAt c true product d scripts files rs k r) ∧
        s.output = rs.flatMap (·.output) ∧ s.result = .error (.test f) := by
  intro text d found broken scripts files argv c product s
  have asked : Arguments.ofWords argv =
      .ok { pipeline := c.pipeline, accept := true, files } := by decide +kernel
  have started : start scripted { pipeline := c.pipeline, accept := true, files } d =
      .ok (c, product) := by rfl
  have ended : s.result.toOption = none := by decide +kernel
  obtain ⟨rs, alone, _, _, ⟨vs, _, _, _, result, _⟩ | ⟨vs, f, _, output, result, _⟩⟩ :=
    session_composed asked started scripts
  · rw [show s.result = _ from result] at ended
    cases ended
  · exact ⟨started, by decide +kernel, rs, f, alone, output, result⟩

end CommandLine

end DiagCheck
