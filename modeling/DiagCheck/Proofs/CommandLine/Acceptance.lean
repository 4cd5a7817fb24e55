import DiagCheck.Proofs.CommandLine.Revision
import DiagCheck.CommandLine.Scripted

/-! Sessions with leave to update. Where every file meets the same script, one session brings the
directory into a state that the same command line leaves as it is. -/
namespace DiagCheck.CommandLine

open Compiler TestCase

/-- One of the files that are run is updated, and this is its name. -/
inductive Updates (c : Config) (name : Text) :
    Directory → Option Stack → List Text → Prop where
  | here : d.locate path = .ok name → (runFile c true d stack path).result = .ok .failed →
      Updates c name d stack (path :: paths)
  | later : (runFile c true d stack path).result = .ok v →
      Updates c name (runFile c true d stack path).directory
        (runFile c true d stack path).stack paths →
      Updates c name d stack (path :: paths)

/-- A session updates the file of that name. -/
def Session.Updates (env : Environment) (scripts : List Script) (d : Directory)
    (argv : List Text) (name : Text) : Prop :=
  ∃ a c product, Arguments.ofWords argv = .ok a ∧ a.accept = true ∧
    start env a d = .ok (c, product) ∧
    CommandLine.Updates c name d (product.label?.map fun _ => { queue := scripts }) a.files

variable {c : Config} {d : Directory} {stack : Stack} {path name : Text} {paths : List Text}

theorem upcoming_congr {other : Stack} (h : other.queue = stack.queue) :
    other.upcoming = stack.upcoming := by
  rw [Stack.upcoming, h, Stack.upcoming]

/-- The last script of a queue stays. -/
theorem queue_runFile (short : stack.queue.length ≤ 1) (c : Config) (accept : Bool)
    (d : Directory) (path : Text) :
    ∃ after, (runFile c accept d (some stack) path).stack = some after ∧
      after.queue = stack.queue := by
  cases loaded : load c d path with
  | error f => exact ⟨stack, (runFile_of_fault loaded accept (some stack)).2.2, rfl⟩
  | ok t =>
    refine ⟨_, stack_runFile loaded accept stack, ?_⟩
    rw [Stack.prepare_eq, Stack.remaining, if_pos short]

theorem directory_runFile_none (c : Config) (accept : Bool) (d : Directory) (path : Text) :
    (runFile c accept d none path).directory = d := by
  unfold runFile
  split
  · split <;> rfl
  · rfl

/-- The files behind the first one are run in the directory that it leaves, if it has a verdict. -/
theorem directory_runFiles_cons (c : Config) (accept : Bool) (d : Directory)
    (stack : Option Stack) (path : Text) (paths : List Text) :
    (runFiles c accept d stack (path :: paths)).directory =
      match (runFile c accept d stack path).result with
      | .error _ => (runFile c accept d stack path).directory
      | .ok _ => (runFiles c accept (runFile c accept d stack path).directory
          (runFile c accept d stack path).stack paths).directory := by
  cases verdict : (runFile c accept d stack path).result with
  | error f => simp only [runFiles, verdict]
  | ok v => simp only [runFiles, verdict]

theorem directory_runFiles_none (c : Config) (accept : Bool) (d : Directory)
    (paths : List Text) : (runFiles c accept d none paths).directory = d := by
  induction paths with
  | nil => rfl
  | cons path paths ih =>
    rw [directory_runFiles_cons, directory_runFile_none, stack_runFile_none]
    split
    · rfl
    · exact ih

theorem directory_runFiles_false (c : Config) (d : Directory) (stack : Option Stack)
    (paths : List Text) : (runFiles c false d stack paths).directory = d := by
  induction paths generalizing stack with
  | nil => rfl
  | cons path paths ih =>
    rw [directory_runFiles_cons, directory_runFile]
    split
    · rfl
    · exact ih _

/-- What revisions keep is kept by a run of any files that meet the same script. -/
theorem runFiles_invariant {P : Directory → Prop} (short : stack.queue.length ≤ 1)
    (preserved : ∀ d path, P d → P (revise stack.upcoming d path)) (h : P d) :
    P (runFiles c true d (some stack) paths).directory := by
  induction paths generalizing d stack with
  | nil => exact h
  | cons path paths ih =>
    obtain ⟨after, left, same⟩ := queue_runFile short c true d path
    have step := preserved d path h
    rw [directory_runFiles_cons, directory_runFile_accept, left]
    split
    · exact step
    · refine ih (by rw [same]; exact short) ?_ step
      rw [upcoming_congr same]
      exact preserved

theorem settled_runFiles (short : stack.queue.length ≤ 1)
    (h : Settled stack.upcoming d path) (c : Config) (paths : List Text) :
    Settled stack.upcoming (runFiles c true d (some stack) paths).directory path :=
  runFiles_invariant (P := fun d => Settled stack.upcoming d path) short
    (fun _ other settled => settled.revise other) h

theorem revised_runFiles (short : stack.queue.length ≤ 1)
    (h : Revised stack.upcoming name d) (c : Config) (paths : List Text) :
    Revised stack.upcoming name (runFiles c true d (some stack) paths).directory :=
  runFiles_invariant (P := Revised stack.upcoming name) short
    (fun _ other revised => revised.revise other) h

theorem directory_runFiles_settled (short : stack.queue.length ≤ 1)
    (settled : Settled stack.upcoming d path)
    (later : ∀ next, Stack.queue next = stack.queue →
      (runFiles c true d (some next) paths).directory = d) :
    (runFiles c true d (some stack) (path :: paths)).directory = d := by
  obtain ⟨next, left, same⟩ := queue_runFile short c true d path
  rw [directory_runFiles_cons, directory_runFile_accept, left, settled]
  split
  · rfl
  · exact later next same

/-- The same files are left as they are by another run. It stops where the first one stopped,
for the file that ended the first run has not been touched. -/
theorem runFiles_again {other : Stack} (short : stack.queue.length ≤ 1)
    (queue : other.queue = stack.queue) (c c' : Config) (d : Directory) (paths : List Text) :
    (runFiles c' true (runFiles c true d (some stack) paths).directory (some other)
      paths).directory = (runFiles c true d (some stack) paths).directory := by
  induction paths generalizing d stack other with
  | nil => rfl
  | cons path paths ih =>
    obtain ⟨after, left, same⟩ := queue_runFile short c true d path
    have script := upcoming_congr queue
    have first := directory_runFiles_cons c true d (some stack) path paths
    rw [directory_runFile_accept, left] at first
    cases verdict : (runFile c true d (some stack) path).result with
    | error f =>
      -- The first run ended here and left the file alone, so the second one ends here too.
      have passed : (runFile c true d (some stack) path).result ≠ .ok .failed := by
        rw [verdict]
        exact nofun
      have untouched := revise_of_not_failed passed
      have again : (runFile c' true d (some other) path).result = .error f := by
        rw [result_runFile_congr script c' c true true, verdict]
      rw [verdict] at first
      rw [first, untouched, directory_runFiles_cons, again, directory_runFile_accept, script,
        untouched]
    | ok v =>
      rw [verdict] at first
      rw [first]
      -- The first file is settled from the start, and no later one unsettles it.
      have short' : after.queue.length ≤ 1 := by rw [same]; exact short
      have settled : Settled after.upcoming
          (runFiles c true (revise stack.upcoming d path) (some after) paths).directory path := by
        refine settled_runFiles short' ?_ c paths
        rw [upcoming_congr same]
        exact settled_revise stack.upcoming d path
      rw [upcoming_congr (same.trans queue.symm)] at settled
      refine directory_runFiles_settled (by rw [queue]; exact short) settled ?_
      intro next same'
      exact ih short' (same'.trans (queue.trans same.symm)) _

theorem revised_of_updates (short : stack.queue.length ≤ 1)
    (h : Updates c name d (some stack) paths) :
    Revised stack.upcoming name (runFiles c true d (some stack) paths).directory := by
  generalize start : some stack = initial at h
  induction h generalizing stack with
  | @here d _ path paths found failed =>
    subst start
    obtain ⟨bytes, revision, replaced⟩ := revise_of_failed failed found
    obtain ⟨after, left, same⟩ := queue_runFile short c true d path
    obtain ⟨old, there⟩ := Directory.lookup_of_locate found
    have revised : Revised stack.upcoming name (revise stack.upcoming d path) := by
      refine ⟨bytes, revision, ?_⟩
      rw [replaced, Directory.lookup_replace, if_pos rfl, there]
      rfl
    rw [directory_runFiles_cons, failed, directory_runFile_accept, left]
    rw [← upcoming_congr same] at revised ⊢
    exact revised_runFiles (by rw [same]; exact short) revised c paths
  | @later d _ path v paths verdict _ ih =>
    subst start
    obtain ⟨after, left, same⟩ := queue_runFile short c true d path
    rw [directory_runFiles_cons, verdict]
    have revised := ih (by rw [same]; exact short) left.symm
    rw [upcoming_congr same] at revised
    rw [left] at revised ⊢
    exact revised

/-- Without a stack no file has the verdict that it failed. -/
theorem not_updates_none (d : Directory) (paths : List Text) : ¬Updates c name d none paths := by
  intro h
  generalize start : (none : Option Stack) = initial at h
  induction h with
  | @here d _ path _ _ failed =>
    subst start
    unfold runFile at failed
    split at failed
    · next f _ =>
      split at failed <;> cases failed
    · cases failed
  | later _ _ ih =>
    subst start
    exact ih (stack_runFile_none ..).symm

/-- Every file whose bytes are others afterwards has been updated. -/
theorem updates_of_changed (short : stack.queue.length ≤ 1)
    (changed : (runFiles c true d (some stack) paths).directory.lookup name ≠ d.lookup name) :
    Updates c name d (some stack) paths := by
  induction paths generalizing d stack with
  | nil => exact absurd rfl changed
  | cons path paths ih =>
    obtain ⟨after, left, same⟩ := queue_runFile short c true d path
    by_cases own : (revise stack.upcoming d path).lookup name = d.lookup name
    · rw [directory_runFiles_cons, directory_runFile_accept, left] at changed
      cases verdict : (runFile c true d (some stack) path).result with
      | error f =>
        rw [verdict] at changed
        exact absurd own changed
      | ok v =>
        rw [verdict, ← own] at changed
        have later := ih (by rw [same]; exact short) changed
        rw [← directory_runFile_accept c d stack path, ← left] at later
        exact .later verdict later
    · rcases revise_cases stack.upcoming d path with kept | ⟨other, bytes, found, _, replaced⟩
      · exact absurd (by rw [kept]) own
      · rw [replaced, Directory.lookup_replace] at own
        have here : name = other := by
          by_contra ne
          exact own (if_neg ne)
        have failed : (runFile c true d (some stack) path).result = .ok .failed := by
          by_contra passed
          have kept := revise_of_not_failed passed
          rw [← Directory.lookup_replace, ← replaced, kept] at own
          exact own rfl
        exact .here (here ▸ found) failed

/-! ## Sessions -/

theorem directory_ofRuns (factory : Option Text) (verbose : Bool) (r : FileRuns) :
    (Session.ofRuns factory verbose r).directory = r.directory := by
  unfold Session.ofRuns
  dsimp only
  split <;> rfl

theorem directory_ofArguments {env : Environment} {a : Arguments}
    {product : Pipeline.Product} (started : start env a d = .ok (c, product))
    (scripts : List Script) :
    (Session.ofArguments env scripts d a).directory =
      (runFiles c a.accept d (product.label?.map fun _ => { queue := scripts })
        a.files).directory := by
  unfold Session.ofArguments
  rw [started]
  exact directory_ofRuns ..

/-- A session leaves the directory alone, or it leaves what running its files with leave to update
makes of it. -/
theorem directory_session_cases (env : Environment) (scripts : List Script)
    (d : Directory) (argv : List Text) :
    (Session.run env scripts d argv).directory = d ∨
      ∃ a c product label, Arguments.ofWords argv = .ok a ∧ a.accept = true ∧
        start env a d = .ok (c, product) ∧ product.label? = some label ∧
        (Session.run env scripts d argv).directory =
          (runFiles c true d (some { queue := scripts }) a.files).directory := by
  unfold Session.run
  cases asked : Arguments.ofWords argv with
  | error r =>
    cases r with
    | help => exact .inl rfl
    | fault f => exact .inl rfl
  | ok a =>
    cases started : start env a d with
    | error f =>
      refine .inl ?_
      simp only [Session.ofArguments, started]
      split <;> rfl
    | ok p =>
      simp only [directory_ofArguments started scripts]
      cases made : p.2.label? with
      | none => exact .inl (directory_runFiles_none ..)
      | some label =>
        cases leave : a.accept with
        | false => exact .inl (directory_runFiles_false ..)
        | true => exact .inr ⟨a, p.1, p.2, label, rfl, leave, started, made, rfl⟩

theorem revised_of_session {env : Environment} {scripts : List Script}
    {argv : List Text} (one : scripts.length ≤ 1)
    (h : Session.Updates env scripts d argv name) :
    Revised (Stack.upcoming { queue := scripts }) name
      (Session.run env scripts d argv).directory := by
  obtain ⟨a, c, product, asked, leave, started, updates⟩ := h
  have run : Session.run env scripts d argv = Session.ofArguments env scripts d a := by
    unfold Session.run
    rw [asked]
  rw [run, directory_ofArguments started scripts, leave]
  cases made : product.label? with
  | none =>
    rw [made] at updates
    exact absurd updates (not_updates_none d a.files)
  | some label =>
    rw [made] at updates
    have short : (Stack.queue { queue := scripts }).length ≤ 1 := one
    exact revised_of_updates short updates

/-- Where every file meets the same script, a command line that is run a second time changes no
file, however the first run ended. The files that the first run changed are among those that it
updated, and such a file passes from then on exactly if annotations can say what was found. -/
theorem run_again {scripts : List Script} (one : scripts.length ≤ 1)
    (env : Environment) (d : Directory) (argv : List Text) :
    let after := (Session.run env scripts d argv).directory
    (Session.run env scripts after argv).directory = after ∧
      (∀ name, after.lookup name ≠ d.lookup name → Session.Updates env scripts d argv name) ∧
      ∀ name, Session.Updates env scripts d argv name →
        ∀ c accept stack path, Stack.queue stack = scripts →
          Directory.locate after path = .ok name →
          ((runFile c accept after (some stack) path).result = .ok .passed ↔
            ∀ e ∈ stack.upcoming.diagnostics, e.Representable) := by
  intro after
  have short : (Stack.queue { queue := scripts }).length ≤ 1 := one
  have cases := directory_session_cases env scripts
  refine ⟨?_, ?_, ?_⟩
  · rcases cases d argv with same | ⟨a, c, _, _, asked, _, _, _, left⟩
    · rw [show after = d from same]
      exact same
    · rcases cases after argv with same | ⟨a', c', _, _, asked', _, _, _, left'⟩
      · exact same
      · obtain rfl : a = a' := Except.ok.inj (asked.symm.trans asked')
        rw [left', show after = _ from left]
        exact runFiles_again short rfl c c' d a.files
  · intro name changed
    rcases cases d argv with same | ⟨a, c, product, label, asked, leave, started, made, left⟩
    · exact absurd (by rw [show after = d from same]) changed
    · rw [show after = _ from left] at changed
      refine ⟨a, c, product, asked, leave, started, ?_⟩
      rw [made]
      exact updates_of_changed short changed
  · intro name updates c accept stack path queue found
    obtain ⟨bytes, revision, there⟩ := revised_of_session one updates
    have script : stack.upcoming = Stack.upcoming { queue := scripts } := upcoming_congr queue
    rw [← script] at revision
    exact revision.passed_iff (Directory.read_eq_ok_iff.mpr ⟨name, found, there⟩) c accept

/-- What was found has no beginning in the source, which no annotation can say. The file is
updated, cannot be read after that, and stays as it is. -/
theorem run_again_half_span :
    let text := "contract C {}\n// ----\n// Warning: old\n".toList
    let d : Directory := [("c.sol".toList, Utf8.encode text)]
    let found : Finding := {
      kind := "TypeError".toList, comment := some "bad".toList, span := some (10, 30),
      secondary := some false }
    let scripts : List Script := [{ findings := [found] }]
    let files := ["c.sol".toList, "none.sol".toList, "./c.sol".toList]
    let argv := ["--pipeline".toList, "fakestack:make_stack".toList, "--accept".toList] ++ files
    let after := (Session.run scripted scripts d argv).directory
    let c : Config := { pipeline := "fakestack:make_stack".toList }
    scripts.length ≤ 1 ∧ Session.Updates scripted scripts d argv "c.sol".toList ∧
      after = [("c.sol".toList, Utf8.encode
        "contract C {}\n// ----\n// TypeError: (-7): bad\n".toList)] ∧
      (Session.run scripted scripts after argv).directory = after ∧
      (runFile c true after (some { queue := scripts }) "c.sol".toList).result ≠ .ok .passed := by
  intro text d found scripts files argv after c
  have asked : Arguments.ofWords argv =
      .ok { pipeline := "fakestack:make_stack".toList, accept := true, files } := by decide +kernel
  have started : start scripted
      { pipeline := "fakestack:make_stack".toList, accept := true, files } d =
      .ok (c, .stack "make_stack".toList) := by rfl
  have failed : (runFile c true d (some { queue := scripts }) "c.sol".toList).result =
      .ok .failed := by decide +kernel
  have updates : Session.Updates scripted scripts d argv "c.sol".toList :=
    ⟨_, _, _, asked, rfl, started, .here (by decide +kernel) failed⟩
  have written : after = [("c.sol".toList, Utf8.encode
      "contract C {}\n// ----\n// TypeError: (-7): bad\n".toList)] := by decide +kernel
  have found : Directory.locate after "c.sol".toList = .ok "c.sol".toList := by decide +kernel
  have one : scripts.length ≤ 1 := by decide
  obtain ⟨again, _, passed⟩ := run_again one scripted d argv
  refine ⟨one, updates, written, again, ?_⟩
  rw [ne_eq, passed "c.sol".toList updates c true { queue := scripts } _ rfl found]
  decide

end DiagCheck.CommandLine
