import DiagCheck.Proofs.Compiler.Script

/-! Examinations on a stack that has been used before. What an examination comes to and what it
logs is told by the script that is next, whatever the stack has been given until then, and which
script that is depends only on how many have been used. -/
namespace DiagCheck.Compiler

/-- The scripts that are left when some have been used. The last one stays. -/
def Script.behind (used : Nat) (scripts : List Script) : List Script :=
  scripts.drop (min used (scripts.length - 1))

theorem Script.behind_one (scripts : List Script) (n : Nat) :
    behind n (behind 1 scripts) = behind (n + 1) scripts := by
  simp only [behind, List.drop_drop, List.length_drop]
  congr 1
  omega

theorem Script.behind_zero (scripts : List Script) : behind 0 scripts = scripts := by
  simp [Script.behind]

theorem Script.behind_behind (scripts : List Script) (n : Nat) (b : Bool) :
    behind n (behind (if b then 1 else 0) scripts) =
      behind (n + if b then 1 else 0) scripts := by
  cases b with
  | false => rw [if_neg Bool.false_ne_true, behind_zero, Nat.add_zero]
  | true => exact behind_one scripts n

namespace Stack

theorem remaining_eq (s : Stack) : s.remaining = Script.behind 1 s.queue := by
  unfold remaining Script.behind
  rcases s.queue with _ | ⟨a, _ | ⟨b, queue⟩⟩
  · rfl
  · rfl
  · simp

theorem advance_congr {p q : Stack} (h : p.current = q.current) :
    p.advance.log = q.advance.log ∧ p.advance.result = q.advance.result := by
  unfold advance parse analyze compile
  simp only [h]
  rcases q.current.parse with f | _ | _
  · exact ⟨rfl, rfl⟩
  · exact ⟨rfl, rfl⟩
  · simp only [record, h]
    rcases q.current.analyze with f | _ | _
    · exact ⟨rfl, rfl⟩
    · exact ⟨rfl, rfl⟩
    · exact ⟨rfl, rfl⟩

/-- An inconsistency is logged behind the steps that were taken. -/
theorem log_examine (s : Stack) (job : Job) :
    (s.examine job).log = match (s.prepare job).advance.result with
      | .ok (.inconsistent i) => (s.prepare job).advance.log ++ [.inconsistent i.reason]
      | _ => (s.prepare job).advance.log := by
  unfold examine
  rcases (s.prepare job).advance with ⟨p, log, f | progress⟩
  · rfl
  · cases progress <;> rfl

theorem examine_congr {s other : Stack} (script : s.upcoming = other.upcoming) (job : Job) :
    (s.examine job).result = (other.examine job).result ∧
    (s.examine job).log = (other.examine job).log := by
  obtain ⟨log, result⟩ := advance_congr (p := s.prepare job) (q := other.prepare job) script
  refine ⟨?_, by rw [log_examine, log_examine, log, result]⟩
  have course := (s.examine_follows job).1
  rw [script] at course
  exact course.unique (other.examine_follows job).1

theorem queue_examine (s : Stack) (job : Job) : (s.examine job).stack.queue = s.remaining := by
  rw [(s.examine_follows job).2]
  rfl

end Stack

/-- All that is seen of an examination. The scripts that are still to come are hidden. -/
def Examination.visible (x : Examination α) : Examination α :=
  { x with stack := { x.stack with queue := [] } }

namespace Stack

/-- What an earlier job has left in a stack is not seen in the next examination. -/
theorem visible_examine (s : Stack) (job : Job) :
    (s.forget.examine job).visible = (examine { queue := [s.upcoming] } job).visible := by
  have script : s.forget.upcoming = upcoming { queue := [s.upcoming] } := rfl
  obtain ⟨result, log⟩ := examine_congr script job
  have used := (s.forget.examine_follows job).2
  have fresh := (examine_follows { queue := [s.upcoming] } job).2
  rw [prepare_eq, script] at used
  rw [prepare_eq] at fresh
  simp only [Examination.visible, used, fresh, result, log]
  rfl

/-- Examines the jobs one after the other. The calls for a job are told before the next one. -/
def examineAll (s : Stack) : List Job → List (Examination (Except Fault Outcome))
  | [] => []
  | job :: jobs => s.forget.examine job :: (s.forget.examine job).stack.examineAll jobs

/-- The invariant of a series: the scripts of the jobs to come stand first in the queue. -/
theorem visible_examineAll {s : Stack} {runs : List (Script × Job)}
    (next : runs.map Prod.fst <+: s.queue) :
    (s.examineAll (runs.map Prod.snd)).map Examination.visible =
      runs.map fun r => (examine { queue := [r.1] } r.2).visible := by
  induction runs generalizing s with
  | nil => rfl
  | cons r runs ih =>
    obtain ⟨others, queue⟩ := next
    have upcoming : s.upcoming = r.1 := by
      simp [Stack.upcoming, ← queue]
    have left : runs.map Prod.fst <+: (s.forget.examine r.2).stack.queue := by
      rw [queue_examine]
      change _ <+: s.remaining
      rw [remaining, ← queue, List.map_cons, List.cons_append]
      split
      · next last =>
        -- Only the last script of all stays, and then no job is left.
        have none : runs = [] := by
          apply List.eq_nil_of_length_eq_zero
          simp only [List.length_cons, List.length_append, List.length_map] at last
          omega
        rw [none]
        exact List.nil_prefix
      · exact List.prefix_append _ _
    rw [List.map_cons, examineAll, List.map_cons, List.map_cons, ih left, visible_examine, upcoming]

/-- Examinations do not show in one another. In a series on one stack, whatever the stack was
given before and however the earlier ones ended, each comes to the same, logs the same and leaves
the same in the stack, its own calls included, as it does alone on a new stack with its script. -/
theorem examineAll_isolated (s : Stack) (runs : List (Script × Job)) (others : List Script) :
    (examineAll { s with queue := runs.map Prod.fst ++ others } (runs.map Prod.snd)).map
      Examination.visible = runs.map fun r => (examine { queue := [r.1] } r.2).visible := by
  apply visible_examineAll
  exact List.prefix_append _ _

end Stack

end DiagCheck.Compiler
