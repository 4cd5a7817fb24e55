import Mathlib.Data.List.Induction
import DiagCheck.Settings

/-! Settings that are given one after the other. Each name has the place of its first value and
the value that was given last. -/
namespace DiagCheck.Settings

def putAll (s : Settings) (entries : List (Text × Text)) : Settings :=
  entries.foldl (fun s e => s.put e.1 e.2) s

theorem putAll_concat (s : Settings) (entries : List (Text × Text)) (e : Text × Text) :
    s.putAll (entries ++ [e]) = (s.putAll entries).put e.1 e.2 := by
  simp [putAll]

theorem get?_putAll_nil (entries : List (Text × Text)) (key : Text) :
    (putAll [] entries).get? key = entries.reverse.lookup key := by
  induction entries using List.reverseRecOn with
  | nil => rfl
  | append_singleton entries e ih =>
    obtain ⟨name, value⟩ := e
    rw [putAll_concat, get?_put, List.reverse_concat, List.lookup_cons]
    by_cases same : key = name
    · simp [same]
    · have other : (key == name) = false := beq_eq_false_iff_ne.mpr same
      simp [same, other, ih]

theorem keys_putAll_nil (entries : List (Text × Text)) :
    (putAll [] entries).keys = (entries.map Prod.fst).eraseDups := by
  induction entries using List.reverseRecOn with
  | nil => rfl
  | append_singleton entries e ih =>
    rw [putAll_concat, keys_put, ih, List.map_append, List.eraseDups_append]
    by_cases known : e.1 ∈ entries.map Prod.fst
    · rw [if_pos (List.mem_eraseDups.mpr known)]
      simp [List.removeAll, known]
    · rw [if_neg fun m => known (List.mem_eraseDups.mp m)]
      simp [List.removeAll, known, List.eraseDups_cons]

theorem isSome_get?_putAll_nil {entries : List (Text × Text)} {key : Text} :
    ((putAll [] entries).get? key).isSome = true ↔ ∃ value, (key, value) ∈ entries := by
  rw [get?_putAll_nil, List.lookup_isSome_iff]
  simp

end DiagCheck.Settings
