import DiagCheck.Text.Basic

/-!
# Settings

The settings of a test are named values in the order of their first appearance. Giving a value
to a name that is there keeps the name's place.
-/

namespace DiagCheck

abbrev Settings := List (Text × Text)

namespace Settings

def keys (s : Settings) : List Text := s.map (·.1)

def get? (s : Settings) (key : Text) : Option Text := s.lookup key

def put (key value : Text) : Settings → Settings
  | [] => [(key, value)]
  | (k, v) :: s => if k = key then (k, value) :: s else (k, v) :: put key value s

def erase (s : Settings) (key : Text) : Settings := s.filter fun (k, _) => k != key

@[simp] theorem get?_put (s : Settings) (key value other : Text) :
    (s.put key value).get? other = if other = key then some value else s.get? other := by
  induction s with
  | nil =>
    by_cases h : other = key
    · simp [put, get?, h]
    · have h' : (other == key) = false := beq_eq_false_iff_ne.mpr h
      simp [put, get?, List.lookup_cons, h, h']
  | cons e s ih =>
    obtain ⟨k, v⟩ := e
    simp only [get?] at ih ⊢
    by_cases hk : k = key
    · by_cases h : other = key
      · simp [put, hk, h]
      · have h' : (other == key) = false := beq_eq_false_iff_ne.mpr h
        simp [put, hk, List.lookup_cons, h, h']
    · by_cases h : other = k
      · subst h
        simp [put, hk]
      · have h' : (other == k) = false := beq_eq_false_iff_ne.mpr h
        simp [put, hk, List.lookup_cons, h', ih]

/-- A name that is there keeps its place, a new one comes last. -/
theorem keys_put (s : Settings) (key value : Text) :
    (s.put key value).keys = if key ∈ s.keys then s.keys else s.keys ++ [key] := by
  induction s with
  | nil => simp [put, keys]
  | cons e s ih =>
    obtain ⟨k, v⟩ := e
    by_cases hk : k = key
    · simp [put, keys, hk]
    · simp only [keys] at ih
      have h : key ∈ k :: s.map (·.1) ↔ key ∈ s.map (·.1) := by simp [Ne.symm hk]
      simp only [put, hk, if_false, keys, List.map_cons, ih, h]
      split <;> simp_all

theorem not_mem_keys_erase (s : Settings) (key : Text) : key ∉ (s.erase key).keys := by
  simp [erase, keys]

end Settings

end DiagCheck
