import DiagCheck.Diagnostic

/-!
# Written output

Writing can stop half-way, and what has been written by then stays written. An output is the
text together with a value, or with the fault that stopped the writing.
-/

namespace DiagCheck

namespace Render

inductive Fault where
  | offsetTooLong
  | outsideSource (start stop : Int) (length : Nat)
  deriving DecidableEq, Repr

def Fault.message : Fault → Text
  | .offsetTooLong => Numeral.tooLongToWrite
  | .outsideSource start stop length =>
    "Location (".toList ++ Numeral.ofInt start ++ ['-'] ++ Numeral.ofInt stop ++
      ") outside of source of length ".toList ++ Numeral.ofNat length

end Render

structure Output (α : Type) where
  text : Text
  result : Except Render.Fault α

namespace Output

def pure (a : α) : Output α := ⟨[], .ok a⟩

/-- The second part is written only if the first one went through. -/
def bind (x : Output α) (f : α → Output β) : Output β :=
  match x.result with
  | .error e => ⟨x.text, .error e⟩
  | .ok a => ⟨x.text ++ (f a).text, (f a).result⟩

instance : Monad Output where
  pure := Output.pure
  bind := Output.bind

def write (t : Text) : Output Unit := ⟨t, .ok ()⟩

def fail (e : Render.Fault) : Output α := ⟨[], .error e⟩

@[simp] theorem pure_def (a : α) : (Pure.pure a : Output α) = ⟨[], .ok a⟩ := rfl

@[simp] theorem bind_ok (t : Text) (a : α) (f : α → Output β) :
    ((⟨t, .ok a⟩ : Output α) >>= f) = ⟨t ++ (f a).text, (f a).result⟩ := rfl

@[simp] theorem bind_error (t : Text) (e : Render.Fault) (f : α → Output β) :
    ((⟨t, .error e⟩ : Output α) >>= f) = ⟨t, .error e⟩ := rfl

@[simp] theorem write_bind (t : Text) (f : Unit → Output β) :
    (write t >>= f) = ⟨t ++ (f ()).text, (f ()).result⟩ := rfl

instance : LawfulMonad Output := LawfulMonad.mk' Output
  (fun x => by
    obtain ⟨t, _ | a⟩ := x
    · rfl
    · simp [Functor.map, Output.bind, Output.pure])
  (fun a f => by simp)
  (fun x f g => by
    obtain ⟨t, _ | a⟩ := x
    · rfl
    · simp only [bind_ok]
      cases h : f a with
      | mk u r => cases r <;> simp)

end Output

end DiagCheck
