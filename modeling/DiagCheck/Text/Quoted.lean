import DiagCheck.Text.Numeral
import DiagCheck.Text.Printable

/-!
# Quoted text

Messages show a text between quotation marks on one line. Marks, backslashes and characters that
would not be seen are escaped.
-/

namespace DiagCheck.Text

def singleMark : Char := '\x27'

def doubleMark : Char := '\x22'

/-- Single marks, unless double ones save an escape. -/
def quotationMark (t : Text) : Char :=
  if singleMark ∈ t ∧ doubleMark ∉ t then doubleMark else singleMark

/-- The number in hexadecimal with at least `width` digits. -/
def hexadecimal (width n : Nat) : Text :=
  List.replicate (width - (Nat.toDigits 16 n).length) '0' ++ Nat.toDigits 16 n

/-- The shortest of three forms of a character's code. -/
def codeEscape (n : Nat) : Text :=
  if n < 0x100 then ['\\', 'x'] ++ hexadecimal 2 n
  else if n < 0x10000 then ['\\', 'u'] ++ hexadecimal 4 n
  else ['\\', 'U'] ++ hexadecimal 8 n

def escaped (mark c : Char) : Text :=
  if c = mark ∨ c = '\\' then ['\\', c]
  else if c = '\n' then ['\\', 'n']
  else if c = '\r' then ['\\', 'r']
  else if c = '\t' then ['\\', 't']
  else if isPrintable c then [c]
  else codeEscape c.toNat

def quoted (t : Text) : Text :=
  [quotationMark t] ++ t.flatMap (escaped (quotationMark t)) ++ [quotationMark t]

/-- A text of printable characters without marks and backslashes stands in quotes as it is. -/
theorem quoted_of_plain {t : Text}
    (h : ∀ c ∈ t, isPrintable c = true ∧ c ∉ [singleMark, '\\', '\n', '\r', '\t']) :
    quoted t = [singleMark] ++ t ++ [singleMark] := by
  have mark : quotationMark t = singleMark := by
    have : singleMark ∉ t := fun hm => (h _ hm).2 (List.mem_cons_self ..)
    simp [quotationMark, this]
  have body : t.flatMap (escaped singleMark) = t := by
    clear mark
    induction t with
    | nil => rfl
    | cons c t ih =>
      obtain ⟨hp, hc⟩ := h c (List.mem_cons_self ..)
      have ih := ih fun d hd => h d (List.mem_cons_of_mem _ hd)
      simp only [List.mem_cons, List.not_mem_nil, or_false, not_or] at hc
      simp [escaped, hp, hc, ih]
  rw [quoted, mark, body]

end DiagCheck.Text
