import DiagCheck.Text.Utf8

/-!
# Lines of a file

Bytes are decoded in pieces, and the lines that end in a piece are handed out only when the
whole piece has been decoded. So bytes that encode no text still give the lines that end in
earlier pieces. What only the end of the file brings to light is noticed last of all.
-/

namespace DiagCheck

/-- The lines of some bytes, in the order in which they are handed out. -/
structure Feed where
  lines : List Text
  /-- Behind these lines the bytes encode no text. -/
  broken : Bool
  deriving DecidableEq, Repr

namespace Feed

/-- How many bytes are decoded at a time. -/
def pieceSize : Nat := 8192

/-- The longest beginning of a text that takes at most `n` bytes. -/
def takeBytes : Nat → Text → Text
  | _, [] => []
  | n, c :: t => if c.utf8Size ≤ n then c :: takeBytes (n - c.utf8Size) t else []

def isComplete (line : Text) : Bool := line.getLast? == some '\n'

/-- How much of the text in front of a defect is handed out. -/
def before (d : Utf8.Defect) (t : Text) : Text :=
  match d.noticed with
  | none => t
  | some n => takeBytes (n / pieceSize * pieceSize) t

def ofBytes (bs : Bytes) : Feed :=
  match Utf8.decode bs with
  | ⟨t, none⟩ => ⟨Text.lines t, false⟩
  | ⟨t, some d⟩ => ⟨(Text.lines (before d t)).filter isComplete, true⟩

@[simp] theorem ofBytes_encode (t : Text) : ofBytes (Utf8.encode t) = ⟨Text.lines t, false⟩ := by
  simp [ofBytes]

end Feed

end DiagCheck
