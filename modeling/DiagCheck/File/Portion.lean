import DiagCheck.File.Feed

/-!
# Portions of a file

A file can also be handed out in portions of equally many characters. Bytes are decoded in chunks
until a portion is full. If a chunk encodes no text then the portions before it are all there is,
and positions are counted from the bytes that were still waiting for the chunk.
-/

namespace DiagCheck

structure Progress where
  portions : Nat := 0
  bytes : Nat := 0
  /-- How many bytes the last chunk had, and how many characters they gave. -/
  chunk : Nat × Nat := (0, 0)
  deriving DecidableEq, Repr

namespace Progress

def portionSize : Nat := 4096

/-- How many bytes are decoded at a time when some characters are missing. Where characters take
many bytes the next chunk may be larger than usual. -/
def chunkSize (last : Nat × Nat) (missing : Nat) : Nat :=
  max Feed.pieceSize (last.1 * missing / last.2)

/-- The text that is made of the characters in the first bytes. A carriage return at the end
waits for what follows it. -/
def decoded (t : Text) (bytes : Nat) : Text :=
  let u := Feed.takeBytes bytes t
  Text.unifyBreaks (if u.getLast? = some '\r' then u.dropLast else u)

/-- How far the bytes are decoded, `total` in number, which give the text `t` and a defect. -/
def run (t : Text) (d : Utf8.Defect) (total : Nat) : Nat → Progress → Progress
  | 0, p => p
  | fuel + 1, p =>
    let present := (decoded t p.bytes).length
    let wanted := (p.portions + 1) * portionSize
    if wanted ≤ present then run t d total fuel { p with portions := p.portions + 1 }
    else
      let bytes := min total (p.bytes + chunkSize p.chunk (wanted - present))
      if p.bytes = total || d.noticed.any (· < bytes) then p
      else
        let gained := (decoded t bytes).length - present
        run t d total fuel { p with bytes, chunk := (bytes - p.bytes, gained) }

/-- How far bytes are decoded that give a text and a defect. -/
def upTo (t : Text) (d : Utf8.Defect) (total : Nat) : Progress :=
  run t d total (2 * (total + 1)) {}

/-- Where the bytes begin that have not become characters of the text. -/
def waiting (t : Text) (p : Progress) : Nat := (Utf8.encode (Feed.takeBytes p.bytes t)).length

def handedOut (t : Text) (p : Progress) : Text :=
  (decoded t p.bytes).take (p.portions * portionSize)

end Progress

end DiagCheck
