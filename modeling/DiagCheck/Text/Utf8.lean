import DiagCheck.Text.Numeral

/-!
# UTF-8

Files hold bytes. Decoding reads them one at a time and stops at the first sequence that encodes
no character; what was decoded by then and the place of the fault are both kept. Main statement:
decoding the bytes of a text gives that text back.
-/

namespace DiagCheck

abbrev Bytes := List UInt8

namespace Utf8

def encode (t : Text) : Bytes := t.flatMap String.utf8EncodeChar

inductive Reason where
  | invalidStart
  | invalidContinuation
  | unexpectedEnd
  deriving DecidableEq, Repr

structure Defect where
  position : Nat
  /-- How many of its bytes are there. -/
  length : Nat
  byte : Nat
  /-- The byte that made it clear, or nothing if it took the end of all bytes. -/
  noticed : Option Nat
  reason : Reason
  deriving DecidableEq, Repr

structure Decoded where
  text : Text
  defect : Option Defect
  deriving DecidableEq, Repr

/-- A sequence that has begun: its first byte, the bytes taken, the bits so far, the bytes still
owed and the bounds of the next one. -/
structure Pending where
  byte : Nat
  taken : Nat
  bits : Nat
  owed : Nat
  low : Nat
  high : Nat

inductive Start where
  | character (c : Char)
  | sequence (p : Pending)
  | refused

/-- What a byte begins. Overlong forms, surrogates and numbers above the last code point are
ruled out by the bounds of the second byte. -/
def start (b : Nat) : Start :=
  if b < 0x80 then .character (Char.ofNat b)
  else if b < 0xC2 then .refused
  else if b < 0xE0 then .sequence ⟨b, 1, b - 0xC0, 1, 0x80, 0xBF⟩
  else if b < 0xF0 then
    .sequence ⟨b, 1, b - 0xE0, 2, if b = 0xE0 then 0xA0 else 0x80, if b = 0xED then 0x9F else 0xBF⟩
  else if b < 0xF5 then
    .sequence ⟨b, 1, b - 0xF0, 3, if b = 0xF0 then 0x90 else 0x80, if b = 0xF4 then 0x8F else 0xBF⟩
  else .refused

def Decoded.cons (c : Char) (d : Decoded) : Decoded := { d with text := c :: d.text }

/-- The byte that makes it clear that `b` at position `n` does not belong to the sequence. The
second byte of a surrogate is doubted only when a third one has come. -/
def Pending.noticed (p : Pending) (n b : Nat) (behind : Bytes) : Option Nat :=
  if p.byte = 0xED ∧ p.taken = 1 ∧ 0x80 ≤ b ∧ b ≤ 0xBF then
    if behind = [] then none else some (n + 1)
  else some n

/-- Decodes the bytes from position `n` on, after the sequence that has begun, if any. -/
def run : Option Pending → Nat → Bytes → Decoded
  | none, _, [] => ⟨[], none⟩
  | some p, n, [] => ⟨[], some ⟨n - p.taken, p.taken, p.byte, none, .unexpectedEnd⟩⟩
  | none, n, b :: bs => match start b.toNat with
    | .character c => (run none (n + 1) bs).cons c
    | .sequence p => run (some p) (n + 1) bs
    | .refused => ⟨[], some ⟨n, 1, b.toNat, some n, .invalidStart⟩⟩
  | some p, n, b :: bs =>
    if p.low ≤ b.toNat ∧ b.toNat ≤ p.high then
      if p.owed ≤ 1 then
        (run none (n + 1) bs).cons (Char.ofNat (p.bits * 64 + (b.toNat - 0x80)))
      else
        run (some ⟨p.byte, p.taken + 1, p.bits * 64 + (b.toNat - 0x80), p.owed - 1, 0x80, 0xBF⟩)
          (n + 1) bs
    else
      let noticed := p.noticed n b.toNat bs
      ⟨[], some ⟨n - p.taken, p.taken, p.byte, noticed, .invalidContinuation⟩⟩

def decode (bs : Bytes) : Decoded := run none 0 bs

def decode? (bs : Bytes) : Option Text :=
  match decode bs with
  | ⟨t, none⟩ => some t
  | _ => none

def Reason.message : Reason → Text
  | .invalidStart => "invalid start byte".toList
  | .invalidContinuation => "invalid continuation byte".toList
  | .unexpectedEnd => "unexpected end of data".toList

/-- The fault in words, with positions counted from `origin`. -/
def Defect.message (origin : Nat) (d : Defect) : Text :=
  "'utf-8' codec can't decode ".toList ++
    (if d.length = 1 then
      "byte 0x".toList ++ Nat.toDigits 16 d.byte ++ " in position ".toList ++
        Numeral.ofNat (d.position - origin)
    else
      "bytes in position ".toList ++ Numeral.ofNat (d.position - origin) ++ ['-'] ++
        Numeral.ofNat (d.position - origin + d.length - 1)) ++
    [':', ' '] ++ d.reason.message

theorem toNat_byte {n : Nat} (h : n < 256) : (UInt8.ofNat n).toNat = n := by
  simp [UInt8.toNat_ofNat', Nat.mod_eq_of_lt h]

theorem run_encodeChar (c : Char) (n : Nat) (bs : Bytes) :
    run none n (String.utf8EncodeChar c ++ bs) = (run none (n + c.utf8Size) bs).cons c := by
  have back : Char.ofNat c.val.toNat = c := Char.ofNat_toNat c
  have valid : c.val.toNat < 0xD800 ∨ 0xDFFF < c.val.toNat ∧ c.val.toNat < 0x110000 := c.valid
  have size : c.utf8Size = (String.utf8EncodeChar c).length := (String.length_utf8EncodeChar c).symm
  rw [size]
  unfold String.utf8EncodeChar
  generalize c.val.toNat = v at back valid
  by_cases h1 : v ≤ 127
  · have e0 : (UInt8.ofNat v).toNat = v := toNat_byte (by omega)
    have s : start v = .character (Char.ofNat v) := by simp [start, show v < 0x80 by omega]
    simp [h1, run, e0, s, back]
  · by_cases h2 : v ≤ 2047
    · have e0 : (UInt8.ofNat (v / 64 % 32 + 192)).toNat = v / 64 + 192 := by
        rw [toNat_byte (by omega)]; omega
      have e1 : (UInt8.ofNat (v % 64 + 128)).toNat = v % 64 + 128 := toNat_byte (by omega)
      have s : start (v / 64 + 192) = .sequence ⟨v / 64 + 192, 1, v / 64, 1, 0x80, 0xBF⟩ := by
        simp only [start]
        rw [if_neg (by omega), if_neg (by omega), if_pos (by omega)]
        simp
      have b : v / 64 * 64 + (v % 64 + 128 - 128) = v := by omega
      simp only [h1, h2, if_true, if_false, List.cons_append, List.nil_append, run, e0, e1, s, b,
        back]
      rw [if_pos (by omega)]
      simp
    · by_cases h3 : v ≤ 65535
      · have e0 : (UInt8.ofNat (v / 4096 % 16 + 224)).toNat = v / 4096 + 224 := by
          rw [toNat_byte (by omega)]; omega
        have e1 : (UInt8.ofNat (v / 64 % 64 + 128)).toNat = v / 64 % 64 + 128 :=
          toNat_byte (by omega)
        have e2 : (UInt8.ofNat (v % 64 + 128)).toNat = v % 64 + 128 := toNat_byte (by omega)
        have s : start (v / 4096 + 224) = .sequence ⟨v / 4096 + 224, 1, v / 4096, 2,
            if v / 4096 + 224 = 0xE0 then 0xA0 else 0x80,
            if v / 4096 + 224 = 0xED then 0x9F else 0xBF⟩ := by
          simp only [start]
          rw [if_neg (by omega), if_neg (by omega), if_neg (by omega), if_pos (by omega)]
          simp
        have b : (v / 4096 * 64 + (v / 64 % 64 + 128 - 128)) * 64 + (v % 64 + 128 - 128) = v := by
          omega
        simp only [h1, h2, h3, if_true, if_false, List.cons_append, List.nil_append, run, e0, e1,
          e2, s, b, back]
        rw [if_pos (by constructor <;> split <;> omega), if_neg (by omega), if_pos (by omega),
          if_pos (by omega)]
        simp
      · have e0 : (UInt8.ofNat (v / 262144 % 8 + 240)).toNat = v / 262144 + 240 := by
          rw [toNat_byte (by omega)]; omega
        have e1 : (UInt8.ofNat (v / 4096 % 64 + 128)).toNat = v / 4096 % 64 + 128 :=
          toNat_byte (by omega)
        have e2 : (UInt8.ofNat (v / 64 % 64 + 128)).toNat = v / 64 % 64 + 128 :=
          toNat_byte (by omega)
        have e3 : (UInt8.ofNat (v % 64 + 128)).toNat = v % 64 + 128 := toNat_byte (by omega)
        have s : start (v / 262144 + 240) = .sequence ⟨v / 262144 + 240, 1, v / 262144, 3,
            if v / 262144 + 240 = 0xF0 then 0x90 else 0x80,
            if v / 262144 + 240 = 0xF4 then 0x8F else 0xBF⟩ := by
          simp only [start]
          rw [if_neg (by omega), if_neg (by omega), if_neg (by omega), if_neg (by omega),
            if_pos (by omega)]
          simp
        have b : ((v / 262144 * 64 + (v / 4096 % 64 + 128 - 128)) * 64 +
            (v / 64 % 64 + 128 - 128)) * 64 + (v % 64 + 128 - 128) = v := by omega
        simp only [h1, h2, h3, if_false, List.cons_append, List.nil_append, run, e0, e1, e2, e3,
          s, b, back]
        rw [if_pos (by constructor <;> split <;> omega), if_neg (by omega), if_pos (by omega),
          if_neg (by omega), if_pos (by omega), if_pos (by omega)]
        simp

theorem run_encode (t : Text) (n : Nat) : run none n (encode t) = ⟨t, none⟩ := by
  induction t generalizing n with
  | nil => rfl
  | cons c t ih =>
    have split : encode (c :: t) = String.utf8EncodeChar c ++ encode t := List.flatMap_cons ..
    rw [split, run_encodeChar, ih]
    rfl

@[simp] theorem decode_encode (t : Text) : decode (encode t) = ⟨t, none⟩ := run_encode t 0

@[simp] theorem decode?_encode (t : Text) : decode? (encode t) = some t := by simp [decode?]

end Utf8

end DiagCheck
