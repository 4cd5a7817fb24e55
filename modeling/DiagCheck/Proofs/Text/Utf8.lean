import DiagCheck.Text.Utf8

/-! Bytes that encode a text. Of each character decoding takes only the shortest form, and it takes
no half of a surrogate pair. So bytes that are decoded are the encoding of what comes of them. -/
namespace DiagCheck.Utf8

theorem val_ofNat {v : Nat} (valid : v.isValidChar) : (Char.ofNat v).val.toNat = v := by
  rw [Char.ofNat, dif_pos valid]
  rfl

theorem ofNat_eq_byte {n : Nat} {b : UInt8} (h : n = b.toNat) : UInt8.ofNat n = b := by
  rw [h, UInt8.ofNat_toNat]

/-! ## Sequences of one to four bytes -/

section Sequences

variable {b c d e : UInt8}

/-- The byte goes on with a sequence. -/
def Continues (b : UInt8) : Prop := 0x80 ≤ b.toNat ∧ b.toNat ≤ 0xBF

theorem encodeChar_one (one : b.toNat < 0x80) :
    String.utf8EncodeChar (Char.ofNat b.toNat) = [b] := by
  simp only [String.utf8EncodeChar, val_ofNat (v := b.toNat) (.inl (by omega))]
  rw [if_pos (by omega), UInt8.ofNat_toNat]

theorem encodeChar_two (low : 0xC2 ≤ b.toNat) (high : b.toNat < 0xE0) (second : Continues c) :
    String.utf8EncodeChar (Char.ofNat ((b.toNat - 0xC0) * 64 + (c.toNat - 0x80))) = [b, c] := by
  obtain ⟨c₁, c₂⟩ := second
  generalize hv : (b.toNat - 0xC0) * 64 + (c.toNat - 0x80) = v
  simp only [String.utf8EncodeChar, val_ofNat (v := v) (.inl (by omega))]
  rw [if_neg (by omega), if_pos (by omega), ofNat_eq_byte (b := b) (by omega),
    ofNat_eq_byte (b := c) (by omega)]

/-- The bounds of the second byte rule out what two bytes can encode, and surrogates. -/
theorem encodeChar_three (low : 0xE0 ≤ b.toNat) (high : b.toNat < 0xF0) (second : Continues c)
    (long : b.toNat = 0xE0 → 0xA0 ≤ c.toNat) (whole : b.toNat = 0xED → c.toNat ≤ 0x9F)
    (third : Continues d) :
    String.utf8EncodeChar (Char.ofNat (((b.toNat - 0xE0) * 64 + (c.toNat - 0x80)) * 64 +
      (d.toNat - 0x80))) = [b, c, d] := by
  obtain ⟨c₁, c₂⟩ := second
  obtain ⟨d₁, d₂⟩ := third
  generalize hv : ((b.toNat - 0xE0) * 64 + (c.toNat - 0x80)) * 64 + (d.toNat - 0x80) = v
  have valid : v.isValidChar := by
    have : v < 0xD800 ∨ 0xDFFF < v := by omega
    exact this.imp id fun above => ⟨above, by omega⟩
  simp only [String.utf8EncodeChar, val_ofNat valid]
  rw [if_neg (by omega), if_neg (by omega), if_pos (by omega),
    ofNat_eq_byte (b := b) (by omega), ofNat_eq_byte (b := c) (by omega),
    ofNat_eq_byte (b := d) (by omega)]

/-- The bounds of the second byte rule out what three bytes can encode, and numbers above the last
code point. -/
theorem encodeChar_four (low : 0xF0 ≤ b.toNat) (high : b.toNat < 0xF5) (second : Continues c)
    (long : b.toNat = 0xF0 → 0x90 ≤ c.toNat) (inside : b.toNat = 0xF4 → c.toNat ≤ 0x8F)
    (third : Continues d) (fourth : Continues e) :
    String.utf8EncodeChar (Char.ofNat ((((b.toNat - 0xF0) * 64 + (c.toNat - 0x80)) * 64 +
      (d.toNat - 0x80)) * 64 + (e.toNat - 0x80))) = [b, c, d, e] := by
  obtain ⟨c₁, c₂⟩ := second
  obtain ⟨d₁, d₂⟩ := third
  obtain ⟨e₁, e₂⟩ := fourth
  generalize hv : (((b.toNat - 0xF0) * 64 + (c.toNat - 0x80)) * 64 + (d.toNat - 0x80)) * 64 +
    (e.toNat - 0x80) = v
  simp only [String.utf8EncodeChar, val_ofNat (v := v) (.inr (by omega))]
  rw [if_neg (by omega), if_neg (by omega), if_neg (by omega),
    ofNat_eq_byte (b := b) (by omega), ofNat_eq_byte (b := c) (by omega),
    ofNat_eq_byte (b := d) (by omega), ofNat_eq_byte (b := e) (by omega)]

end Sequences

/-! ## What is decoded -/

theorem start_cases (n : Nat) :
    (n < 0x80 ∧ start n = .character (Char.ofNat n)) ∨
    (0xC2 ≤ n ∧ n < 0xE0 ∧ start n = .sequence ⟨n, 1, n - 0xC0, 1, 0x80, 0xBF⟩) ∨
    (0xE0 ≤ n ∧ n < 0xF0 ∧ start n = .sequence ⟨n, 1, n - 0xE0, 2,
      if n = 0xE0 then 0xA0 else 0x80, if n = 0xED then 0x9F else 0xBF⟩) ∨
    (0xF0 ≤ n ∧ n < 0xF5 ∧ start n = .sequence ⟨n, 1, n - 0xF0, 3,
      if n = 0xF0 then 0x90 else 0x80, if n = 0xF4 then 0x8F else 0xBF⟩) ∨
    start n = .refused := by
  unfold start
  by_cases one : n < 0x80
  · exact .inl ⟨one, if_pos one⟩
  · by_cases low : n < 0xC2
    · simp [one, low]
    · by_cases two : n < 0xE0
      · exact .inr (.inl ⟨by omega, two, by simp [one, low, two]⟩)
      · by_cases three : n < 0xF0
        · exact .inr (.inr (.inl ⟨by omega, three, by simp [one, low, two, three]⟩))
        · by_cases four : n < 0xF5
          · refine .inr (.inr (.inr (.inl ⟨by omega, four, ?_⟩)))
            simp [one, low, two, three, four]
          · simp [one, low, two, three, four]

variable {p : Pending} {n : Nat} {bs : Bytes} {t : Text}

theorem eq_cons_of_cons {c : Char} {x : Decoded} (h : x.cons c = ⟨t, none⟩) :
    ∃ u, t = c :: u ∧ x = ⟨u, none⟩ := by
  obtain ⟨u, defect⟩ := x
  cases h
  exact ⟨u, rfl, rfl⟩

/-- The last byte of a sequence makes a character. -/
theorem run_last (owed : p.owed = 1) (h : run (some p) n bs = ⟨t, none⟩) :
    ∃ b rest u, bs = b :: rest ∧ (p.low ≤ b.toNat ∧ b.toNat ≤ p.high) ∧
      t = Char.ofNat (p.bits * 64 + (b.toNat - 0x80)) :: u ∧ run none (n + 1) rest = ⟨u, none⟩ := by
  cases bs with
  | nil => cases h
  | cons b rest =>
    rw [run] at h
    split at h
    · next within =>
      rw [if_pos (by omega)] at h
      obtain ⟨u, text, more⟩ := eq_cons_of_cons h
      exact ⟨b, rest, u, rfl, within, text, more⟩
    · cases h

/-- Any byte before it adds its bits. -/
theorem run_more (owed : 1 < p.owed) (h : run (some p) n bs = ⟨t, none⟩) :
    ∃ b rest, bs = b :: rest ∧ (p.low ≤ b.toNat ∧ b.toNat ≤ p.high) ∧
      run (some ⟨p.byte, p.taken + 1, p.bits * 64 + (b.toNat - 0x80), p.owed - 1, 0x80, 0xBF⟩)
        (n + 1) rest = ⟨t, none⟩ := by
  cases bs with
  | nil => cases h
  | cons b rest =>
    rw [run] at h
    split at h
    · next within =>
      rw [if_neg (by omega)] at h
      exact ⟨b, rest, rfl, within, h⟩
    · cases h

/-- Bytes that are decoded begin with the encoding of a character. -/
theorem run_character {b : UInt8} (h : run none n (b :: bs) = ⟨t, none⟩) :
    ∃ c u rest m, t = c :: u ∧ b :: bs = String.utf8EncodeChar c ++ rest ∧
      run none m rest = ⟨u, none⟩ := by
  rcases start_cases b.toNat with ⟨one, begins⟩ | ⟨low, high, begins⟩ | ⟨low, high, begins⟩ |
    ⟨low, high, begins⟩ | begins
  · rw [run, begins] at h
    obtain ⟨u, rfl, more⟩ := eq_cons_of_cons h
    exact ⟨_, u, bs, _, rfl, by rw [encodeChar_one one]; rfl, more⟩
  · rw [run, begins] at h
    obtain ⟨c, rest, u, rfl, second, rfl, more⟩ := run_last rfl h
    exact ⟨_, u, rest, _, rfl, by rw [encodeChar_two low high second]; rfl, more⟩
  · rw [run, begins] at h
    obtain ⟨c, bs, rfl, ⟨above, below⟩, h⟩ := run_more (Nat.lt_succ_self 1) h
    obtain ⟨d, rest, u, rfl, third, rfl, more⟩ := run_last rfl h
    simp only at above below
    have second : Continues c := ⟨by split at above <;> omega, by split at below <;> omega⟩
    have long : b.toNat = 0xE0 → 0xA0 ≤ c.toNat := fun is => by rwa [if_pos is] at above
    have whole : b.toNat = 0xED → c.toNat ≤ 0x9F := fun is => by rwa [if_pos is] at below
    exact ⟨_, u, rest, _, rfl, by rw [encodeChar_three low high second long whole third]; rfl, more⟩
  · rw [run, begins] at h
    obtain ⟨c, bs, rfl, ⟨above, below⟩, h⟩ := run_more (show 1 < 3 by decide) h
    obtain ⟨d, bs, rfl, third, h⟩ := run_more (show 1 < 2 by decide) h
    obtain ⟨e, rest, u, rfl, fourth, rfl, more⟩ := run_last rfl h
    simp only at above below
    have second : Continues c := ⟨by split at above <;> omega, by split at below <;> omega⟩
    have long : b.toNat = 0xF0 → 0x90 ≤ c.toNat := fun is => by rwa [if_pos is] at above
    have inside : b.toNat = 0xF4 → c.toNat ≤ 0x8F := fun is => by rwa [if_pos is] at below
    have whole := encodeChar_four low high second long inside third fourth
    exact ⟨_, u, rest, _, rfl, by rw [whole]; rfl, more⟩
  · rw [run, begins] at h
    cases h

theorem eq_encode_of_run (h : run none n bs = ⟨t, none⟩) : bs = encode t := by
  induction t generalizing n bs with
  | nil =>
    cases bs with
    | nil => rfl
    | cons b bs =>
      obtain ⟨c, u, rest, m, text, _⟩ := run_character h
      cases text
  | cons c t ih =>
    cases bs with
    | nil => cases h
    | cons b bs =>
      obtain ⟨c', u, rest, m, text, bytes, more⟩ := run_character h
      cases text
      rw [bytes, ih more]
      exact (List.flatMap_cons ..).symm

/-- Decoding accepts what encoding produces, and nothing else. -/
theorem decode?_eq_some_iff : decode? bs = some t ↔ bs = encode t := by
  constructor
  · intro h
    unfold decode? at h
    split at h
    · next u decoded =>
      cases h
      exact eq_encode_of_run decoded
    · cases h
  · rintro rfl
    exact decode?_encode t

end DiagCheck.Utf8
