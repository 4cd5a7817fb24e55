import DiagCheck.Proofs.Expectation.Grammar
import DiagCheck.Proofs.Text.Lines

/-! What annotation lines can say. A diagnostic that is read from a line is representable, and a
representable diagnostic is read back from the line that is written for it. -/
namespace DiagCheck

/-- The diagnostics for which there is an annotation line. -/
structure Diagnostic.Representable (d : Diagnostic) : Prop where
  kind : ':' ∉ d.kind ∧ '\n' ∉ d.kind
  kind_head : Text.startsBlank d.kind = false
  message : '\n' ∉ d.message
  message_head : Text.startsBlank d.message = false
  message_last : d.message.getLast? ≠ some '\r'
  offsets : (0 ≤ d.start ∧ 0 ≤ d.stop) ∨
    (d.start = absent ∧ d.stop = absent ∧ d.message.head? ≠ some '(')

instance (d : Diagnostic) : Decidable d.Representable :=
  decidable_of_iff
    ((':' ∉ d.kind ∧ '\n' ∉ d.kind) ∧ Text.startsBlank d.kind = false ∧
      '\n' ∉ d.message ∧ Text.startsBlank d.message = false ∧
      d.message.getLast? ≠ some '\r' ∧
      ((0 ≤ d.start ∧ 0 ≤ d.stop) ∨
        (d.start = absent ∧ d.stop = absent ∧ d.message.head? ≠ some '(')))
    ⟨fun ⟨a, b, c, d, e, f⟩ => ⟨a, b, c, d, e, f⟩, fun ⟨a, b, c, d, e, f⟩ => ⟨a, b, c, d, e, f⟩⟩

namespace Expectation

/-- What may stand in front of an annotation: slashes, then at least one blank. -/
def Lead (lead : Text) : Prop :=
  '\n' ∉ lead ∧ ∃ n blanks, lead = List.replicate n '/' ++ blanks ∧ blanks ≠ [] ∧
    blanks.all isBlank = true

/-! ## What is read is representable -/

theorem body_suffix (line : Text) : body line <:+ Text.dropLineEnd line :=
  (Text.skipBlank_suffix _).trans (List.dropWhile_suffix _)

/-- A part of a line that reaches to its end can be a message. -/
theorem message_of_suffix {line t : Text} (plain : '\n' ∉ Text.dropLineEnd line)
    (suffix : t <:+ Text.dropLineEnd line) : '\n' ∉ t ∧ t.getLast? ≠ some '\r' := by
  refine ⟨fun m => plain (suffix.subset m), ?_⟩
  intro last
  exact (Text.getLast?_of_suffix_dropLineEnd suffix last).1 rfl

/-- The message is what is left of the body; blanks in front of it are dropped. -/
theorem readBody_eq_ok {t : Text} {d : Diagnostic} (h : readBody t = .ok d) :
    d.kind = t.takeWhile (· != ':') ∧ d.message <:+ t ∧
    Text.startsBlank d.message = false ∧
    ((∃ a b : Nat, d.start = a ∧ d.stop = b ∧ Numeral.Fits a ∧ Numeral.Fits b) ∨
      (d.start = absent ∧ d.stop = absent ∧ d.message.head? ≠ some '(')) := by
  have behind : afterKind t <:+ t :=
    ((Text.skipBlank_suffix _).trans (List.drop_suffix _ _)).trans (List.dropWhile_suffix _)
  rcases readBody_eq_ok_iff.mp h with ⟨unopened, rfl⟩ | ⟨x, y, w, hx, hy, shape, rfl⟩
  · exact ⟨rfl, behind, Text.startsBlank_skipBlank _, .inr ⟨rfl, rfl, unopened⟩⟩
  · have tail : w <:+ '(' :: (x ++ '-' :: (y ++ ')' :: ':' :: w)) :=
      ⟨'(' :: (x ++ '-' :: (y ++ [')', ':'])), by simp⟩
    refine ⟨rfl, ?_, Text.startsBlank_skipBlank w,
      .inl ⟨_, _, rfl, rfl, Numeral.fits_toNat hx, Numeral.fits_toNat hy⟩⟩
    exact (Text.skipBlank_suffix w).trans (tail.trans (shape ▸ behind))

theorem representable_of_read {line : Text} {d : Diagnostic}
    (plain : '\n' ∉ Text.dropLineEnd line) (h : read line = .ok (some d)) :
    d.Representable := by
  obtain ⟨kind, suffix, head, offsets⟩ := readBody_eq_ok (read_eq_some_iff.mp h).2
  have inside := message_of_suffix plain (suffix.trans (body_suffix line))
  have start : d.kind <+: body line := kind ▸ List.takeWhile_prefix _
  constructor
  · refine ⟨?_, fun m => plain ((body_suffix line).subset (start.subset m))⟩
    intro m
    have := List.mem_takeWhile_imp (kind ▸ m)
    simp at this
  · exact Text.startsBlank_of_prefix start (Text.startsBlank_skipBlank _)
  · exact inside.1
  · exact head
  · exact inside.2
  · rcases offsets with ⟨a, b, ha, hb, _, _⟩ | none
    · exact .inl (by omega)
    · exact .inr none

/-- What was read can be written: no offset has too many digits. -/
theorem writable_of_read {line : Text} {d : Diagnostic} (h : read line = .ok (some d)) :
    d.Writable := by
  obtain ⟨_, _, _, offsets⟩ := readBody_eq_ok (read_eq_some_iff.mp h).2
  rcases offsets with ⟨a, b, ha, hb, fa, fb⟩ | ⟨ha, hb, _⟩
  · rw [Diagnostic.Writable, ha, hb]
    exact ⟨fun _ => fa, fun _ => fb⟩
  · exact Diagnostic.writable_of_absent ha hb

/-! ## What is representable is read back -/

theorem newline_not_mem_ofNat (n : Nat) : '\n' ∉ Numeral.ofNat n := by
  intro m
  exact absurd (Numeral.isDigit_of_mem_ofNat m) (by decide)

theorem locationText_of_nat {d : Diagnostic} {a b : Nat} (start : d.start = a)
    (stop : d.stop = b) :
    d.locationText =
      '(' :: (Numeral.ofNat a ++ '-' :: (Numeral.ofNat b ++ [')', ':', ' '])) := by
  simp [Diagnostic.locationText, Diagnostic.hasLocation, Diagnostic.offsetText, start, stop,
    Numeral.ofInt_natCast]

theorem locationText_of_absent {d : Diagnostic} (start : d.start = absent)
    (stop : d.stop = absent) : d.locationText = [] := by
  simp [Diagnostic.locationText, Diagnostic.hasLocation, start, stop, absent]

/-- The two forms that the offsets of a representable diagnostic take. -/
theorem offsets_of_representable {d : Diagnostic} (h : d.Representable) :
    (∃ a b : Nat, d.start = a ∧ d.stop = b) ∨
      (d.start = absent ∧ d.stop = absent ∧ d.message.head? ≠ some '(') := by
  rcases h.offsets with ⟨start, stop⟩ | none
  · exact .inl ⟨d.start.toNat, d.stop.toNat, by omega, by omega⟩
  · exact .inr none

theorem newline_not_mem_text {d : Diagnostic} (h : d.Representable) : '\n' ∉ d.text := by
  have location : '\n' ∉ d.locationText := by
    rcases offsets_of_representable h with ⟨a, b, start, stop⟩ | ⟨start, stop, _⟩
    · rw [locationText_of_nat start stop]
      simp [newline_not_mem_ofNat]
    · simp [locationText_of_absent start stop]
  simp [Diagnostic.text, h.kind.2, h.message, location]

theorem getLast?_text {d : Diagnostic} (h : d.Representable) : d.text.getLast? ≠ some '\r' := by
  by_cases empty : d.message = []
  · rcases offsets_of_representable h with ⟨a, b, start, stop⟩ | ⟨start, stop, _⟩
    · have shape : d.text = d.kind ++ [':', ' '] ++ '(' :: (Numeral.ofNat a ++ '-' ::
          (Numeral.ofNat b ++ [')', ':'])) ++ [' '] := by
        simp [Diagnostic.text, empty, locationText_of_nat start stop]
      rw [shape, List.getLast?_concat]
      decide
    · simp [Diagnostic.text, empty, locationText_of_absent start stop]
  · rw [Diagnostic.text, List.getLast?_append_of_ne_nil _ empty]
    exact h.message_last

theorem body_append {lead t : Text} (h : Lead lead) (closed : t.getLast? ≠ some '\r')
    (plain : '\n' ∉ t) (head : Text.startsBlank t = false) (some : t ≠ []) :
    body (lead ++ t ++ ['\n']) = t := by
  obtain ⟨leadPlain, n, blanks, rfl, someBlanks, blank⟩ := h
  have whole : Text.dropLineEnd (List.replicate n '/' ++ blanks ++ t) =
      List.replicate n '/' ++ blanks ++ t := by
    apply Text.dropLineEnd_eq_self
    · rw [List.getLast?_append_of_ne_nil _ some]
      exact closed
    · simp only [List.mem_append, not_or] at leadPlain ⊢
      exact ⟨leadPlain, plain⟩
  have unslashed : (List.replicate n '/' ++ (blanks ++ t)).dropWhile (· == '/') = blanks ++ t := by
    rw [List.dropWhile_append_of_pos fun c hc => by simp [List.eq_of_mem_replicate hc]]
    cases blanks with
    | nil => exact absurd rfl someBlanks
    | cons b bs =>
      have hb : b ≠ '/' := by
        rintro rfl
        exact absurd (List.all_eq_true.mp blank '/' (List.mem_cons_self ..)) (by decide)
      simp [hb]
  rw [body, Text.dropLineEnd_append_newline, whole, List.append_assoc, unslashed,
    Text.skipBlank_append blank, Text.skipBlank_eq_self head]

theorem readBody_text {d : Diagnostic} (h : d.Representable) (writable : d.Writable) :
    readBody d.text = .ok d := by
  have shape : d.text = d.kind ++ ':' :: ' ' :: (d.locationText ++ d.message) := by
    simp [Diagnostic.text]
  have inKind : ∀ c ∈ d.kind, (c != ':') = true := by
    intro c hc
    simp only [bne_iff_ne, ne_eq]
    rintro rfl
    exact h.kind.1 hc
  have kind : d.text.takeWhile (· != ':') = d.kind := by
    simp [shape, List.takeWhile_append_of_pos inKind]
  have rest : afterKind d.text = Text.skipBlank (d.locationText ++ d.message) := by
    rw [afterKind, shape, List.dropWhile_append_of_pos inKind]
    rfl
  rw [readBody_eq_ok_iff, kind, rest]
  rcases offsets_of_representable h with ⟨a, b, start, stop⟩ | ⟨start, stop, head⟩
  · have ha : Numeral.Fits a := start ▸ writable.1 (by omega)
    have hb : Numeral.Fits b := stop ▸ writable.2 (by omega)
    have opened : Text.skipBlank (d.locationText ++ d.message) =
        '(' :: (Numeral.ofNat a ++ '-' ::
          (Numeral.ofNat b ++ ')' :: ':' :: (' ' :: d.message))) := by
      have blank : isBlank '(' = false := by decide
      rw [locationText_of_nat start stop,
        Text.skipBlank_eq_self (by simp [Text.startsBlank, blank])]
      simp
    have message : Text.skipBlank (' ' :: d.message) = d.message :=
      Text.skipBlank_eq_self h.message_head
    refine .inr ⟨_, _, _, Numeral.readable_ofNat ha, Numeral.readable_ofNat hb, opened, ?_⟩
    rw [message, Numeral.toNat_ofNat, Numeral.toNat_ofNat, ← start, ← stop]
  · have unopened : Text.skipBlank (d.locationText ++ d.message) = d.message := by
      rw [locationText_of_absent start stop]
      exact Text.skipBlank_eq_self h.message_head
    rw [unopened]
    exact .inl ⟨head, congrArg₂ (Diagnostic.mk d.kind d.message) start stop⟩

/-- A line that is written for a representable diagnostic expects that diagnostic. -/
theorem read_text {lead : Text} {d : Diagnostic} (hl : Lead lead) (h : d.Representable)
    (writable : d.Writable) : read (lead ++ d.text ++ ['\n']) = .ok (some d) := by
  have some : d.text ≠ [] := by simp [Diagnostic.text]
  have head : Text.startsBlank d.text = false := by
    have unblank := h.kind_head
    cases hk : d.kind with
    | nil =>
      have colon : isBlank ':' = false := by decide
      simp only [Diagnostic.text, hk]
      exact colon
    | cons c t =>
      rw [hk] at unblank
      simp only [Diagnostic.text, hk]
      exact unblank
  have whole := body_append hl (getLast?_text h) (newline_not_mem_text h) head some
  rw [read_eq_some_iff, whole]
  exact ⟨some, readBody_text h writable⟩

end Expectation

end DiagCheck
