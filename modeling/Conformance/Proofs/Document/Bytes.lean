import Conformance.Proofs.Document.Accepted
import Conformance.Proofs.Document.Equality
import Conformance.Proofs.Json.Clean
import Conformance.Proofs.Text.Forms
import Conformance.Validation.Request

/-!
# JSON in bytes

JSON begins with a basic character and holds no zero anywhere: outside of strings there are but
spaces, numerals, words and marks, and inside of a string every control character is escaped. So the
encoding of JSON in bytes is always detected, and the bytes of a text mean the document of the text.
Bytes that are the form of no text are refused like any malformed text.
-/
namespace Conformance

namespace Json

/-- No code point is zero. -/
def Inked (t : Text) : Prop := ∀ c ∈ t, c.toNat ≠ 0

instance (t : Text) : Decidable (Inked t) := inferInstanceAs (Decidable (∀ c ∈ t, _))

namespace Inked

variable {c : CodePoint} {t u : Text}

theorem cons (point : c.toNat ≠ 0) (more : Inked t) : Inked (c :: t) :=
  List.forall_mem_cons.mpr ⟨point, more⟩

theorem append (first : Inked t) (second : Inked u) : Inked (t ++ u) :=
  List.forall_mem_append.mpr ⟨first, second⟩

end Inked

/-- A space is a basic character and no zero. -/
theorem basic_of_isSpace {c : CodePoint} (space : isSpace c = true) :
    c.toNat < 0x80 ∧ c.toNat ≠ 0 := by
  simp only [isSpace, Bool.or_eq_true, decide_eq_true_eq] at space
  rcases space with ((rfl | rfl) | rfl) | rfl
  all_goals decide

theorem ne_zero_of_inNumeral {c : CodePoint} (inside : InNumeral c) : c.toNat ≠ 0 := by
  rcases inside with digit | mark
  · intro zero
    rw [CodePoint.isDigit, zero] at digit
    exact absurd digit (by decide)
  · intro zero
    simp only [List.mem_cons, List.not_mem_nil, or_false] at mark
    rcases mark with rfl | rfl | rfl | rfl | rfl
    all_goals exact absurd zero (by decide)

theorem ne_zero_of_hexValue? {c : CodePoint} (digit : c.hexValue?.isSome = true) :
    c.toNat ≠ 0 := by
  intro zero
  simp [CodePoint.hexValue?, CodePoint.isDigit, zero] at digit

namespace Grammar

variable {t rest : Text}

/-! No part of a text holds a zero, so none is there if there is none behind the part. -/

theorem Space.inked (space : Space t rest) (behind : Inked rest) : Inked t := by
  obtain ⟨blank, each, rfl⟩ := space
  exact Inked.append (fun c member => (basic_of_isSpace (each c member)).2) behind

theorem Number.inked {n : Numeral} (spelled : Number t n rest) (behind : Inked rest) :
    Inked t := by
  obtain ⟨lexeme, rfl, inside⟩ := spelled.numeric
  exact Inked.append (fun c member => ne_zero_of_inNumeral (inside c member)) behind

theorem Chars.inked {pieces : List Piece} (chars : Chars t pieces rest) (behind : Inked rest) :
    Inked t := by
  induction chars with
  | close => exact behind.cons (by decide)
  | plain printable _ _ _ ih => exact (ih behind).cons (by omega)
  | short known _ ih =>
    have each : ∀ escape ∈ shortEscapes, escape.1.toNat ≠ 0 := by decide
    exact ((ih behind).cons (each _ known)).cons (by decide)
  | @unit a b c d meant t rest pieces digits _ ih =>
    have some_digit {x : CodePoint} (none : x.hexValue? = none → unit? a b c d = none) :
        x.toNat ≠ 0 := by
      apply ne_zero_of_hexValue?
      cases value : x.hexValue? with
      | some n => rfl
      | none => exact nomatch digits.symm.trans (none value)
    have first := some_digit (x := a) fun none => by simp [unit?, none]
    have second := some_digit (x := b) fun none => by simp [unit?, none]
    have third := some_digit (x := c) fun none => by simp [unit?, none]
    have fourth := some_digit (x := d) fun none => by simp [unit?, none]
    exact (((((ih behind).cons fourth).cons third).cons second).cons first).cons (by decide)
      |>.cons (by decide)

theorem Quoted.inked {content : Text} (quoted : Quoted t content rest) (behind : Inked rest) :
    Inked t := by
  obtain ⟨pieces, chars, rfl⟩ := quoted
  exact chars.inked behind

theorem Derives.inked {part : Part} (derived : Derives false t part rest) (behind : Inked rest) :
    Inked t := by
  -- Marks between the parts are no zeros, and what is around them is space.
  have mark {c : CodePoint} {t rest : Text} (point : c.toNat ≠ 0) (space : Space t (c :: rest))
      (behind : Inked rest) : Inked t := space.inked (behind.cons point)
  induction derived with
  | null | yes | no => exact Inked.append (by decide) behind
  | constant known _ => cases known
  | number spelled => exact spelled.inked behind
  | string quoted => exact (quoted.inked behind).cons (by decide)
  | emptyArray space | emptyObject space => exact (mark (by decide) space behind).cons (by decide)
  | array space _ ih | object space _ ih => exact (space.inked (ih behind)).cons (by decide)
  | lastElement _ close ih | lastMember _ close ih => exact ih (mark (by decide) close behind)
  | nextElement _ comma space _ first later | nextMember _ comma space _ first later =>
    exact first (mark (by decide) comma (space.inked (later behind)))
  | member quoted colon space _ ih =>
    exact (quoted.inked (mark (by decide) colon (space.inked (ih behind)))).cons (by decide)

theorem Writes.inked {phrase : Phrase} (writes : Writes false t phrase) : Inked t := by
  obtain ⟨inside, behind, lead, derived, tail⟩ := writes
  exact lead.inked (derived.inked (tail.inked (List.forall_mem_nil _)))

/-- A part begins with a basic character. -/
theorem Derives.basic {part : Part} (derived : Derives false t part rest) :
    ∃ c more, t = c :: more ∧ c.toNat < 0x80 := by
  induction derived with
  | null | yes | no => exact ⟨_, _, rfl, by decide⟩
  | constant known _ => cases known
  | number spelled =>
    obtain ⟨c, more, digit, rfl | rfl⟩ := spelled.starts
    · refine ⟨_, _, rfl, ?_⟩
      simp only [CodePoint.isDigit, Bool.and_eq_true, decide_eq_true_eq] at digit
      omega
    · exact ⟨_, _, rfl, by decide⟩
  | string | emptyArray | array | emptyObject | object | member => exact ⟨_, _, rfl, by decide⟩
  | lastElement _ _ ih | lastMember _ _ ih => exact ih
  | nextElement _ _ _ _ ih _ | nextMember _ _ _ _ ih _ => exact ih

/-- So does a whole text, with the first of its spaces if it has some in front. -/
theorem Writes.basic {phrase : Phrase} (writes : Writes false t phrase) :
    ∃ c more, t = c :: more ∧ c.toNat < 0x80 := by
  obtain ⟨inside, behind, ⟨blank, each, rfl⟩, derived, _⟩ := writes
  cases blank with
  | nil => exact derived.basic
  | cons c blank => exact ⟨c, _, rfl, (basic_of_isSpace (each c List.mem_cons_self)).1⟩

end Grammar

/-- JSON is read back from each of its forms. -/
theorem decodeDetected_of_writes {t : Text} {phrase : Phrase}
    (writes : Grammar.Writes false t phrase) (scalar : t.Scalar) (encoding : Encoding)
    (marked : Bool) : Encoding.decodeDetected (encoding.form marked t) = .ok t := by
  obtain ⟨c, more, rfl, basic⟩ := writes.basic
  exact Encoding.decodeDetected_form basic writes.inked scalar encoding marked

end Json

namespace Document

variable {t : Text} {document : Document}

/-- The bytes of a text mean what the text means. -/
theorem ofJson_form (read : ofJson (.text t) = .ok document) (scalar : t.Scalar)
    (encoding : Encoding) (marked : Bool) :
    ofJson (.bytes (encoding.form marked t)) = .ok document := by
  obtain ⟨datum, decoded, converted⟩ := ofJson_text_eq_ok_iff.mp read
  obtain ⟨phrase, writes, _⟩ := Json.decode_eq_ok_iff.mp decoded
  -- Text and bytes go through one reader once the bytes are decoded.
  have known : Json.readText .document t = .ok datum := by
    rw [Json.decode] at decoded
    split at decoded
    · cases decoded
    · exact mapError_eq_ok_iff.mp decoded
  have bytes : Json.decodeBytes .document (encoding.form marked t) = .ok datum := by
    rw [Json.decodeBytes, Json.decodeDetected_of_writes writes scalar encoding marked]
    exact mapError_eq_ok_iff.mpr known
  exact ofJson_eq_ok_iff.mpr ⟨datum, bytes, converted⟩

/-- Bytes that are the form of no text are refused as such. -/
theorem exists_undecodable {bytes : Bytes} (strange : ¬Encoding.IsForm bytes) :
    ∃ error, ofJson (.bytes bytes) = .error (.json (.undecodable error)) := by
  cases decoded : Encoding.decodeDetected bytes with
  | ok t => exact absurd ((Encoding.exists_decodeDetected_iff bytes).mp ⟨t, decoded⟩) strange
  | error error =>
    refine ⟨error, ?_⟩
    simp only [ofJson, Json.decodeBytes, decoded]

end Document

/-- A text arrives as it is, or in bytes of one of the encodings with a mark or without. -/
inductive Source.Carries (t : Text) : Source → Prop where
  | text : Carries t (.text t)
  | bytes (encoding : Encoding) (marked : Bool) : Carries t (.bytes (encoding.form marked t))

namespace Validation

theorem readDocument_of_carries {t : Text} {document : Document} {source : Source}
    (read : Document.ofJson (.text t) = .ok document) (scalar : t.Scalar)
    (carries : source.Carries t) : readDocument source = .ok document := by
  apply mapError_eq_ok_iff.mpr
  cases carries with
  | text => exact read
  | bytes encoding marked => exact Document.ofJson_form read scalar encoding marked

/-- JSON in bytes means the document of its text, which is structurally equal to itself and has its
members in the same order. Bytes that no text has in the encoding that they give away are malformed.
So a validation comes to the same whichever of schema and instance arrive as text and which in
bytes. -/
theorem bytes_mean_their_text :
    (∀ (t : Text) (document : Document), Document.ofJson (.text t) = .ok document → t.Scalar →
      ∀ encoding marked, ∃ read,
        Document.ofJson (.bytes (Encoding.form encoding marked t)) = .ok read ∧
          document.structurallyEqual read = true ∧ read = document) ∧
    (∀ bytes : Bytes, ¬Encoding.IsForm bytes → ∃ error,
      Document.ofJson (.bytes bytes) = .error error ∧
        (Failure.document error).className = "DocumentSyntaxError") ∧
    ∀ (s i : Text) (asked held : Document), Document.ofJson (.text s) = .ok asked → s.Scalar →
      Document.ofJson (.text i) = .ok held → i.Scalar →
        ∀ schema inst : Source, schema.Carries s → inst.Carries i → ∀ environment given,
          validateText environment given schema inst =
            validateText environment given (.text s) (.text i) := by
  refine ⟨fun t document read scalar encoding marked => ?_, fun bytes strange => ?_, ?_⟩
  · have named := Document.wellNamed_of_ofJson read
    exact ⟨document, Document.ofJson_form read scalar encoding marked,
      Document.structurallyEqual_of_alike (.refl named), rfl⟩
  · obtain ⟨error, refused⟩ := Document.exists_undecodable strange
    exact ⟨_, refused, (Document.classified_of_ofJson refused).1⟩
  · intro s i asked held first scalar second scalar' schema inst carries carries' environment given
    rw [validateText, validateText, readDocument_of_carries first scalar carries,
      readDocument_of_carries first scalar .text, readDocument_of_carries second scalar' carries',
      readDocument_of_carries second scalar' .text]

/-- A string of one letter. Its second unit has a low byte of zero, so that in UTF-16 two zero bytes
stand side by side. -/
def macron : Text := "\"\u0100\""

theorem bytes_mean_their_text_macron :
    Document.ofJson (.text macron) = .ok (.string "\u0100") ∧ macron.Scalar ∧
      Encoding.form (.utf16 false) false macron = [0x22, 0x00, 0x00, 0x01, 0x22, 0x00] ∧
      (∃ read, Document.ofJson (.bytes [0x22, 0x00, 0x00, 0x01, 0x22, 0x00]) = .ok read ∧
        read = .string "\u0100") ∧
      ¬Encoding.IsForm [0xFF] ∧ ∃ error, Document.ofJson (.bytes [0xFF]) = .error error ∧
        (Failure.document error).className = "DocumentSyntaxError" := by
  have read : Document.ofJson (.text macron) = .ok (.string "\u0100") := by rfl
  have scalar : macron.Scalar := Text.scalar_ofString _
  have strange : ¬Encoding.IsForm [0xFF] := by
    intro formed
    obtain ⟨t, decoded⟩ := (Encoding.exists_decodeDetected_iff _).mpr formed
    cases decoded
  obtain ⟨same, refused, _⟩ := bytes_mean_their_text
  obtain ⟨document, known, _, equal⟩ := same macron _ read scalar (.utf16 false) false
  exact ⟨read, scalar, by decide, ⟨document, known, equal⟩, strange, refused _ strange⟩

end Validation
end Conformance
