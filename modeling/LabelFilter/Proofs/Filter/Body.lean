import LabelFilter.Filter.Body
import LabelFilter.Proofs.Json.Document
import LabelFilter.Proofs.Json.Octets

/-!
# Decoded bodies

What the tree of a text says about the body or the file that holds the text.

## Main results

* `decodeText_eq_ok_iff` — when a text is decoded, and to what
* `decodeBody_of_spells` — decoding a body that spells a tree
-/

namespace LabelFilter

open Json (Decoder Doc Document Spells octets)

variable {α : Type} {decode : Decoder α}

theorem decodeText_eq_ok_iff {text : List Json.Octet} {a : α} : decodeText decode text = .ok a ↔
    decode (Document.ofOctets text).root = .ok a ∧ (Document.ofOctets text).trailing = false := by
  rw [decodeText]
  dsimp only
  cases decode (Document.ofOctets text).root <;>
    cases (Document.ofOctets text).trailing <;>
    simp [bind, Except.bind, pure, Except.pure, throw, throwThe, MonadExceptOf.throw]

/-- What a text that spells a tree is decoded to. -/
theorem decodeText_of_spells {text : List Json.Octet} {d : Doc} (h : Spells text d) :
    decodeText decode text = decode d := by
  rw [decodeText, h.document]
  cases decode d <;> rfl

/-- What a body that is not too long is decoded to. -/
theorem decodeBody_of_le {body : ByteArray} (hsize : body.size ≤ maxBodySize) :
    decodeBody decode body = (decodeText decode body.toList).mapError .malformed :=
  if_neg (Nat.not_lt.mpr hsize)

/-- What a body that spells a tree is decoded to. -/
theorem decodeBody_of_spells {body : ByteArray} {d : Doc} (h : Spells body.toList d)
    (hsize : body.size ≤ maxBodySize) :
    decodeBody decode body = (decode d).mapError .malformed := by
  rw [decodeBody_of_le hsize, decodeText_of_spells h]

/-- What a text that spells a tree is decoded to as a body. -/
theorem decodeBody_toUTF8 (decode : Decoder α) {text : String} {d : Doc}
    (h : Spells (octets text) d) (hsize : text.toUTF8.size ≤ maxBodySize) :
    decodeBody decode text.toUTF8 = (decode d).mapError .malformed :=
  decodeBody_of_spells (by rwa [Json.toList_toUTF8]) hsize

end LabelFilter
