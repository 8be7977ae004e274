import VersionGate.Text.Utf8

/-!
# Decoded texts

Bytes are decoded exactly when they are the encoding of a text, and then as that text. The
encoding of a text whose characters take one byte each is as long as the text.
-/

namespace VersionGate.Text

variable {content : ByteArray} {text : String}

/-- The encoding of a text is that text again. -/
theorem fromUTF8?_toUTF8 (text : String) : String.fromUTF8? text.toUTF8 = some text :=
  dif_pos text.isValidUTF8

/-- Bytes are decoded as the text that they are the encoding of. -/
theorem decodeUtf8_eq_ok_iff :
    decodeUtf8 content = .ok text ↔ String.fromUTF8? content = some text := by
  unfold decodeUtf8
  split
  · next text' htext => rw [htext, Except.ok.injEq, Option.some.injEq]
  · next hnone => simp [hnone]

/-- Bytes have a fault when they are the encoding of no text. -/
theorem exists_decodeUtf8_error_iff :
    (∃ fault, decodeUtf8 content = .error fault) ↔ String.fromUTF8? content = none := by
  unfold decodeUtf8
  split
  · next text htext => simp [htext]
  · next hnone => simp [hnone]

/-- A text whose characters all take one byte is encoded with one byte for each of them. -/
theorem size_toUTF8_ofList {characters : List Char} (hone : ∀ c ∈ characters, c.utf8Size = 1) :
    (String.ofList characters).toUTF8.size = characters.length := by
  induction characters with
  | nil => rfl
  | cons c characters ih =>
    obtain ⟨hc, hrest⟩ := List.forall_mem_cons.mp hone
    have hcons : (String.ofList (c :: characters)).utf8ByteSize =
        c.utf8Size + (String.ofList characters).utf8ByteSize := by
      rw [String.ofList_cons, String.utf8ByteSize_append, String.utf8ByteSize_singleton]
    rw [List.length_cons, ← ih hrest, Nat.add_comm, ← hc]
    exact hcons

end VersionGate.Text
