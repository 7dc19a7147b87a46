/-
What the identifier of a sprite depends on. Of a declared name only its words in lower case count: how they are
written, in which case and with which blanks before, between and after them, makes no difference. A name that is
spelled with these words and single spaces has the same identifier.
-/
import SpriteScribe.Proofs.Text.Lowercase
import SpriteScribe.Sprite.Identifier

namespace SpriteScribe.Identifier

open SpriteScribe.Text

theorem ofDeclared_eq_of_words {s t : String} (h : words (lowercase t.toList) = words (lowercase s.toList)) :
    ofDeclared t = ofDeclared s := by
  unfold ofDeclared letters
  rw [h]

/-- Words of a name in lower case are found again in the name that is made of them. -/
theorem words_lowercase_intercalate (cs : List Char) :
    words (lowercase ([' '].intercalate (words (lowercase cs)))) = words (lowercase cs) := by
  have hwords : Spaced (words (lowercase cs)) (lowercase cs) := spaced_iff.2 rfl
  have hspaced := spaced_intercalate fun w hw => ⟨(hwords.forall_mem w hw).1, (hwords.forall_mem w hw).2.1⟩
  have hlower := List.map_congr_left fun w (hw : w ∈ words (lowercase cs)) => lowercase_of_mem_words hw
  rw [words_lowercase, hspaced.words_eq, hlower, List.map_id']

/-- An identifier depends on the words of the declared name in lower case and on nothing else. There is one way to
cut a name into words. Those of the name in lower case, with single spaces between them, have the same identifier
as the name itself. They are the words of the name in lower case, whatever blanks there are, and names that have
them in common have the same identifier. -/
theorem ofDeclared_depends_on_words (s : String) :
    (∃ ws, (∀ vs, Spaced vs (lowercase s.toList) ↔ vs = ws) ∧
      ofDeclared (" ".intercalate (ws.map String.ofList)) = ofDeclared s) ∧
    (∀ vs, Spaced vs s.toList → Spaced (vs.map lowercase) (lowercase s.toList)) ∧
    ∀ t ws, Spaced ws (lowercase s.toList) → Spaced ws (lowercase t.toList) → ofDeclared t = ofDeclared s := by
  refine ⟨⟨words (lowercase s.toList), fun vs => spaced_iff, ?_⟩, fun vs hvs => hvs.lowercase, ?_⟩
  · apply ofDeclared_eq_of_words
    have htext : (" ".intercalate ((words (lowercase s.toList)).map String.ofList)).toList =
        [' '].intercalate (words (lowercase s.toList)) := by
      rw [String.toList_intercalate, List.map_map]
      simp [Function.comp_def]
    rw [htext, words_lowercase_intercalate]
  · intro t ws hs ht
    apply ofDeclared_eq_of_words
    rw [ht.words_eq, hs.words_eq]

/-- A name in capital letters, with a sigma that ends a word and with blanks of several kinds. -/
theorem ofDeclared_depends_on_words_capitals :
    Spaced ["οδος".toList, "cat".toList] (lowercase "　ΟΔΟΣ \tCAT ".toList) ∧
    Spaced ["οδος".toList, "cat".toList] (lowercase "Οδος Cat".toList) ∧
    ofDeclared "Οδος Cat" = ofDeclared "　ΟΔΟΣ \tCAT " ∧ ofDeclared "Οδος Cat" = "οδοςCat" := by
  have hcapitals : Spaced ["οδος".toList, "cat".toList] (lowercase "　ΟΔΟΣ \tCAT ".toList) :=
    spaced_iff.2 (by decide +kernel)
  have hplain : Spaced ["οδος".toList, "cat".toList] (lowercase "Οδος Cat".toList) :=
    spaced_iff.2 (by decide +kernel)
  have hsame := (ofDeclared_depends_on_words "　ΟΔΟΣ \tCAT ").2.2 _ _ hcapitals hplain
  exact ⟨hcapitals, hplain, hsame, by decide +kernel⟩

end SpriteScribe.Identifier
