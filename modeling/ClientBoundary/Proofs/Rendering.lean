import ClientBoundary.Block
import ClientBoundary.Proofs.Utf8

/-!
# Rendered blocks

The text of a list of blocks is the text of each block ended by a line feed, and the bytes of a
copied statement are those of the source.

## Main definitions

* `terminated`: texts one below the other, each of them ended by a line feed.

## Main results

* `renderBlocks_eq_ok_iff`: the text of a list of blocks in terms of the texts of the blocks.
* `exists_copied_texts`: copied statements have the bytes of the source.
-/

namespace ClientBoundary

/-- Texts one below the other, each of them ended by a line feed. -/
def terminated (texts : List String) : String :=
  String.join (texts.map (· ++ "\n"))

theorem intercalate_append_lineFeed {texts : List String} (h : texts ≠ []) :
    "\n".intercalate texts ++ "\n" = terminated texts := by
  induction texts with
  | nil => exact absurd rfl h
  | cons text texts ih =>
    cases texts with
    | nil => simp [terminated]
    | cons next texts =>
      have hrest := ih (List.cons_ne_nil next texts)
      rw [String.intercalate_cons_cons, String.append_assoc, hrest]
      simp [terminated]

/-- Blocks have a text when each of them does. -/
theorem renderBlocks_eq_ok_iff {bytes : Bytes} {blocks : List Block} {text : String}
    (h : blocks ≠ []) :
    renderBlocks bytes blocks = .ok text ↔
      ∃ texts, List.Forall₂ (fun block text ↦ block.text bytes = .ok text) blocks texts ∧
        text = terminated texts := by
  simp only [renderBlocks, bind_eq_ok_iff, pure_eq_ok_iff, mapM_eq_ok_iff]
  have hterminated {texts : List String}
      (htexts : List.Forall₂ (fun block text ↦ Block.text bytes block = .ok text) blocks texts) :
      "\n".intercalate texts ++ "\n" = terminated texts := by
    apply intercalate_append_lineFeed
    rintro rfl
    exact h (List.forall₂_nil_right_iff.mp htexts)
  constructor
  · rintro ⟨texts, htexts, rfl⟩
    exact ⟨texts, htexts, hterminated htexts⟩
  · rintro ⟨texts, htexts, rfl⟩
    exact ⟨texts, htexts, hterminated htexts⟩

/-- The bytes of a statement's text are those it covers in the source. -/
theorem encode_of_sourceText {s : CodeTree} {bytes : Bytes} {text : String}
    (h : s.sourceText bytes = .ok text) :
    Utf8.encode text = bytes.slice s.label.span.start s.label.span.stop :=
  Utf8.encode_of_decode (mapError_eq_ok_iff.mp h)

/-- Statements whose bytes can be read are copied with the bytes they cover in the source. -/
theorem exists_copied_texts {bytes : Bytes} (statements : List CodeTree)
    (h : ∀ s ∈ statements, ∃ text, s.sourceText bytes = .ok text) :
    ∃ texts,
      List.Forall₂ (fun block text ↦ Block.text bytes block = .ok text)
        (statements.map .copy) texts ∧
      texts.map Utf8.encode =
        statements.map fun s ↦ bytes.slice s.label.span.start s.label.span.stop := by
  induction statements with
  | nil => exact ⟨[], .nil, rfl⟩
  | cons s statements ih =>
    obtain ⟨text, htext⟩ := h s List.mem_cons_self
    obtain ⟨texts, htexts, hbytes⟩ := ih fun t ht ↦ h t (List.mem_cons_of_mem s ht)
    refine ⟨text :: texts, .cons htext htexts, ?_⟩
    rw [List.map_cons, List.map_cons, hbytes, encode_of_sourceText htext]

end ClientBoundary
