import JsonTemplate.Proofs.Path.Alphabet
import JsonTemplate.Proofs.Placeholder.Assembly
import JsonTemplate.Proofs.Template.SinglePass
import JsonTemplate.Proofs.Walk.Notices

set_option autoImplicit false

/-! Rewriting the placeholders of a template to the way their paths are written. The written
path fits into a placeholder and is read as the same path, and what a path resolves to does
not depend on the accessor that labels its notices. So a rewritten template has its
placeholders where the template has them, with the same values, and rendering it in one pass
comes to the same, although different placeholders may have become one. -/

namespace JsonTemplate

open JsonTemplate.Json (Value)

namespace Template

open JsonTemplate.Placeholder

def rewrittenInner (inner : Text) : Text := (Path.ofText inner).text

theorem ofText_rewrittenInner (inner : Text) :
    Path.ofText (rewrittenInner inner) = Path.ofText inner :=
  Path.ofText_text (Path.canonical_ofText inner)

theorem valueOf_rewrittenInner (root : Value) (registry : Registry) (undefinedText inner : Text) :
    valueOf root registry undefinedText (rewrittenInner inner) =
      valueOf root registry undefinedText inner := by
  unfold valueOf
  rw [ofText_rewrittenInner,
    Path.resolve_value_congr _ root (token (rewrittenInner inner)) (token inner)]

private theorem ofText_token {inner : Text} (valid : IsPathText inner) :
    Decoding.ofText (token inner) =
      ⟨[⟨token inner, Path.ofText inner⟩], [⟨0, (token inner).utf8Length, 0⟩]⟩ := by
  have entries : (Decoding.ofText (token inner)).entries = [entryOf inner] := by
    rw [entries_ofText, distinctInners_token valid]
    rfl
  have occurrences : (Decoding.ofText (token inner)).occurrences =
      [⟨0, (token inner).utf8Length, 0⟩] := by
    rw [occurrences_ofText, distinctInners_token valid, places_eq, segments_token valid]
    simp [Segment.places, occurrenceAt, Place.stop]
  calc Decoding.ofText (token inner)
      = ⟨(Decoding.ofText (token inner)).entries, (Decoding.ofText (token inner)).occurrences⟩ :=
        rfl
    _ = ⟨[⟨token inner, Path.ofText inner⟩], [⟨0, (token inner).utf8Length, 0⟩]⟩ := by
        rw [entries, occurrences]
        rfl

/-- A template with every placeholder as its path is written. -/
def rewritten (template : Text) : Text :=
  let decoding := Decoding.ofText template
  splice template (decoding.entries.map (fun entry => token entry.path.text)) 0
    decoding.occurrences

def rewrittenPiece (piece : Text × Text) : Text × Text := (piece.1, rewrittenInner piece.2)

variable {pieces : List (Text × Text)} {last : Text}

private theorem assembles_rewrittenPieces (assembles : Assembles pieces last) :
    Assembles (pieces.map rewrittenPiece) last := by
  refine ⟨?_, assembles.2⟩
  rw [List.forall_mem_map]
  intro piece member
  obtain ⟨free, valid⟩ := assembles.1 piece member
  exact ⟨free, Path.isPathText_text_ofText valid⟩

theorem rewritten_assembled (assembles : Assembles pieces last) :
    rewritten (assembled pieces last) = assembled (pieces.map rewrittenPiece) last := by
  have tokens : (Decoding.ofText (assembled pieces last)).entries.map
        (fun entry => token entry.path.text) =
      (distinctInners (assembled pieces last)).map (fun inner => token (rewrittenInner inner)) := by
    rw [entries_ofText, List.map_map]
    rfl
  unfold rewritten
  dsimp only
  rw [tokens, splice_occurrences (fun inner => token (rewrittenInner inner)),
    segments_assembled assembles, flatMap_filled_row rewrittenInner]
  rfl

private theorem filling_rewrittenPieces (value : Text → Except Failure Text)
    (same : ∀ inner, value (rewrittenInner inner) = value inner) (pieces : List (Text × Text))
    (last : Text) :
    filling value (row (pieces.map rewrittenPiece) last) = filling value (row pieces last) := by
  induction pieces with
  | nil => rfl
  | cons piece rest ih =>
      obtain ⟨gap, inner⟩ := piece
      rw [List.map_cons, rewrittenPiece, row, row, filling_append, filling_append, filling,
        filling, same, ih]

theorem render_rewritten (template : Text) (root : Value) (registry : Registry)
    (undefinedText : Text) :
    (render (rewritten template) root registry ⟨.singlePass, undefinedText⟩).value =
      (render template root registry ⟨.singlePass, undefinedText⟩).value := by
  obtain ⟨pieces, last, assembles, made⟩ := exists_assembled template
  rw [made, rewritten_assembled assembles, render_singlePass_value, render_singlePass_value,
    segments_assembled assembles, segments_assembled (assembles_rewrittenPieces assembles)]
  apply filling_rewrittenPieces
  exact valueOf_rewrittenInner root registry undefinedText

/-- The path of an entry, written between the parentheses of a placeholder, is one again and
has the same path. With its placeholders written in this way, a template has the same gaps
between them and is rendered in one pass to the same text, or fails in the same way. -/
theorem rewritten_means_same :
    (∀ text, ∀ entry ∈ (Decoding.ofText text).entries,
      let written := token entry.path.text
      IsPlaceholder written ∧
        Decoding.ofText written = ⟨[⟨written, entry.path⟩], [⟨0, written.utf8Length, 0⟩]⟩) ∧
    (∀ pieces last, Assembles pieces last →
      let writtenPieces := pieces.map (fun piece => (piece.1, (Path.ofText piece.2).text))
      Assembles writtenPieces last ∧
        rewritten (assembled pieces last) = assembled writtenPieces last) ∧
    ∀ template root registry undefinedText,
      (render (rewritten template) root registry ⟨.singlePass, undefinedText⟩).value =
        (render template root registry ⟨.singlePass, undefinedText⟩).value := by
  refine ⟨?_, ?_, render_rewritten⟩
  · intro text entry member
    rw [entries_ofText, List.mem_map] at member
    obtain ⟨inner, listed, rfl⟩ := member
    rw [distinctInners, Text.mem_firstAppearances_iff, mem_inners_iff] at listed
    have valid : IsPathText (rewrittenInner inner) := Path.isPathText_text_ofText listed.1
    refine ⟨⟨rewrittenInner inner, valid, rfl⟩, ?_⟩
    have decoded := ofText_token valid
    rw [ofText_rewrittenInner] at decoded
    exact decoded
  · intro pieces last assembles writtenPieces
    exact ⟨assembles_rewrittenPieces assembles, rewritten_assembled assembles⟩

/-- A bracket that loses its ampersands, so that two placeholders become one, and a bracket
that is closed. -/
theorem rewritten_means_same_sample :
    let pieces : List (Text × Text) :=
      [("é%(".toList, "l:v[k&&]".toList), ("%".toList, "l:v[k]".toList),
        ([], "__function:f[x".toList)]
    let template := assembled pieces ")".toList
    let entry := entryOf "l:v[k&&]".toList
    let registry :=
      Registry.empty.register ⟨['f'], fun _ params => .ok (.string (params.getD []))⟩
    let root : Value := .object [(['l'], .array [.object [(['v'], .bool true)]])]
    let rendered (template : Text) :=
      (render template root registry ⟨.singlePass, []⟩).value
    (entry ∈ (Decoding.ofText template).entries ∧
        Decoding.ofText (token entry.path.text) =
          ⟨[⟨"%(l:v[k])".toList, entry.path⟩], [⟨0, 9, 0⟩]⟩) ∧
      (Assembles pieces ")".toList ∧
        rewritten template = "é%(%(l:v[k])%%(l:v[k])%(__function:f[x]))".toList) ∧
      rendered (rewritten template) = rendered template ∧
      rendered template = .ok "é%(true%truex)".toList := by
  intro pieces template entry registry root rendered
  have listed : entry ∈ (Decoding.ofText template).entries := by decide
  have assembles : Assembles pieces ")".toList := ⟨by decide, by decide⟩
  exact ⟨⟨listed, (rewritten_means_same.1 template entry listed).2⟩,
    ⟨assembles, (rewritten_means_same.2.1 pieces _ assembles).2⟩,
    rewritten_means_same.2.2 template root registry [], rfl⟩

end Template
end JsonTemplate
