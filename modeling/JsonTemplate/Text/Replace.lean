import JsonTemplate.Text.Basic

set_option autoImplicit false

/-! Find and replace, and the entities of markup. All occurrences of a pattern are replaced in
one pass from left to right; an occurrence that begins inside one already replaced does not
count, and the text put in is not looked at again. Characters that markup reserves are written
as entities, and read back, by a row of such replacements. The ampersand begins every entity, so
it is escaped first and unescaped last: no replacement sees what another one wrote as a character
of its own. -/

namespace JsonTemplate.Text

/-- The pass of `replaceAll` with `passing` characters still to leave out, because they
belong to an occurrence that has been replaced. -/
def replaceFrom (pattern replacement : Text) : Nat → Text → Text
  | _, [] => []
  | passing + 1, _ :: rest => replaceFrom pattern replacement passing rest
  | 0, char :: rest =>
      if pattern.isPrefixOf (char :: rest) then
        replacement ++ replaceFrom pattern replacement (pattern.length - 1) rest
      else
        char :: replaceFrom pattern replacement 0 rest

/-- Replace every occurrence of a pattern of one character or more. -/
def replaceAll (pattern replacement text : Text) : Text :=
  replaceFrom pattern replacement 0 text

theorem replaceFrom_drop (pattern replacement : Text) (passing : Nat) (text : Text) :
    replaceFrom pattern replacement passing text =
      replaceAll pattern replacement (text.drop passing) := by
  induction text generalizing passing with
  | nil => cases passing <;> rfl
  | cons char rest ih =>
      cases passing with
      | zero => rfl
      | succ passing => exact ih passing

@[simp] theorem replaceAll_nil (pattern replacement : Text) :
    replaceAll pattern replacement [] = [] := rfl

theorem replaceAll_append (pattern replacement rest : Text) (nonempty : pattern ≠ []) :
    replaceAll pattern replacement (pattern ++ rest) =
      replacement ++ replaceAll pattern replacement rest := by
  cases pattern with
  | nil => exact absurd rfl nonempty
  | cons char pattern =>
      have begins : (char :: pattern).isPrefixOf (char :: (pattern ++ rest)) = true := by
        rw [List.isPrefixOf_iff_prefix, ← List.cons_append]
        exact List.prefix_append _ _
      rw [List.cons_append, replaceAll, replaceFrom, if_pos begins, replaceFrom_drop]
      simp

theorem replaceAll_cons (pattern replacement rest : Text) (char : Char)
    (elsewhere : pattern.isPrefixOf (char :: rest) = false) :
    replaceAll pattern replacement (char :: rest) =
      char :: replaceAll pattern replacement rest := by
  rw [replaceAll, replaceFrom, if_neg (by simp [elsewhere])]
  rfl

theorem replaceAll_singleton (pattern : Char) (replacement text : Text) :
    replaceAll [pattern] replacement text =
      text.flatMap (fun char => if char = pattern then replacement else [char]) := by
  induction text with
  | nil => rfl
  | cons char rest ih =>
      by_cases same : char = pattern
      · have unfolded := replaceAll_append [pattern] replacement rest (by simp)
        rw [List.singleton_append] at unfolded
        rw [same, unfolded, ih, List.flatMap_cons, if_pos rfl]
      · rw [replaceAll_cons _ _ _ _ (by simpa [List.isPrefixOf] using Ne.symm same), ih,
          List.flatMap_cons, if_neg same]
        rfl

namespace Entities

def ampersand : Char × Text := ('&', "&amp;".toList)

def others : List (Char × Text) :=
  [('"', "&quot;".toList), ('\x27', "&apos;".toList), ('<', "&lt;".toList), ('>', "&gt;".toList)]

def entities : List (Char × Text) := ampersand :: others

/-- The characters that begin and end a tag, and their entities. -/
def tagEntities : List (Char × Text) := [('<', "&lt;".toList), ('>', "&gt;".toList)]

def escapeWith (table : List (Char × Text)) (text : Text) : Text :=
  table.foldl (fun done entity => Text.replaceAll [entity.1] entity.2 done) text

def unescapeWith (table : List (Char × Text)) (text : Text) : Text :=
  table.foldl (fun done entity => Text.replaceAll entity.2 [entity.1] done) text

def escape (text : Text) : Text := escapeWith entities text

def unescape (text : Text) : Text := unescapeWith (others ++ [ampersand]) text

def escapeTags (text : Text) : Text := escapeWith tagEntities text

end Entities
end JsonTemplate.Text
