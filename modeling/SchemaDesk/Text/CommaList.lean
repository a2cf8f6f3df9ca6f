import SchemaDesk.Text.Blank
import SchemaDesk.Text.Pieces

/-!
# Comma lists

A comma list writes several tokens in one text. Blanks around a token do not belong to it, and
an empty token is kept: the text `a,,b` has three tokens.
-/

namespace SchemaDesk.Text.CommaList

/-- The tokens of a comma list: the pieces between its commas, trimmed. -/
def tokens (text : Text) : List Text := (text.cutAll ',').map trim

/-- Tokens written as a comma list, a comma and a space between two of them. -/
def joined (tokens : List Text) : Text := List.intercalate (ofString ", ") tokens

/-- A comma list has one token more than it has commas. -/
theorem length_tokens (text : Text) : (tokens text).length = text.count (.char ',') + 1 := by
  simp [tokens, length_cutAll]

end SchemaDesk.Text.CommaList
