import SchemaDesk.Text.Hexadecimal

/-!
# Draws of identifiers

Identifiers of fields and of sessions are drawn from a source. The source is a queue of given
tokens; once the queue is empty, the n-th draw is the number n in 32 hexadecimal digits. A fresh
identifier is the first token drawn that is not taken. The search is bounded by the tokens queued
and the identifiers taken, because the numbered tokens are all different.
-/

namespace SchemaDesk

/-- A source of identifiers. -/
structure Draws where
  /-- The tokens that are drawn next. -/
  queued : List Text
  /-- The number of tokens drawn so far. -/
  drawn : Nat := 0
deriving DecidableEq, Repr

namespace Draws

/-- The token of a draw after the queue: its number in 32 hexadecimal digits. -/
def numbered (number : Nat) : Text := Text.hexDigits 32 number

/-- The next token of a source, and the source after it. -/
def next (draws : Draws) : Text × Draws :=
  match draws.queued with
  | token :: rest => (token, ⟨rest, draws.drawn + 1⟩)
  | [] => (numbered (draws.drawn + 1), ⟨[], draws.drawn + 1⟩)

/-- The first token that is not taken among the next tokens, at most one more than `tries`. -/
def freshWithin (taken : List Text) : Nat → Draws → Text × Draws
  | 0, draws => draws.next
  | tries + 1, draws =>
    if draws.next.1 ∈ taken then freshWithin taken tries draws.next.2 else draws.next

/-- The first token drawn that is not taken, and the source after it. -/
def fresh (taken : List Text) (draws : Draws) : Text × Draws :=
  freshWithin taken (draws.queued.length + taken.length) draws

end Draws

/-- A computation that draws identifiers and may end with a refusal, which undoes no draw. -/
abbrev Drawing (ε α : Type) : Type := ExceptT ε (StateM Draws) α

/-- An identifier that is not taken. -/
def Drawing.freshId {ε : Type} (taken : List Text) : Drawing ε Text :=
  ExceptT.lift fun draws => Draws.fresh taken draws

end SchemaDesk
