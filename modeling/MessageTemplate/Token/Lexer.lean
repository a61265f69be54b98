import MessageTemplate.Token

/-!
Cutting a message into pieces. A piece is a complete token, a run of characters other than the
opening brace, or a single opening brace at which no token begins. Nothing is dropped, so the
pieces written one after the other are the message again.
-/

namespace MessageTemplate

/-- A piece of a message. -/
inductive Piece where
  | token (t : Token)
  | literal (s : String)
  deriving DecidableEq, Repr

/-- The piece as it is written. -/
def Piece.raw : Piece → String
  | .token t => t.raw
  | .literal s => s

/-- The pieces of a message, left to right. A brace that opens no token is a piece of its own: it
neither hides a token that begins behind it nor becomes part of one. -/
def pieces (cs : List Char) : List Piece :=
  match cs with
  | [] => []
  | c :: rest =>
    if c = '{' then
      match _h : Token.read? rest with
      | some (t, behind) => .token t :: pieces behind
      | none => .literal "\x7b" :: pieces rest
    else
      .literal (String.ofList (c :: rest.takeWhile (· != '{'))) :: pieces (rest.dropWhile (· != '{'))
termination_by cs.length
decreasing_by
  · have := Token.length_lt_of_read? _h
    simp only [List.length_cons]
    omega
  · simp
  · have := (List.dropWhile_sublist (· != '{') (l := rest)).length_le
    simp only [List.length_cons]
    omega

/-- Gives each piece the bytes it takes, from byte `offset` on. -/
def layOut (offset : Nat) : List Piece → List (Piece × Span)
  | [] => []
  | piece :: rest =>
    let stop := offset + piece.raw.utf8ByteSize
    (piece, ⟨offset, stop⟩) :: layOut stop rest

/-- The pieces of a message with the bytes they take. -/
def lex (message : String) : List (Piece × Span) :=
  layOut 0 (pieces message.toList)

end MessageTemplate
