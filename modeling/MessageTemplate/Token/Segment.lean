import MessageTemplate.Token.Lexer

/-!
Messages as segments: tokens, and the literal text between them. Neighbouring literal pieces are
joined, so two texts never stand side by side and none is empty: a message has one list of segments.
-/

namespace MessageTemplate

/-- A segment of a message: literal text, or a token and the bytes it takes. -/
inductive Segment where
  | text (s : String)
  | token (t : Token) (span : Span)
  deriving DecidableEq, Repr

/-- The segment as it is written. -/
def Segment.raw : Segment → String
  | .text s => s
  | .token t _ => t.raw

/-- A text as a segment, none when there is nothing to hold. -/
def Segment.ofText (s : String) : List Segment :=
  if s.isEmpty then [] else [.text s]

/-- Joins the literal pieces between tokens. `literal` is the text since the last token. -/
def join (literal : String) : List (Piece × Span) → List Segment
  | [] => Segment.ofText literal
  | (.literal s, _) :: rest => join (literal ++ s) rest
  | (.token t, span) :: rest => Segment.ofText literal ++ .token t span :: join "" rest

/-- The segments of a message, left to right. -/
def scan (message : String) : List Segment :=
  join "" (lex message)

/-- The tokens among segments, with the bytes they take. -/
def Segment.tokens : List Segment → List (Token × Span)
  | [] => []
  | .text _ :: rest => Segment.tokens rest
  | .token t span :: rest => (t, span) :: Segment.tokens rest

/-- The tokens of a message, left to right. -/
def tokens (message : String) : List (Token × Span) :=
  Segment.tokens (scan message)

/-- Whether a piece is a token. -/
def Piece.isToken : Piece → Bool
  | .token _ => true
  | .literal _ => false

/-- Whether a message has any token. -/
def hasTokens (message : String) : Bool :=
  (lex message).any (·.1.isToken)

end MessageTemplate
