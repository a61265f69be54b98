/-!
The tokens a message is written with: `{identifier}` and `{identifier:params}`.

A token is kept as what it says, its identifier and its parameters. The written form is computed
from them, since the grammar leaves no choice in how a token is spelled.
-/

namespace MessageTemplate

/-- A range of bytes: it starts at `start` and ends before `stop`. -/
structure Span where
  start : Nat
  stop : Nat
  deriving DecidableEq, Repr

/-- The span moved `offset` bytes to the right. -/
def Span.shift (span : Span) (offset : Nat) : Span :=
  ⟨span.start + offset, span.stop + offset⟩

/-- Identifiers are made of ASCII letters, digits and underscores. -/
def isIdentifierChar (c : Char) : Bool :=
  c.isAlphanum || c = '_'

/-- Whether a token can carry this name: it is not empty and holds identifier characters only. -/
def isIdentifier (name : String) : Bool :=
  !name.isEmpty && name.toList.all isIdentifierChar

/-- A token of a message. The identifier is kept as it was written; `params` is what stands between
the first colon and the closing brace, and is absent where there is no colon. -/
structure Token where
  identifier : String
  params : Option String
  deriving DecidableEq, Repr

/-- The part of a written token that holds its parameters. -/
def Token.rawParams : Option String → String
  | none => ""
  | some params => ":" ++ params

/-- The token as it is written, braces included. -/
def Token.raw (token : Token) : String :=
  "\x7b" ++ token.identifier ++ Token.rawParams token.params ++ "\x7d"

/-- Reads a token behind its opening brace. The identifier is as long as it can be; parameters run
to the first closing brace, whatever stands between. Gives the token and the characters behind it. -/
def Token.read? (cs : List Char) : Option (Token × List Char) :=
  let name := cs.takeWhile isIdentifierChar
  if name.isEmpty then none
  else match cs.dropWhile isIdentifierChar with
    | '}' :: rest => some (⟨String.ofList name, none⟩, rest)
    | ':' :: body =>
      match body.dropWhile (· != '}') with
      | _ :: rest => some (⟨String.ofList name, some (String.ofList (body.takeWhile (· != '}')))⟩, rest)
      | [] => none
    | _ => none

/-- What follows a token is shorter than what follows its opening brace. -/
theorem Token.length_lt_of_read? {cs rest : List Char} {token : Token}
    (h : Token.read? cs = some (token, rest)) : rest.length < cs.length := by
  have hdrop : ∀ (p : Char → Bool) (l : List Char), (l.dropWhile p).length ≤ l.length :=
    fun p l => (List.dropWhile_sublist p).length_le
  have hname := hdrop isIdentifierChar cs
  unfold Token.read? at h
  simp only at h
  split at h
  · simp at h
  · split at h
    · next heq =>
      simp only [Option.some.injEq, Prod.mk.injEq] at h
      rw [heq, h.2] at hname
      simp at hname
      omega
    · next body heq =>
      split at h
      · next heq' =>
        simp only [Option.some.injEq, Prod.mk.injEq] at h
        have hbody := hdrop (· != '}') body
        rw [heq', h.2] at hbody
        rw [heq] at hname
        simp at hname hbody
        omega
      · simp at h
    · simp at h

end MessageTemplate
