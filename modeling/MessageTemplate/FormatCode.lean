/-!
Format codes: a section sign and one character that names a color or a style. Here are the rule for
that character and the removal of all codes from a text.
-/

namespace MessageTemplate

/-- The character that starts every format code. -/
def sectionSign : Char := '§'

/-- The characters that stand for a color or a style: `0` to `9`, `a` to `f`, `k` to `o`, `r`. -/
def isFormatCode (c : Char) : Bool :=
  ('0' ≤ c && c ≤ '9') || ('a' ≤ c && c ≤ 'f') || ('k' ≤ c && c ≤ 'o') || c = 'r'

/-- Whether a text is exactly one format code. -/
def isWholeFormatCode (s : String) : Bool :=
  match s.toList with
  | [sign, c] => sign = sectionSign && isFormatCode c
  | _ => false

/-- A format code: the section sign with a character that stands for a color or a style. -/
def IsCode (code : List Char) : Prop :=
  ∃ c, code = [sectionSign, c] ∧ isFormatCode c = true

theorem isWholeFormatCode_iff {s : String} : isWholeFormatCode s = true ↔ IsCode s.toList := by
  rw [isWholeFormatCode]
  constructor
  · intro h
    split at h
    next sign c hlist =>
      obtain ⟨rfl, hc⟩ : sign = sectionSign ∧ isFormatCode c = true := by simpa using h
      exact ⟨c, hlist, hc⟩
    next => cases h
  · rintro ⟨c, hlist, hc⟩
    rw [hlist]
    simpa using hc

/-- The characters that are left when every format code is taken out, from left to right. The characters are
gone through once: what comes to stand side by side when a code between is taken out is not looked at
again. -/
def stripChars : List Char → List Char
  | [] => []
  | [c] => [c]
  | c :: d :: rest =>
    if c = sectionSign && isFormatCode d then stripChars rest else c :: stripChars (d :: rest)

/-- The text without its format codes. -/
def stripFormatting (s : String) : String :=
  String.ofList (stripChars s.toList)

end MessageTemplate
