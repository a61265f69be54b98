import MessageTemplate.Palette

/-!
Gradients: colors spread evenly over the characters or the words of a text. With `n` items and `k`
colors, item `i` takes color `⌊i * k / n⌋`, so the shares of two colors differ by at most one item.
-/

namespace MessageTemplate

/-- The color that item `i` of `total` takes from `colors` many. -/
def gradientIndex (i total colors : Nat) : Nat :=
  min (i * colors / total) (colors - 1)

namespace Palette

/-- The code of a color; white stands in for a name that the palette does not have. -/
def codeOrWhite (palette : Palette) (name : String) : String :=
  (palette.code? name).getD "§f"

/-- The code that item `i` of `total` is given. -/
def gradientCode (palette : Palette) (colors : List String) (i total : Nat) : String :=
  palette.codeOrWhite (colors.getD (gradientIndex i total colors.length) "")

/-- Puts a color's code before every character. Without colors the text stays as it is. -/
def characterGradient (palette : Palette) (colors : List String) (s : String) : String :=
  if colors.isEmpty then s
  else
    let cs := s.toList
    let total := cs.length
    String.ofList (cs.zipIdx.flatMap fun (c, i) =>
      (palette.gradientCode colors i total).toList ++ [c])

/-- The words of a text: what stands before, between and after its spaces. -/
def words : List Char → List (List Char)
  | [] => [[]]
  | c :: rest =>
    if c = ' ' then [] :: words rest
    else match words rest with
      | word :: more => (c :: word) :: more
      | [] => [[c]]

/-- Puts a color's code before every word. Without colors the text stays as it is. -/
def wordGradient (palette : Palette) (colors : List String) (s : String) : String :=
  if colors.isEmpty then s
  else
    let ws := words s.toList
    let total := ws.length
    String.ofList ([' '].intercalate (ws.zipIdx.map fun (word, i) =>
      (palette.gradientCode colors i total).toList ++ word))

end Palette

end MessageTemplate
