import MessageTemplate.Palette.Gradient
import MessageTemplate.Proofs.Palettes
import MessageTemplate.Proofs.Stripping

/-!
Gradients and their removal.

A gradient puts codes between the characters or the words of a text, and the text may hold section signs
and codes of its own. Whether stripping takes out what was put in, and only that, is a question of
neighbours. Behind every character of a character gradient stands a code or nothing, so no character of the
text meets one that would make a code with it: all of them stay (`stripChars_interleave`). In a word
gradient the characters of a word keep their neighbours, and behind a word stands a space, which ends no
code. The words are stripped as they would be in the text (`stripChars_intercalate`), so the codes of the
text are lost with those of the gradient.

Which color an item takes does not matter to this; it is enough that every color has a code.
-/

namespace MessageTemplate

/-! ## Codes of colors -/

/-- A name that the palette does not have is given the code of white, so every name has a code. -/
theorem Palette.HasFormatCodes.isCode_gradientCode {palette : Palette} (h : palette.HasFormatCodes)
    (colors : List String) (i total : Nat) : IsCode (palette.gradientCode colors i total).toList := by
  unfold Palette.gradientCode Palette.codeOrWhite Palette.code?
  generalize Text.lowercase _ = name
  cases hcode : palette.table.get? name with
  | none => exact isWholeFormatCode_iff.mp (by decide)
  | some code => exact h (name, code) (Table.mem_entries_of_get?_eq hcode)

/-! ## Characters -/

/-- A code before every character: stripping takes out the codes and keeps the characters. The induction
carries along that the colored text begins with a section sign, if it begins at all: this is what the
character before it meets. -/
theorem stripChars_interleave {code : Nat → List Char} (hcode : ∀ i, IsCode (code i))
    (cs : List Char) (start : Nat) :
    stripChars ((cs.zipIdx start).flatMap fun (c, i) => code i ++ [c]) = cs
      ∧ ∀ d ∈ ((cs.zipIdx start).flatMap fun (c, i) => code i ++ [c]).head?, d = sectionSign := by
  induction cs generalizing start with
  | nil => exact ⟨by rw [List.zipIdx_nil, List.flatMap_nil, stripChars], fun d hd => nomatch hd⟩
  | cons c cs ih =>
    obtain ⟨hstrip, hhead⟩ := ih (start + 1)
    rw [List.zipIdx_cons, List.flatMap_cons, List.append_assoc, List.singleton_append]
    constructor
    · have hkept : ∀ d ∈ ((cs.zipIdx (start + 1)).flatMap fun (c, i) => code i ++ [c]).head?,
          ¬ (c = sectionSign ∧ isFormatCode d = true) := by
        rintro d hd ⟨-, hformat⟩
        exact ne_sectionSign_of_isFormatCode hformat (hhead d hd)
      rw [(hcode start).stripChars_append, stripChars_kept hkept, hstrip]
    · obtain ⟨d, hd, -⟩ := hcode start
      rw [hd]
      intro e he
      exact (Option.some.inj he).symm

/-! ## Words -/

/-- The words of a text are what its spaces split it into. -/
theorem Palette.words_eq_splitOn (cs : List Char) : Palette.words cs = cs.splitOn ' ' := by
  induction cs with
  | nil => rfl
  | cons c rest ih =>
    unfold Palette.words
    rw [ih, List.splitOn_cons_eq_if_modifyHead]
    by_cases hc : c = ' '
    · rw [if_pos hc, if_pos (beq_iff_eq.mpr hc)]
    · rw [if_neg hc, if_neg (beq_iff_eq.not.mpr hc)]
      -- there is always a first word, to which the character is added
      obtain ⟨word, more, hwords⟩ := List.exists_cons_of_ne_nil (List.splitOn_ne_nil ' ' rest)
      rw [hwords]
      rfl

/-- A space keeps what is on its sides apart. -/
theorem stripChars_append_space (word rest : List Char) :
    stripChars (word ++ ' ' :: rest) = stripChars word ++ ' ' :: stripChars rest := by
  induction word using stripInduction with
  | nil =>
    rw [stripChars, List.nil_append, List.nil_append]
    apply stripChars_kept
    rintro d - ⟨hspace, -⟩
    exact absurd hspace (by decide)
  | code d word hd ih =>
    rw [List.cons_append, List.cons_append, stripChars_code hd, stripChars_code hd, ih]
  | kept c word hkept ih =>
    have hkept' : ∀ d ∈ (word ++ ' ' :: rest).head?,
        ¬ (c = sectionSign ∧ isFormatCode d = true) := by
      cases word with
      | nil =>
        rintro d hd ⟨-, hformat⟩
        obtain rfl : ' ' = d := Option.some.inj hd
        exact absurd hformat (by decide)
      | cons e word => exact hkept
    rw [List.cons_append, stripChars_kept hkept', stripChars_kept hkept, ih, List.cons_append]

/-- Words that are joined by spaces are stripped one by one. -/
theorem stripChars_intercalate (words : List (List Char)) :
    stripChars ([' '].intercalate words) = [' '].intercalate (words.map stripChars) := by
  induction words with
  | nil => rfl
  | cons word words ih =>
    cases words with
    | nil =>
      rw [List.map_cons, List.map_nil, List.intercalate_singleton, List.intercalate_singleton]
    | cons next words =>
      rw [List.map_cons] at ih
      rw [List.map_cons, List.map_cons, List.intercalate_cons_cons, List.intercalate_cons_cons,
        List.append_assoc, List.append_assoc, List.singleton_append, List.singleton_append,
        stripChars_append_space, ih]

/-- A code before every word is taken out again. -/
theorem map_stripChars_colored {code : Nat → List Char} (hcode : ∀ i, IsCode (code i))
    (words : List (List Char)) (start : Nat) :
    ((words.zipIdx start).map fun (word, i) => code i ++ word).map stripChars
      = words.map stripChars := by
  induction words generalizing start with
  | nil => rfl
  | cons word words ih =>
    rw [List.zipIdx_cons, List.map_cons, List.map_cons, List.map_cons, ih,
      (hcode start).stripChars_append]

/-! ## Gradients -/

/-- Stripping a character gradient gives the text, with the codes and section signs that it holds itself;
stripping a word gradient gives what stripping the text gives. -/
theorem strip_gradient {palette : Palette} (h : palette.HasFormatCodes) (text : String)
    (colors : List String) :
    (colors ≠ [] → stripFormatting (palette.characterGradient colors text) = text)
      ∧ stripFormatting (palette.wordGradient colors text) = stripFormatting text := by
  constructor
  · intro hcolors
    have hcode := h.isCode_gradientCode colors
    rw [Palette.characterGradient, if_neg (by simpa using hcolors), stripFormatting,
      String.toList_ofList]
    rw [(stripChars_interleave (fun i => hcode i text.toList.length) text.toList 0).1,
      String.ofList_toList]
  · by_cases hcolors : colors = []
    · rw [Palette.wordGradient, if_pos (by simpa using hcolors)]
    · have hcode := h.isCode_gradientCode colors
      rw [Palette.wordGradient, if_neg (by simpa using hcolors), stripFormatting, stripFormatting,
        String.toList_ofList, stripChars_intercalate,
        map_stripChars_colored (fun i => hcode i (Palette.words text.toList).length)]
      rw [← stripChars_intercalate, Palette.words_eq_splitOn, List.intercalate_splitOn]

/-- A configured color, an unknown one, and a text with a code, a section sign before each space, and
two spaces in a row. -/
theorem strip_gradient_configured :
    let palette := (({} : Settings).withColor "Brand" "§6").palette
    palette.HasFormatCodes
      ∧ stripFormatting (palette.characterGradient ["brand", "nope"] "§ c§c§  r") = "§ c§c§  r"
      ∧ stripFormatting (palette.wordGradient ["brand", "nope"] "§ c§c§  r") = "§ c§  r" := by
  intro palette
  have hcodes : palette.HasFormatCodes := (Settings.isChecked_palette rfl).hasFormatCodes
  obtain ⟨hcharacters, hwords⟩ := strip_gradient hcodes "§ c§c§  r" ["brand", "nope"]
  refine ⟨hcodes, hcharacters (List.cons_ne_nil _ _), ?_⟩
  rw [hwords]
  decide

end MessageTemplate
