import Mathlib.Data.List.Chain
import MessageTemplate.FormatCode
import MessageTemplate.Proofs.Replacement

/-!
Taking the format codes out of a text.

Stripping takes out the codes that stand in the text, from left to right, and nothing else
(`replaces_stripRule_iff`). It goes through the text once, and does not look at what is left. There the
characters on both sides of a code have become neighbours: of `§§cc` the code in the middle is taken out,
and the section sign before it now stands in front of the `c` behind it. So what is left may hold a code
that the text did not.

When it does can be read off the text. A section sign that is kept comes to stand before the first
character behind it that is kept, and between the two there are only codes. So there must be one or more
codes between a section sign and a character that ends a code (`NestsCode`), and where there are,
stripping once more takes out more (`strip_leaves_no_code_iff`).
-/

namespace MessageTemplate

/-! ## Codes in a text -/

/-- Format codes, one after the other. -/
inductive IsCodes : List Char → Prop where
  | nil : IsCodes []
  | cons {code codes : List Char} (hcode : IsCode code) (hcodes : IsCodes codes) :
      IsCodes (code ++ codes)

/-- No two characters side by side are a format code. -/
def IsPlain (text : List Char) : Prop :=
  text.IsChain fun c d => ¬ (c = sectionSign ∧ isFormatCode d = true)

/-- Somewhere a section sign and a character that could end its code have codes between them, and
nothing else. -/
def NestsCode (text : List Char) : Prop :=
  ∃ before codes d behind, text = before ++ sectionSign :: (codes ++ d :: behind)
    ∧ IsCodes codes ∧ codes ≠ [] ∧ isFormatCode d = true

theorem ne_sectionSign_of_isFormatCode {d : Char} (h : isFormatCode d = true) : d ≠ sectionSign := by
  rintro rfl
  exact absurd h (by decide)

theorem isPlain_nil : IsPlain [] := List.IsChain.nil

/-- The first two characters of a text decide whether a code begins with it. -/
theorem isPlain_cons {c : Char} {cs : List Char} :
    IsPlain (c :: cs)
      ↔ (∀ d ∈ cs.head?, ¬ (c = sectionSign ∧ isFormatCode d = true)) ∧ IsPlain cs :=
  List.isChain_cons

/-- Codes that are not empty begin with a section sign. -/
theorem IsCodes.head_eq {codes rest : List Char} {c : Char} (h : IsCodes codes) (hne : codes ≠ [])
    (hhead : (codes ++ rest).head? = some c) : c = sectionSign := by
  cases h with
  | nil => exact absurd rfl hne
  | cons hcode =>
    obtain ⟨d, rfl, -⟩ := hcode
    exact (Option.some.inj hhead).symm

theorem not_nestsCode_nil : ¬ NestsCode [] := by
  rintro ⟨before, codes, d, behind, htext, -⟩
  exact absurd htext.symm (List.append_ne_nil_of_right_ne_nil _ (List.cons_ne_nil _ _))

/-- A code is nested around the beginning of a text or further behind. -/
theorem nestsCode_cons {c : Char} {cs : List Char} :
    NestsCode (c :: cs)
      ↔ (c = sectionSign ∧ ∃ codes d behind, cs = codes ++ d :: behind ∧ IsCodes codes ∧ codes ≠ []
          ∧ isFormatCode d = true)
        ∨ NestsCode cs := by
  constructor
  · rintro ⟨before, codes, d, behind, htext, hnested⟩
    cases before with
    | nil =>
      obtain ⟨hc, hcs⟩ := List.cons.inj htext
      exact Or.inl ⟨hc, codes, d, behind, hcs, hnested⟩
    | cons b before =>
      exact Or.inr ⟨before, codes, d, behind, (List.cons.inj htext).2, hnested⟩
  · rintro (⟨rfl, codes, d, behind, rfl, hnested⟩ | ⟨before, codes, d, behind, rfl, hnested⟩)
    · exact ⟨[], codes, d, behind, rfl, hnested⟩
    · exact ⟨c :: before, codes, d, behind, rfl, hnested⟩

/-- What stands behind a code is nested as without the code. -/
theorem nestsCode_code {d : Char} (hd : isFormatCode d = true) {rest : List Char} :
    NestsCode (sectionSign :: d :: rest) ↔ NestsCode rest := by
  have hsign : d ≠ sectionSign := ne_sectionSign_of_isFormatCode hd
  rw [nestsCode_cons, nestsCode_cons]
  constructor
  · rintro (⟨-, codes, e, behind, htext, hcodes, hne, -⟩ | ⟨hd', -⟩ | hrest)
    · -- the codes behind the section sign would begin with `d`
      have hhead : (codes ++ e :: behind).head? = some d := by
        rw [← htext, List.head?_cons]
      exact absurd (hcodes.head_eq hne hhead) hsign
    · exact absurd hd' hsign
    · exact hrest
  · intro hrest
    exact Or.inr (Or.inr hrest)

/-! ## Stripping, one character after the other -/

theorem stripChars_code {d : Char} (hd : isFormatCode d = true) (rest : List Char) :
    stripChars (sectionSign :: d :: rest) = stripChars rest := by
  rw [stripChars, if_pos (by simp [hd])]

/-- A character is kept if no code begins with it. -/
theorem stripChars_kept {c : Char} {cs : List Char}
    (h : ∀ d ∈ cs.head?, ¬ (c = sectionSign ∧ isFormatCode d = true)) :
    stripChars (c :: cs) = c :: stripChars cs := by
  cases cs with
  | nil => rw [stripChars, stripChars]
  | cons d rest =>
    have hno : ¬ (c = sectionSign ∧ isFormatCode d = true) := h d rfl
    rw [stripChars, if_neg (by simpa using hno)]

/-- A text as stripping reads it: a code, or one character that is kept. -/
theorem stripInduction {motive : List Char → Prop} (nil : motive [])
    (code : ∀ d rest, isFormatCode d = true → motive rest → motive (sectionSign :: d :: rest))
    (kept : ∀ c cs, (∀ d ∈ cs.head?, ¬ (c = sectionSign ∧ isFormatCode d = true)) → motive cs →
      motive (c :: cs)) (cs : List Char) : motive cs := by
  induction cs using stripChars.induct with
  | case1 => exact nil
  | case2 c => exact kept c [] (fun d hd => nomatch hd) nil
  | case3 c d rest hcode ih =>
    obtain ⟨rfl, hd⟩ : c = sectionSign ∧ isFormatCode d = true := by simpa using hcode
    exact code d rest hd ih
  | case4 c d rest hno ih =>
    refine kept c (d :: rest) ?_ ih
    rintro e he
    obtain rfl : d = e := Option.some.inj he
    simpa using hno

/-- A code is taken out, whatever follows it. -/
theorem IsCode.stripChars_append {code : List Char} (h : IsCode code) (rest : List Char) :
    stripChars (code ++ rest) = stripChars rest := by
  obtain ⟨d, rfl, hd⟩ := h
  exact stripChars_code hd rest

theorem IsCodes.stripChars_append {codes : List Char} (h : IsCodes codes) (rest : List Char) :
    stripChars (codes ++ rest) = stripChars rest := by
  induction h with
  | nil => rfl
  | cons hcode hcodes ih => rw [List.append_assoc, hcode.stripChars_append, ih]

theorem stripChars_sublist (cs : List Char) : (stripChars cs).Sublist cs := by
  induction cs using stripInduction with
  | nil => exact List.Sublist.refl _
  | code d rest hd ih =>
    rw [stripChars_code hd]
    exact (ih.cons d).cons sectionSign
  | kept c cs hkept ih =>
    rw [stripChars_kept hkept]
    exact ih.cons_cons c

/-! ## The codes that are taken out -/

/-- Every code is replaced by nothing. -/
def stripRule : Rule := fun old new => IsCode old ∧ new = []

theorem isUnambiguous_stripRule : stripRule.IsUnambiguous := by
  apply Rule.isUnambiguous_of_length Nat.two_pos
  · rintro old new ⟨⟨d, rfl, -⟩, -⟩
    rfl
  · rintro old new new' ⟨-, rfl⟩ ⟨-, rfl⟩
    rfl

/-- Stripping takes out the leftmost code, and so on behind it. -/
theorem replaces_stripRule_iff {text out : List Char} :
    stripRule.Replaces text out ↔ out = stripChars text := by
  apply Rule.replaces_iff isUnambiguous_stripRule
  · rw [stripChars]
  · rintro old new rest ⟨hcode, rfl⟩
    exact hcode.stripChars_append rest
  · intro c rest hno
    apply stripChars_kept
    rintro d hhead ⟨rfl, hd⟩
    obtain ⟨behind, rfl⟩ := List.head?_eq_some_iff.mp (Option.mem_def.mp hhead)
    exact hno ⟨[sectionSign, d], [], ⟨⟨d, rfl, hd⟩, rfl⟩, behind, rfl⟩

/-! ## What is left -/

/-- The first character that is kept, if it ends a code, has only codes before it. -/
theorem mem_head?_stripChars_iff {d : Char} (hd : isFormatCode d = true) {cs : List Char} :
    d ∈ (stripChars cs).head? ↔ ∃ codes behind, cs = codes ++ d :: behind ∧ IsCodes codes := by
  constructor
  · intro hhead
    induction cs using stripInduction with
    | nil => exact nomatch hhead
    | code e rest he ih =>
      rw [stripChars_code he] at hhead
      obtain ⟨codes, behind, rfl, hcodes⟩ := ih hhead
      exact ⟨[sectionSign, e] ++ codes, behind, rfl, .cons ⟨e, rfl, he⟩ hcodes⟩
    | kept c cs hkept =>
      rw [stripChars_kept hkept] at hhead
      obtain rfl : c = d := Option.some.inj hhead
      exact ⟨[], cs, rfl, .nil⟩
  · rintro ⟨codes, behind, rfl, hcodes⟩
    have hkept : ∀ e ∈ behind.head?, ¬ (d = sectionSign ∧ isFormatCode e = true) :=
      fun e _ h => ne_sectionSign_of_isFormatCode hd h.1
    rw [hcodes.stripChars_append, stripChars_kept hkept]
    exact rfl

/-- What is left holds no code if the text nests none. The induction follows the stripping: a section
sign that is kept comes to stand before the first character that is kept behind it. -/
theorem isPlain_stripChars_iff {cs : List Char} : IsPlain (stripChars cs) ↔ ¬ NestsCode cs := by
  induction cs using stripInduction with
  | nil => exact iff_of_true isPlain_nil not_nestsCode_nil
  | code d rest hd ih => rw [stripChars_code hd, nestsCode_code hd, ih]
  | kept c cs hkept ih =>
    rw [stripChars_kept hkept, isPlain_cons, nestsCode_cons, ih, not_or]
    refine and_congr_left fun _ => ?_
    constructor
    · rintro hhead ⟨hc, codes, d, behind, hcs, hcodes, -, hd⟩
      exact hhead d ((mem_head?_stripChars_iff hd).mpr ⟨codes, behind, hcs, hcodes⟩) ⟨hc, hd⟩
    · rintro hno d hhead ⟨hc, hd⟩
      obtain ⟨codes, behind, rfl, hcodes⟩ := (mem_head?_stripChars_iff hd).mp hhead
      refine hno ⟨hc, codes, d, behind, rfl, hcodes, ?_, hd⟩
      -- without codes in between, the two would be a code of the text and would not be kept
      rintro rfl
      exact hkept d rfl ⟨hc, hd⟩

/-- Stripping changes a text if it holds a code. -/
theorem stripChars_eq_self_iff {cs : List Char} : stripChars cs = cs ↔ IsPlain cs := by
  induction cs using stripInduction with
  | nil => exact iff_of_true (by rw [stripChars]) isPlain_nil
  | code d rest hd ih =>
    rw [stripChars_code hd]
    refine iff_of_false ?_ fun hplain => (isPlain_cons.mp hplain).1 d rfl ⟨rfl, hd⟩
    intro hsame
    have hlength := (stripChars_sublist rest).length_le
    rw [hsame, List.length_cons, List.length_cons] at hlength
    omega
  | kept c cs hkept ih =>
    rw [stripChars_kept hkept, isPlain_cons, List.cons_inj_right, ih]
    exact ⟨fun hplain => ⟨hkept, hplain⟩, fun h => h.2⟩

/-- The codes of a message are taken out from left to right. What is left holds no code, and stripping it
again changes nothing, exactly if nowhere in the message a section sign and a character that could end its
code have codes between them and nothing else. -/
theorem strip_leaves_no_code_iff (message : String) :
    (∀ out, stripRule.Replaces message.toList out ↔ out = (stripFormatting message).toList)
      ∧ (IsPlain (stripFormatting message).toList ↔ ¬ NestsCode message.toList)
      ∧ (stripFormatting (stripFormatting message) = stripFormatting message
        ↔ ¬ NestsCode message.toList) := by
  have hstripped : (stripFormatting message).toList = stripChars message.toList := by
    rw [stripFormatting, String.toList_ofList]
  refine ⟨fun out => ?_, ?_, ?_⟩
  · rw [hstripped, replaces_stripRule_iff]
  · rw [hstripped, isPlain_stripChars_iff]
  · rw [← isPlain_stripChars_iff, ← stripChars_eq_self_iff, ← hstripped, ← String.toList_inj]
    rw [stripFormatting, String.toList_ofList]

/-- A code between a section sign and a letter: when it is gone, the two are a code. -/
theorem strip_forms_code :
    stripFormatting "§§cc" = "§c" ∧ ¬ IsPlain "§c".toList
      ∧ stripFormatting (stripFormatting "§§cc") ≠ stripFormatting "§§cc" := by
  have hcode : ¬ IsPlain "§c".toList := by
    intro hplain
    exact (isPlain_cons.mp hplain).1 'c' rfl ⟨rfl, by decide⟩
  exact ⟨by decide, hcode, by decide⟩

end MessageTemplate
