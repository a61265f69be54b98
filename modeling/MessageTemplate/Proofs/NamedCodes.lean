import MessageTemplate.Proofs.Reversion
import MessageTemplate.Proofs.Stripping

/-!
Codes that have a name, and what reverting leaves of them.

Reverting writes, in the place of every code that has a name, the earliest of its names in braces, from
left to right (`Palette.replaces_revertRule_iff`). Unlike a code that is taken out, one that is replaced
keeps its neighbours apart: a brace comes to stand on either side, and a brace neither begins nor ends a
code. A section sign that is kept is followed by what followed it, or by the opening brace of a name.

So only a name can bring a code into the reverted text. The names of checked settings cannot, since they
hold no section sign. In a palette that was put together otherwise, anything can be a name, and a name
that is written may itself hold codes that have names. Then these codes are left, and reverting once more
replaces them (`Palette.revert_leaves_no_code_iff`).
-/

namespace MessageTemplate.Palette

variable {palette : Palette}

/-! ## Codes that have a name -/

/-- The palette has a name for the code. -/
def Knows (palette : Palette) (code : List Char) : Prop :=
  ∃ name, (name, String.ofList code) ∈ palette.entries

/-- The name is the first in the palette that has the code. -/
def IsEarliestName (palette : Palette) (name : String) (code : List Char) : Prop :=
  ∃ front back, palette.entries = front ++ (name, String.ofList code) :: back
    ∧ ∀ entry ∈ front, entry.2 ≠ String.ofList code

/-- No two characters side by side are a code that has a name. -/
def IsReverted (palette : Palette) (text : List Char) : Prop :=
  text.IsChain fun c d => ¬ palette.Knows [c, d]

/-- The names that are written for the codes of the text hold no code that has a name. -/
def NamesReverted (palette : Palette) (text : List Char) : Prop :=
  ∀ code name, code <:+: text → palette.IsEarliestName name code → palette.IsReverted name.toList

theorem isEarliestName_iff {name : String} {code : List Char} :
    palette.IsEarliestName name code ↔ palette.nameOf? (String.ofList code) = some name := by
  rw [nameOf?, Option.map_eq_some_iff]
  constructor
  · rintro ⟨front, back, hentries, hfront⟩
    refine ⟨(name, String.ofList code), List.find?_eq_some_iff_append.mpr ?_, rfl⟩
    exact ⟨by simp, front, back, hentries, fun entry hentry => by simpa using hfront entry hentry⟩
  · rintro ⟨⟨found, foundCode⟩, hfind, rfl⟩
    obtain ⟨hcode, front, back, hentries, hfront⟩ := List.find?_eq_some_iff_append.mp hfind
    obtain rfl : foundCode = String.ofList code := by simpa using hcode
    exact ⟨front, back, hentries, fun entry hentry => by simpa using hfront entry hentry⟩

/-- A code that has a name has an earliest one. -/
theorem knows_iff {code : List Char} :
    palette.Knows code ↔ ∃ name, palette.IsEarliestName name code := by
  constructor
  · rintro ⟨name, hentry⟩
    cases hfound : palette.nameOf? (String.ofList code) with
    | none =>
      rw [nameOf?, Option.map_eq_none_iff, List.find?_eq_none] at hfound
      exact absurd (by simp) (hfound _ hentry)
    | some first => exact ⟨first, isEarliestName_iff.mpr hfound⟩
  · rintro ⟨name, hname⟩
    exact ⟨name, nameOf?_eq_some (isEarliestName_iff.mp hname)⟩

theorem IsEarliestName.knows {name : String} {code : List Char}
    (h : palette.IsEarliestName name code) : palette.Knows code :=
  knows_iff.mpr ⟨name, h⟩

/-- A code has one earliest name. -/
theorem IsEarliestName.unique {name other : String} {code : List Char}
    (h : palette.IsEarliestName name code) (h' : palette.IsEarliestName other code) : name = other := by
  rw [isEarliestName_iff] at h h'
  exact Option.some.inj (h.symm.trans h')

theorem HasFormatCodes.isCode (h : palette.HasFormatCodes) {code : List Char}
    (hcode : palette.Knows code) : IsCode code := by
  obtain ⟨name, hentry⟩ := hcode
  have hformat : IsCode (String.ofList code).toList := h _ hentry
  rwa [String.toList_ofList] at hformat

/-- No code begins with a character that is not a section sign. -/
theorem HasFormatCodes.not_knows_of_ne (h : palette.HasFormatCodes) {c : Char} (hc : c ≠ sectionSign)
    (d : Char) : ¬ palette.Knows [c, d] := by
  intro hknown
  obtain ⟨e, hcode, -⟩ := h.isCode hknown
  exact hc (List.cons.inj hcode).1

/-- Known codes end in a character that stands for a color or a style. -/
theorem HasFormatCodes.isFormatCode (h : palette.HasFormatCodes) {c d : Char}
    (hknown : palette.Knows [c, d]) : isFormatCode d = true := by
  obtain ⟨e, hcode, he⟩ := h.isCode hknown
  obtain rfl : d = e := (List.cons.inj (List.cons.inj hcode).2).1
  exact he

theorem isReverted_nil : palette.IsReverted [] := List.IsChain.nil

theorem isReverted_cons {c : Char} {cs : List Char} :
    palette.IsReverted (c :: cs) ↔ (∀ d ∈ cs.head?, ¬ palette.Knows [c, d]) ∧ palette.IsReverted cs :=
  List.isChain_cons

/-- Braces keep a name apart from what is around it. -/
theorem HasFormatCodes.isReverted_token (h : palette.HasFormatCodes) {name text : List Char} :
    palette.IsReverted ('{' :: (name ++ '}' :: text))
      ↔ palette.IsReverted name ∧ palette.IsReverted text := by
  have hopen : ∀ d, ¬ palette.Knows ['{', d] := h.not_knows_of_ne (by decide)
  have hclose : ∀ d, ¬ palette.Knows ['}', d] := h.not_knows_of_ne (by decide)
  have hend : ∀ c, ¬ palette.Knows [c, '}'] := fun c hknown =>
    absurd (h.isFormatCode hknown) (by decide)
  rw [isReverted_cons, and_iff_right fun d _ => hopen d]
  unfold IsReverted
  rw [List.isChain_append, List.isChain_cons, and_iff_right fun d _ => hclose d, List.head?_cons]
  refine and_congr_right fun _ => and_iff_left ?_
  rintro c - d hd
  obtain rfl : '}' = d := Option.some.inj hd
  exact hend c

/-! ## Reverting, one character after the other -/

/-- A code that has a name becomes the earliest of them in braces, whatever follows it. -/
theorem revertChars_code {d : Char} {name : String}
    (hname : palette.IsEarliestName name [sectionSign, d]) (rest : List Char) :
    palette.revertChars (sectionSign :: d :: rest)
      = '{' :: (name.toList ++ '}' :: palette.revertChars rest) := by
  rw [palette.revertChars_named (isEarliestName_iff.mp hname), Token.toList_raw]
  simp [Token.rawParams]

/-- A character is kept if no code that has a name begins with it. -/
theorem revertChars_kept {c : Char} {cs : List Char} (h : ∀ d ∈ cs.head?, ¬ palette.Knows [c, d]) :
    palette.revertChars (c :: cs) = c :: palette.revertChars cs := by
  by_cases hc : c = sectionSign
  · subst hc
    cases cs with
    | nil => rw [revertChars, revertChars]
    | cons d rest =>
      have hnone : palette.nameOf? (String.ofList [sectionSign, d]) = none := by
        rw [Option.eq_none_iff_forall_ne_some]
        intro name hname
        exact h d rfl (isEarliestName_iff.mpr hname).knows
      rw [revertChars, if_pos rfl, hnone]
  · exact palette.revertChars_of_ne hc cs

/-- A text as reverting reads it, with what is known of a character that is kept. -/
theorem HasFormatCodes.revertInduction (h : palette.HasFormatCodes) {motive : List Char → Prop}
    (nil : motive [])
    (code : ∀ d rest name, palette.IsEarliestName name [sectionSign, d] → motive rest →
      motive (sectionSign :: d :: rest))
    (kept : ∀ c cs, (∀ d ∈ cs.head?, ¬ palette.Knows [c, d]) → motive cs → motive (c :: cs))
    (cs : List Char) : motive cs := by
  induction cs using palette.revertInduction with
  | nil => exact nil
  | code d rest name hname ih => exact code d rest name (isEarliestName_iff.mpr hname) ih
  | kept c cs hkept ih =>
    refine kept c cs ?_ ih
    intro d hhead hknown
    obtain ⟨rest, rfl⟩ := List.head?_eq_some_iff.mp (Option.mem_def.mp hhead)
    obtain ⟨name, hname⟩ := knows_iff.mp hknown
    obtain ⟨e, hcode, -⟩ := h.isCode hknown
    obtain rfl : c = sectionSign := (List.cons.inj hcode).1
    -- a code here would have been replaced, and the text would begin with a brace
    rw [revertChars_code hname] at hkept
    exact absurd (List.cons.inj hkept).1 (by decide)

/-! ## The codes that are replaced -/

/-- Every code that has a name is replaced by the earliest of them in braces. -/
def revertRule (palette : Palette) : Rule := fun old new =>
  ∃ name, palette.IsEarliestName name old ∧ new = '{' :: (name.toList ++ ['}'])

theorem HasFormatCodes.isUnambiguous_revertRule (h : palette.HasFormatCodes) :
    palette.revertRule.IsUnambiguous := by
  apply Rule.isUnambiguous_of_length Nat.two_pos
  · rintro old new ⟨name, hname, -⟩
    obtain ⟨d, rfl, -⟩ := h.isCode hname.knows
    rfl
  · rintro old new new' ⟨name, hname, rfl⟩ ⟨name', hname', rfl⟩
    rw [hname.unique hname']

/-- Reverting replaces the leftmost code that has a name, and so on behind it. -/
theorem HasFormatCodes.replaces_revertRule_iff (h : palette.HasFormatCodes) {text out : List Char} :
    palette.revertRule.Replaces text out ↔ out = palette.revertChars text := by
  apply Rule.replaces_iff h.isUnambiguous_revertRule
  · rw [revertChars]
  · rintro old new rest ⟨name, hname, rfl⟩
    obtain ⟨d, rfl, -⟩ := h.isCode hname.knows
    rw [List.cons_append, List.singleton_append, revertChars_code hname, List.cons_append,
      List.append_assoc, List.singleton_append]
  · intro c rest hno
    apply revertChars_kept
    intro d hhead hknown
    obtain ⟨name, hname⟩ := knows_iff.mp hknown
    obtain ⟨behind, rfl⟩ := List.head?_eq_some_iff.mp (Option.mem_def.mp hhead)
    exact hno ⟨[c, d], _, ⟨name, hname, rfl⟩, behind, rfl⟩

/-! ## What is left -/

theorem namesReverted_nil (h : palette.HasFormatCodes) : palette.NamesReverted [] := by
  intro code name hcode hname
  obtain rfl : code = [] := List.infix_nil.mp hcode
  obtain ⟨d, hnil, -⟩ := h.isCode hname.knows
  exact absurd hnil (List.cons_ne_nil _ _).symm

/-- A code of a text begins the text or stands further behind. -/
theorem namesReverted_cons {c : Char} {cs : List Char} :
    palette.NamesReverted (c :: cs)
      ↔ (∀ code name, code <+: c :: cs → palette.IsEarliestName name code →
          palette.IsReverted name.toList)
        ∧ palette.NamesReverted cs := by
  constructor
  · intro hnames
    exact ⟨fun code name hcode => hnames code name hcode.isInfix,
      fun code name hcode => hnames code name (List.infix_cons_iff.mpr (Or.inr hcode))⟩
  · rintro ⟨hfirst, hrest⟩ code name hcode hname
    rcases List.infix_cons_iff.mp hcode with hprefix | hinfix
    · exact hfirst code name hprefix hname
    · exact hrest code name hinfix hname

/-- Where no code that has a name begins, no name is written. -/
theorem HasFormatCodes.namesReverted_kept (h : palette.HasFormatCodes) {c : Char} {cs : List Char}
    (hkept : ∀ d ∈ cs.head?, ¬ palette.Knows [c, d]) :
    palette.NamesReverted (c :: cs) ↔ palette.NamesReverted cs := by
  rw [namesReverted_cons, and_iff_right]
  rintro code name ⟨behind, htext⟩ hname
  obtain ⟨d, rfl, -⟩ := h.isCode hname.knows
  obtain ⟨rfl, rfl⟩ := List.cons.inj htext
  exact absurd hname.knows (hkept d rfl)

/-- For a code the earliest of its names is written, and the rest is as without the code. -/
theorem HasFormatCodes.namesReverted_code (h : palette.HasFormatCodes) {d : Char} {name : String}
    (hname : palette.IsEarliestName name [sectionSign, d]) {rest : List Char} :
    palette.NamesReverted (sectionSign :: d :: rest)
      ↔ palette.IsReverted name.toList ∧ palette.NamesReverted rest := by
  -- no code begins with the character behind the section sign
  have hsign : d ≠ sectionSign := ne_sectionSign_of_isFormatCode (h.isFormatCode hname.knows)
  rw [namesReverted_cons, h.namesReverted_kept fun e _ => h.not_knows_of_ne hsign e]
  refine and_congr_left fun _ => ?_
  constructor
  · intro hfirst
    exact hfirst [sectionSign, d] name ⟨rest, rfl⟩ hname
  · rintro hreverted code other ⟨behind, htext⟩ hother
    obtain ⟨e, rfl, -⟩ := h.isCode hother.knows
    obtain rfl : e = d := (List.cons.inj (List.cons.inj htext).2).1
    rw [hother.unique hname]
    exact hreverted

/-- The reverted text holds no code that has a name if the names that were written hold none. The
induction follows the reverting: a character that is kept stands before a brace or before the character
that it stood before. -/
theorem HasFormatCodes.isReverted_revertChars_iff (h : palette.HasFormatCodes) {cs : List Char} :
    palette.IsReverted (palette.revertChars cs) ↔ palette.NamesReverted cs := by
  induction cs using h.revertInduction with
  | nil =>
    rw [revertChars]
    exact iff_of_true isReverted_nil (namesReverted_nil h)
  | code d rest name hname ih =>
    rw [revertChars_code hname, h.isReverted_token, h.namesReverted_code hname, ih]
  | kept c cs hkept ih =>
    rw [revertChars_kept hkept, isReverted_cons, h.namesReverted_kept hkept, ih, and_iff_right]
    intro d hhead hknown
    have hd : d ≠ '{' := by
      rintro rfl
      exact absurd (h.isFormatCode hknown) (by decide)
    obtain ⟨ys, hys⟩ := List.head?_eq_some_iff.mp (Option.mem_def.mp hhead)
    obtain ⟨cs', rfl, -⟩ := eq_cons_of_revertChars_eq hd hys
    exact hkept d rfl hknown

/-- Reverting changes a text if it holds a code that has a name. -/
theorem HasFormatCodes.revertChars_eq_self_iff (h : palette.HasFormatCodes) {cs : List Char} :
    palette.revertChars cs = cs ↔ palette.IsReverted cs := by
  induction cs using h.revertInduction with
  | nil =>
    rw [revertChars]
    exact iff_of_true rfl isReverted_nil
  | code d rest name hname ih =>
    rw [revertChars_code hname]
    refine iff_of_false ?_ fun hreverted => ?_
    · intro hsame
      exact absurd (List.cons.inj hsame).1 (by decide)
    · exact (isReverted_cons.mp hreverted).1 d rfl hname.knows
  | kept c cs hkept ih =>
    rw [revertChars_kept hkept, isReverted_cons, List.cons_inj_right, ih]
    exact ⟨fun hreverted => ⟨hkept, hreverted⟩, fun h => h.2⟩

/-- The names of checked settings hold no section sign, and so no code. -/
theorem IsChecked.namesReverted (h : palette.IsChecked) (text : List Char) :
    palette.NamesReverted text := by
  rintro code name - hname
  have hentry : (name, String.ofList code) ∈ palette.entries :=
    nameOf?_eq_some (isEarliestName_iff.mp hname)
  have hsign : sectionSign ∉ name.toList := (h.isName _ hentry).not_mem (by decide)
  have hstays : palette.revertChars name.toList = name.toList := by
    have happend := palette.revertChars_append hsign []
    rwa [List.append_nil, revertChars, List.append_nil] at happend
  exact h.hasFormatCodes.revertChars_eq_self_iff.mp hstays

/-- Reverting replaces the codes of a text that have a name by the earliest of their names in braces,
from left to right. What comes out holds no code that has a name, and reverting it again changes nothing,
exactly if none of the names that are written holds such a code. The names of the palettes that validated
settings have never do. -/
theorem revert_leaves_no_code_iff (h : palette.HasFormatCodes) (text : String) :
    (∀ out, palette.revertRule.Replaces text.toList out ↔ out = (palette.revert text).toList)
      ∧ (palette.IsReverted (palette.revert text).toList ↔ palette.NamesReverted text.toList)
      ∧ (palette.revert (palette.revert text) = palette.revert text
        ↔ palette.NamesReverted text.toList)
      ∧ ∀ settings : Settings, settings.validate = .ok () → settings.palette = palette →
        palette.NamesReverted text.toList := by
  have hreverted : (palette.revert text).toList = palette.revertChars text.toList := by
    rw [revert, String.toList_ofList]
  refine ⟨fun out => ?_, ?_, ?_, ?_⟩
  · rw [hreverted, h.replaces_revertRule_iff]
  · rw [hreverted, h.isReverted_revertChars_iff]
  · rw [← h.isReverted_revertChars_iff, ← h.revertChars_eq_self_iff, ← hreverted, ← String.toList_inj]
    rw [revert, String.toList_ofList]
  · rintro settings hvalid rfl
    exact (Settings.isChecked_palette hvalid).namesReverted text.toList

/-- A code with two names, runs of section signs, and a code without a name. -/
theorem revert_leaves_no_code_configured :
    let settings := ({} : Settings).withColor "crimson" "§c"
    let palette := settings.palette
    settings.validate = .ok () ∧ palette.HasFormatCodes
      ∧ palette.revert "§§c§§z§7§" = "§\x7bred\x7d§§z\x7bgray\x7d§"
      ∧ palette.IsReverted "§\x7bred\x7d§§z\x7bgray\x7d§".toList
      ∧ palette.revert "§\x7bred\x7d§§z\x7bgray\x7d§" = "§\x7bred\x7d§§z\x7bgray\x7d§" := by
  intro settings palette
  have hvalid : settings.validate = .ok () := rfl
  have hcodes : palette.HasFormatCodes := (Settings.isChecked_palette hvalid).hasFormatCodes
  obtain ⟨-, hleft, hagain, hconfigured⟩ := revert_leaves_no_code_iff hcodes "§§c§§z§7§"
  have hrevert : palette.revert "§§c§§z§7§" = "§\x7bred\x7d§§z\x7bgray\x7d§" := by decide
  have hnames : palette.NamesReverted "§§c§§z§7§".toList := hconfigured settings hvalid rfl
  rw [hrevert] at hleft hagain
  exact ⟨hvalid, hcodes, hrevert, hleft.mpr hnames, hagain.mpr hnames⟩

/-- A palette in which a code is a name: writing this name writes the code. -/
theorem revert_writes_code :
    let palette := (Palette.empty.set "§c" "§6").set "red" "§c"
    palette.HasFormatCodes ∧ palette.revert "§6" = "\x7b§c\x7d"
      ∧ ¬ palette.IsReverted "\x7b§c\x7d".toList
      ∧ palette.revert (palette.revert "§6") ≠ palette.revert "§6" := by
  intro palette
  have hcodes : palette.HasFormatCodes := by
    intro entry hentry
    have hwhole : ∀ entry ∈ palette.entries, isWholeFormatCode entry.2 = true := by decide
    exact isWholeFormatCode_iff.mp (hwhole entry hentry)
  have hknown : palette.Knows ['§', 'c'] := ⟨"red", by decide⟩
  have hleft : ¬ palette.IsReverted "\x7b§c\x7d".toList := by
    intro hreverted
    exact (isReverted_cons.mp (isReverted_cons.mp hreverted).2).1 'c' rfl hknown
  exact ⟨hcodes, by decide, hleft, by decide⟩

end MessageTemplate.Palette
