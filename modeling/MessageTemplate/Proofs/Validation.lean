import MessageTemplate.Proofs.Concatenation
import MessageTemplate.Proofs.Palettes
import MessageTemplate.Proofs.Stripping

/-!
What the check of settings lets pass, and what it reports.

The check has a rule of its own for names and one for codes, and neither mentions a message. Both are
compared here with what happens to messages. A name passes if a message can name it: written between
braces it is one token, which carries this name (`isAddressable_iff`). A code passes if it is two
characters that vanish together when a message is stripped (`isLoneCode_iff`). So what is checked can be
written in messages and taken out of them, and nothing else passes.

The entries are checked in the order of their names, and the first one at fault is reported. Since tables
are sorted and hold each name once, "first" can be said without the list: all entries with a smaller name
are as they must be (`forM_eq_error_iff`).
-/

namespace MessageTemplate

/-! ## Names and codes -/

/-- Between braces, the name is read as one token that carries it and has no parameters. -/
def IsAddressable (name : String) : Prop :=
  ∃ span, scan ("\x7b" ++ name ++ "\x7d") = [.token ⟨name, none⟩ span]

/-- Two characters of which stripping leaves nothing. -/
structure IsLoneCode (code : String) : Prop where
  two_characters : code.length = 2
  vanishes : stripFormatting code = ""

/-- What stands between braces is a token of this name exactly if it is a name of the grammar: tokens of
messages are well-formed, and a well-formed token is read as it is written. -/
theorem isAddressable_iff {name : String} : IsAddressable name ↔ IsName name.toList := by
  rw [IsAddressable, ← Token.raw_bare]
  constructor
  · rintro ⟨span, hscan⟩
    have hmem : .token ⟨name, none⟩ span ∈ scan (Token.mk name none).raw := by
      rw [hscan]
      exact List.mem_singleton_self _
    exact ((isCanonical_scan _).token_wellFormed _ span hmem).isName
  · intro hname
    exact ⟨_, scan_raw ⟨hname, fun params hparams => nomatch hparams⟩⟩

/-- Two characters that vanish are a section sign and a character that stands for a color or a style. -/
theorem isLoneCode_iff {code : String} : IsLoneCode code ↔ isWholeFormatCode code = true := by
  rw [isWholeFormatCode_iff]
  constructor
  · rintro ⟨htwo, hvanishes⟩
    obtain ⟨c, d, hcode⟩ := List.length_eq_two.mp (htwo : code.toList.length = 2)
    rw [stripFormatting, hcode, ← String.toList_inj, String.toList_ofList] at hvanishes
    by_cases hcd : c = sectionSign ∧ isFormatCode d = true
    · obtain ⟨rfl, hd⟩ := hcd
      exact ⟨d, hcode, hd⟩
    · -- otherwise the first of the two would be kept
      have hkept : ∀ e ∈ [d].head?, ¬ (c = sectionSign ∧ isFormatCode e = true) := by
        intro e he
        obtain rfl : d = e := Option.some.inj he
        exact hcd
      rw [stripChars_kept hkept] at hvanishes
      exact absurd hvanishes (List.cons_ne_nil _ _)
  · rintro ⟨d, hcode, hd⟩
    refine ⟨congrArg List.length hcode, ?_⟩
    rw [stripFormatting, hcode, stripChars_code hd, stripChars]

/-! ## The first fault in a list -/

/-- The second of two checks has a say if the first one finds nothing. -/
theorem bind_eq_error_iff {ε : Type} {first second : Except ε PUnit} {e : ε} :
    (first >>= fun _ => second) = .error e
      ↔ first = .error e ∨ (first = .ok () ∧ second = .error e) := by
  cases first with
  | error e' =>
    constructor
    · exact Or.inl
    · rintro (h | ⟨h, -⟩)
      · exact h
      · cases h
  | ok u =>
    constructor
    · exact fun h => Or.inr ⟨rfl, h⟩
    · rintro (h | ⟨-, h⟩)
      · cases h
      · exact h

/-- In a list that ascends by a key, what is reported is the fault of the member with the smallest key
among those at fault. -/
theorem forM_eq_error_iff {α ε : Type} {check : α → Except ε PUnit} {key : α → String} {l : List α}
    (hsorted : l.Pairwise fun a b => key a < key b) {e : ε} :
    l.forM check = .error e
      ↔ ∃ a ∈ l, check a = .error e ∧ ∀ b ∈ l, key b < key a → check b = .ok () := by
  induction l with
  | nil =>
    constructor
    · intro h
      cases h
    · rintro ⟨a, ha, -⟩
      cases ha
  | cons x rest ih =>
    obtain ⟨hx, hrest⟩ := List.pairwise_cons.mp hsorted
    have hstep : (x :: rest).forM check = check x >>= fun _ => rest.forM check := rfl
    rw [hstep, bind_eq_error_iff, ih hrest]
    constructor
    · rintro (hfault | ⟨hfine, a, ha, hfault, hbefore⟩)
      · -- no member has a smaller key than the head
        refine ⟨x, List.mem_cons_self, hfault, fun b hb hlt => ?_⟩
        rcases List.mem_cons.mp hb with rfl | hb
        · exact absurd hlt (String.lt_irrefl _)
        · exact absurd hlt (String.lt_asymm (hx b hb))
      · refine ⟨a, List.mem_cons_of_mem x ha, hfault, fun b hb hlt => ?_⟩
        rcases List.mem_cons.mp hb with rfl | hb
        · exact hfine
        · exact hbefore b hb hlt
    · rintro ⟨a, ha, hfault, hbefore⟩
      rcases List.mem_cons.mp ha with rfl | ha
      · exact Or.inl hfault
      · have hfine : check x = .ok () := hbefore x List.mem_cons_self (hx a ha)
        exact Or.inr ⟨hfine, a, ha, hfault, fun b hb => hbefore b (List.mem_cons_of_mem x hb)⟩

/-! ## Settings -/

namespace Settings

/-- What is wrong with a color. Its name comes before its code. -/
inductive ColorFault (name code : String) : SettingsError → Prop where
  | name (hname : ¬ IsAddressable name) : ColorFault name code (.invalidIdentifier name)
  | code (hname : IsAddressable name) (hcode : ¬ IsLoneCode code) :
      ColorFault name code (.invalidColor name code)

/-- All colors with a smaller name are as they must be. -/
def ColorsFineBefore (settings : Settings) (name : String) : Prop :=
  ∀ entry ∈ settings.colors.entries, entry.1 < name → IsAddressable entry.1 ∧ IsLoneCode entry.2

/-- What is wrong with the first entry at fault. Colors come before texts, and among either the order is
that of the names. -/
inductive FirstFault (settings : Settings) : SettingsError → Prop where
  | color {name code e} (hmem : (name, code) ∈ settings.colors.entries)
      (hbefore : settings.ColorsFineBefore name) (hfault : ColorFault name code e) :
      FirstFault settings e
  | text {name} (hmem : name ∈ settings.placeholders.keys)
      (hcolors : ∀ entry ∈ settings.colors.entries, IsAddressable entry.1 ∧ IsLoneCode entry.2)
      (hbefore : ∀ other ∈ settings.placeholders.keys, other < name → IsAddressable other)
      (hname : ¬ IsAddressable name) : FirstFault settings (.invalidIdentifier name)

theorem validateColor_fine_iff {name code : String} :
    validateColor name code = .ok () ↔ IsAddressable name ∧ IsLoneCode code := by
  rw [validateColor_eq_ok_iff, isAddressable_iff, isLoneCode_iff]

theorem validateColor_eq_error_iff {name code : String} {e : SettingsError} :
    validateColor name code = .error e ↔ ColorFault name code e := by
  rw [validateColor]
  constructor
  · intro h
    split at h
    next hname =>
      obtain rfl := Except.error.inj h
      exact .name (by simpa [isAddressable_iff, ← isIdentifier_iff] using hname)
    next hname =>
      split at h
      next hcode =>
        obtain rfl := Except.error.inj h
        exact .code (by simpa [isAddressable_iff, ← isIdentifier_iff] using hname)
          (by simpa [isLoneCode_iff] using hcode)
      next => cases h
  · rintro (hname | ⟨hname, hcode⟩)
    · rw [isAddressable_iff, ← isIdentifier_iff, Bool.not_eq_true] at hname
      rw [hname, Bool.not_false, if_pos rfl]
    · rw [isAddressable_iff, ← isIdentifier_iff] at hname
      rw [isLoneCode_iff, Bool.not_eq_true] at hcode
      rw [hname, hcode, Bool.not_true, Bool.not_false, if_neg Bool.false_ne_true, if_pos rfl]

theorem validatePlaceholder_eq_ok_iff {name : String} :
    validatePlaceholder name = .ok () ↔ IsAddressable name := by
  rw [isAddressable_iff, ← isIdentifier_iff, validatePlaceholder]
  by_cases hname : isIdentifier name = true
  · simp [hname]
  · simp [hname]

theorem validatePlaceholder_eq_error_iff {name : String} {e : SettingsError} :
    validatePlaceholder name = .error e ↔ ¬ IsAddressable name ∧ e = .invalidIdentifier name := by
  rw [isAddressable_iff, ← isIdentifier_iff, validatePlaceholder]
  by_cases hname : isIdentifier name = true
  · simp [hname]
  · simp [hname, eq_comm]

/-- Settings pass the check exactly if each color has a name that a message can name and a code that
stripping takes out as a whole, and each text has a name that a message can name. Otherwise the first
entry at fault is reported. -/
theorem validate_accepts_addressable (settings : Settings) :
    (settings.validate = .ok ()
        ↔ (∀ entry ∈ settings.colors.entries, IsAddressable entry.1 ∧ IsLoneCode entry.2)
          ∧ ∀ name ∈ settings.placeholders.keys, IsAddressable name)
      ∧ ∀ e, settings.validate = .error e ↔ settings.FirstFault e := by
  have hcolors : (∀ entry ∈ settings.colors.entries, validateColor entry.1 entry.2 = .ok ())
      ↔ ∀ entry ∈ settings.colors.entries, IsAddressable entry.1 ∧ IsLoneCode entry.2 :=
    forall₂_congr fun entry _ => validateColor_fine_iff
  have hkeys : settings.placeholders.keys.Pairwise fun name name' => id name < id name' :=
    List.pairwise_map.mpr settings.placeholders.sorted
  rw [validate]
  refine ⟨?_, fun e => ?_⟩
  · rw [bind_eq_ok_iff, forM_eq_ok_iff, forM_eq_ok_iff]
    exact and_congr hcolors (forall₂_congr fun name _ => validatePlaceholder_eq_ok_iff)
  · rw [bind_eq_error_iff, forM_eq_ok_iff, forM_eq_error_iff settings.colors.sorted,
      forM_eq_error_iff hkeys]
    constructor
    · rintro (⟨⟨name, code⟩, hmem, hfault, hbefore⟩ | ⟨hfine, name, hmem, hfault, hbefore⟩)
      · exact .color hmem (fun entry hentry hlt => validateColor_fine_iff.mp (hbefore entry hentry hlt))
          (validateColor_eq_error_iff.mp hfault)
      · obtain ⟨hname, rfl⟩ := validatePlaceholder_eq_error_iff.mp hfault
        exact .text hmem (hcolors.mp hfine)
          (fun other hother hlt => validatePlaceholder_eq_ok_iff.mp (hbefore other hother hlt)) hname
    · rintro (⟨hmem, hbefore, hfault⟩ | ⟨hmem, hfine, hbefore, hname⟩)
      · refine Or.inl ⟨_, hmem, validateColor_eq_error_iff.mpr hfault, fun entry hentry hlt => ?_⟩
        exact validateColor_fine_iff.mpr (hbefore entry hentry hlt)
      · refine Or.inr ⟨hcolors.mpr hfine, _, hmem, validatePlaceholder_eq_error_iff.mpr ⟨hname, rfl⟩,
          fun other hother hlt => ?_⟩
        exact validatePlaceholder_eq_ok_iff.mpr (hbefore other hother hlt)

end Settings

end MessageTemplate
