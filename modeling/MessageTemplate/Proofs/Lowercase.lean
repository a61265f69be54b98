import MessageTemplate.Proofs.TokenGrammar
import MessageTemplate.Text.Lowercase

/-!
Lower-casing where the full mappings have no say.

The identifiers of tokens are ASCII, and so the rules that reach beyond single characters, and the
tables behind them, never apply to them: a token names a placeholder by its identifier in ASCII lower
case.
-/

namespace MessageTemplate

namespace Text

/-- ASCII has few characters, so that what is decidable is shown of all of them by going through. -/
theorem forall_ascii {P : Char → Prop} (h : ∀ n < 0x80, P (Char.ofNat n)) (c : Char)
    (hc : c.toNat < 0x80) : P c := by
  have hp := h c.toNat hc
  rwa [Char.ofNat_toNat] at hp

/-- An ASCII character is mapped to its ASCII lower case. -/
theorem lowerChar_of_ascii {c : Char} (h : c.toNat < 0x80) : lowerChar c = [c.toLower] := by
  rw [lowerChar, if_pos h]

/-- What stands before ASCII characters has no influence on them. -/
theorem lowerAfter_of_ascii {before cs : List Char} (h : ∀ c ∈ cs, c.toNat < 0x80) :
    lowerAfter before cs = cs.map Char.toLower := by
  induction cs generalizing before with
  | nil => rfl
  | cons c cs ih =>
    have hc : c.toNat < 0x80 := h c List.mem_cons_self
    have hsigma : c ≠ 'Σ' := by
      rintro rfl
      exact absurd hc (by decide)
    rw [lowerAfter, if_neg hsigma, lowerChar_of_ascii hc,
      ih fun d hd => h d (List.mem_cons_of_mem _ hd)]
    rfl

/-- The change of `A`-`Z` to `a`-`z` goes character by character. -/
theorem toLower_eq_iff {s lower : String} :
    s.toLower = lower ↔ s.toList.map Char.toLower = lower.toList := by
  unfold String.toLower
  rw [← String.toList_inj, String.toList_map]

/-- The change of `A`-`Z` to `a`-`z` leaves all other characters. -/
theorem toLower_of_not_capital {c : Char} (h : ¬ ('A' ≤ c ∧ c ≤ 'Z')) : c.toLower = c := by
  rw [Char.le_def, Char.le_def] at h
  unfold Char.toLower
  exact dif_neg h

/-- On ASCII texts lower-casing is the change of `A`-`Z` to `a`-`z`. -/
theorem lowercase_of_ascii {s : String} (h : ∀ c ∈ s.toList, c.toNat < 0x80) :
    lowercase s = s.toLower := by
  unfold String.toLower
  rw [lowercase, lowerAfter_of_ascii h, ← String.toList_map, String.ofList_toList]

theorem toList_lowercase_of_ascii {s : String} (h : ∀ c ∈ s.toList, c.toNat < 0x80) :
    (lowercase s).toList = s.toList.map Char.toLower := by
  rw [lowercase, lowerAfter_of_ascii h, String.toList_ofList]

end Text

/-- The characters of names are ASCII. -/
theorem IsNameChar.lt {c : Char} (h : IsNameChar c) : c.toNat < 0x80 := by
  have hle : ∀ {d : Char}, c ≤ d → d.toNat < 0x80 → c.toNat < 0x80 :=
    fun hcd hd => Nat.lt_of_le_of_lt hcd hd
  rcases h with ⟨-, h⟩ | ⟨-, h⟩ | ⟨-, h⟩ | rfl
  · exact hle h (by decide)
  · exact hle h (by decide)
  · exact hle h (by decide)
  · decide

/-- The lower case of a name character is a name character, and its own lower case. Names are ASCII, so
there are few characters to go through. -/
theorem IsNameChar.toLower {c : Char} (h : IsNameChar c) :
    IsNameChar c.toLower ∧ c.toLower.toLower = c.toLower := by
  have hall : ∀ d : Char, d.toNat < 0x80 → isIdentifierChar d = true →
      isIdentifierChar d.toLower = true ∧ d.toLower.toLower = d.toLower :=
    Text.forall_ascii (by decide)
  have hc := hall c h.lt (isIdentifierChar_iff.mpr h)
  rwa [isIdentifierChar_iff] at hc

/-- The lower case of a name is a name, and its own lower case. -/
theorem IsName.lowercase {name : String} (h : IsName name.toList) :
    IsName (Text.lowercase name).toList
      ∧ Text.lowercase (Text.lowercase name) = Text.lowercase name := by
  have hlower : (Text.lowercase name).toList = name.toList.map Char.toLower :=
    Text.toList_lowercase_of_ascii fun c hc => (h.2 c hc).lt
  have hname : IsName (Text.lowercase name).toList := by
    rw [hlower]
    refine ⟨fun hnil => h.1 (List.map_eq_nil_iff.mp hnil), fun c hc => ?_⟩
    obtain ⟨d, hd, rfl⟩ := List.mem_map.mp hc
    exact (h.2 d hd).toLower.1
  refine ⟨hname, ?_⟩
  rw [← String.toList_inj, Text.toList_lowercase_of_ascii fun c hc => (hname.2 c hc).lt, hlower,
    List.map_map]
  exact List.map_congr_left fun c hc => (h.2 c hc).toLower.2

/-- A character whose lower case is a name character is one itself. -/
theorem IsNameChar.of_toLower {c : Char} (h : IsNameChar c.toLower) : IsNameChar c := by
  by_cases hupper : 'A' ≤ c ∧ c ≤ 'Z'
  · exact Or.inl hupper
  · rwa [Text.toLower_of_not_capital hupper] at h

/-- A text whose ASCII lower case is a name is one itself, and lower-casing gives this name. -/
theorem IsName.of_toLower {name written : String} (hname : IsName name.toList)
    (hwritten : written.toLower = name) :
    IsName written.toList ∧ Text.lowercase written = name := by
  have hisName : IsName written.toList := by
    rw [← Text.toLower_eq_iff.mp hwritten] at hname
    refine ⟨fun hnil => hname.1 (List.map_eq_nil_iff.mpr hnil), fun c hc => ?_⟩
    exact (hname.2 _ (List.mem_map_of_mem hc)).of_toLower
  refine ⟨hisName, ?_⟩
  rw [Text.lowercase_of_ascii fun c hc => (hisName.2 c hc).lt, hwritten]

/-- A name in lower case, `[a-z0-9_]+`. -/
def IsLowerName (cs : List Char) : Prop :=
  cs ≠ [] ∧ ∀ c ∈ cs, ('a' ≤ c ∧ c ≤ 'z') ∨ ('0' ≤ c ∧ c ≤ '9') ∨ c = '_'

theorem IsLowerName.isName {cs : List Char} (h : IsLowerName cs) : IsName cs :=
  ⟨h.1, fun c hc => Or.inr (h.2 c hc)⟩

/-- A name in lower case is its own. -/
theorem IsLowerName.toLower_eq {name : String} (h : IsLowerName name.toList) : name.toLower = name := by
  have hall : ∀ c : Char, c.toNat < 0x80 →
      ('a' ≤ c ∧ c ≤ 'z') ∨ ('0' ≤ c ∧ c ≤ '9') ∨ c = '_' → c.toLower = c :=
    Text.forall_ascii (by decide)
  have hkept : ∀ c ∈ name.toList, c.toLower = c :=
    fun c hc => hall c (h.isName.2 c hc).lt (h.2 c hc)
  rw [Text.toLower_eq_iff, List.map_congr_left hkept, List.map_id']

/-- Lower-casing a name leaves no capitals in it. -/
theorem IsName.isLowerName_lowercase {name : String} (h : IsName name.toList) :
    IsLowerName (Text.lowercase name).toList := by
  have hall : ∀ d : Char, d.toNat < 0x80 → isIdentifierChar d = true →
      ('a' ≤ d.toLower ∧ d.toLower ≤ 'z') ∨ ('0' ≤ d.toLower ∧ d.toLower ≤ '9') ∨ d.toLower = '_' :=
    Text.forall_ascii (by decide)
  refine ⟨h.lowercase.1.1, fun c hc => ?_⟩
  rw [Text.toList_lowercase_of_ascii fun d hd => (h.2 d hd).lt] at hc
  obtain ⟨d, hd, rfl⟩ := List.mem_map.mp hc
  exact hall d (h.2 d hd).lt (h.all d hd)

/-- The identifier of a well-formed token in lower case is its ASCII lower case. -/
theorem Token.WellFormed.lowercase_identifier {t : Token} (h : t.WellFormed) :
    Text.lowercase t.identifier = t.identifier.toLower :=
  Text.lowercase_of_ascii fun c hc => (h.isName.2 c hc).lt

end MessageTemplate
