import Mathlib.Data.List.TakeWhile
import MessageTemplate.Token

/-!
The grammar of tokens, `{` `[A-Za-z0-9_]+` ( `:` `[^}]*` )? `}`, as a set of texts.

`Token.read?` decides by looking ahead: it takes the longest name and then searches for the first
closing brace. The grammar below says nothing about how a match is found. What joins the two is that
a match is determined by where it begins: the name ends at the first character outside its class, and
the parameters hold no closing brace. So reading succeeds exactly where some match begins, and gives
that match (`Token.read?_eq_some_iff`, `Token.read?_eq_none_iff`). Everything else about tokens is
taken from these two statements, and no later proof looks inside `Token.read?`.
-/

namespace MessageTemplate

/-! ## The grammar -/

/-- The class `[A-Za-z0-9_]`. -/
def IsNameChar (c : Char) : Prop :=
  ('A' ≤ c ∧ c ≤ 'Z') ∨ ('a' ≤ c ∧ c ≤ 'z') ∨ ('0' ≤ c ∧ c ≤ '9') ∨ c = '_'

/-- A name, `[A-Za-z0-9_]+`. -/
def IsName (cs : List Char) : Prop :=
  cs ≠ [] ∧ ∀ c ∈ cs, IsNameChar c

/-- The texts of tokens. -/
inductive IsTokenText : List Char → Prop where
  | bare {name : List Char} (hname : IsName name) :
      IsTokenText ('{' :: (name ++ ['}']))
  | withParams {name params : List Char} (hname : IsName name) (hparams : '}' ∉ params) :
      IsTokenText ('{' :: (name ++ ':' :: (params ++ ['}'])))

/-- Whether some match of the grammar begins at the first of these characters. -/
def StartsToken (cs : List Char) : Prop :=
  ∃ w, IsTokenText w ∧ w <+: cs

/-- No match begins inside the text where `behind` follows it. A match may reach beyond the text. -/
def NoMatchWithin (text behind : List Char) : Prop :=
  ∀ skipped more, text = skipped ++ more → more ≠ [] → ¬ StartsToken (more ++ behind)

/-- A token that the grammar can write: a name, and parameters without a closing brace. -/
structure Token.WellFormed (t : Token) : Prop where
  isName : IsName t.identifier.toList
  params_closed : ∀ params ∈ t.params, '}' ∉ params.toList

/-! ## The class of name characters -/

/-- The test on characters is the class of the grammar. -/
theorem isIdentifierChar_iff {c : Char} : isIdentifierChar c = true ↔ IsNameChar c := by
  unfold isIdentifierChar IsNameChar Char.isAlphanum Char.isAlpha Char.isUpper Char.isLower
    Char.isDigit
  simp only [Char.le_def, Bool.or_eq_true, decide_eq_true_eq, Bool.and_eq_true, ge_iff_le, or_assoc]

/-- The test on names is the grammar's. -/
theorem isIdentifier_iff {name : String} : isIdentifier name = true ↔ IsName name.toList := by
  have hempty : name.isEmpty = false ↔ name.toList ≠ [] := by
    rw [← Bool.not_eq_true, String.isEmpty_iff, Ne, String.toList_eq_nil_iff]
  rw [isIdentifier, Bool.and_eq_true, Bool.not_eq_true', hempty, List.all_eq_true]
  simp only [isIdentifierChar_iff, IsName]

theorem IsName.all {name : List Char} (h : IsName name) :
    ∀ c ∈ name, isIdentifierChar c = true :=
  fun c hc => isIdentifierChar_iff.mpr (h.2 c hc)

/-- A name holds none of the three characters that end it or surround it. -/
theorem IsName.not_mem {name : List Char} (h : IsName name) {c : Char}
    (hc : isIdentifierChar c = false) : c ∉ name := by
  intro hmem
  rw [h.all c hmem] at hc
  cases hc

/-! ## The written form of a token -/

theorem Token.toList_raw (t : Token) :
    t.raw.toList = '{' :: (t.identifier.toList ++ ((rawParams t.params).toList ++ ['}'])) := by
  have hopen : ("\x7b" : String).toList = ['{'] := rfl
  have hclose : ("\x7d" : String).toList = ['}'] := rfl
  simp only [Token.raw, String.toList_append, hopen, hclose, List.cons_append, List.nil_append,
    List.append_assoc]

theorem Token.toList_rawParams_some (params : String) :
    (rawParams (some params)).toList = ':' :: params.toList := by
  rw [rawParams, String.toList_append]
  rfl

/-- Without parameters there is only the name between the braces. -/
theorem Token.raw_bare (name : String) : (Token.mk name none).raw = "\x7b" ++ name ++ "\x7d" := by
  rw [raw, rawParams, String.append_empty]

/-- Well-formed tokens are written by texts of the grammar. -/
theorem Token.WellFormed.isTokenText {t : Token} (h : t.WellFormed) : IsTokenText t.raw.toList := by
  rw [t.toList_raw]
  cases hp : t.params with
  | none => exact .bare h.isName
  | some params =>
    rw [Token.toList_rawParams_some, List.cons_append]
    exact .withParams h.isName (h.params_closed params hp)

/-- Each text of the grammar writes a well-formed token. -/
theorem IsTokenText.exists_token {w : List Char} (h : IsTokenText w) :
    ∃ t : Token, t.WellFormed ∧ t.raw.toList = w := by
  cases h with
  | @bare name hname =>
    refine ⟨⟨String.ofList name, none⟩, ⟨by rwa [String.toList_ofList], by simp⟩, ?_⟩
    rw [Token.toList_raw, String.toList_ofList]
    rfl
  | @withParams name params hname hparams =>
    refine ⟨⟨String.ofList name, some (String.ofList params)⟩,
      ⟨by rwa [String.toList_ofList], ?_⟩, ?_⟩
    · intro p hp
      obtain rfl := Option.some.inj hp
      rwa [String.toList_ofList]
    · rw [Token.toList_raw, Token.toList_rawParams_some, String.toList_ofList, String.toList_ofList,
        List.cons_append]

/-- A text of the grammar begins with its opening brace. -/
theorem IsTokenText.exists_cons {w : List Char} (h : IsTokenText w) : ∃ v, w = '{' :: v := by
  cases h with
  | bare => exact ⟨_, rfl⟩
  | withParams => exact ⟨_, rfl⟩

/-- What writes a token is not empty. -/
theorem Token.WellFormed.raw_ne_nil {t : Token} (h : t.WellFormed) : t.raw.toList ≠ [] := by
  obtain ⟨v, hv⟩ := h.isTokenText.exists_cons
  rw [hv]
  exact List.cons_ne_nil _ _

/-- No match begins at a character other than the opening brace. -/
theorem not_startsToken_cons {c : Char} {cs : List Char} (hc : c ≠ '{') : ¬ StartsToken (c :: cs) := by
  rintro ⟨w, hw, rest, hrest⟩
  obtain ⟨v, rfl⟩ := hw.exists_cons
  exact hc (List.cons.inj hrest).1.symm

/-! ## Reading a token -/

/-- The longest run of a class is cut off where the next character is outside the class. -/
theorem takeWhile_append_cons {p : Char → Bool} {run : List Char} {c : Char}
    (hrun : ∀ x ∈ run, p x = true) (hc : p c = false) (rest : List Char) :
    (run ++ c :: rest).takeWhile p = run ∧ (run ++ c :: rest).dropWhile p = c :: rest := by
  have hneg : ¬ p c = true := by rw [hc]; exact Bool.false_ne_true
  constructor
  · rw [List.takeWhile_append_of_pos hrun, List.takeWhile_cons_of_neg hneg, List.append_nil]
  · rw [List.dropWhile_append_of_pos hrun, List.dropWhile_cons_of_neg hneg]

/-- Behind the longest run of a class stands a character outside the class. -/
theorem dropWhile_eq_cons {p : Char → Bool} {cs rest : List Char} {c : Char}
    (h : cs.dropWhile p = c :: rest) : p c = false ∧ cs = cs.takeWhile p ++ c :: rest := by
  have hhead := List.head?_dropWhile_not p cs
  rw [h] at hhead
  refine ⟨hhead, ?_⟩
  rw [← h]
  exact List.takeWhile_append_dropWhile.symm

/-- A written token is read as it was. -/
theorem Token.WellFormed.read?_raw {t : Token} (h : t.WellFormed) {cs rest : List Char}
    (hcs : '{' :: cs = t.raw.toList ++ rest) : Token.read? cs = some (t, rest) := by
  obtain ⟨identifier, params⟩ := t
  have hname : identifier.toList.isEmpty = false := by
    rw [List.isEmpty_eq_false_iff]
    exact h.isName.1
  rw [Token.toList_raw, List.cons_append, List.append_assoc, List.append_assoc] at hcs
  obtain rfl : cs = _ := (List.cons.inj hcs).2
  cases params with
  | none =>
    -- the closing brace ends the name
    obtain ⟨htake, hdrop⟩ := takeWhile_append_cons h.isName.all
      (show isIdentifierChar '}' = false from rfl) rest
    have hraw : (rawParams none).toList = [] := rfl
    simp only [hraw, List.nil_append, List.cons_append]
    simp only [Token.read?, htake, hdrop, hname, Bool.false_eq_true, if_false, String.ofList_toList]
  | some params =>
    have hclosed : ∀ x ∈ params.toList, (x != '}') = true := by
      intro x hx
      rw [bne_iff_ne]
      rintro rfl
      exact h.params_closed params rfl hx
    -- the colon ends the name, and the closing brace the parameters
    obtain ⟨htake, hdrop⟩ := takeWhile_append_cons h.isName.all
      (show isIdentifierChar ':' = false from rfl) (params.toList ++ '}' :: rest)
    obtain ⟨htake', hdrop'⟩ := takeWhile_append_cons hclosed
      (show ('}' != '}') = false from rfl) rest
    simp only [Token.toList_rawParams_some, List.cons_append, List.nil_append]
    simp only [Token.read?, htake, hdrop, htake', hdrop', hname, Bool.false_eq_true, if_false,
      String.ofList_toList]

/-- What is read is well-formed, and was written in front of the rest. -/
theorem Token.of_read? {cs rest : List Char} {t : Token} (h : Token.read? cs = some (t, rest)) :
    t.WellFormed ∧ '{' :: cs = t.raw.toList ++ rest := by
  have hall : ∀ x ∈ cs.takeWhile isIdentifierChar, IsNameChar x :=
    fun x hx => isIdentifierChar_iff.mp (List.mem_takeWhile_imp hx)
  unfold Token.read? at h
  simp only at h
  split at h
  · cases h
  next hname =>
    have hisName : IsName (cs.takeWhile isIdentifierChar) := by
      refine ⟨fun hnil => hname ?_, hall⟩
      rw [hnil]
      rfl
    split at h
    next rest' hdrop =>
      obtain ⟨rfl, rfl⟩ := Prod.mk.inj (Option.some.inj h)
      refine ⟨⟨by rwa [String.toList_ofList], by simp⟩, ?_⟩
      rw [Token.toList_raw, String.toList_ofList, List.cons_append, List.append_assoc]
      exact congrArg ('{' :: ·) (dropWhile_eq_cons hdrop).2
    next body hdrop =>
      split at h
      next close rest' hdrop' =>
        obtain ⟨rfl, rfl⟩ := Prod.mk.inj (Option.some.inj h)
        obtain ⟨hclose, hbody⟩ := dropWhile_eq_cons hdrop'
        obtain rfl : close = '}' := by simpa using hclose
        refine ⟨⟨by rwa [String.toList_ofList], ?_⟩, ?_⟩
        · intro params hparams hmem
          obtain rfl := Option.some.inj hparams
          rw [String.toList_ofList] at hmem
          simpa using List.mem_takeWhile_imp hmem
        · rw [Token.toList_raw, Token.toList_rawParams_some, String.toList_ofList,
            String.toList_ofList, List.cons_append, List.cons_append, List.append_assoc,
            List.cons_append, List.append_assoc]
          refine congrArg ('{' :: ·) ((dropWhile_eq_cons hdrop).2.trans ?_)
          exact congrArg (cs.takeWhile isIdentifierChar ++ ':' :: ·) hbody
      · cases h
    · cases h

/-- Reading behind an opening brace accepts exactly the grammar: it gives the token whose text begins
at the brace, and what follows that text. -/
theorem Token.read?_eq_some_iff {cs rest : List Char} {t : Token} :
    Token.read? cs = some (t, rest) ↔ t.WellFormed ∧ '{' :: cs = t.raw.toList ++ rest :=
  ⟨Token.of_read?, fun h => h.1.read?_raw h.2⟩

/-- Reading fails exactly where no match begins. -/
theorem Token.read?_eq_none_iff {cs : List Char} :
    Token.read? cs = none ↔ ¬ StartsToken ('{' :: cs) := by
  constructor
  · rintro hnone ⟨w, hw, rest, hrest⟩
    obtain ⟨t, ht, rfl⟩ := hw.exists_token
    rw [ht.read?_raw hrest.symm] at hnone
    cases hnone
  · intro hno
    cases hread : Token.read? cs with
    | none => rfl
    | some found =>
      obtain ⟨ht, hcs⟩ := Token.read?_eq_some_iff.mp hread
      exact absurd ⟨_, ht.isTokenText, found.2, hcs.symm⟩ hno

/-! ## A match is determined by where it begins -/

/-- Two tokens written in front of one text are the same, and so is what follows them. -/
theorem Token.WellFormed.eq_of_append_eq {t u : Token} (ht : t.WellFormed) (hu : u.WellFormed)
    {rest rest' : List Char} (h : t.raw.toList ++ rest = u.raw.toList ++ rest') :
    t = u ∧ rest = rest' := by
  obtain ⟨v, hv⟩ := ht.isTokenText.exists_cons
  have hcs : '{' :: (v ++ rest) = t.raw.toList ++ rest := by rw [hv, List.cons_append]
  have hread := ht.read?_raw hcs
  rw [hu.read?_raw (hcs.trans h)] at hread
  obtain ⟨rfl, rfl⟩ := Prod.mk.inj (Option.some.inj hread)
  exact ⟨rfl, rfl⟩

/-- Two matches that begin at one place are the same. -/
theorem IsTokenText.eq_of_prefix {w w' cs : List Char} (hw : IsTokenText w) (hw' : IsTokenText w')
    (h : w <+: cs) (h' : w' <+: cs) : w = w' := by
  obtain ⟨t, ht, rfl⟩ := hw.exists_token
  obtain ⟨u, hu, rfl⟩ := hw'.exists_token
  obtain ⟨rest, hrest⟩ := h
  obtain ⟨rest', hrest'⟩ := h'
  rw [(ht.eq_of_append_eq hu (hrest.trans hrest'.symm)).1]

/-! ## Texts without a match -/

theorem noMatchWithin_nil (behind : List Char) : NoMatchWithin [] behind := by
  intro skipped more h hne
  exact absurd (List.append_eq_nil_iff.mp h.symm).2 hne

theorem noMatchWithin_cons {c : Char} {text behind : List Char} :
    NoMatchWithin (c :: text) behind ↔
      ¬ StartsToken (c :: (text ++ behind)) ∧ NoMatchWithin text behind := by
  constructor
  · intro h
    refine ⟨h [] (c :: text) rfl (List.cons_ne_nil _ _), ?_⟩
    intro skipped more htext hne
    exact h (c :: skipped) more (by rw [htext, List.cons_append]) hne
  · rintro ⟨hc, htext⟩ skipped more h hne
    cases skipped with
    | nil =>
      obtain rfl : more = c :: text := h.symm
      exact hc
    | cons d skipped =>
      exact htext skipped more (List.cons.inj h).2 hne

/-- Inside a text that is cut in two, a match begins in one of the parts. -/
theorem noMatchWithin_append {text more behind : List Char} :
    NoMatchWithin (text ++ more) behind ↔
      NoMatchWithin text (more ++ behind) ∧ NoMatchWithin more behind := by
  induction text with
  | nil => exact ⟨fun h => ⟨noMatchWithin_nil _, h⟩, fun h => h.2⟩
  | cons c text ih =>
    rw [List.cons_append, noMatchWithin_cons, noMatchWithin_cons, ih, List.append_assoc, and_assoc]

/-- It is enough to look at the braces of a text. -/
theorem noMatchWithin_iff_brace {text behind : List Char} :
    NoMatchWithin text behind ↔
      ∀ before more, text = before ++ '{' :: more → ¬ StartsToken ('{' :: (more ++ behind)) := by
  constructor
  · intro h before more htext
    exact h before ('{' :: more) htext (List.cons_ne_nil _ _)
  · intro h skipped more htext hne
    obtain ⟨c, more, rfl⟩ := List.exists_cons_of_ne_nil hne
    by_cases hc : c = '{'
    · subst hc
      exact h skipped more htext
    · exact not_startsToken_cons hc

/-- Where there is no brace, no match begins. -/
theorem NoMatchWithin.of_not_mem {text : List Char} (h : '{' ∉ text) (behind : List Char) :
    NoMatchWithin text behind := by
  rw [noMatchWithin_iff_brace]
  rintro before more rfl
  exact absurd (List.mem_append_right _ List.mem_cons_self) h

/-- No text without a match holds a match. -/
theorem NoMatchWithin.false_of_match {before w behind : List Char}
    (h : NoMatchWithin (before ++ (w ++ behind)) []) (hw : IsTokenText w) : False := by
  obtain ⟨v, rfl⟩ := hw.exists_cons
  have hat := (noMatchWithin_cons.mp (noMatchWithin_append.mp h).2).1
  rw [List.append_nil] at hat
  exact hat ⟨_, hw, behind, rfl⟩

/-- A text in which no match begins is empty where a match begins at its first character. -/
theorem NoMatchWithin.eq_nil {text behind w rest : List Char} (h : NoMatchWithin text behind)
    (hw : IsTokenText w) (hstart : w ++ rest = text ++ behind) : text = [] := by
  by_contra hne
  exact h [] text rfl hne ⟨w, hw, rest, hstart⟩

/-- The first match of a text is determined, and with it what stands before and behind. -/
theorem first_match_unique {before before' w w' behind behind' : List Char}
    (hw : IsTokenText w) (hw' : IsTokenText w') (hleft : NoMatchWithin before (w ++ behind))
    (hleft' : NoMatchWithin before' (w' ++ behind'))
    (h : before ++ (w ++ behind) = before' ++ (w' ++ behind')) :
    before = before' ∧ w = w' ∧ behind = behind' := by
  have hbefore : before = before' := by
    -- the match that begins earlier would begin inside the text before the other one
    rcases List.append_eq_append_iff.mp h with ⟨more, rfl, hmore⟩ | ⟨more, rfl, hmore⟩
    · rw [(noMatchWithin_append.mp hleft').2.eq_nil hw hmore, List.append_nil]
    · rw [(noMatchWithin_append.mp hleft).2.eq_nil hw' hmore, List.append_nil]
  subst hbefore
  have hrest : w ++ behind = w' ++ behind' := List.append_cancel_left h
  have hww : w = w' := hw.eq_of_prefix hw' ⟨behind, rfl⟩ ⟨behind', hrest.symm⟩
  subst hww
  exact ⟨rfl, rfl, List.append_cancel_left hrest⟩

end MessageTemplate
