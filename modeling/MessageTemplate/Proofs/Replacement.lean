/-!
Replacing what stands in a text, from left to right.

A rule says which texts are replaced, and by what. To replace by a rule is to take the leftmost place at
which one of these texts begins, to write the new text in its place, and to go on behind it
(`Rule.Replaces`); what is written is not looked at again. Nothing in this says how the places are found.

A function that walks through a text, writes the new text where an old one begins and keeps the character
where none does, finds the same places (`Rule.replaces_of_walk`). Where a rule leaves no choice at any
place, replacing by it has one result (`Rule.Replaces.unique`), and then the walk is what replacing
means (`Rule.replaces_iff`).
-/

namespace MessageTemplate

/-- Which texts are replaced, each with the text that is written for it. -/
abbrev Rule := List Char → List Char → Prop

namespace Rule

/-! ## Replacing -/

/-- The text begins with one that is replaced. -/
def Applies (rule : Rule) (text : List Char) : Prop :=
  ∃ old new, rule old new ∧ old <+: text

/-- No text that is replaced begins inside `text`, when `behind` follows it. -/
def PassesOver (rule : Rule) (text behind : List Char) : Prop :=
  ∀ skipped more, text = skipped ++ more → more ≠ [] → ¬ rule.Applies (more ++ behind)

/-- The leftmost text that is replaced gives way to the new one, and so on behind it. -/
inductive Replaces (rule : Rule) : List Char → List Char → Prop where
  /-- Nothing is left to replace. -/
  | done {text : List Char} (hnone : rule.PassesOver text []) : rule.Replaces text text
  /-- Nothing before this place is replaced. -/
  | next {before old new behind out : List Char} (hrule : rule old new)
      (hleft : rule.PassesOver before (old ++ behind)) (hrest : rule.Replaces behind out) :
      rule.Replaces (before ++ (old ++ behind)) (before ++ (new ++ out))

/-- At a place where a text is replaced, the rule says which and by what; and no place is replaced where
nothing stands. -/
structure IsUnambiguous (rule : Rule) : Prop where
  ne_nil : ∀ {old new}, rule old new → old ≠ []
  eq_of_prefix : ∀ {old new old' new' text}, rule old new → rule old' new' → old <+: text →
    old' <+: text → old = old' ∧ new = new'

/-- Texts of one length cannot begin at one place without being the same. -/
theorem isUnambiguous_of_length {rule : Rule} {n : Nat} (hpos : 0 < n)
    (hlength : ∀ {old new}, rule old new → old.length = n)
    (hnew : ∀ {old new new'}, rule old new → rule old new' → new = new') :
    rule.IsUnambiguous where
  ne_nil := by
    rintro old new hrule rfl
    have hzero : ([] : List Char).length = n := hlength hrule
    rw [List.length_nil] at hzero
    omega
  eq_of_prefix := by
    intro old new old' new' text hrule hrule' hprefix hprefix'
    have hlen : old.length = old'.length := by rw [hlength hrule, hlength hrule']
    obtain rfl : old = old' :=
      (List.prefix_of_prefix_length_le hprefix hprefix' (Nat.le_of_eq hlen)).eq_of_length hlen
    exact ⟨rfl, hnew hrule hrule'⟩

variable {rule : Rule}

/-! ## One result -/

theorem PassesOver.of_append {front text behind : List Char}
    (h : rule.PassesOver (front ++ text) behind) : rule.PassesOver text behind := by
  rintro skipped more rfl
  exact h (front ++ skipped) more (List.append_assoc _ _ _).symm

/-- Where a text is replaced, nothing was passed over. -/
theorem PassesOver.eq_nil {text behind old new rest : List Char} (h : rule.PassesOver text behind)
    (hrule : rule old new) (hstart : old ++ rest = text ++ behind) : text = [] := by
  cases text with
  | nil => rfl
  | cons c text =>
    have happlies : rule.Applies (c :: text ++ behind) := ⟨old, new, hrule, rest, hstart⟩
    exact absurd happlies (h [] (c :: text) rfl (List.cons_ne_nil _ _))

/-- The leftmost place is determined, and with it all that stands around it. -/
theorem IsUnambiguous.first_eq (h : rule.IsUnambiguous)
    {before before' old old' new new' behind behind' : List Char}
    (hrule : rule old new) (hrule' : rule old' new')
    (hleft : rule.PassesOver before (old ++ behind))
    (hleft' : rule.PassesOver before' (old' ++ behind'))
    (htext : before ++ (old ++ behind) = before' ++ (old' ++ behind')) :
    before = before' ∧ new = new' ∧ behind = behind' := by
  have hbefore : before = before' := by
    -- of two different places, the later one would have passed over the earlier one
    rcases List.append_eq_append_iff.mp htext with ⟨more, rfl, hmore⟩ | ⟨more, rfl, hmore⟩
    · rw [hleft'.of_append.eq_nil hrule hmore, List.append_nil]
    · rw [hleft.of_append.eq_nil hrule' hmore, List.append_nil]
  subst hbefore
  have hrest : old ++ behind = old' ++ behind' := List.append_cancel_left htext
  obtain ⟨rfl, rfl⟩ := h.eq_of_prefix hrule hrule' ⟨behind, rfl⟩ ⟨behind', hrest.symm⟩
  exact ⟨rfl, rfl, List.append_cancel_left hrest⟩

/-- A text in which nothing is replaced holds no place at which something is. -/
theorem PassesOver.false_of_rule {before old new behind : List Char}
    (h : rule.PassesOver (before ++ (old ++ behind)) []) (hrule : rule old new) (hne : old ≠ []) :
    False := by
  apply h before (old ++ behind) rfl (List.append_ne_nil_of_left_ne_nil hne _)
  rw [List.append_nil]
  exact ⟨old, new, hrule, behind, rfl⟩

/-- Where the rule leaves no choice, replacing has one result. -/
theorem Replaces.unique (hrule : rule.IsUnambiguous) {text out out' : List Char}
    (h : rule.Replaces text out) (h' : rule.Replaces text out') : out = out' := by
  induction h generalizing out' with
  | done hnone =>
    cases h' with
    | done => rfl
    | next hfirst' => exact (hnone.false_of_rule hfirst' (hrule.ne_nil hfirst')).elim
  | @next before old new behind out hfirst hleft hrest ih =>
    generalize htext : before ++ (old ++ behind) = text at h'
    cases h' with
    | done hnone =>
      rw [← htext] at hnone
      exact (hnone.false_of_rule hfirst (hrule.ne_nil hfirst)).elim
    | next hfirst' hleft' hrest' =>
      obtain ⟨rfl, rfl, rfl⟩ := hrule.first_eq hfirst hfirst' hleft hleft' htext
      rw [ih hrest']

/-! ## Walking through a text -/

/-- A character at which nothing is replaced is kept. -/
theorem Replaces.kept {c : Char} {text out : List Char} (hc : ¬ rule.Applies (c :: text))
    (h : rule.Replaces text out) : rule.Replaces (c :: text) (c :: out) := by
  -- the place before which nothing is replaced is moved one character to the left
  have hmore : ∀ {before behind}, before ++ behind = text → rule.PassesOver before behind →
      rule.PassesOver (c :: before) behind := by
    rintro before behind rfl hpassed skipped more hsplit hne
    cases skipped with
    | nil =>
      obtain rfl : c :: before = more := hsplit
      exact hc
    | cons d skipped => exact hpassed skipped more (List.cons.inj hsplit).2 hne
  cases h with
  | done hnone => exact .done (hmore (List.append_nil _) hnone)
  | @next before old new behind out hfirst hleft hrest =>
    exact @Replaces.next rule (c :: before) old new behind out hfirst (hmore rfl hleft) hrest

/-- A function that walks through a text replaces by the rule. The induction is on the length of the
text, for what is replaced can be longer than one character. -/
theorem replaces_of_walk {walk : List Char → List Char} (hne : ∀ {old new}, rule old new → old ≠ [])
    (hnil : walk [] = [])
    (hreplaced : ∀ {old new} rest, rule old new → walk (old ++ rest) = new ++ walk rest)
    (hkept : ∀ {c rest}, ¬ rule.Applies (c :: rest) → walk (c :: rest) = c :: walk rest)
    (text : List Char) : rule.Replaces text (walk text) := by
  induction hlength : text.length using Nat.strongRecOn generalizing text with
  | _ length ih =>
    by_cases happlies : rule.Applies text
    · obtain ⟨old, new, hrule, rest, rfl⟩ := happlies
      have hshorter : rest.length < length := by
        have := List.length_pos_iff.mpr (hne hrule)
        rw [List.length_append] at hlength
        omega
      have hhere : rule.PassesOver [] (old ++ rest) := by
        intro skipped more hsplit hmore
        exact absurd (List.append_eq_nil_iff.mp hsplit.symm).2 hmore
      rw [hreplaced rest hrule]
      exact @Replaces.next rule [] old new rest (walk rest) hrule hhere (ih _ hshorter rest rfl)
    · cases text with
      | nil =>
        rw [hnil]
        refine .done fun skipped more hsplit hmore => ?_
        exact absurd (List.append_eq_nil_iff.mp hsplit.symm).2 hmore
      | cons c rest =>
        have hshorter : rest.length < length := by
          rw [List.length_cons] at hlength
          omega
        rw [hkept happlies]
        exact .kept happlies (ih _ hshorter rest rfl)

/-- Replacing by a rule is to walk through the text. -/
theorem replaces_iff {walk : List Char → List Char} (hrule : rule.IsUnambiguous)
    (hnil : walk [] = [])
    (hreplaced : ∀ {old new} rest, rule old new → walk (old ++ rest) = new ++ walk rest)
    (hkept : ∀ {c rest}, ¬ rule.Applies (c :: rest) → walk (c :: rest) = c :: walk rest)
    {text out : List Char} : rule.Replaces text out ↔ out = walk text := by
  have hwalk : rule.Replaces text (walk text) :=
    replaces_of_walk hrule.ne_nil hnil hreplaced hkept text
  constructor
  · intro h
    exact h.unique hrule hwalk
  · rintro rfl
    exact hwalk

end Rule

end MessageTemplate
