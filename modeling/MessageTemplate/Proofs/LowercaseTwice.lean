import MessageTemplate.Proofs.Lowercase

/-!
A text in lower case is its own lower case.

The full mappings send a character to characters that no mapping changes. For the runs of the table this
is one comparison for each pair of runs: what the first one maps to lies apart from what the second one
maps (`caseRuns_apart`). The rules beside the table give an `i` with a dot above and the two small sigmas,
and none of these is mapped either. So after lower-casing once there is nothing left to change, and no
capital sigma whose place would matter.
-/

namespace MessageTemplate.Text

/-! ## Runs of the table -/

/-- The code point that the run maps a code point to. -/
def CaseRun.image (run : CaseRun) (n : Nat) : Nat :=
  Int.toNat (n + run.shift)

/-- Whether the run maps nothing to a code point that the other one maps: either all of it comes before or
behind the other run, or both take every second code point and miss one another. -/
def CaseRun.isApart (run other : CaseRun) : Bool :=
  (run.image run.last).blt other.first || other.last.blt (run.image run.first)
    || (other.step == 2 && (run.step == 2 || run.first == run.last)
      && (run.image run.first + other.first) % 2 == 1 && decide (0 < run.first + run.shift))

theorem CaseRun.not_contains_image {run other : CaseRun} (h : run.isApart other = true) {n : Nat}
    (hn : run.contains n = true) : other.contains (run.image n) = false := by
  simp only [isApart, Bool.or_eq_true, Bool.and_eq_true, decide_eq_true_eq, beq_iff_eq,
    Nat.blt_eq] at h
  simp only [contains, Bool.and_eq_true, decide_eq_true_eq, beq_iff_eq] at hn
  rw [← Bool.not_eq_true]
  simp only [contains, Bool.and_eq_true, decide_eq_true_eq, beq_iff_eq]
  rintro ⟨⟨hfirst, hlast⟩, hstep⟩
  unfold image at h hfirst hlast hstep
  rcases h with (hbefore | hbehind) | ⟨⟨⟨htwo, hrun⟩, hodd⟩, hpos⟩
  · omega
  · omega
  · -- both runs go in steps of two, or the first one is a single character
    rw [htwo] at hstep
    rcases hrun with hrun | hrun
    · rw [hrun] at hn
      omega
    · omega

/-- What has a form of two characters, as a run of one character that is mapped nowhere. -/
def dottedCapital : CaseRun := ⟨0x130, 0x130, 1, 0⟩

/-- The table maps to nothing that it maps itself, and not to U+0130. -/
theorem caseRuns_apart :
    caseRuns.all (fun run => (dottedCapital :: caseRuns).all run.isApart) = true := by
  decide +kernel

/-! ## Settled characters -/

/-- The character is its own lower case, wherever it stands. -/
def IsSettled (c : Char) : Prop :=
  c ≠ 'Σ' ∧ lowerChar c = [c]

/-- A character is settled if no run of the table has it and it is not U+0130. -/
theorem isSettled_of_not_contains {c : Char}
    (h : ∀ run ∈ dottedCapital :: caseRuns, run.contains c.toNat = false) : IsSettled c := by
  have hlookup : caseRuns.find? (·.contains c.toNat) = none := by
    rw [List.find?_eq_none]
    intro run hrun
    rw [h run (List.mem_cons_of_mem _ hrun)]
    exact Bool.false_ne_true
  refine ⟨?_, ?_⟩
  · rintro rfl
    exact absurd hlookup (by decide)
  · have hdotted : c ≠ 'İ' := by
      rintro rfl
      exact absurd (h dottedCapital List.mem_cons_self) (by decide)
    -- the capitals of ASCII are a run of the table too
    have hcapital : ¬ (0x41 ≤ c.toNat ∧ c.toNat ≤ 0x5A) := by
      have hrun := h ⟨0x41, 0x5A, 1, 32⟩ (List.mem_cons_of_mem _ List.mem_cons_self)
      simpa [CaseRun.contains, Nat.mod_one] using hrun
    rw [lowerChar, if_neg hdotted, hlookup, toLower_of_not_capital hcapital, ite_self]

/-- ASCII characters in lower case are settled. -/
theorem isSettled_toLower_of_ascii {c : Char} (h : c.toNat < 0x80) : IsSettled c.toLower := by
  have hall : ∀ d : Char, d.toNat < 0x80 → d.toLower.toNat < 0x80 ∧ d.toLower.toLower = d.toLower :=
    forall_ascii (by decide)
  obtain ⟨hascii, htwice⟩ := hall c h
  refine ⟨?_, ?_⟩
  · intro hsigma
    rw [hsigma] at hascii
    exact absurd hascii (by decide)
  · rw [lowerChar, if_pos hascii, htwice]

/-- What a run of the table maps to is settled. A number that is no character stands for the null
character, which is settled too. -/
theorem isSettled_image {run : CaseRun} (hrun : run ∈ caseRuns) {n : Nat}
    (hn : run.contains n = true) : IsSettled (Char.ofNat (run.image n)) := by
  have hvalid : (Char.ofNat (run.image n)).toNat = run.image n
      ∨ Char.ofNat (run.image n) = Char.ofNat 0 := by
    unfold Char.ofNat
    by_cases hscalar : (run.image n).isValidChar
    · rw [dif_pos hscalar]
      exact Or.inl rfl
    · rw [dif_neg hscalar]
      exact Or.inr rfl
  rcases hvalid with hvalid | hnull
  · refine isSettled_of_not_contains fun other hother => ?_
    have hapart := List.all_eq_true.mp (List.all_eq_true.mp caseRuns_apart run hrun) other hother
    rw [hvalid]
    exact CaseRun.not_contains_image hapart hn
  · rw [hnull]
    exact isSettled_toLower_of_ascii (c := Char.ofNat 0) (by decide)

/-- Lower-casing a single character settles it. -/
theorem isSettled_of_mem_lowerChar {c d : Char} (hsigma : c ≠ 'Σ') (hd : d ∈ lowerChar c) :
    IsSettled d := by
  by_cases hascii : c.toNat < 0x80
  · rw [lowerChar, if_pos hascii, List.mem_singleton] at hd
    rw [hd]
    exact isSettled_toLower_of_ascii hascii
  by_cases hdotted : c = 'İ'
  · rw [lowerChar, if_neg hascii, if_pos hdotted, List.mem_cons, List.mem_singleton] at hd
    rcases hd with rfl | rfl
    · exact isSettled_toLower_of_ascii (c := 'i') (by decide)
    · exact ⟨by decide, by decide +kernel⟩
  cases hfind : caseRuns.find? (·.contains c.toNat) with
  | some run =>
    rw [lowerChar, if_neg hascii, if_neg hdotted, hfind, List.mem_singleton] at hd
    have hcontains := List.find?_some hfind
    rw [hd]
    exact isSettled_image (List.mem_of_find?_eq_some hfind) hcontains
  | none =>
    have hkept : lowerChar c = [c] := by
      rw [lowerChar, if_neg hascii, if_neg hdotted, hfind]
    rw [hkept, List.mem_singleton] at hd
    rw [hd]
    exact ⟨hsigma, hkept⟩

/-! ## Texts -/

/-- A text in lower case has settled characters only. -/
theorem isSettled_of_mem_lowerAfter {before cs : List Char} {d : Char}
    (hd : d ∈ lowerAfter before cs) : IsSettled d := by
  induction cs generalizing before with
  | nil => cases hd
  | cons c rest ih =>
    rw [lowerAfter, List.mem_append] at hd
    rcases hd with hd | hd
    · by_cases hsigma : c = 'Σ'
      · have hsmall : IsSettled 'ς' ∧ IsSettled 'σ' :=
          ⟨⟨by decide, by decide +kernel⟩, ⟨by decide, by decide +kernel⟩⟩
        rw [if_pos hsigma, List.mem_singleton] at hd
        rw [hd]
        split
        · exact hsmall.1
        · exact hsmall.2
      · rw [if_neg hsigma] at hd
        exact isSettled_of_mem_lowerChar hsigma hd
    · exact ih hd

/-- Settled characters stay as they are. -/
theorem lowerAfter_of_isSettled {before cs : List Char} (h : ∀ c ∈ cs, IsSettled c) :
    lowerAfter before cs = cs := by
  induction cs generalizing before with
  | nil => rfl
  | cons c rest ih =>
    obtain ⟨⟨hsigma, hlower⟩, hrest⟩ := List.forall_mem_cons.mp h
    rw [lowerAfter, if_neg hsigma, hlower, ih hrest, List.singleton_append]

/-- Lower-casing a second time changes nothing. -/
@[simp] theorem lowercase_lowercase (s : String) : lowercase (lowercase s) = lowercase s := by
  have hsettled : ∀ c ∈ (lowercase s).toList, IsSettled c := by
    intro c hc
    rw [lowercase, String.toList_ofList] at hc
    exact isSettled_of_mem_lowerAfter hc
  rw [lowercase, lowerAfter_of_isSettled hsettled, String.ofList_toList]

end MessageTemplate.Text
