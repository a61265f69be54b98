import MessageTemplate.Proofs.Resolution

/-!
The bound on the expansion is relative.

A message is expanded at a depth and under a bound, and the depth goes up while the bound stays. Only
the levels between the two are ever seen: from a depth on, the expansion is the one that starts afresh
with the levels that are left (`expandAt_add`). So the depth can be forgotten, and a message is
expanded with one level more by going through its segments once and expanding each value with one
level less (`expand_succ`).

`Unfolds` says what going through the segments once means without the expander: which tokens stay,
which are replaced and by what, and in which world each of them is met.
-/

namespace MessageTemplate

variable {σ C : Type}

/-! ## Depths and levels -/

/-- At a depth under a bound, a message is expanded as from the start with the levels that are left.
The induction is on these levels; a value is one deeper and has one level less. -/
theorem expandAt_add (context : Option C) (depth levels : Nat) (message : String) :
    (expandAt context (depth + levels) depth message : Run σ C String)
      = expand context levels message := by
  induction levels generalizing depth message with
  | zero => rw [Nat.add_zero, expandAt_of_le (Nat.le_refl depth), expand_zero]
  | succ levels ih =>
    have hvalue : (expandAt context (depth + (levels + 1)) (depth + 1) : String → Run σ C String)
        = expandAt context (levels + 1) 1 := by
      funext value
      have hdeep : depth + (levels + 1) = depth + 1 + levels := by omega
      have hstart : levels + 1 = 1 + levels := by omega
      rw [hdeep, hstart, ih, ih]
    have hleft : depth + (levels + 1) - (depth + 1) = levels + 1 - 1 := by omega
    rw [expandAt_of_lt (by omega), expand_of_pos (by omega), resolveAt, resolveAt, hvalue, hleft]

/-- With one level more, the tokens of a message are resolved once, and their values are expanded with
one level less. -/
theorem expand_succ (context : Option C) (levels : Nat) (message : String) :
    (expand context (levels + 1) message : Run σ C String)
      = substitute (resolve (expand context levels) context levels) (scan message) := by
  have hvalue : (expandAt context (levels + 1) 1 : String → Run σ C String)
      = expand context levels := by
    funext value
    rw [Nat.add_comm levels 1, expandAt_add]
  rw [expand_of_pos (Nat.succ_pos levels), resolveAt, hvalue]
  rfl

/-! ## One level -/

/-- What segments become when they are gone through once, from left to right: from a world, they are
written as this text and leave this world. A text is copied. A token stays as it is written if no
placeholder is admitted for it at that moment, or if its handler fails. Otherwise the value of the
handler is expanded with so many levels, in the world that the handler leaves, and the result stands
in the place of the token. -/
inductive Unfolds (context : Option C) (levels : Nat) :
    World σ C → List Segment → String → World σ C → Prop where
  | nil {world} : Unfolds context levels world [] "" world
  | text {world s rest out after} (hrest : Unfolds context levels world rest out after) :
      Unfolds context levels world (.text s :: rest) (s ++ out) after
  | refused {world t span rest out after} (hrefused : ∀ p, ¬ world.registry.Admits context t p)
      (hrest : Unfolds context levels world rest out after) :
      Unfolds context levels world (.token t span :: rest) (t.raw ++ out) after
  | failed {world t span p failure called rest out after}
      (hadmits : world.registry.Admits context t p)
      (hperform : world.perform (world.invocation context levels t p) = called)
      (hfailure : called.1.result = .error failure)
      (hrest : Unfolds context levels called.2 rest out after) :
      Unfolds context levels world (.token t span :: rest) (t.raw ++ out) after
  | replaced {world t span p value called expanded rest out after}
      (hadmits : world.registry.Admits context t p)
      (hperform : world.perform (world.invocation context levels t p) = called)
      (hvalue : called.1.result = .ok value)
      (hexpanded : (expand context levels value).run called.2 = expanded)
      (hrest : Unfolds context levels expanded.2 rest out after) :
      Unfolds context levels world (.token t span :: rest) (expanded.1 ++ out) after

section Unfolds

variable {context : Option C} {levels : Nat}

/-- Substituting segments goes through them once. -/
theorem unfolds_substitute (context : Option C) (levels : Nat) (segments : List Segment)
    (world : World σ C) :
    Unfolds context levels world segments
      ((substitute (resolve (expand context levels) context levels) segments).run world).1
      ((substitute (resolve (expand context levels) context levels) segments).run world).2 := by
  induction segments generalizing world with
  | nil => exact .nil
  | cons segment rest ih =>
    cases segment with
    | text s => exact .text (ih world)
    | token t span =>
      rcases resolve_cases (expand context levels) context levels t world with
        ⟨u, hgate, hstep⟩ | ⟨p, failure, hadmits, hcall, hstep⟩ | ⟨p, value, hadmits, hcall, hstep⟩
      · rw [substitute_kept _ _ _ _ hstep]
        exact .refused (Registry.not_admits_of_gate_error hgate) (ih _)
      · rw [substitute_kept _ _ _ _ hstep]
        exact .failed hadmits rfl hcall (ih _)
      · rw [substitute_replaced _ _ _ _ hstep]
        exact .replaced hadmits rfl hcall rfl (ih _)

/-- There is one way to go through segments, and it is substituting them. -/
theorem Unfolds.substitute_eq {world after : World σ C} {segments : List Segment} {out : String}
    (h : Unfolds context levels world segments out after) :
    (substitute (resolve (expand context levels) context levels) segments).run world
      = (out, after) := by
  induction h with
  | nil => rfl
  | text _ ih => rw [substitute_text, ih]
  | @refused world t span rest out after hrefused _ ih =>
    cases hgate : world.registry.gate context t with
    | error u => rw [substitute_kept _ _ _ _ (resolve_refused hgate), ih]
    | ok p => exact absurd (Registry.admits_of_gate_eq hgate) (hrefused p)
  | failed hadmits hperform hfailure _ ih =>
    subst hperform
    rw [substitute_kept _ _ _ _ (resolve_failed hadmits hfailure), ih]
  | replaced hadmits hperform hvalue hexpanded _ ih =>
    subst hperform hexpanded
    rw [substitute_replaced _ _ _ _ (resolve_value hadmits hvalue), ih]

end Unfolds

/-! ## The bound is relative -/

/-- With one level more, expanding a message is to go through its segments once and to expand each
value with one level less, and nothing else is. From a depth on, a message is expanded as from the start
with the levels that are left. Both hold of the text that is written and of the world that is left. -/
theorem bound_acts_relatively (context : Option C) (depth levels : Nat) (message : String)
    (world : World σ C) :
    (∀ out after, (expand context (levels + 1) message).run world = (out, after)
        ↔ Unfolds context levels world (scan message) out after)
      ∧ (expandAt context (depth + levels) depth message).run world
        = (expand context levels message).run world := by
  refine ⟨fun out after => ⟨fun hrun => ?_, fun h => ?_⟩, ?_⟩
  · have hunfolds := unfolds_substitute context levels (scan message) world
    rw [← expand_succ, hrun] at hunfolds
    exact hunfolds
  · rw [expand_succ]
    exact h.substitute_eq
  · rw [expandAt_add]

end MessageTemplate
