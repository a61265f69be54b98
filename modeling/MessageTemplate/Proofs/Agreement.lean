import MessageTemplate.Proofs.Lowercase
import MessageTemplate.Proofs.Resolution
import MessageTemplate.Proofs.Segmentation

/-!
Checking a message agrees with expanding it.

Both go through the same segments with the same step, but one writes text and the other reports
tokens, and handlers change the world between two tokens. So what is compared is not one token at a
time but two runs from the same world. They stay in step: a token that one leaves as it is written is
reported by the other, and the world that is left is the same. What the report says is then read off
the spans, which no two tokens of a message share.
-/

namespace MessageTemplate

variable {σ C : Type}

/-! ## Reports -/

/-- What a report on a message is: tokens of the message in order, each under its identifier in ASCII
lower case and with the bytes it takes. -/
structure IsReport (message : String) (report : List Diagnostic) : Prop where
  ordered : report.Pairwise fun d e => d.span.stop ≤ e.span.start
  nonempty : ∀ d ∈ report, d.span.start < d.span.stop
  token : ∀ d ∈ report, ∃ t, (t, d.span) ∈ tokens message ∧ d.span.Spells message t.raw
    ∧ d.unresolved.identifier = t.identifier.toLower

/-- A report that keeps the order of the tokens, and speaks of each under the identifier that is looked
up. -/
theorem isReport_of_sublist {message : String} {report : List Diagnostic}
    (hsub : (report.map (·.span)).Sublist ((tokens message).map (·.2)))
    (htoken : ∀ d ∈ report, ∃ t, (t, d.span) ∈ tokens message
      ∧ d.unresolved.identifier = Text.lowercase t.identifier) : IsReport message report where
  ordered := by
    have hspans : ((tokens message).map (·.2)).Pairwise fun a b => a.stop ≤ b.start :=
      List.pairwise_map.mpr (tokens_pairwise message)
    exact List.pairwise_map.mp (hspans.sublist hsub)
  nonempty := by
    intro d hd
    obtain ⟨t, ht, -⟩ := htoken d hd
    exact start_lt_stop_of_mem_tokens ht
  token := by
    intro d hd
    obtain ⟨t, ht, hidentifier⟩ := htoken d hd
    refine ⟨t, ht, spells_of_mem_tokens ht, ?_⟩
    rw [hidentifier, (wellFormed_of_mem_tokens ht).lowercase_identifier]

/-- No two tokens of a message have the same span. -/
theorem tokens_spans_distinct (message : String) :
    (tokens message).Pairwise fun a b => a.2 ≠ b.2 := by
  refine List.Pairwise.imp_of_mem ?_ (tokens_pairwise message)
  rintro ⟨t, span⟩ ⟨t', span'⟩ hmem - hle rfl
  exact absurd (start_lt_stop_of_mem_tokens hmem) (Nat.not_lt.mpr hle)

/-- Then no token has the span of one that stands before it. -/
theorem span_fresh_of_distinct {t : Token} {span : Span} {rest : List Segment}
    (h : (Segment.tokens (.token t span :: rest)).Pairwise fun a b => a.2 ≠ b.2) :
    span ∉ (Segment.tokens rest).map (·.2)
      ∧ (Segment.tokens rest).Pairwise fun a b => a.2 ≠ b.2 := by
  obtain ⟨hother, hrest⟩ := List.pairwise_cons.mp h
  refine ⟨?_, hrest⟩
  intro hmem
  obtain ⟨found, hfound, rfl⟩ := List.mem_map.mp hmem
  exact hother found hfound rfl

/-! ## What is reported -/

section Diagnose

variable (resolveToken : Token → Run σ C (Except Unresolved String))

/-- Tokens are reported in the order in which they stand. -/
theorem diagnose_sublist (segments : List Segment) (world : World σ C) :
    (((diagnose resolveToken segments).run world).1.map (·.span)).Sublist
      ((Segment.tokens segments).map (·.2)) := by
  induction segments generalizing world with
  | nil => exact List.Sublist.refl _
  | cons segment rest ih =>
    cases segment with
    | text s => exact ih world
    | token t span =>
      rcases hstep : (resolveToken t).run world with ⟨result, mid⟩
      cases result with
      | error u =>
        rw [diagnose_kept _ _ _ _ hstep]
        exact (ih mid).cons_cons span
      | ok value =>
        rw [diagnose_replaced _ _ _ _ hstep]
        exact (ih mid).cons span

/-- What is reported of a token is why it could not be resolved when its turn came. -/
theorem mem_diagnose {segments : List Segment} {world : World σ C} {d : Diagnostic}
    (h : d ∈ ((diagnose resolveToken segments).run world).1) :
    ∃ t reached, (t, d.span) ∈ Segment.tokens segments
      ∧ ((resolveToken t).run reached).1 = .error d.unresolved := by
  induction segments generalizing world with
  | nil => exact absurd h List.not_mem_nil
  | cons segment rest ih =>
    cases segment with
    | text s => exact ih h
    | token t span =>
      rcases hstep : (resolveToken t).run world with ⟨result, mid⟩
      have hlater : d ∈ ((diagnose resolveToken rest).run mid).1 →
          ∃ t' reached, (t', d.span) ∈ Segment.tokens (.token t span :: rest)
            ∧ ((resolveToken t').run reached).1 = .error d.unresolved := by
        intro hd
        obtain ⟨t', reached, ht', hreached⟩ := ih hd
        exact ⟨t', reached, List.mem_cons_of_mem _ ht', hreached⟩
      cases result with
      | error u =>
        rw [diagnose_kept _ _ _ _ hstep] at h
        rcases List.mem_cons.mp h with rfl | hd
        · exact ⟨t, world, List.mem_cons_self, by rw [hstep]⟩
        · exact hlater hd
      | ok value =>
        rw [diagnose_replaced _ _ _ _ hstep] at h
        exact hlater h

end Diagnose

/-- What checking a message gives is a report on it. -/
theorem isReport_check (context : Option C) (maxDepth : Nat) (message : String)
    (world : World σ C) : IsReport message ((check context maxDepth message).run world).1 := by
  rcases Nat.eq_zero_or_pos maxDepth with rfl | hpos
  · rw [check_zero, run_pure]
    -- all tokens are reported, so the report has the spans of the tokens
    refine isReport_of_sublist ?_ ?_
    · rw [List.map_map]
      exact List.Sublist.refl _
    · intro d hd
      obtain ⟨⟨t, span⟩, ht, rfl⟩ := List.mem_map.mp hd
      exact ⟨t, ht, rfl⟩
  · rw [check_of_pos hpos]
    refine isReport_of_sublist (diagnose_sublist _ _ world) ?_
    intro d hd
    obtain ⟨t, reached, ht, hreached⟩ := mem_diagnose _ hd
    exact ⟨t, ht, identifier_of_resolve_error hreached⟩

/-! ## The two runs in step -/

/-- The parts that a message is composed of, given a report on it: what each of its segments becomes
when they are gone through in order. A token that is reported stays as it is written, either because
no placeholder is admitted or because its handler failed. For a token that is not reported stands the
expansion, at depth one, of the value that its handler gave. -/
inductive Composed (context : Option C) (maxDepth : Nat) (report : List Diagnostic) :
    World σ C → List Segment → List String → World σ C → Prop where
  | nil {world} : Composed context maxDepth report world [] [] world
  | text {world s rest parts after}
      (hrest : Composed context maxDepth report world rest parts after) :
      Composed context maxDepth report world (.text s :: rest) (s :: parts) after
  | refused {world t span u rest parts after}
      (hreported : ⟨span, u⟩ ∈ report)
      (hrefused : ∀ p, ¬ world.registry.Admits context t p)
      (hrest : Composed context maxDepth report world rest parts after) :
      Composed context maxDepth report world (.token t span :: rest) (t.raw :: parts) after
  | failed {world t span u p failure called rest parts after}
      (hreported : ⟨span, u⟩ ∈ report)
      (hadmits : world.registry.Admits context t p)
      (hperform : world.perform (world.invocation context (maxDepth - 1) t p) = called)
      (hfailure : called.1.result = .error failure)
      (hreason : u.reason = .handlerFailure failure)
      (hrest : Composed context maxDepth report called.2 rest parts after) :
      Composed context maxDepth report world (.token t span :: rest) (t.raw :: parts) after
  | replaced {world t span p value called expanded rest parts after}
      (hunreported : ∀ u, ⟨span, u⟩ ∉ report)
      (hadmits : world.registry.Admits context t p)
      (hperform : world.perform (world.invocation context (maxDepth - 1) t p) = called)
      (hvalue : called.1.result = .ok value)
      (hexpanded : (expandAt context maxDepth 1 value).run called.2 = expanded)
      (hrest : Composed context maxDepth report expanded.2 rest parts after) :
      Composed context maxDepth report world (.token t span :: rest) (expanded.1 :: parts) after

/-- Of the tokens among the segments, the report says what going through them from this world says. -/
def Reports (report : List Diagnostic) (resolveToken : Token → Run σ C (Except Unresolved String))
    (segments : List Segment) (world : World σ C) : Prop :=
  ∀ d : Diagnostic, d.span ∈ (Segment.tokens segments).map (·.2) →
    (d ∈ report ↔ d ∈ ((diagnose resolveToken segments).run world).1)

section Reports

variable {report : List Diagnostic} {resolveToken : Token → Run σ C (Except Unresolved String)}
  {t : Token} {span : Span} {rest : List Segment} {world mid : World σ C}

/-- A token that could not be resolved is in the report. Of the tokens behind it the report says what
it would say without this one, since none of them has its span. -/
theorem Reports.kept (h : Reports report resolveToken (.token t span :: rest) world)
    (hfresh : span ∉ (Segment.tokens rest).map (·.2)) {u : Unresolved}
    (hstep : (resolveToken t).run world = (.error u, mid)) :
    ⟨span, u⟩ ∈ report ∧ Reports report resolveToken rest mid := by
  rw [Reports, diagnose_kept _ _ _ _ hstep] at h
  refine ⟨(h ⟨span, u⟩ List.mem_cons_self).mpr List.mem_cons_self, ?_⟩
  intro d hd
  -- what is said of a token further on cannot be what is said of this one
  rw [h d (List.mem_cons_of_mem _ hd), List.mem_cons, or_iff_right]
  rintro rfl
  exact hfresh hd

/-- A token that was resolved is not in the report. -/
theorem Reports.replaced (h : Reports report resolveToken (.token t span :: rest) world)
    (hfresh : span ∉ (Segment.tokens rest).map (·.2)) {value : String}
    (hstep : (resolveToken t).run world = (.ok value, mid)) :
    (∀ u, ⟨span, u⟩ ∉ report) ∧ Reports report resolveToken rest mid := by
  rw [Reports, diagnose_replaced _ _ _ _ hstep] at h
  refine ⟨?_, fun d hd => h d (List.mem_cons_of_mem _ hd)⟩
  intro u hmem
  have hlater := (h ⟨span, u⟩ List.mem_cons_self).mp hmem
  exact hfresh ((diagnose_sublist _ _ _).subset (List.mem_map_of_mem hlater))

end Reports

/-- Segments are composed as the report on them says. The induction is on the segments, and the report
is that of the whole message throughout. -/
theorem composed_of_reports {context : Option C} {maxDepth : Nat} {report : List Diagnostic}
    {segments : List Segment} {world : World σ C}
    (hdistinct : (Segment.tokens segments).Pairwise fun a b => a.2 ≠ b.2)
    (hreports : Reports report (resolveAt context maxDepth 0) segments world) :
    ∃ parts, ((substitute (resolveAt context maxDepth 0) segments).run world).1 = String.join parts
      ∧ Composed context maxDepth report world segments parts
        ((substitute (resolveAt context maxDepth 0) segments).run world).2 := by
  induction segments generalizing world with
  | nil => exact ⟨[], String.join_nil.symm, .nil⟩
  | cons segment rest ih =>
    cases segment with
    | text s =>
      obtain ⟨parts, hparts, hcomposed⟩ := ih hdistinct hreports
      refine ⟨s :: parts, ?_, .text hcomposed⟩
      rw [substitute_text, String.join_cons, hparts]
    | token t span =>
      -- the report names tokens by their spans, so no later token may have this one's span
      obtain ⟨hfresh, hrest⟩ := span_fresh_of_distinct hdistinct
      rcases resolve_cases (expandAt context maxDepth 1) context (maxDepth - 1) t world with
        ⟨u, hgate, hstep⟩ | ⟨p, failure, hadmits, hcall, hstep⟩ | ⟨p, value, hadmits, hcall, hstep⟩
      · obtain ⟨hmem, hlater⟩ := hreports.kept hfresh hstep
        obtain ⟨parts, hparts, hcomposed⟩ := ih hrest hlater
        rw [substitute_kept _ _ _ _ hstep]
        refine ⟨t.raw :: parts, ?_, .refused hmem (Registry.not_admits_of_gate_error hgate) hcomposed⟩
        rw [String.join_cons, hparts]
      · obtain ⟨hmem, hlater⟩ := hreports.kept hfresh hstep
        obtain ⟨parts, hparts, hcomposed⟩ := ih hrest hlater
        rw [substitute_kept _ _ _ _ hstep]
        refine ⟨t.raw :: parts, ?_, .failed hmem hadmits rfl hcall rfl hcomposed⟩
        rw [String.join_cons, hparts]
      · obtain ⟨hmem, hlater⟩ := hreports.replaced hfresh hstep
        obtain ⟨parts, hparts, hcomposed⟩ := ih hrest hlater
        rw [substitute_replaced _ _ _ _ hstep]
        refine ⟨_ :: parts, ?_, .replaced hmem hadmits rfl hcall rfl hcomposed⟩
        rw [String.join_cons, hparts]

/-! ## Agreement -/

/-- Checking a message and expanding it from the same world perform the same invocations and leave the
same world, and what is written is composed as the report says. Where the bound allows no expansion,
nothing happens, the message stays, and every token is reported as beyond the bound. -/
theorem check_agrees_with_expand (context : Option C) (maxDepth : Nat) (message : String)
    (world : World σ C) :
    let expanded := (expand context maxDepth message).run world
    let checked := (check context maxDepth message).run world
    expanded.2.invocations = checked.2.invocations ∧ expanded.2 = checked.2
      ∧ (0 < maxDepth → ∃ parts, expanded.1 = String.join parts
        ∧ Composed context maxDepth checked.1 world (scan message) parts expanded.2)
      ∧ (maxDepth = 0 → expanded = (message, world)
        ∧ checked.1 = (tokens message).map fun (t, span) =>
          ⟨span, t.identifier.toLower, .recursionLimit⟩)
      ∧ IsReport message checked.1 := by
  intro expanded checked
  have hworld : expanded.2 = checked.2 := (check_world context maxDepth message world).symm
  refine ⟨congrArg World.invocations hworld, hworld, ?_, ?_,
    isReport_check context maxDepth message world⟩
  · intro hpos
    have hexpanded : expanded = _ := congrArg (·.run world) (expand_of_pos hpos message)
    have hchecked : checked = _ := congrArg (·.run world) (check_of_pos hpos message)
    rw [hexpanded, hchecked]
    exact composed_of_reports (tokens_spans_distinct message) fun _ _ => Iff.rfl
  · rintro rfl
    refine ⟨congrArg (·.run world) (expand_zero context message), ?_⟩
    have hchecked : checked = _ := congrArg (·.run world) (check_zero context message)
    rw [hchecked, run_pure]
    refine List.map_congr_left ?_
    rintro ⟨t, span⟩ ht
    simp only [(wellFormed_of_mem_tokens ht).lowercase_identifier]

end MessageTemplate
