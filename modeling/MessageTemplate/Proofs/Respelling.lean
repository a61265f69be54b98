import Mathlib.Data.List.Forall2
import MessageTemplate.Proofs.Agreement

/-!
Tokens in another case.

The identifiers of a message can be written in another ASCII case, each in its own. The scanner does not see
the difference: whether a token begins at a brace depends on classes of characters that have their letters in
both cases (`startsToken_congr`), so the respelled segments are canonical as the old ones were, and scanning
what they write gives them back (`scan_of_respelled`). The registry does not see it either, because a token is
looked up, invoked and reported under its identifier in lower case (`resolve_congr`). So two runs on the two
messages take the same steps, and handlers that change the world between two tokens change it alike. The
difference shows only where a token stays, since it stays as it is written.
-/

namespace MessageTemplate

variable {σ C : Type}

/-! ## The grammar in lower case -/

/-- Lower-casing neither makes nor changes a character that is not in names. -/
theorem toLower_eq_iff_of_not_name {c d : Char} (hd : isIdentifierChar d = false) :
    c.toLower = d ↔ c = d := by
  have hnot : ¬ IsNameChar d := by
    rw [← isIdentifierChar_iff, hd]
    exact Bool.false_ne_true
  constructor
  · rintro rfl
    by_cases hc : 'A' ≤ c ∧ c ≤ 'Z'
    · exact absurd (IsNameChar.toLower (Or.inl hc)).1 hnot
    · exact (Text.toLower_of_not_capital hc).symm
  · rintro rfl
    exact Text.toLower_of_not_capital fun hc => hnot (Or.inl hc)

/-- A name is one in either case. -/
theorem isName_map_toLower_iff {name : List Char} : IsName (name.map Char.toLower) ↔ IsName name := by
  rw [IsName, IsName, Ne, List.map_eq_nil_iff, List.forall_mem_map]
  refine and_congr_right fun _ => forall₂_congr fun c _ => ?_
  exact ⟨IsNameChar.of_toLower, fun hc => hc.toLower.1⟩

/-- A character that is not in names stands in a text if it stands in the text in lower case. -/
theorem mem_map_toLower_iff {d : Char} (hd : isIdentifierChar d = false) {cs : List Char} :
    d ∈ cs.map Char.toLower ↔ d ∈ cs := by
  rw [List.mem_map]
  constructor
  · rintro ⟨c, hc, hcd⟩
    rwa [← (toLower_eq_iff_of_not_name hd).mp hcd]
  · intro hmem
    exact ⟨d, hmem, (toLower_eq_iff_of_not_name hd).mpr rfl⟩

/-- What writes a token writes one in lower case, and the other way round. -/
theorem isTokenText_map_toLower_iff {w : List Char} :
    IsTokenText (w.map Char.toLower) ↔ IsTokenText w := by
  have hopen : ∀ {c : Char}, c.toLower = '{' → c = '{' := (toLower_eq_iff_of_not_name rfl).mp
  have hclose : ∀ {c : Char}, c.toLower = '}' → c = '}' := (toLower_eq_iff_of_not_name rfl).mp
  have hcolon : ∀ {c : Char}, c.toLower = ':' → c = ':' := (toLower_eq_iff_of_not_name rfl).mp
  constructor
  · intro h
    -- the text is cut where its lower case is cut, and the characters at the cuts have no other case
    generalize hlower : w.map Char.toLower = lower at h
    cases h with
    | @bare name hname =>
      obtain ⟨c, v, rfl, hc, hv⟩ := List.map_eq_cons_iff.mp hlower
      obtain ⟨name, ending, rfl, rfl, hending⟩ := List.map_eq_append_iff.mp hv
      obtain ⟨d, rfl, hd⟩ := List.map_eq_singleton_iff.mp hending
      rw [hopen hc, hclose hd]
      exact .bare (isName_map_toLower_iff.mp hname)
    | @withParams name params hname hparams =>
      obtain ⟨c, v, rfl, hc, hv⟩ := List.map_eq_cons_iff.mp hlower
      obtain ⟨name, more, rfl, rfl, hmore⟩ := List.map_eq_append_iff.mp hv
      obtain ⟨e, u, rfl, he, hu⟩ := List.map_eq_cons_iff.mp hmore
      obtain ⟨params, ending, rfl, rfl, hending⟩ := List.map_eq_append_iff.mp hu
      obtain ⟨d, rfl, hd⟩ := List.map_eq_singleton_iff.mp hending
      rw [hopen hc, hcolon he, hclose hd]
      exact .withParams (isName_map_toLower_iff.mp hname) ((mem_map_toLower_iff rfl).not.mp hparams)
  · intro h
    cases h with
    | @bare name hname =>
      rw [List.map_cons, List.map_append]
      exact .bare (isName_map_toLower_iff.mpr hname)
    | @withParams name params hname hparams =>
      rw [List.map_cons, List.map_append, List.map_cons, List.map_append]
      exact .withParams (isName_map_toLower_iff.mpr hname) ((mem_map_toLower_iff rfl).not.mpr hparams)

/-- A match begins in a text if one begins in the text in lower case. -/
theorem startsToken_map_toLower_iff {cs : List Char} :
    StartsToken (cs.map Char.toLower) ↔ StartsToken cs := by
  constructor
  · rintro ⟨lower, hlower, rest, hrest⟩
    obtain ⟨w, behind, rfl, rfl, -⟩ := List.map_eq_append_iff.mp hrest.symm
    exact ⟨w, isTokenText_map_toLower_iff.mp hlower, behind, rfl⟩
  · rintro ⟨w, hw, rest, rfl⟩
    exact ⟨w.map Char.toLower, isTokenText_map_toLower_iff.mpr hw, rest.map Char.toLower,
      List.map_append.symm⟩

/-- Whether a match begins does not depend on the case of letters. -/
theorem startsToken_congr {cs cs' : List Char} (h : cs.map Char.toLower = cs'.map Char.toLower) :
    StartsToken cs ↔ StartsToken cs' := by
  rw [← startsToken_map_toLower_iff, h, startsToken_map_toLower_iff]

/-- In lower case a text takes as many bytes: what changes is ASCII before and after. -/
theorem byteLength_map_toLower (cs : List Char) : byteLength (cs.map Char.toLower) = byteLength cs := by
  have hall : ∀ c : Char, c.toNat < 0x80 → c.toLower.utf8Size = c.utf8Size :=
    Text.forall_ascii (by decide)
  induction cs with
  | nil => rfl
  | cons c cs ih =>
    have hsize : c.toLower.utf8Size = c.utf8Size := by
      by_cases hc : 'A' ≤ c ∧ c ≤ 'Z'
      · exact hall c (IsNameChar.lt (Or.inl hc))
      · rw [Text.toLower_of_not_capital hc]
    rw [List.map_cons, byteLength_cons, byteLength_cons, hsize, ih]

/-- Whether a match begins in a text does not depend on the case of what follows it. -/
theorem NoMatchWithin.of_map_toLower_eq {text behind behind' : List Char}
    (h : NoMatchWithin text behind) (hbehind : behind.map Char.toLower = behind'.map Char.toLower) :
    NoMatchWithin text behind' := by
  intro skipped more htext hmore
  have hcase : (more ++ behind).map Char.toLower = (more ++ behind').map Char.toLower := by
    rw [List.map_append, List.map_append, hbehind]
  rw [← startsToken_congr hcase]
  exact h skipped more htext hmore

/-! ## Respelled tokens -/

/-- The second token is the first one with its identifier in another ASCII case, or in the same. -/
structure Token.Respells (t t' : Token) : Prop where
  identifier_eq : t'.identifier.toLower = t.identifier.toLower
  params_eq : t'.params = t.params

namespace Token.Respells

variable {t t' : Token}

theorem map_toLower_identifier (h : t.Respells t') :
    t'.identifier.toList.map Char.toLower = t.identifier.toList.map Char.toLower := by
  rw [Text.toLower_eq_iff.mp h.identifier_eq, Text.toLower_eq_iff.mp rfl]

/-- The characters are compared one by one. -/
instance : Decidable (t.Respells t') :=
  decidable_of_iff (t'.identifier.toList.map Char.toLower = t.identifier.toList.map Char.toLower
      ∧ t'.params = t.params)
    ⟨fun ⟨hidentifier, hparams⟩ =>
      ⟨Text.toLower_eq_iff.mpr (hidentifier.trans (Text.toLower_eq_iff.mp rfl)), hparams⟩,
    fun h => ⟨h.map_toLower_identifier, h.params_eq⟩⟩

/-- The other spelling is a name too, and the lower case of both is the same. -/
theorem isName (h : t.Respells t') (ht : t.WellFormed) :
    IsName t'.identifier.toList ∧ Text.lowercase t'.identifier = t.identifier.toLower := by
  have hlower : IsName t.identifier.toLower.toList := by
    rw [← ht.lowercase_identifier]
    exact ht.isName.lowercase.1
  exact hlower.of_toLower h.identifier_eq

theorem wellFormed (h : t.Respells t') (ht : t.WellFormed) : t'.WellFormed where
  isName := (h.isName ht).1
  params_closed := by
    rw [h.params_eq]
    exact ht.params_closed

/-- Both tokens are looked up under the same identifier. -/
theorem lowercase_eq (h : t.Respells t') (ht : t.WellFormed) :
    Text.lowercase t'.identifier = Text.lowercase t.identifier := by
  rw [(h.isName ht).2, ht.lowercase_identifier]

/-- What is written is the same in lower case: outside the identifier it is the same as it is. -/
theorem map_toLower_raw (h : t.Respells t') :
    t.raw.toList.map Char.toLower = t'.raw.toList.map Char.toLower := by
  simp only [Token.toList_raw, List.map_cons, List.map_append, h.params_eq, h.map_toLower_identifier]

/-- Both tokens take as many bytes. -/
theorem utf8ByteSize_raw (h : t.Respells t') : t'.raw.utf8ByteSize = t.raw.utf8ByteSize := by
  rw [← byteLength_toList, ← byteLength_toList, ← byteLength_map_toLower, ← h.map_toLower_raw,
    byteLength_map_toLower]

end Token.Respells

/-! ## Respelled segments -/

/-- The second segment is the first one, or a token with its identifier in another case that takes the same
bytes. -/
inductive Segment.Respells : Segment → Segment → Prop where
  | text (s : String) : Segment.Respells (.text s) (.text s)
  | token {t t' : Token} (h : t.Respells t') (span : Span) :
      Segment.Respells (.token t span) (.token t' span)

instance : DecidableRel Segment.Respells
  | .text s, .text s' =>
    decidable_of_iff (s' = s) ⟨fun h => h ▸ .text s, fun h => by cases h; rfl⟩
  | .token t span, .token t' span' =>
    decidable_of_iff (span' = span ∧ t.Respells t')
      ⟨fun ⟨hspan, h⟩ => hspan ▸ .token h span, fun h => by cases h with | token ht => exact ⟨rfl, ht⟩⟩
  | .text _, .token _ _ => isFalse (by rintro ⟨⟩)
  | .token _ _, .text _ => isFalse (by rintro ⟨⟩)

/-- The second message is the first one with the identifiers of its tokens in another case, each in its
own. -/
def Respells (message message' : String) : Prop :=
  ∃ segments, List.Forall₂ Segment.Respells (scan message) segments ∧ message' = render segments

/-- What respelled segments write differs in the case of letters only. -/
theorem map_toLower_render {segments segments' : List Segment}
    (h : List.Forall₂ Segment.Respells segments segments') :
    (render segments).toList.map Char.toLower = (render segments').toList.map Char.toLower := by
  induction h with
  | nil => rfl
  | @cons segment segment' rest rest' hsegment _ ih =>
    rw [render_cons, render_cons, String.toList_append, String.toList_append, List.map_append,
      List.map_append, ih]
    cases hsegment with
    | text s => rfl
    | token ht span => exact congrArg (· ++ _) ht.map_toLower_raw

/-- Respelled segments could not be cut otherwise either. -/
theorem IsCanonicalFrom.respelled {offset : Nat} {segments segments' : List Segment}
    (h : IsCanonicalFrom offset segments) (hrespells : List.Forall₂ Segment.Respells segments segments') :
    IsCanonicalFrom offset segments' := by
  induction hrespells generalizing offset with
  | nil => exact isCanonicalFrom_nil offset
  | @cons segment segment' rest rest' hsegment hrest ih =>
    obtain ⟨hhead, hbehind⟩ := isCanonicalFrom_cons.mp h
    rw [isCanonicalFrom_cons]
    cases hsegment with
    | text s =>
      obtain ⟨hne, hapart, hno⟩ := hhead
      refine ⟨⟨hne, ?_, hno.of_map_toLower_eq (map_toLower_render hrest)⟩, ih hbehind⟩
      -- a text would come from a text
      rintro s' back rfl
      cases hrest with
      | cons hfirst _ =>
        cases hfirst with
        | text => exact hapart s' _ rfl
    | @token t t' ht span =>
      obtain ⟨hwellFormed, rfl⟩ := hhead
      -- what stands behind the token begins at the same byte
      have hsize := ht.utf8ByteSize_raw
      rw [Segment.raw, ← hsize] at hbehind
      exact ⟨⟨ht.wellFormed hwellFormed, by rw [hsize]⟩, ih hbehind⟩

/-- Scanning what respelled segments of a message write gives them back. -/
theorem scan_of_respelled {message : String} {segments : List Segment}
    (h : List.Forall₂ Segment.Respells (scan message) segments) : scan (render segments) = segments :=
  (isCanonical_scan _).unique ((isCanonical_scan message).respelled h) (by rw [render_scan])

/-- A message is respelled if it has the same segments up to the case of identifiers. -/
theorem respells_iff {message message' : String} :
    Respells message message' ↔ List.Forall₂ Segment.Respells (scan message) (scan message') := by
  constructor
  · rintro ⟨segments, hrespells, rfl⟩
    rwa [scan_of_respelled hrespells]
  · intro hrespells
    exact ⟨scan message', hrespells, (render_scan message').symm⟩

instance (message message' : String) : Decidable (Respells message message') :=
  decidable_of_iff _ respells_iff.symm

/-! ## Two runs in step -/

/-- What is looked up, invoked and reported for a token depends on its identifier in lower case and on its
parameters only. -/
theorem resolve_congr {t t' : Token}
    (hidentifier : Text.lowercase t'.identifier = Text.lowercase t.identifier)
    (hparams : t'.params = t.params) (expandValue : String → Run σ C String) (context : Option C)
    (levels : Nat) :
    resolve expandValue context levels t' = resolve expandValue context levels t := by
  have hgate : ∀ registry : Registry σ C, registry.gate context t' = registry.gate context t := by
    intro registry
    simp only [Registry.gate, Registry.lookup?, hidentifier, hparams]
  -- the invocation is written down with the identifier in lower case, so the records agree as well
  have hinvoke : ∀ p : Placeholder σ C, invoke context levels t' p = invoke context levels t p := by
    intro p
    rw [invoke, invoke, hidentifier, hparams]
  simp only [resolve, hgate, hinvoke, hidentifier]

/-- The step that the tokens of a message itself are resolved with. Where the bound allows no expansion, each
of them is beyond it. -/
def resolveOutermost (context : Option C) (maxDepth : Nat) (t : Token) :
    Run σ C (Except Unresolved String) :=
  if maxDepth = 0 then return .error ⟨Text.lowercase t.identifier, .recursionLimit⟩
  else resolveAt context maxDepth 0 t

theorem resolveOutermost_zero (context : Option C) (t : Token) :
    (resolveOutermost context 0 t : Run σ C (Except Unresolved String))
      = pure (.error ⟨Text.lowercase t.identifier, .recursionLimit⟩) := rfl

theorem resolveOutermost_of_pos {maxDepth : Nat} (h : 0 < maxDepth) (context : Option C) :
    (resolveOutermost context maxDepth : Token → Run σ C (Except Unresolved String))
      = resolveAt context maxDepth 0 := by
  funext t
  rw [resolveOutermost, if_neg (Nat.ne_of_gt h)]

/-- Segments whose tokens all stay write what they were cut from. -/
theorem substitute_of_all_kept {resolveToken : Token → Run σ C (Except Unresolved String)}
    {unresolved : Token → Unresolved} (h : ∀ t, resolveToken t = pure (.error (unresolved t)))
    (segments : List Segment) (world : World σ C) :
    (substitute resolveToken segments).run world = (render segments, world) := by
  induction segments with
  | nil => rw [render_nil, substitute, run_pure]
  | cons segment rest ih =>
    cases segment with
    | text s => rw [substitute_text, ih, render_cons, Segment.raw]
    | token t span =>
      have hstep : (resolveToken t).run world = (.error (unresolved t), world) := by rw [h, run_pure]
      rw [substitute_kept _ _ _ _ hstep, ih, render_cons, Segment.raw]

/-- All of them are reported. -/
theorem diagnose_of_all_kept {resolveToken : Token → Run σ C (Except Unresolved String)}
    {unresolved : Token → Unresolved} (h : ∀ t, resolveToken t = pure (.error (unresolved t)))
    (segments : List Segment) (world : World σ C) :
    (diagnose resolveToken segments).run world
      = ((Segment.tokens segments).map fun (t, span) => ⟨span, unresolved t⟩, world) := by
  induction segments with
  | nil => rfl
  | cons segment rest ih =>
    cases segment with
    | text s => exact ih
    | token t span =>
      have hstep : (resolveToken t).run world = (.error (unresolved t), world) := by rw [h, run_pure]
      rw [diagnose_kept _ _ _ _ hstep, ih]
      rfl

/-- Expanding a message goes through its segments with this step. -/
theorem expand_eq_substitute (context : Option C) (maxDepth : Nat) (message : String) :
    (expand context maxDepth message : Run σ C String)
      = substitute (resolveOutermost context maxDepth) (scan message) := by
  rcases Nat.eq_zero_or_pos maxDepth with rfl | hpos
  · funext world
    rw [expand_zero]
    have hkept := substitute_of_all_kept (resolveOutermost_zero context) (scan message) world
    rw [render_scan] at hkept
    exact hkept.symm
  · rw [expand_of_pos hpos, resolveOutermost_of_pos hpos]

/-- Checking it goes through them with the same step. -/
theorem check_eq_diagnose (context : Option C) (maxDepth : Nat) (message : String) :
    (check context maxDepth message : Run σ C (List Diagnostic))
      = diagnose (resolveOutermost context maxDepth) (scan message) := by
  rcases Nat.eq_zero_or_pos maxDepth with rfl | hpos
  · funext world
    rw [check_zero]
    exact (diagnose_of_all_kept (resolveOutermost_zero context) (scan message) world).symm
  · rw [check_of_pos hpos, resolveOutermost_of_pos hpos]

/-- The step does not see in which case an identifier is written. -/
theorem Token.Respells.resolveOutermost_eq {t t' : Token} (h : t.Respells t') (ht : t.WellFormed)
    (context : Option C) (maxDepth : Nat) :
    (resolveOutermost context maxDepth t' : Run σ C (Except Unresolved String))
      = resolveOutermost context maxDepth t := by
  rw [resolveOutermost, resolveOutermost, h.lowercase_eq ht, resolveAt,
    resolve_congr (h.lowercase_eq ht) h.params_eq]

/-! ## What is reported and what is written -/

/-- The parts that two respelled messages are composed of, given the report on both. Texts and the values of
tokens that are not reported are the same in both. A token that is reported stands in each of them as it is
written there. -/
inductive ComposedAlike (report : List Diagnostic) :
    List Segment → List Segment → List String → List String → Prop where
  | nil : ComposedAlike report [] [] [] []
  | text {s rest rest' parts parts'} (hrest : ComposedAlike report rest rest' parts parts') :
      ComposedAlike report (.text s :: rest) (.text s :: rest') (s :: parts) (s :: parts')
  | kept {t t' span u rest rest' parts parts'}
      (hreported : ⟨span, u⟩ ∈ report)
      (hrest : ComposedAlike report rest rest' parts parts') :
      ComposedAlike report (.token t span :: rest) (.token t' span :: rest')
        (t.raw :: parts) (t'.raw :: parts')
  | replaced {t t' span value rest rest' parts parts'}
      (hunreported : ∀ u, ⟨span, u⟩ ∉ report)
      (hrest : ComposedAlike report rest rest' parts parts') :
      ComposedAlike report (.token t span :: rest) (.token t' span :: rest')
        (value :: parts) (value :: parts')

section Alike

variable {resolveToken : Token → Run σ C (Except Unresolved String)}

/-- A step that does not see the case of identifiers reports the same. -/
theorem diagnose_respelled {segments segments' : List Segment}
    (h : List.Forall₂ Segment.Respells segments segments')
    (hstep : ∀ t t' span, (t, span) ∈ Segment.tokens segments → t.Respells t' →
      resolveToken t' = resolveToken t) :
    diagnose resolveToken segments' = diagnose resolveToken segments := by
  induction h with
  | nil => rfl
  | @cons segment segment' rest rest' hsegment _ ih =>
    cases hsegment with
    | text s => rw [diagnose_text, diagnose_text, ih hstep]
    | @token t t' ht span =>
      have hrest := ih fun t t' span ht => hstep t t' span (List.mem_cons_of_mem _ ht)
      rw [diagnose, diagnose, hrest, hstep t t' span List.mem_cons_self ht]

/-- Such a step composes the same, but for the tokens that stay. -/
theorem composedAlike_of_reports {report : List Diagnostic} {segments segments' : List Segment}
    {world : World σ C} (h : List.Forall₂ Segment.Respells segments segments')
    (hstep : ∀ t t' span, (t, span) ∈ Segment.tokens segments → t.Respells t' →
      resolveToken t' = resolveToken t)
    (hdistinct : (Segment.tokens segments).Pairwise fun a b => a.2 ≠ b.2)
    (hreports : Reports report resolveToken segments world) :
    ∃ parts parts', ((substitute resolveToken segments).run world).1 = String.join parts
      ∧ ((substitute resolveToken segments').run world).1 = String.join parts'
      ∧ ComposedAlike report segments segments' parts parts' := by
  induction h generalizing world with
  | nil => exact ⟨[], [], String.join_nil.symm, String.join_nil.symm, .nil⟩
  | @cons segment segment' rest rest' hsegment _ ih =>
    cases hsegment with
    | text s =>
      obtain ⟨parts, parts', hparts, hparts', halike⟩ := ih hstep hdistinct hreports
      refine ⟨s :: parts, s :: parts', ?_, ?_, .text halike⟩
      · rw [substitute_text, String.join_cons, hparts]
      · rw [substitute_text, String.join_cons, hparts']
    | @token t t' ht span =>
      have hsteps : ∀ t t' span, (t, span) ∈ Segment.tokens rest → t.Respells t' →
          resolveToken t' = resolveToken t :=
        fun t t' span ht => hstep t t' span (List.mem_cons_of_mem _ ht)
      obtain ⟨hfresh, hdistinct⟩ := span_fresh_of_distinct hdistinct
      rcases hrun : (resolveToken t).run world with ⟨result, mid⟩
      have hrun' : (resolveToken t').run world = (result, mid) := by
        rw [hstep t t' span List.mem_cons_self ht, hrun]
      -- the worlds agree behind the token too, so the induction goes on from there
      cases result with
      | error u =>
        obtain ⟨hmem, hlater⟩ := hreports.kept hfresh hrun
        obtain ⟨parts, parts', hparts, hparts', halike⟩ := ih hsteps hdistinct hlater
        refine ⟨t.raw :: parts, t'.raw :: parts', ?_, ?_, .kept hmem halike⟩
        · rw [substitute_kept _ _ _ _ hrun, String.join_cons, hparts]
        · rw [substitute_kept _ _ _ _ hrun', String.join_cons, hparts']
      | ok value =>
        obtain ⟨hmem, hlater⟩ := hreports.replaced hfresh hrun
        obtain ⟨parts, parts', hparts, hparts', halike⟩ := ih hsteps hdistinct hlater
        refine ⟨value :: parts, value :: parts', ?_, ?_, .replaced hmem halike⟩
        · rw [substitute_replaced _ _ _ _ hrun, String.join_cons, hparts]
        · rw [substitute_replaced _ _ _ _ hrun', String.join_cons, hparts']

end Alike

/-- A message whose identifiers are written in another case is cut into the same segments, up to that case.
From any world, checking it gives the same report. Expanding it performs the same invocations and leaves the
same world, and what is written differs only at tokens that are reported: each of them stands as it is written
in its own message. -/
theorem respelled_expands_alike {message message' : String} (h : Respells message message')
    (context : Option C) (maxDepth : Nat) (world : World σ C) :
    let checked := (check context maxDepth message).run world
    let expanded := (expand context maxDepth message).run world
    let expanded' := (expand context maxDepth message').run world
    List.Forall₂ Segment.Respells (scan message) (scan message')
      ∧ (check context maxDepth message').run world = checked
      ∧ expanded'.2 = expanded.2
      ∧ ∃ parts parts', expanded.1 = String.join parts ∧ expanded'.1 = String.join parts'
        ∧ ComposedAlike checked.1 (scan message) (scan message') parts parts' := by
  intro checked expanded expanded'
  have hrespells := respells_iff.mp h
  have hstep : ∀ t t' span, (t, span) ∈ tokens message → t.Respells t' →
      (resolveOutermost context maxDepth t' : Run σ C (Except Unresolved String))
        = resolveOutermost context maxDepth t :=
    fun t t' span ht hrespell => hrespell.resolveOutermost_eq (wellFormed_of_mem_tokens ht) context maxDepth
  have hcheck : (check context maxDepth message').run world = checked := by
    rw [check_eq_diagnose, diagnose_respelled hrespells hstep, ← check_eq_diagnose]
  have hreports : Reports checked.1 (resolveOutermost context maxDepth) (scan message) world := by
    intro d _
    rw [← check_eq_diagnose]
  have hcomposed := composedAlike_of_reports hrespells hstep (tokens_spans_distinct message) hreports
  refine ⟨hrespells, hcheck, ?_, ?_⟩
  · -- each run of the expansion leaves the world that the check on its message leaves
    have hworld : expanded.2 = checked.2 := (check_world context maxDepth message world).symm
    have hworld' : expanded'.2 = _ := (check_world context maxDepth message' world).symm
    rw [hworld, hworld', hcheck]
  · have hexpanded : expanded = _ := congrArg (·.run world) (expand_eq_substitute context maxDepth message)
    have hexpanded' : expanded' = _ :=
      congrArg (·.run world) (expand_eq_substitute context maxDepth message')
    rw [hexpanded, hexpanded']
    exact hcomposed

/-- A placeholder that counts its invocations, and a name that is not registered. -/
theorem respelled_expands_alike_counted :
    let counter : Placeholder Nat Unit :=
      ⟨"next", false, true, fun _ _ => .read fun n => .write (n + 1) (.done (.value (toString n)))⟩
    let world := ((register counter).run (.initial 0)).2
    let message := "\x7bNEXT\x7d \x7b\x7bNope:A\x7d \x7bnext:A\x7d"
    let message' := "\x7bnext\x7d \x7b\x7bnOPE:A\x7d \x7bNext:A\x7d"
    let expanded := (expand none 1 message).run world
    let expanded' := (expand none 1 message').run world
    Respells message message'
      ∧ ((check none 1 message').run world).1 = ((check none 1 message).run world).1
      ∧ expanded'.2 = expanded.2
      ∧ expanded.1 = "0 \x7b\x7bNope:A\x7d 1" ∧ expanded'.1 = "0 \x7b\x7bnOPE:A\x7d 1" := by
  intro counter world message message' expanded expanded'
  have hrespells : Respells message message' := by decide +kernel
  obtain ⟨-, hcheck, hworld, -⟩ := respelled_expands_alike hrespells none 1 world
  exact ⟨hrespells, congrArg Prod.fst hcheck, hworld, by decide +kernel, by decide +kernel⟩

end MessageTemplate
