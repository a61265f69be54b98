import MessageTemplate.Proofs.Concatenation
import MessageTemplate.Proofs.Initialization

/-!
Colors there and back.

Expanding a message whose tokens are all colors replaces each by its code and does nothing else
(`Palette.paint`), because a code holds no brace and so stays as it is at every level. Reverting goes
the other way: it writes a token for every code that has a name. Which code a token stands for, and by
which token a code is written, is settled by the palette alone, and so both round trips come down to
statements about segments.

Reverting first, the tokens of the reverted text must be those that were written, and no others
(`segmentsFrom_revertChars`). A brace of the text itself is followed by what followed it before, up to
the next written token at least, and that begins with a brace; so if it opened no token it opens none
now. Expanding first, the places of the tokens are lost, and reverting must find the same codes again
(`revertChars_paint`). It does, since a code begins with a section sign, and there is none elsewhere.
-/

namespace MessageTemplate

variable {σ C : Type}

/-! ## Painting -/

namespace Palette

/-- The token has no parameters, and its identifier, in whatever case, is a name of the palette. -/
def IsColor (palette : Palette) (t : Token) : Prop :=
  t.params = none ∧ Text.lowercase t.identifier ∈ palette.table.keys

/-- The segments written with the code of every color in the place of its token. -/
def paint (palette : Palette) : List Segment → String
  | [] => ""
  | .text s :: rest => s ++ palette.paint rest
  | .token t _ :: rest => (palette.code? t.identifier).getD t.raw ++ palette.paint rest

theorem IsColor.exists_code {palette : Palette} {t : Token} (h : palette.IsColor t) :
    ∃ code, palette.code? t.identifier = some code
      ∧ (Text.lowercase t.identifier, code) ∈ palette.entries := by
  have hsome : palette.code? t.identifier ≠ none :=
    fun hnone => Table.get?_eq_none_iff.mp hnone h.2
  obtain ⟨code, hcode⟩ := Option.ne_none_iff_exists'.mp hsome
  exact ⟨code, hcode, Table.mem_entries_of_get?_eq hcode⟩

@[simp] theorem paint_nil (palette : Palette) : palette.paint [] = "" := rfl

theorem paint_ofText_append (palette : Palette) (s : String) (segments : List Segment) :
    palette.paint (Segment.ofText s ++ segments) = s ++ palette.paint segments := by
  by_cases hs : s = ""
  · rw [hs, Segment.ofText_empty, List.nil_append, String.empty_append]
  · rw [Segment.ofText_of_ne_empty hs]
    rfl

/-- A text before segments is written before what they write. -/
theorem paint_prepend (palette : Palette) (s : String) (segments : List Segment) :
    palette.paint (Segment.prepend s segments) = s ++ palette.paint segments := by
  cases segments with
  | nil =>
    have hofText := palette.paint_ofText_append s []
    rwa [List.append_nil] at hofText
  | cons segment rest =>
    cases segment with
    | text s' => rw [Segment.prepend, paint, paint, String.append_assoc]
    | token t span => exact palette.paint_ofText_append s _

end Palette

/-! ## Expanding colors -/

/-- Every name of the palette, in whatever case, names its color. -/
def Registry.HasColors (registry : Registry σ C) (palette : Palette) : Prop :=
  ∀ identifier code, palette.code? identifier = some code →
    registry.lookup? identifier = some (.constant (Text.lowercase identifier) code)

section Expand

variable {palette : Palette} (context : Option C) (maxDepth : Nat) {world : World σ C}

/-- A color's token becomes its code, and the registry stays. -/
theorem resolveAt_color (hpalette : palette.IsChecked) (hcolors : world.registry.HasColors palette)
    {t : Token} (ht : palette.IsColor t) :
    ∃ code after, palette.code? t.identifier = some code
      ∧ (resolveAt context maxDepth 0 t).run world = (.ok code, after)
      ∧ after.registry = world.registry := by
  obtain ⟨code, hcode, hentry⟩ := ht.exists_code
  have hresolve : (resolveAt context maxDepth 0 t).run world = _ :=
    resolve_constant (hcolors t.identifier code hcode) ht.1
  rw [expandAt_of_no_brace (hpalette.no_brace hentry)] at hresolve
  exact ⟨code, _, hcode, hresolve, rfl⟩

/-- Where all tokens are colors, segments are painted. The induction is on the segments; resolving a
color keeps the registry, and with it the colors for the rest. -/
theorem substitute_colors (hpalette : palette.IsChecked)
    (hcolors : world.registry.HasColors palette) {segments : List Segment}
    (hsegments : ∀ found ∈ Segment.tokens segments, palette.IsColor found.1) :
    ((substitute (resolveAt context maxDepth 0) segments).run world).1 = palette.paint segments := by
  induction segments generalizing world with
  | nil => rfl
  | cons segment rest ih =>
    cases segment with
    | text s =>
      rw [substitute_text, ih hcolors hsegments]
      rfl
    | token t span =>
      obtain ⟨ht, hrest⟩ := List.forall_mem_cons.mp hsegments
      obtain ⟨code, after, hcode, hresolve, hregistry⟩ :=
        resolveAt_color context maxDepth hpalette hcolors ht
      have hafter : after.registry.HasColors palette := by
        rw [hregistry]
        exact hcolors
      rw [substitute_replaced _ _ _ _ hresolve, ih hafter hrest, Palette.paint, hcode,
        Option.getD_some]

end Expand

/-- In an initialized engine a message whose tokens are all colors is painted. -/
theorem Engine.IsInitialized.parseColors [PlayerSource σ C] {settings : Settings}
    {engine : Engine σ C}
    (h : engine.IsInitialized settings) (hvalid : settings.validate = .ok ())
    (hdepth : 0 < settings.maxDepth) {message : String}
    (hmessage : ∀ found ∈ tokens message, settings.palette.IsColor found.1) :
    ((Request.parseColors message).serve.run engine).1
      = .text (settings.palette.paint (scan message)) := by
  have hcolors : engine.world.registry.HasColors settings.palette :=
    fun identifier code hcode => h.lookup?_color hvalid hcode
  have hpainted := substitute_colors none settings.maxDepth (Settings.isChecked_palette hvalid)
    hcolors hmessage
  have hserve : ((Request.parseColors message).serve.run engine).1
      = .text ((expand none engine.maxDepth message).run engine.world).1 := rfl
  rw [hserve, h.maxDepth_eq, expand_of_pos hdepth, hpainted]

/-! ## Reverting -/

namespace Palette

variable (palette : Palette)

theorem revertChars_named {d : Char} {name : String}
    (h : palette.nameOf? (String.ofList [sectionSign, d]) = some name) (rest : List Char) :
    palette.revertChars (sectionSign :: d :: rest)
      = (Token.mk name none).raw.toList ++ palette.revertChars rest := by
  rw [revertChars, if_pos rfl, h, Token.toList_raw]
  simp [Token.rawParams]

theorem revertChars_of_ne {c : Char} (h : c ≠ sectionSign) (cs : List Char) :
    palette.revertChars (c :: cs) = c :: palette.revertChars cs := by
  cases cs with
  | nil => rw [revertChars, revertChars]
  | cons d rest => rw [revertChars, if_neg h]

/-- Text without a section sign stays. -/
theorem revertChars_append {run : List Char} (h : sectionSign ∉ run) (cs : List Char) :
    palette.revertChars (run ++ cs) = run ++ palette.revertChars cs := by
  induction run with
  | nil => rfl
  | cons c run ih =>
    obtain ⟨hc, hrun⟩ := not_or.mp (List.mem_cons.not.mp h)
    rw [List.cons_append, palette.revertChars_of_ne (Ne.symm hc), ih hrun, List.cons_append]

variable {palette}

/-- A text as reverting reads it: a code that has a name, or one character that is kept. -/
theorem revertInduction {motive : List Char → Prop} (nil : motive [])
    (code : ∀ d rest name, palette.nameOf? (String.ofList [sectionSign, d]) = some name →
      motive rest → motive (sectionSign :: d :: rest))
    (kept : ∀ c cs, palette.revertChars (c :: cs) = c :: palette.revertChars cs → motive cs →
      motive (c :: cs)) (cs : List Char) : motive cs := by
  induction cs using revertChars.induct palette with
  | case1 => exact nil
  | case2 c =>
    refine kept c [] ?_ nil
    rw [revertChars, revertChars]
  | case3 d rest name hname ih => exact code d rest name hname ih
  | case4 d rest hnone ih =>
    refine kept sectionSign (d :: rest) ?_ ih
    rw [revertChars, if_pos rfl, hnone]
  | case5 c d rest hc ih => exact kept c (d :: rest) (palette.revertChars_of_ne hc _) ih

/-- A character of a reverted text that is not an opening brace is one of the text. -/
theorem eq_cons_of_revertChars_eq {cs ys : List Char} {x : Char} (hx : x ≠ '{')
    (h : palette.revertChars cs = x :: ys) : ∃ cs', cs = x :: cs' ∧ palette.revertChars cs' = ys := by
  cases cs using palette.revertInduction with
  | nil => cases h
  | code d rest name hname =>
    rw [palette.revertChars_named hname, Token.toList_raw] at h
    exact absurd (List.cons.inj h).1.symm hx
  | kept c cs hkept =>
    rw [hkept] at h
    obtain ⟨rfl, hys⟩ := List.cons.inj h
    exact ⟨cs, rfl, hys⟩

/-- What a reverted text begins with, up to the first opening brace, is what the text begins with. -/
theorem eq_append_of_revertChars_eq {run cs ys : List Char} (hrun : '{' ∉ run)
    (h : palette.revertChars cs = run ++ ys) : ∃ cs', cs = run ++ cs' := by
  induction run generalizing cs with
  | nil => exact ⟨cs, rfl⟩
  | cons x run ih =>
    obtain ⟨hx, hrun'⟩ := not_or.mp (List.mem_cons.not.mp hrun)
    obtain ⟨cs', rfl, hcs'⟩ := eq_cons_of_revertChars_eq (Ne.symm hx) h
    obtain ⟨behind, rfl⟩ := ih hrun' hcs'
    exact ⟨behind, rfl⟩

end Palette

/-! ## Texts that open no token -/

/-- No brace of the text is followed by a name and then by a closing brace or a colon. -/
def OpensNoToken (text : List Char) : Prop :=
  ∀ before name c behind, text = before ++ '{' :: (name ++ c :: behind) → IsName name →
    c ≠ '}' ∧ c ≠ ':'

theorem OpensNoToken.tail {c : Char} {text : List Char} (h : OpensNoToken (c :: text)) :
    OpensNoToken text := by
  rintro before name d behind rfl
  exact h (c :: before) name d behind rfl

theorem opensNoToken_nil : OpensNoToken [] := by
  intro before name c behind h
  exact absurd h.symm (List.append_ne_nil_of_right_ne_nil _ (List.cons_ne_nil _ _))

/-- Whether a brace opens a token is seen from the character behind the longest name. -/
theorem opensNoToken_cons {c : Char} {cs : List Char} :
    OpensNoToken (c :: cs) ↔
      (c = '{' → cs.takeWhile isIdentifierChar = []
        ∨ (cs.dropWhile isIdentifierChar).head? ≠ some '}'
          ∧ (cs.dropWhile isIdentifierChar).head? ≠ some ':')
      ∧ OpensNoToken cs := by
  constructor
  · intro h
    refine ⟨?_, h.tail⟩
    rintro rfl
    by_cases hnil : cs.takeWhile isIdentifierChar = []
    · exact Or.inl hnil
    · have hname : IsName (cs.takeWhile isIdentifierChar) :=
        ⟨hnil, fun x hx => isIdentifierChar_iff.mp (List.mem_takeWhile_imp hx)⟩
      have hbehind : ∀ d, (cs.dropWhile isIdentifierChar).head? = some d → d ≠ '}' ∧ d ≠ ':' := by
        intro d hd
        obtain ⟨behind, hbehind⟩ := List.head?_eq_some_iff.mp hd
        have hcs : cs = cs.takeWhile isIdentifierChar ++ d :: behind :=
          (dropWhile_eq_cons hbehind).2
        exact h [] _ d behind (congrArg ('{' :: ·) hcs) hname
      exact Or.inr ⟨fun hd => (hbehind _ hd).1 rfl, fun hd => (hbehind _ hd).2 rfl⟩
  · rintro ⟨hhead, htail⟩ before name d behind heq hname
    cases before with
    | nil =>
      obtain ⟨rfl, rfl⟩ := List.cons.inj heq
      by_cases hd : isIdentifierChar d = true
      · -- a character that continues the name is neither of the two
        constructor
        · rintro rfl
          exact absurd hd (by decide)
        · rintro rfl
          exact absurd hd (by decide)
      · rw [Bool.not_eq_true] at hd
        have hsplit := takeWhile_append_cons hname.all hd behind
        rw [hsplit.1, hsplit.2, List.head?_cons] at hhead
        obtain ⟨hbrace, hcolon⟩ := (hhead rfl).resolve_left hname.1
        exact ⟨fun h => hbrace (congrArg some h), fun h => hcolon (congrArg some h)⟩
    | cons b before =>
      obtain ⟨rfl, rfl⟩ := List.cons.inj heq
      exact htail before name d behind rfl hname

instance decidableOpensNoToken : DecidablePred OpensNoToken
  | [] => isTrue opensNoToken_nil
  | _ :: cs =>
    have := decidableOpensNoToken cs
    decidable_of_iff' _ opensNoToken_cons

/-- A brace that opens no token opens none in the reverted text either: the tokens that are written
begin with a brace, and so none of them ends a name. -/
theorem OpensNoToken.not_startsToken {cs : List Char} (h : OpensNoToken ('{' :: cs))
    (palette : Palette) : ¬ StartsToken ('{' :: palette.revertChars cs) := by
  -- every match begins with a name and one of two characters, and these would be in the text itself
  have hclash : ∀ {name rest : List Char} {c : Char}, IsName name → c = '}' ∨ c = ':' →
      name ++ c :: rest = palette.revertChars cs → False := by
    intro name rest c hname hc hrest
    have hbrace : '{' ∉ name ++ [c] := by
      rw [List.mem_append, List.mem_singleton]
      rintro (hmem | rfl)
      · exact hname.not_mem rfl hmem
      · exact absurd hc (by decide)
    have hsplit : palette.revertChars cs = name ++ [c] ++ rest := by
      rw [← hrest, List.append_assoc, List.singleton_append]
    obtain ⟨behind, rfl⟩ := Palette.eq_append_of_revertChars_eq hbrace hsplit
    have hno := h [] name c behind (by rw [List.append_assoc, List.singleton_append]; rfl) hname
    rcases hc with rfl | rfl
    · exact hno.1 rfl
    · exact hno.2 rfl
  rintro ⟨w, hw, more, hmore⟩
  cases hw with
  | @bare name hname =>
    have hmatch : name ++ ['}'] ++ more = palette.revertChars cs := (List.cons.inj hmore).2
    rw [List.append_assoc] at hmatch
    exact hclash hname (Or.inl rfl) hmatch
  | @withParams name params hname hparams =>
    have hmatch : name ++ ':' :: (params ++ ['}']) ++ more = palette.revertChars cs :=
      (List.cons.inj hmore).2
    rw [List.append_assoc] at hmatch
    exact hclash hname (Or.inr rfl) hmatch

/-! ## Reverting, then expanding -/

/-- The tokens of a reverted text are the colors that were written, and painting them gives the text
back. -/
theorem segmentsFrom_revertChars {palette : Palette} (hpalette : palette.IsChecked) {cs : List Char}
    (hcs : OpensNoToken cs) (offset : Nat) :
    (∀ found ∈ Segment.tokens (segmentsFrom offset (palette.revertChars cs)),
        palette.IsColor found.1)
      ∧ palette.paint (segmentsFrom offset (palette.revertChars cs)) = String.ofList cs := by
  induction cs using palette.revertInduction generalizing offset with
  | nil =>
    rw [Palette.revertChars, segmentsFrom_nil]
    exact ⟨fun _ hmem => absurd hmem List.not_mem_nil, rfl⟩
  | code d rest name hname ih =>
    have hentry : (name, String.ofList [sectionSign, d]) ∈ palette.entries :=
      Palette.nameOf?_eq_some hname
    have ht : (Token.mk name none).WellFormed := ⟨hpalette.isName _ hentry, fun _ h => nomatch h⟩
    have hcolor : palette.IsColor ⟨name, none⟩ := by
      refine ⟨rfl, ?_⟩
      rw [hpalette.lowercase_name _ hentry]
      exact List.mem_map_of_mem hentry
    obtain ⟨htokens, hpaint⟩ := ih hcs.tail.tail (offset + (Token.mk name none).raw.utf8ByteSize)
    rw [palette.revertChars_named hname, segmentsFrom_token ht, Segment.tokens, Palette.paint,
      hpalette.code?_of_mem hentry, Option.getD_some, hpaint, ← String.ofList_append]
    exact ⟨List.forall_mem_cons.mpr ⟨hcolor, htokens⟩, rfl⟩
  | kept c cs hkept ih =>
    -- only a brace needs a reason for being literal
    by_cases hc : c = '{'
    · subst hc
      have hno : ¬ StartsToken ('{' :: palette.revertChars cs) := hcs.not_startsToken palette
      obtain ⟨htokens, hpaint⟩ := ih hcs.tail (offset + 1)
      rw [hkept, segmentsFrom_brace hno, Segment.tokens_prepend, palette.paint_prepend, hpaint]
      exact ⟨htokens, (@String.ofList_append ['{'] cs).symm⟩
    · have hrun : '{' ∉ [c] := fun hmem => hc (List.mem_singleton.mp hmem).symm
      obtain ⟨htokens, hpaint⟩ := ih hcs.tail (offset + byteLength [c])
      rw [hkept, ← List.singleton_append, segmentsFrom_run hrun, Segment.tokens_prepend,
        palette.paint_prepend, hpaint]
      exact ⟨htokens, (@String.ofList_append [c] cs).symm⟩

/-- Reverting and then expanding gives the text back, in every initialized engine for checked settings
that expands at all, if the text itself opens no token. -/
theorem parseColors_revert [PlayerSource σ C] {settings : Settings}
    (hvalid : settings.validate = .ok ())
    (hdepth : 0 < settings.maxDepth) {engine : Engine σ C} (h : engine.IsInitialized settings)
    {text : String} (htext : OpensNoToken text.toList) :
    ((Request.parseColors (engine.palette.revert text)).serve.run engine).1 = .text text := by
  obtain ⟨htokens, hpaint⟩ := segmentsFrom_revertChars (Settings.isChecked_palette hvalid) htext 0
  have hscan : scan (settings.palette.revert text)
      = segmentsFrom 0 (settings.palette.revertChars text.toList) := by
    rw [scan_eq_segmentsFrom, Palette.revert, String.toList_ofList]
  rw [← hscan] at htokens hpaint
  rw [h.palette_eq, h.parseColors hvalid hdepth htokens, hpaint, String.ofList_toList]

/-- Two names with one code, a standard color with another code, and a text with stray and doubled
section signs, an unknown code, and braces that open nothing. -/
theorem parseColors_revert_shared_code :
    let settings := (({} : Settings).withColor "Gold" "§c").withColor "crimson" "§c"
    let engine : Engine Unit := (Session.initWithoutHost.run (.ofSettings settings ())).2
    settings.validate = .ok () ∧ engine.palette.revert "\x7b§cHi §§6 \x7ba §z§"
        = "\x7b\x7bgold\x7dHi §§6 \x7ba §z§"
      ∧ ((Request.parseColors (engine.palette.revert "\x7b§cHi §§6 \x7ba §z§")).serve.run engine).1
        = .text "\x7b§cHi §§6 \x7ba §z§" := by
  intro settings engine
  have hvalid : settings.validate = .ok () := rfl
  have hdepth : 0 < settings.maxDepth := Nat.zero_lt_succ 9
  have hinitialized : engine.IsInitialized settings :=
    Engine.IsInitialized.of_initializes .initWithoutHost settings ()
  have hrevert : ((({} : Settings).withColor "Gold" "§c").withColor "crimson" "§c").palette.revert
      "\x7b§cHi §§6 \x7ba §z§" = "\x7b\x7bgold\x7dHi §§6 \x7ba §z§" := by decide
  refine ⟨hvalid, ?_, parseColors_revert hvalid hdepth hinitialized (by decide)⟩
  rw [hinitialized.palette_eq]
  exact hrevert

/-! ## Expanding, then reverting -/

/-- The segment with its identifier in lower case. -/
def Segment.lowercase : Segment → Segment
  | .text s => .text s
  | .token t span => .token { t with identifier := Text.lowercase t.identifier } span

/-- Reverting what was painted gives the tokens again, each under the name of its color. -/
theorem revertChars_paint {palette : Palette} (hpalette : palette.IsChecked)
    (hdistinct : palette.CodesDistinct) {segments : List Segment}
    (htexts : ∀ s, .text s ∈ segments → sectionSign ∉ s.toList)
    (htokens : ∀ t span, .token t span ∈ segments → palette.IsColor t) :
    palette.revertChars (palette.paint segments).toList
      = (render (segments.map Segment.lowercase)).toList := by
  induction segments with
  | nil =>
    rw [Palette.paint_nil, List.map_nil, render_nil]
    rfl
  | cons segment rest ih =>
    have hrest := ih (fun s hs => htexts s (List.mem_cons_of_mem _ hs))
      fun t span ht => htokens t span (List.mem_cons_of_mem _ ht)
    rw [List.map_cons, render_cons, String.toList_append, ← hrest]
    cases segment with
    | text s =>
      have hs : sectionSign ∉ s.toList := htexts s List.mem_cons_self
      rw [Palette.paint, String.toList_append, palette.revertChars_append hs]
      rfl
    | token t span =>
      obtain ⟨identifier, params⟩ := t
      have ht : palette.IsColor ⟨identifier, params⟩ := htokens _ span List.mem_cons_self
      obtain rfl : params = none := ht.1
      obtain ⟨code, hcode, hentry⟩ := ht.exists_code
      obtain ⟨d, hsign, -⟩ := hpalette.code_eq hentry
      have hname : palette.nameOf? (String.ofList [sectionSign, d])
          = some (Text.lowercase identifier) := by
        rw [← hsign]
        exact hdistinct.nameOf?_eq hentry
      rw [Palette.paint, hcode, Option.getD_some, String.toList_append, hsign,
        String.toList_ofList]
      exact palette.revertChars_named hname _

/-- Expanding and then reverting writes every token in lower case and leaves the rest, in every
initialized engine for checked settings that expands at all, if no two colors have the same code, the
tokens of the message are colors, and its texts hold no section sign. -/
theorem revert_parseColors [PlayerSource σ C] {settings : Settings}
    (hvalid : settings.validate = .ok ())
    (hdepth : 0 < settings.maxDepth) (hdistinct : settings.palette.CodesDistinct)
    {engine : Engine σ C} (h : engine.IsInitialized settings) {message : String}
    (htexts : ∀ s, .text s ∈ scan message → sectionSign ∉ s.toList)
    (htokens : ∀ t span, .token t span ∈ scan message →
      t.params = none ∧ Text.lowercase t.identifier ∈ settings.palette.table.keys) :
    ∃ expanded, ((Request.parseColors message).serve.run engine).1 = .text expanded
      ∧ engine.palette.revert expanded = render ((scan message).map Segment.lowercase) := by
  have hcolors : ∀ found ∈ tokens message, settings.palette.IsColor found.1 :=
    fun found hfound => htokens found.1 found.2 (mem_segment_tokens_iff.mp hfound)
  refine ⟨_, h.parseColors hvalid hdepth hcolors, ?_⟩
  rw [h.palette_eq, Palette.revert,
    revertChars_paint (Settings.isChecked_palette hvalid) hdistinct htexts htokens,
    String.ofList_toList]

/-- The standard palette, with two tokens side by side and a brace before one of them. -/
theorem revert_parseColors_standard :
    let engine : Engine Unit := (Session.initWithoutHost.run (.ofSettings {} ())).2
    scan "\x7b\x7bGold\x7d\x7bBOLD\x7d a"
        = [.text "\x7b", .token ⟨"Gold", none⟩ ⟨1, 7⟩, .token ⟨"BOLD", none⟩ ⟨7, 13⟩, .text " a"]
      ∧ ∃ expanded,
        ((Request.parseColors "\x7b\x7bGold\x7d\x7bBOLD\x7d a").serve.run engine).1
            = .text expanded
          ∧ engine.palette.revert expanded = "\x7b\x7bgold\x7d\x7bbold\x7d a" := by
  intro engine
  have hscan : scan "\x7b\x7bGold\x7d\x7bBOLD\x7d a"
      = [.text "\x7b", .token ⟨"Gold", none⟩ ⟨1, 7⟩, .token ⟨"BOLD", none⟩ ⟨7, 13⟩,
        .text " a"] := by
    have hgold : (Token.mk "Gold" none).WellFormed :=
      ⟨isIdentifier_iff.mp (by decide), fun _ h => nomatch h⟩
    have hbold : (Token.mk "BOLD" none).WellFormed :=
      ⟨isIdentifier_iff.mp (by decide), fun _ h => nomatch h⟩
    have hbrace : ¬ StartsToken ('{' :: ((Token.mk "Gold" none).raw.toList
        ++ ((Token.mk "BOLD" none).raw.toList ++ ([' ', 'a'] ++ [])))) :=
      Token.read?_eq_none_iff.mp (by decide)
    have hmessage : "\x7b\x7bGold\x7d\x7bBOLD\x7d a".toList
        = '{' :: ((Token.mk "Gold" none).raw.toList
          ++ ((Token.mk "BOLD" none).raw.toList ++ ([' ', 'a'] ++ []))) := by decide
    rw [scan_eq_segmentsFrom, hmessage, segmentsFrom_brace hbrace, segmentsFrom_token hgold,
      segmentsFrom_token hbold, segmentsFrom_run (by decide), segmentsFrom_nil]
    decide
  have hdistinct : ({} : Settings).palette.CodesDistinct := Palette.codesDistinct_standard
  have hinitialized : engine.IsInitialized {} :=
    Engine.IsInitialized.of_initializes .initWithoutHost {} ()
  have htexts : ∀ s, .text s ∈ scan "\x7b\x7bGold\x7d\x7bBOLD\x7d a" →
      sectionSign ∉ s.toList := by
    rw [hscan]
    simp only [List.mem_cons, reduceCtorEq, Segment.text.injEq, List.not_mem_nil, false_or,
      or_false]
    rintro s (rfl | rfl)
    · decide
    · decide
  have htokens : ∀ t span, .token t span ∈ scan "\x7b\x7bGold\x7d\x7bBOLD\x7d a" →
      t.params = none ∧ Text.lowercase t.identifier ∈ ({} : Settings).palette.table.keys := by
    rw [hscan]
    simp only [List.mem_cons, reduceCtorEq, Segment.token.injEq, List.not_mem_nil, false_or,
      or_false]
    rintro t span (⟨rfl, -⟩ | ⟨rfl, -⟩)
    · decide
    · decide
  obtain ⟨expanded, hexpanded, hrevert⟩ :=
    revert_parseColors rfl (Nat.zero_lt_succ 9) hdistinct hinitialized htexts htokens
  refine ⟨hscan, expanded, hexpanded, ?_⟩
  rw [hrevert, hscan]
  decide

end MessageTemplate
