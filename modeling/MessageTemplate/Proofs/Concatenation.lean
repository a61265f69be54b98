import MessageTemplate.Proofs.Resolution
import MessageTemplate.Proofs.Segmentation

/-!
Cutting a message in two.

An opening brace may wait for what follows it: `{`, `{name` and `{name:params` all turn into tokens if
the rest of one comes behind them. A text that ends in none of these is complete (`IsComplete`), and
then no match begins in it and ends behind it, whatever comes. That is all the lexer ever looks ahead
for, so behind a complete text it starts afresh: the segments of the whole are the segments of the two
parts, except that two texts which meet at the cut become one (`segmentsFrom_append`).

The argument needs the scanner in the form of equations, one for each way a text can begin. In these
equations a run of literal characters need not be as long as it can be, for `Segment.prepend` joins it
to the text behind it; that is why texts may meet anywhere.
-/

namespace MessageTemplate

variable {σ C : Type}

/-! ## Unfinished tokens -/

/-- The beginnings of tokens: a brace, a brace with a name, or a brace with a name, a colon and
parameters that are still open. -/
inductive IsUnfinished : List Char → Prop where
  | brace : IsUnfinished ['{']
  | named {name : List Char} (hname : IsName name) : IsUnfinished ('{' :: name)
  | inParams {name params : List Char} (hname : IsName name) (hparams : '}' ∉ params) :
      IsUnfinished ('{' :: (name ++ ':' :: params))

/-- The text does not end with the beginning of a token. -/
def IsComplete (text : List Char) : Prop :=
  ∀ ending, ending <:+ text → ¬ IsUnfinished ending

/-- A match that begins inside the text also ends there, when `behind` follows the text. -/
def NoMatchAcross (text behind : List Char) : Prop :=
  ∀ skipped more w, text = skipped ++ more → more ≠ [] → IsTokenText w → w <+: more ++ behind →
    w <+: more

/-- A brace with a part of a name, or with nothing, is the beginning of a token. -/
theorem IsName.isUnfinished_of_prefix {name front : List Char} (hname : IsName name)
    (h : front <+: name) : IsUnfinished ('{' :: front) := by
  by_cases hfront : front = []
  · rw [hfront]
    exact .brace
  · exact .named ⟨hfront, fun c hc => hname.2 c (h.subset hc)⟩

/-- What a token begins with is unfinished as long as something of the token is missing. -/
theorem IsTokenText.isUnfinished {front back : List Char} (h : IsTokenText (front ++ back))
    (hfront : front ≠ []) (hback : back ≠ []) : IsUnfinished front := by
  generalize hw : front ++ back = w at h
  obtain ⟨c, front, rfl⟩ := List.exists_cons_of_ne_nil hfront
  have hlast : ∀ {d : Char} {more : List Char}, [d] = more ++ back → more = [] := by
    intro d more hmore
    by_contra hne
    have hlen := congrArg List.length hmore
    rw [List.length_append, List.length_singleton] at hlen
    have := List.length_pos_iff.mpr hne
    have := List.length_pos_iff.mpr hback
    omega
  cases h with
  | @bare name hname =>
    obtain ⟨rfl, htail⟩ := List.cons.inj hw
    rcases List.append_eq_append_iff.mp htail with ⟨more, hname', -⟩ | ⟨more, rfl, hmore⟩
    · exact hname.isUnfinished_of_prefix ⟨more, hname'.symm⟩
    · rw [hlast hmore, List.append_nil]
      exact .named hname
  | @withParams name params hname hparams =>
    obtain ⟨rfl, htail⟩ := List.cons.inj hw
    rcases List.append_eq_append_iff.mp htail with ⟨more, hname', -⟩ | ⟨more, rfl, hmore⟩
    · exact hname.isUnfinished_of_prefix ⟨more, hname'.symm⟩
    · -- the cut is behind the name, and before or behind the colon
      cases more with
      | nil =>
        rw [List.append_nil]
        exact .named hname
      | cons d more =>
        obtain ⟨rfl, hparams'⟩ := List.cons.inj hmore
        rcases List.append_eq_append_iff.mp hparams' with ⟨rest, rfl, hrest⟩ | ⟨rest, rfl, -⟩
        · rw [hlast hrest, List.append_nil]
          exact .inParams hname hparams
        · exact .inParams hname fun hmem => hparams (List.mem_append_left _ hmem)

/-- Behind a complete text anything may follow. -/
theorem IsComplete.noMatchAcross {text : List Char} (h : IsComplete text) (behind : List Char) :
    NoMatchAcross text behind := by
  rintro skipped more w rfl hmore hw ⟨rest, hrest⟩
  rcases List.append_eq_append_iff.mp hrest with ⟨left, rfl, -⟩ | ⟨left, rfl, -⟩
  · exact List.prefix_append w left
  · -- the match would be longer than what is left of the text, which is then unfinished
    by_cases hleft : left = []
    · have hall : more ++ left = more := by rw [hleft, List.append_nil]
      exact ⟨[], by rw [List.append_nil, hall]⟩
    · exact absurd (hw.isUnfinished hmore hleft) (h more (List.suffix_append skipped more))

/-- A text that ends with a closing brace is complete. -/
theorem isComplete_of_closed (text : List Char) : IsComplete (text ++ ['}']) := by
  intro ending hending hunfinished
  have hclosed : '}' ∈ ending := by
    have hne : ending ≠ [] := by
      cases hunfinished with
      | brace => exact List.cons_ne_nil _ _
      | named => exact List.cons_ne_nil _ _
      | inParams => exact List.cons_ne_nil _ _
    have hlast : ending.getLast hne = '}' := by
      rw [hending.getLast hne, List.getLast_concat]
    rw [← hlast]
    exact List.getLast_mem hne
  cases hunfinished with
  | brace => simp at hclosed
  | @named name hname =>
    rcases List.mem_cons.mp hclosed with hbrace | hmem
    · cases hbrace
    · exact hname.not_mem rfl hmem
  | @inParams name params hname hparams =>
    simp only [List.mem_cons, List.mem_append] at hclosed
    rcases hclosed with hbrace | hmem | hcolon | hmem
    · cases hbrace
    · exact hname.not_mem rfl hmem
    · cases hcolon
    · exact hparams hmem

/-- A text without an opening brace is complete. -/
theorem isComplete_of_no_brace {text : List Char} (h : '{' ∉ text) : IsComplete text := by
  intro ending hending hunfinished
  have hbrace : '{' ∈ ending := by
    cases hunfinished with
    | brace => exact List.mem_cons_self
    | named => exact List.mem_cons_self
    | inParams => exact List.mem_cons_self
  exact h (hending.subset hbrace)

/-- A token is complete, whatever stands before it. -/
theorem IsTokenText.isComplete_append {w : List Char} (hw : IsTokenText w) (before : List Char) :
    IsComplete (before ++ w) := by
  cases hw with
  | @bare name hname =>
    have hclosed := isComplete_of_closed (before ++ '{' :: name)
    rwa [List.append_assoc, List.cons_append] at hclosed
  | @withParams name params hname hparams =>
    have hclosed := isComplete_of_closed (before ++ '{' :: (name ++ ':' :: params))
    rwa [List.append_assoc, List.cons_append, List.append_assoc, List.cons_append] at hclosed

/-- The beginning of a token begins with beginnings of tokens only. -/
theorem IsUnfinished.of_append {front back : List Char} (h : IsUnfinished (front ++ back))
    (hfront : front ≠ []) : IsUnfinished front := by
  -- something can be written behind it that makes it a token
  obtain ⟨rest, hrest, htoken⟩ : ∃ rest, rest ≠ [] ∧ IsTokenText (front ++ back ++ rest) := by
    generalize front ++ back = w at h
    cases h with
    | brace =>
      have hname : IsName ['a'] := isIdentifier_iff.mp (show isIdentifier "a" = true by decide)
      exact ⟨['a', '}'], List.cons_ne_nil _ _, .bare hname⟩
    | named hname => exact ⟨['}'], List.cons_ne_nil _ _, .bare hname⟩
    | inParams hname hparams =>
      refine ⟨['}'], List.cons_ne_nil _ _, ?_⟩
      rw [List.cons_append, List.append_assoc, List.cons_append]
      exact .withParams hname hparams
  rw [List.append_assoc] at htoken
  exact htoken.isUnfinished hfront (List.append_ne_nil_of_right_ne_nil back hrest)

/-- Complete texts one behind the other are complete: what one leaves open would be open at its end. -/
theorem IsComplete.append {text more : List Char} (h : IsComplete text) (hmore : IsComplete more) :
    IsComplete (text ++ more) := by
  rintro ending ⟨before, hbefore⟩ hunfinished
  rcases List.append_eq_append_iff.mp hbefore with ⟨front, htext, rfl⟩ | ⟨front, -, hsuffix⟩
  · by_cases hfront : front = []
    · subst hfront
      exact hmore more (List.suffix_refl more) hunfinished
    · exact h front ⟨before, htext.symm⟩ (hunfinished.of_append hfront)
  · exact hmore ending ⟨front, hsuffix.symm⟩ hunfinished

theorem NoMatchAcross.of_append {front text behind : List Char}
    (h : NoMatchAcross (front ++ text) behind) : NoMatchAcross text behind := by
  rintro skipped more w rfl
  exact h (front ++ skipped) more w (List.append_assoc _ _ _).symm

/-- A brace of the text that opens no token opens none either when more text follows. -/
theorem NoMatchAcross.not_startsToken {text behind : List Char} {c : Char}
    (h : NoMatchAcross (c :: text) behind) (hno : ¬ StartsToken (c :: text)) :
    ¬ StartsToken (c :: (text ++ behind)) := by
  rintro ⟨w, hw, hprefix⟩
  exact hno ⟨w, hw, h [] (c :: text) w rfl (List.cons_ne_nil _ _) hw hprefix⟩

/-! ## Joining segments -/

namespace Segment

/-- Puts a text before segments. It becomes a part of the text that they begin with, if they do. -/
def prepend (s : String) : List Segment → List Segment
  | [] => ofText s
  | .text s' :: rest => .text (s ++ s') :: rest
  | .token t span :: rest => ofText s ++ .token t span :: rest

/-- Puts segments before segments, so that no two texts stand side by side. -/
def splice : List Segment → List Segment → List Segment
  | [], back => back
  | .text s :: front, back => prepend s (splice front back)
  | .token t span :: front, back => .token t span :: splice front back

/-- The segment of the same message with `offset` more bytes before it. -/
def shift (offset : Nat) : Segment → Segment
  | .text s => .text s
  | .token t span => .token t (span.shift offset)

theorem ofText_empty : ofText "" = [] := rfl

theorem ofText_of_ne_empty {s : String} (h : s ≠ "") : ofText s = [.text s] := by
  rw [ofText, if_neg]
  rwa [String.isEmpty_iff]

@[simp] theorem prepend_empty (segments : List Segment) : prepend "" segments = segments := by
  cases segments with
  | nil => rfl
  | cons segment rest =>
    cases segment with
    | text s => rw [prepend, String.empty_append]
    | token t span => rfl

/-- A text with segments that do not begin with one stands before them as it is. -/
theorem prepend_token (s : String) (t : Token) (span : Span) (rest : List Segment) :
    prepend s (.token t span :: rest) = ofText s ++ .token t span :: rest := rfl

/-- Two texts that are put before segments one after the other are one text. -/
theorem prepend_prepend (s s' : String) (segments : List Segment) :
    prepend s (prepend s' segments) = prepend (s ++ s') segments := by
  by_cases hs' : s' = ""
  · rw [hs', prepend_empty, String.append_empty]
  · have hss' : s ++ s' ≠ "" := by
      rw [Ne, String.append_eq_empty_iff]
      exact fun h => hs' h.2
    cases segments with
    | nil => rw [prepend, prepend, ofText_of_ne_empty hs', ofText_of_ne_empty hss', prepend]
    | cons segment rest =>
      cases segment with
      | text r => rw [prepend, prepend, prepend, String.append_assoc]
      | token t span =>
        rw [prepend_token, prepend_token, ofText_of_ne_empty hs', ofText_of_ne_empty hss']
        rfl

theorem splice_prepend (s : String) (front back : List Segment) :
    splice (prepend s front) back = prepend s (splice front back) := by
  by_cases hs : s = ""
  · rw [hs, prepend_empty, prepend_empty]
  · cases front with
    | nil =>
      rw [prepend, ofText_of_ne_empty hs]
      rfl
    | cons segment front =>
      cases segment with
      | text s' => rw [prepend, splice, splice, prepend_prepend]
      | token t span =>
        rw [prepend_token, ofText_of_ne_empty hs]
        rfl

theorem map_shift_prepend (offset : Nat) (s : String) (segments : List Segment) :
    (prepend s segments).map (shift offset) = prepend s (segments.map (shift offset)) := by
  have hofText : (ofText s).map (shift offset) = ofText s := by
    by_cases hs : s = ""
    · rw [hs]
      rfl
    · rw [ofText_of_ne_empty hs]
      rfl
  cases segments with
  | nil => exact hofText
  | cons segment rest =>
    cases segment with
    | text s' => rfl
    | token t span =>
      rw [prepend_token, List.map_append, hofText]
      rfl

/-! ## Tokens of joined segments -/

theorem tokens_append (front back : List Segment) :
    tokens (front ++ back) = tokens front ++ tokens back := by
  induction front with
  | nil => rfl
  | cons segment front ih =>
    cases segment with
    | text s => exact ih
    | token t span => exact congrArg ((t, span) :: ·) ih

theorem tokens_prepend (s : String) (segments : List Segment) :
    tokens (prepend s segments) = tokens segments := by
  have hofText : tokens (ofText s) = [] := by
    by_cases hs : s = ""
    · rw [hs]
      rfl
    · rw [ofText_of_ne_empty hs]
      rfl
  cases segments with
  | nil => exact hofText
  | cons segment rest =>
    cases segment with
    | text s' => rfl
    | token t span => rw [prepend_token, tokens_append, hofText, List.nil_append]

theorem tokens_splice (front back : List Segment) :
    tokens (splice front back) = tokens front ++ tokens back := by
  induction front with
  | nil => rfl
  | cons segment front ih =>
    cases segment with
    | text s => rw [splice, tokens_prepend, ih, tokens]
    | token t span => rw [splice, tokens, ih, tokens, List.cons_append]

theorem tokens_map_shift (offset : Nat) (segments : List Segment) :
    tokens (segments.map (shift offset))
      = (tokens segments).map fun (t, span) => (t, span.shift offset) := by
  induction segments with
  | nil => rfl
  | cons segment rest ih =>
    cases segment with
    | text s => exact ih
    | token t span => exact congrArg ((t, span.shift offset) :: ·) ih

end Segment

/-! ## The scanner as equations -/

/-- The segments of a text that begins at byte `offset`. -/
def segmentsFrom (offset : Nat) (cs : List Char) : List Segment :=
  join "" (layOut offset (pieces cs))

theorem scan_eq_segmentsFrom (message : String) :
    scan message = segmentsFrom 0 message.toList := rfl

/-- The literal text that is carried along is put before the segments of the rest. -/
theorem join_eq_prepend (literal : String) (ps : List (Piece × Span)) :
    join literal ps = Segment.prepend literal (join "" ps) := by
  induction ps generalizing literal with
  | nil => rw [join, join, Segment.ofText_empty, Segment.prepend]
  | cons p ps ih =>
    obtain ⟨piece, span⟩ := p
    cases piece with
    | token t => rw [join, join, Segment.ofText_empty, List.nil_append, Segment.prepend_token]
    | literal s => rw [join, join, ih, ih ("" ++ s), Segment.prepend_prepend, String.empty_append]

@[simp] theorem segmentsFrom_nil (offset : Nat) : segmentsFrom offset [] = [] := by
  rw [segmentsFrom, pieces_nil, layOut, join, Segment.ofText_empty]

theorem segmentsFrom_token {t : Token} (ht : t.WellFormed) (offset : Nat) (rest : List Char) :
    segmentsFrom offset (t.raw.toList ++ rest)
      = .token t ⟨offset, offset + t.raw.utf8ByteSize⟩
        :: segmentsFrom (offset + t.raw.utf8ByteSize) rest := by
  rw [segmentsFrom, pieces_token ht, layOut, join, Segment.ofText_empty]
  rfl

theorem segmentsFrom_brace {rest : List Char} (h : ¬ StartsToken ('{' :: rest)) (offset : Nat) :
    segmentsFrom offset ('{' :: rest) = Segment.prepend "\x7b" (segmentsFrom (offset + 1) rest) := by
  rw [segmentsFrom, pieces_brace h, layOut, join, join_eq_prepend]
  rfl

/-- Characters other than the brace are literal. They need not be all of those that stand there. -/
theorem segmentsFrom_run {run : List Char} (hrun : '{' ∉ run) (offset : Nat) (rest : List Char) :
    segmentsFrom offset (run ++ rest)
      = Segment.prepend (String.ofList run) (segmentsFrom (offset + byteLength run) rest) := by
  by_cases hne : run = []
  · rw [hne, byteLength_nil, Nat.add_zero, List.nil_append]
    exact (Segment.prepend_empty _).symm
  · -- the lexer takes the run together with the characters up to the next brace
    obtain ⟨more, behind, rfl, hmore, hbehind⟩ : ∃ more behind, rest = more ++ behind
        ∧ '{' ∉ more ∧ ∀ c ∈ behind.head?, c = '{' := by
      refine ⟨rest.takeWhile (· != '{'), rest.dropWhile (· != '{'),
        List.takeWhile_append_dropWhile.symm, ?_, ?_⟩
      · intro hmem
        simpa using List.mem_takeWhile_imp hmem
      · intro c hc
        have hhead := List.head?_dropWhile_not (· != '{') rest
        rw [Option.mem_def.mp hc] at hhead
        simpa using hhead
    have hcut : ∀ {text : List Char} (at' : Nat), '{' ∉ text → text ≠ [] →
        segmentsFrom at' (text ++ behind)
          = Segment.prepend (String.ofList text) (segmentsFrom (at' + byteLength text) behind) := by
      intro text at' htext hne'
      rw [segmentsFrom, pieces_run hne' htext hbehind, layOut, join, join_eq_prepend,
        String.empty_append]
      rfl
    by_cases hmore' : more = []
    · rw [hmore', List.nil_append]
      exact hcut offset hrun hne
    · have hall : '{' ∉ run ++ more := by
        rw [List.mem_append]
        exact not_or.mpr ⟨hrun, hmore⟩
      rw [← List.append_assoc, hcut offset hall (List.append_ne_nil_of_left_ne_nil hne _),
        hcut _ hmore hmore', Segment.prepend_prepend, String.ofList_append, byteLength_append,
        Nat.add_assoc]

/-- More bytes before a text move its tokens, and change nothing else. -/
theorem segmentsFrom_add (offset more : Nat) (cs : List Char) :
    segmentsFrom (offset + more) cs = (segmentsFrom offset cs).map (Segment.shift more) := by
  have hcomm : ∀ m n : Nat, m + more + n = m + n + more := fun m n => by omega
  induction cs using lexInduction generalizing offset with
  | nil => rw [segmentsFrom_nil, segmentsFrom_nil, List.map_nil]
  | token t rest ht ih =>
    rw [segmentsFrom_token ht, segmentsFrom_token ht, List.map_cons, hcomm, ih]
    rfl
  | brace rest h ih =>
    rw [segmentsFrom_brace h, segmentsFrom_brace h, Segment.map_shift_prepend, hcomm,
      ih]
  | run run rest hne hrun hrest ih =>
    rw [segmentsFrom_run hrun, segmentsFrom_run hrun, Segment.map_shift_prepend, hcomm,
      ih]

/-- Where no match reaches across the cut, the segments of a text are those of its two parts. -/
theorem segmentsFrom_append {text behind : List Char} (h : NoMatchAcross text behind)
    (offset : Nat) :
    segmentsFrom offset (text ++ behind)
      = Segment.splice (segmentsFrom offset text)
          (segmentsFrom (offset + byteLength text) behind) := by
  induction text using lexInduction generalizing offset with
  | nil =>
    rw [segmentsFrom_nil, byteLength_nil, Nat.add_zero]
    rfl
  | token t rest ht ih =>
    rw [List.append_assoc, segmentsFrom_token ht, segmentsFrom_token ht, Segment.splice,
      ih h.of_append, byteLength_append, byteLength_toList, Nat.add_assoc]
  | brace rest hbrace ih =>
    have hrest : NoMatchAcross rest behind := @NoMatchAcross.of_append ['{'] rest behind h
    have hlength : byteLength ('{' :: rest) = 1 + byteLength rest := byteLength_append ['{'] rest
    rw [List.cons_append, segmentsFrom_brace (h.not_startsToken hbrace),
      segmentsFrom_brace hbrace, Segment.splice_prepend, ih hrest, hlength, Nat.add_assoc]
  | run run rest hne hrun hrest ih =>
    rw [List.append_assoc, segmentsFrom_run hrun, segmentsFrom_run hrun, Segment.splice_prepend,
      ih h.of_append, byteLength_append, Nat.add_assoc]

/-- A token alone is its only segment. -/
theorem scan_raw {t : Token} (ht : t.WellFormed) :
    scan t.raw = [.token t ⟨0, t.raw.utf8ByteSize⟩] := by
  have htoken := segmentsFrom_token ht 0 []
  rwa [List.append_nil, segmentsFrom_nil, Nat.zero_add] at htoken

/-- The segments of two texts, one behind the other. -/
theorem scan_append {a b : String} (h : NoMatchAcross a.toList b.toList) :
    scan (a ++ b)
      = Segment.splice (scan a) ((scan b).map (Segment.shift a.utf8ByteSize)) := by
  rw [scan_eq_segmentsFrom, String.toList_append, segmentsFrom_append h, byteLength_toList,
    segmentsFrom_add]
  rfl

/-- The tokens of two texts, one behind the other. -/
theorem tokens_append {a b : String} (h : NoMatchAcross a.toList b.toList) :
    tokens (a ++ b)
      = tokens a ++ (tokens b).map (fun (t, span) => (t, span.shift a.utf8ByteSize)) := by
  rw [tokens, scan_append h, Segment.tokens_splice, Segment.tokens_map_shift]
  rfl

/-- A message without an opening brace is text, if it is anything. -/
theorem scan_of_no_brace {message : String} (h : '{' ∉ message.toList) :
    scan message = Segment.prepend message [] := by
  have hrun := segmentsFrom_run h 0 []
  rwa [List.append_nil, segmentsFrom_nil, String.ofList_toList] at hrun

/-! ## Substitution over joined segments -/

section Substitute

variable (resolveToken : Token → Run σ C (Except Unresolved String)) (world : World σ C)

theorem substitute_ofText_append (s : String) (segments : List Segment) :
    (substitute resolveToken (Segment.ofText s ++ segments)).run world
      = (s ++ ((substitute resolveToken segments).run world).1,
        ((substitute resolveToken segments).run world).2) := by
  by_cases hs : s = ""
  · rw [hs, Segment.ofText_empty, List.nil_append, String.empty_append]
    rfl
  · rw [Segment.ofText_of_ne_empty hs]
    exact substitute_text resolveToken segments world s

/-- A text before segments is written before what they write. -/
theorem substitute_prepend (s : String) (segments : List Segment) :
    (substitute resolveToken (Segment.prepend s segments)).run world
      = (s ++ ((substitute resolveToken segments).run world).1,
        ((substitute resolveToken segments).run world).2) := by
  cases segments with
  | nil =>
    have hofText := substitute_ofText_append resolveToken world s []
    rwa [List.append_nil] at hofText
  | cons segment rest =>
    cases segment with
    | text s' => rw [Segment.prepend, substitute_text, substitute_text, String.append_assoc]
    | token t span => exact substitute_ofText_append resolveToken world s _

/-- Joined segments are written one part after the other, the second one in the world that the first
one leaves. -/
theorem substitute_splice (front back : List Segment) :
    (substitute resolveToken (Segment.splice front back)).run world
      = (((substitute resolveToken front).run world).1
          ++ ((substitute resolveToken back).run ((substitute resolveToken front).run world).2).1,
        ((substitute resolveToken back).run ((substitute resolveToken front).run world).2).2) := by
  induction front generalizing world with
  | nil =>
    rw [Segment.splice, substitute, run_pure, String.empty_append]
    rfl
  | cons segment front ih =>
    cases segment with
    | text s =>
      rw [Segment.splice, substitute_prepend, substitute_text, ih, String.append_assoc]
    | token t span =>
      rw [Segment.splice]
      rcases hstep : (resolveToken t).run world with ⟨result, mid⟩
      cases result with
      | error u =>
        rw [substitute_kept _ _ _ _ hstep, substitute_kept _ _ _ _ hstep, ih, String.append_assoc]
      | ok value =>
        rw [substitute_replaced _ _ _ _ hstep, substitute_replaced _ _ _ _ hstep, ih,
          String.append_assoc]

end Substitute

/-- Where a token stands makes no difference to what it becomes. -/
theorem substitute_map_shift (resolveToken : Token → Run σ C (Except Unresolved String))
    (offset : Nat) (segments : List Segment) :
    substitute resolveToken (segments.map (Segment.shift offset))
      = substitute resolveToken segments := by
  induction segments with
  | nil => rfl
  | cons segment rest ih =>
    cases segment with
    | text s => rw [List.map_cons, Segment.shift, substitute, substitute, ih]
    | token t span => rw [List.map_cons, Segment.shift, substitute, substitute, ih]

/-! ## Messages without a brace -/

/-- A message without an opening brace stays as it is at every depth, and nothing happens. -/
theorem expandAt_of_no_brace {message : String} (h : '{' ∉ message.toList) (context : Option C)
    (maxDepth depth : Nat) (world : World σ C) :
    (expandAt context maxDepth depth message).run world = (message, world) := by
  by_cases hdepth : depth < maxDepth
  · rw [expandAt_of_lt hdepth, scan_of_no_brace h, substitute_prepend, substitute, run_pure,
      String.append_empty]
  · rw [expandAt_of_le (Nat.not_lt.mp hdepth), run_pure]

/-! ## Concatenation -/

/-- Where no match reaches across the cut, a message is expanded part by part. -/
theorem expand_append {a b : String} (h : NoMatchAcross a.toList b.toList) (context : Option C)
    (maxDepth : Nat) :
    (expand context maxDepth (a ++ b) : Run σ C String)
      = do return (← expand context maxDepth a) ++ (← expand context maxDepth b) := by
  rcases Nat.eq_zero_or_pos maxDepth with rfl | hpos
  · rw [expand_zero, expand_zero, expand_zero]
    rfl
  · rw [expand_of_pos hpos, expand_of_pos hpos, expand_of_pos hpos, scan_append h]
    funext world
    have hsplice := substitute_splice (resolveAt context maxDepth 0) world (scan a)
      ((scan b).map (Segment.shift a.utf8ByteSize))
    rw [substitute_map_shift] at hsplice
    exact hsplice

/-- The second part is expanded in the world that the first part leaves. -/
theorem expand_append_run {a b : String} (h : NoMatchAcross a.toList b.toList) (context : Option C)
    (maxDepth : Nat) (world : World σ C) :
    (expand context maxDepth (a ++ b)).run world
      = (((expand context maxDepth a).run world).1
          ++ ((expand context maxDepth b).run ((expand context maxDepth a).run world).2).1,
        ((expand context maxDepth b).run ((expand context maxDepth a).run world).2).2) := by
  rw [expand_append h]
  rfl

/-- Behind a complete text a message can be cut: its tokens are those of the parts, and it is expanded
part by part, in the worlds that the parts leave one after the other. In particular a token behind a
complete text is expanded on its own, from the whole bound, and whatever its value holds does not join
what follows it. -/
theorem expand_append_of_isComplete {a b : String} (h : IsComplete a.toList) (context : Option C)
    (maxDepth : Nat) :
    tokens (a ++ b)
        = tokens a ++ (tokens b).map (fun (t, span) => (t, span.shift a.utf8ByteSize))
      ∧ (expand context maxDepth (a ++ b) : Run σ C String)
        = (do return (← expand context maxDepth a) ++ (← expand context maxDepth b))
      ∧ ∀ t : String, IsTokenText t.toList →
        (expand context maxDepth (a ++ t ++ b) : Run σ C String)
          = (do return (← expand context maxDepth a) ++ (← expand context maxDepth t)
              ++ (← expand context maxDepth b)) := by
  refine ⟨?_, expand_append (h.noMatchAcross _) context maxDepth, ?_⟩
  · rw [tokens, scan_append (h.noMatchAcross _), Segment.tokens_splice, Segment.tokens_map_shift]
    rfl
  · intro t ht
    have hwhole : IsComplete (a ++ t).toList := by
      rw [String.toList_append]
      exact ht.isComplete_append a.toList
    rw [expand_append (hwhole.noMatchAcross _), expand_append (h.noMatchAcross _)]
    simp only [bind_assoc, pure_bind]

/-- Parameters that hold a brace are closed by the first closing brace, and nothing of them is left
open at the cut. -/
theorem expand_append_of_isComplete_params :
    IsComplete "\x7bx \x7bb:\x7bc\x7d".toList
      ∧ tokens ("\x7bx \x7bb:\x7bc\x7d" ++ "b\x7d\x7be\x7d")
        = tokens "\x7bx \x7bb:\x7bc\x7d"
          ++ (tokens "b\x7d\x7be\x7d").map (fun (t, span) => (t, span.shift 9))
      ∧ (expand none 2 ("\x7bx \x7bb:\x7bc\x7d" ++ "\x7bd:1\x7d" ++ "b\x7d\x7be\x7d")
          : Run Nat Unit String)
        = (do return (← expand none 2 "\x7bx \x7bb:\x7bc\x7d")
            ++ (← expand none 2 "\x7bd:1\x7d") ++ (← expand none 2 "b\x7d\x7be\x7d")) := by
  have hcomplete : IsComplete "\x7bx \x7bb:\x7bc\x7d".toList :=
    isComplete_of_closed ("\x7bx \x7bb:\x7bc".toList)
  have htoken : IsTokenText "\x7bd:1\x7d".toList := by
    have hname : IsName "d".toList := isIdentifier_iff.mp (by decide)
    have hparams : '}' ∉ ['1'] := by decide
    exact .withParams hname hparams
  obtain ⟨htokens, -, hexpand⟩ :=
    expand_append_of_isComplete (σ := Nat) (C := Unit) (b := "b\x7d\x7be\x7d") hcomplete none 2
  exact ⟨hcomplete, htokens, hexpand _ htoken⟩

end MessageTemplate
