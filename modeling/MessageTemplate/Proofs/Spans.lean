import MessageTemplate.Token.Lexer

/-!
Spans and the bytes behind them.

The lexer never computes with positions: it cuts characters, and `layOut` adds up afterwards how many
bytes each piece takes. This module says what these sums mean. The spans tile the message, and each
of them begins and ends between characters and holds the bytes of its piece; both follow from one
splitting lemma, `mem_layOut_iff`, in which the piece stands between what is written before and
behind it.
-/

namespace MessageTemplate

/-! ## Bytes of characters -/

/-- The number of bytes that the characters take. -/
def byteLength (cs : List Char) : Nat :=
  (String.ofList cs).utf8ByteSize

@[simp] theorem byteLength_nil : byteLength [] = 0 := rfl

@[simp] theorem byteLength_append (cs ds : List Char) :
    byteLength (cs ++ ds) = byteLength cs + byteLength ds := by
  rw [byteLength, String.ofList_append, String.utf8ByteSize_append]
  rfl

@[simp] theorem byteLength_toList (s : String) : byteLength s.toList = s.utf8ByteSize := by
  rw [byteLength, String.ofList_toList]

/-- A text of no bytes is empty. -/
theorem byteLength_eq_zero_iff {cs : List Char} : byteLength cs = 0 ↔ cs = [] := by
  rw [byteLength, String.utf8ByteSize_eq_zero_iff]
  constructor
  · intro h
    rw [← String.toList_ofList (l := cs), h]
    rfl
  · rintro rfl
    rfl

theorem byteLength_cons (c : Char) (cs : List Char) :
    byteLength (c :: cs) = c.utf8Size + byteLength cs := by
  have hc : byteLength [c] = c.utf8Size := by
    rw [byteLength, ← String.singleton_eq_ofList, String.utf8ByteSize_singleton]
  rw [← List.singleton_append, byteLength_append, hc]

/-- Characters take at least one byte each. -/
theorem length_le_byteLength (cs : List Char) : cs.length ≤ byteLength cs := by
  induction cs with
  | nil => exact Nat.le_refl 0
  | cons c cs ih =>
    have hc : 0 < c.utf8Size := c.utf8Size_pos
    rw [byteLength_cons, List.length_cons]
    omega

/-- They take no more if they take one byte each. -/
theorem byteLength_eq_length_iff {cs : List Char} :
    byteLength cs = cs.length ↔ ∀ c ∈ cs, c.utf8Size = 1 := by
  induction cs with
  | nil => exact ⟨fun _ c hc => absurd hc List.not_mem_nil, fun _ => rfl⟩
  | cons c cs ih =>
    have hc : 0 < c.utf8Size := c.utf8Size_pos
    have hcs : cs.length ≤ byteLength cs := length_le_byteLength cs
    rw [byteLength_cons, List.length_cons, List.forall_mem_cons, ← ih]
    omega

/-! ## What a span holds -/

/-- The span begins and ends between characters of the message, and its bytes are those of the
text. -/
structure Span.Spells (span : Span) (message text : String) : Prop where
  start_valid : String.Pos.Raw.IsValid message ⟨span.start⟩
  stop_valid : String.Pos.Raw.IsValid message ⟨span.stop⟩
  bytes : message.toByteArray.extract span.start span.stop = text.toByteArray

/-- A text is spelled by the bytes behind those of what stands before it. -/
theorem Span.spells_of_append (before text behind : String) :
    Span.Spells ⟨before.utf8ByteSize, before.utf8ByteSize + text.utf8ByteSize⟩
      (before ++ text ++ behind) text where
  start_valid := by
    rw [String.Pos.Raw.isValid_iff_exists_append]
    exact ⟨before, text ++ behind, String.append_assoc, rfl⟩
  stop_valid := by
    rw [String.Pos.Raw.isValid_iff_exists_append]
    exact ⟨before ++ text, behind, rfl, by simp [String.Pos.Raw.ext_iff]⟩
  bytes := by
    simp only [← String.size_toByteArray]
    rw [String.append_assoc, String.toByteArray_append, String.toByteArray_append]
    exact (ByteArray.extract_append_size_add (i := 0)).trans (ByteArray.extract_append_eq_left rfl)

/-- The spans follow one another without a gap, from one byte to another. -/
def Tiles : Nat → List Span → Nat → Prop
  | start, [], stop => start = stop
  | start, span :: rest, stop => span.start = start ∧ Tiles span.stop rest stop

/-! ## Pieces laid out -/

/-- What the pieces write, one after the other. -/
def written (ps : List Piece) : List Char :=
  ps.flatMap (·.raw.toList)

@[simp] theorem written_nil : written [] = [] := rfl

@[simp] theorem written_cons (p : Piece) (ps : List Piece) :
    written (p :: ps) = p.raw.toList ++ written ps := rfl

@[simp] theorem written_append (ps qs : List Piece) :
    written (ps ++ qs) = written ps ++ written qs :=
  List.flatMap_append

/-- Where the pieces behind the first one end. -/
theorem add_byteLength_written_cons (offset : Nat) (p : Piece) (ps : List Piece) :
    offset + byteLength (written (p :: ps))
      = offset + p.raw.utf8ByteSize + byteLength (written ps) := by
  rw [written_cons, byteLength_append, byteLength_toList, Nat.add_assoc]

/-- The spans of pieces tile the bytes that the pieces write. -/
theorem tiles_layOut (offset : Nat) (ps : List Piece) :
    Tiles offset ((layOut offset ps).map (·.2)) (offset + byteLength (written ps)) := by
  induction ps generalizing offset with
  | nil => rfl
  | cons p ps ih =>
    rw [add_byteLength_written_cons]
    exact ⟨rfl, ih (offset + p.raw.utf8ByteSize)⟩

/-- A piece with its span stands between other pieces, and takes the bytes behind those that the
pieces before it write. -/
theorem mem_layOut_iff {offset : Nat} {ps : List Piece} {p : Piece} {span : Span} :
    (p, span) ∈ layOut offset ps ↔ ∃ front back, ps = front ++ p :: back
      ∧ span = ⟨offset + byteLength (written front),
          offset + byteLength (written front) + p.raw.utf8ByteSize⟩ := by
  induction ps generalizing offset with
  | nil =>
    constructor
    · intro h
      cases h
    · rintro ⟨front, back, h, -⟩
      exact absurd h.symm (by simp)
  | cons q ps ih =>
    rw [layOut, List.mem_cons, ih]
    constructor
    · rintro (h | ⟨front, back, rfl, rfl⟩)
      · obtain ⟨rfl, rfl⟩ := Prod.mk.inj h
        exact ⟨[], ps, rfl, rfl⟩
      · refine ⟨q :: front, back, rfl, ?_⟩
        rw [add_byteLength_written_cons]
    · rintro ⟨front, back, hps, rfl⟩
      cases front with
      | nil =>
        obtain ⟨rfl, rfl⟩ := List.cons.inj hps
        exact Or.inl rfl
      | cons r front =>
        obtain ⟨rfl, rfl⟩ := List.cons.inj hps
        refine Or.inr ⟨front, back, rfl, ?_⟩
        rw [add_byteLength_written_cons]

end MessageTemplate
