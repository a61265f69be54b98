import Mathlib.Algebra.Order.Floor.Div
import Mathlib.Data.Fin.Basic
import Mathlib.Data.List.GetD
import MessageTemplate.Proofs.Gradients

/-!
How evenly a gradient spreads its colors.

With `n` items and `k` colors, item `i` takes color `⌊i * k / n⌋`. Read the other way round, color `j` is
that of the items from `⌈j * n / k⌉` on, up to where the next color begins: rounding down in one direction
is rounding up in the other (`quotient_eq_iff`). So the items come in runs, one for each color in order,
and the length of a run is the distance of two neighbours among these beginnings. The distances are those
of `n / k`, rounded in one way or the other, which is why no two of them differ by more than one.

The computation itself could fail in three places: the product has to fit into a machine word, there has
to be something to divide by, and the index has to lie within the list of colors. `gradientIndex?` stops
at the first two, and the third is in the type of the indices.
-/

namespace MessageTemplate

/-! ## The computation in machine words -/

/-- A number that fits into a machine word. -/
def word? (n : Nat) : Option Nat :=
  if n < UInt64.size then some n else none

/-- A quotient, if there is something to divide by. -/
def quotient? (a b : Nat) : Option Nat :=
  if b = 0 then none else some (a / b)

/-- A difference, if it is not negative. -/
def difference? (a b : Nat) : Option Nat :=
  if b ≤ a then some (a - b) else none

/-- The color that item `i` of `total` takes from `colors` many, if no step of computing it fails. -/
def gradientIndex? (i total colors : Nat) : Option Nat := do
  let product ← word? (i * colors)
  let index ← quotient? product total
  let last ← difference? colors 1
  return min index last

section Index

variable {i total colors : Nat}

/-- An item of a text is before its end, and so its color is in the list. -/
theorem quotient_lt (hcolors : 0 < colors) (hi : i < total) : i * colors / total < colors :=
  Nat.div_lt_of_lt_mul (Nat.mul_lt_mul_of_pos_right hi hcolors)

/-- There is no need to stop at the last color. -/
theorem gradientIndex_eq (hcolors : 0 < colors) (hi : i < total) :
    gradientIndex i total colors = i * colors / total :=
  Nat.min_eq_left (Nat.le_sub_one_of_lt (quotient_lt hcolors hi))

/-- No step fails for the items of a text, if their number times that of the colors is a word. -/
theorem gradientIndex?_eq (hcolors : 0 < colors) (hfits : total * colors < UInt64.size)
    (hi : i < total) : gradientIndex? i total colors = some (gradientIndex i total colors) := by
  have hproduct : i * colors < UInt64.size :=
    (Nat.mul_le_mul_right colors hi.le).trans_lt hfits
  have htotal : total ≠ 0 := Nat.ne_zero_of_lt hi
  have hlast : 1 ≤ colors := hcolors
  simp only [gradientIndex?, word?, quotient?, difference?, if_pos hproduct, if_neg htotal,
    if_pos hlast]
  rfl

end Index

/-! ## Runs -/

/-- The number of items that color `j` is for: color `j` begins at item `⌈j * total / colors⌉`, and ends
where the next color begins. -/
def gradientShare (total colors j : Nat) : Nat :=
  ((j + 1) * total) ⌈/⌉ colors - (j * total) ⌈/⌉ colors

section Runs

variable {i total colors : Nat}

/-- An item is behind the beginning of a color if it has this color or a later one. -/
theorem ceilDiv_le_iff_le_quotient (hcolors : 0 < colors) (htotal : 0 < total) (j : Nat) :
    (j * total) ⌈/⌉ colors ≤ i ↔ j ≤ i * colors / total := by
  rw [ceilDiv_le_iff_le_mul hcolors, Nat.le_div_iff_mul_le htotal, Nat.mul_comm colors]

/-- An item has a color if it is between the beginning of this color and that of the next. -/
theorem quotient_eq_iff (hcolors : 0 < colors) (htotal : 0 < total) (j : Nat) :
    i * colors / total = j
      ↔ (j * total) ⌈/⌉ colors ≤ i ∧ i < ((j + 1) * total) ⌈/⌉ colors := by
  rw [← not_le, ceilDiv_le_iff_le_quotient hcolors htotal, ceilDiv_le_iff_le_quotient hcolors htotal]
  omega

/-- Where a color begins, to the nearest item. -/
theorem mul_ceilDiv_bounds (hcolors : 0 < colors) (n : Nat) :
    n ≤ colors * (n ⌈/⌉ colors) ∧ colors * (n ⌈/⌉ colors) < n + colors := by
  have hle : n ≤ colors * (n ⌈/⌉ colors) := (ceilDiv_le_iff_le_mul hcolors).mp le_rfl
  refine ⟨hle, ?_⟩
  by_contra hlt
  -- otherwise one item earlier would do
  have hpred : n ⌈/⌉ colors ≤ n ⌈/⌉ colors - 1 := by
    rw [ceilDiv_le_iff_le_mul hcolors, Nat.mul_sub_one]
    omega
  have hzero : n ⌈/⌉ colors = 0 := by omega
  rw [hzero, Nat.mul_zero] at hlt
  omega

/-- The first color ends where the second begins, and so on. -/
theorem ceilDiv_add_share (hcolors : 0 < colors) (j : Nat) :
    (j * total) ⌈/⌉ colors + gradientShare total colors j = ((j + 1) * total) ⌈/⌉ colors := by
  have hmono : (j * total) ⌈/⌉ colors ≤ ((j + 1) * total) ⌈/⌉ colors := by
    rw [ceilDiv_le_iff_le_mul hcolors]
    refine le_trans ?_ (mul_ceilDiv_bounds hcolors _).1
    exact Nat.mul_le_mul_right total (Nat.le_succ j)
  rw [gradientShare]
  omega

/-- A share is less than one item away from the number of items divided by that of the colors. -/
theorem mul_share_bounds (hcolors : 0 < colors) (j : Nat) :
    total < colors * gradientShare total colors j + colors
      ∧ colors * gradientShare total colors j < total + colors := by
  have hbegin := mul_ceilDiv_bounds hcolors (j * total)
  have hend := mul_ceilDiv_bounds hcolors ((j + 1) * total)
  have hnext : (j + 1) * total = j * total + total := Nat.succ_mul j total
  rw [← ceilDiv_add_share hcolors j, Nat.mul_add] at hend
  omega

/-- The shares of two colors differ by one item at most. -/
theorem share_le_share_add_one (hcolors : 0 < colors) (j j' : Nat) :
    gradientShare total colors j ≤ gradientShare total colors j' + 1 := by
  have hj : colors * gradientShare total colors j < total + colors := (mul_share_bounds hcolors j).2
  have hj' : total < colors * gradientShare total colors j' + colors :=
    (mul_share_bounds hcolors j').1
  have hlt : colors * gradientShare total colors j < colors * (gradientShare total colors j' + 2) := by
    rw [Nat.mul_add]
    omega
  have := Nat.lt_of_mul_lt_mul_left hlt
  omega

/-- Where there are no fewer items than colors, each color has an item. -/
theorem share_pos (hcolors : 0 < colors) (hle : colors ≤ total) (j : Nat) :
    0 < gradientShare total colors j := by
  have hj : total < colors * gradientShare total colors j + colors :=
    (mul_share_bounds hcolors j).1
  by_contra hzero
  rw [Nat.eq_zero_of_not_pos hzero] at hj
  omega

/-- The items up to the beginning of a color are the runs of the colors before it. The induction is on
the color; the next run is what lies between two beginnings. -/
theorem map_range_ceilDiv (hcolors : 0 < colors) (j : Nat) :
    (List.range ((j * total) ⌈/⌉ colors)).map (fun i => i * colors / total)
      = (List.range j).flatMap fun j => List.replicate (gradientShare total colors j) j := by
  induction j with
  | zero => simp
  | succ j ih =>
    rw [← ceilDiv_add_share hcolors, List.range_add, List.map_append, ih, List.range_succ,
      List.flatMap_append, List.flatMap_singleton, List.map_map]
    congr 1
    rw [List.eq_replicate_iff]
    refine ⟨by rw [List.length_map, List.length_range], fun index hindex => ?_⟩
    obtain ⟨x, hx, rfl⟩ := List.mem_map.mp hindex
    have hshare : (j * total) ⌈/⌉ colors + gradientShare total colors j
        = ((j + 1) * total) ⌈/⌉ colors := ceilDiv_add_share hcolors j
    rw [List.mem_range] at hx
    -- without items there would be no share for an item to be in
    have htotal : 0 < total := by
      by_contra hzero
      rw [Nat.eq_zero_of_not_pos hzero, gradientShare, Nat.mul_zero, Nat.mul_zero] at hx
      omega
    rw [Function.comp_apply, quotient_eq_iff hcolors htotal]
    omega

/-- All items are the runs of all colors. -/
theorem map_range_eq_runs (hcolors : 0 < colors) :
    (List.range total).map (fun i => i * colors / total)
      = (List.range colors).flatMap fun j => List.replicate (gradientShare total colors j) j := by
  have hend : (colors * total) ⌈/⌉ colors = total := smul_ceilDiv hcolors total
  rw [← map_range_ceilDiv hcolors, hend]

end Runs

/-! ## Even spreads -/

/-- These are the colors of so many items, one after the other, and they are spread evenly. -/
structure IsEvenSpread (total colors : Nat) (indices : List Nat) : Prop where
  indices_eq : indices = (List.range total).map fun i => gradientIndex i total colors
  /-- No step of computing them fails. -/
  computed : ∀ i < total, gradientIndex? i total colors = some (gradientIndex i total colors)
  /-- The last color is never exceeded, so it makes no difference to stop there. -/
  not_clamped : ∀ i < total, gradientIndex i total colors = i * colors / total
  ascending : indices.Pairwise (· ≤ ·)
  begins_with_first : 0 < total → indices.head? = some 0
  in_runs : indices
    = (List.range colors).flatMap fun j => List.replicate (gradientShare total colors j) j
  balanced : ∀ j < colors, ∀ j' < colors,
    gradientShare total colors j ≤ gradientShare total colors j' + 1
  all_used : colors ≤ total → ∀ j < colors, j ∈ indices

/-- The computed indices are spread evenly. -/
theorem isEvenSpread {total colors : Nat} (hcolors : 0 < colors)
    (hfits : total * colors < UInt64.size) :
    IsEvenSpread total colors ((List.range total).map fun i => gradientIndex i total colors) := by
  have hquotients : (List.range total).map (fun i => gradientIndex i total colors)
      = (List.range total).map fun i => i * colors / total :=
    List.map_congr_left fun i hi => gradientIndex_eq hcolors (List.mem_range.mp hi)
  have hruns := hquotients.trans (map_range_eq_runs hcolors)
  refine ⟨rfl, ?_, ?_, ?_, ?_, hruns, ?_, ?_⟩
  · exact fun i hi => gradientIndex?_eq hcolors hfits hi
  · exact fun i hi => gradientIndex_eq hcolors hi
  · rw [hquotients, List.pairwise_map]
    refine List.pairwise_lt_range.imp fun hlt => ?_
    exact Nat.div_le_div_right (Nat.mul_le_mul_right colors hlt.le)
  · intro htotal
    obtain ⟨n, rfl⟩ := Nat.exists_eq_succ_of_ne_zero htotal.ne'
    rw [hquotients, List.range_succ_eq_map, List.map_cons, List.head?_cons, Nat.zero_mul,
      Nat.zero_div]
  · exact fun j _ j' _ => share_le_share_add_one hcolors j j'
  · intro hle j hj
    rw [hruns, List.mem_flatMap]
    refine ⟨j, List.mem_range.mpr hj, List.mem_replicate.mpr ⟨?_, rfl⟩⟩
    exact (share_pos hcolors hle j).ne'

/-! ## Gradients -/

namespace Palette

/-- Items behind the codes of their colors, which are given by their places in the list of colors. Before
each item stands the code that the palette has for the color of that name, or else white. -/
def colored (palette : Palette) (colors : List String) (picks : List (Fin colors.length))
    (items : List (List Char)) : List (List Char) :=
  List.zipWith (fun pick item => ((palette.code? colors[pick]).getD "§f").toList ++ item) picks items

variable {palette : Palette} {colors : List String}

/-- What a gradient puts before its items are the codes of the computed indices. -/
theorem colored_eq {picks : List (Fin colors.length)} {items : List (List Char)}
    (hpicks : picks.map Fin.val
      = (List.range items.length).map fun i => gradientIndex i items.length colors.length) :
    palette.colored colors picks items
      = items.zipIdx.map fun (item, i) =>
          (palette.gradientCode colors i items.length).toList ++ item := by
  have hnamed : ∀ pick : Fin colors.length, colors[pick] = colors.getD pick.val "" := by
    intro pick
    rw [List.getD_eq_getElem _ _ pick.isLt]
    rfl
  have hbyValue : palette.colored colors picks items
      = List.zipWith (fun index item =>
            ((palette.code? (colors.getD index "")).getD "§f").toList ++ item)
          (picks.map Fin.val) items := by
    rw [colored, List.zipWith_map_left]
    simp only [hnamed]
  rw [hbyValue, hpicks, List.zipWith_map_left, List.zipIdx_eq_zip_range', ← List.range_eq_range',
    List.zip_eq_zipWith, List.map_zipWith, List.zipWith_comm]
  rfl

/-- The indices of a gradient lie within the list of colors. -/
theorem exists_picks (hcolors : colors ≠ []) (total : Nat) :
    ∃ picks : List (Fin colors.length), picks.map Fin.val
      = (List.range total).map fun i => gradientIndex i total colors.length := by
  have hpos : 0 < colors.length := List.length_pos_of_ne_nil hcolors
  have hbounds : ∀ index ∈ (List.range total).map fun i => gradientIndex i total colors.length,
      index < colors.length := by
    intro index hindex
    obtain ⟨i, hi, rfl⟩ := List.mem_map.mp hindex
    rw [gradientIndex_eq hpos (List.mem_range.mp hi)]
    exact quotient_lt hpos (List.mem_range.mp hi)
  lift (List.range total).map fun i => gradientIndex i total colors.length
    to List (Fin colors.length) using hbounds with picks
  exact ⟨picks, rfl⟩

/-- Both gradients spread their colors evenly, one over the characters and one over the words of a
text. -/
theorem gradients_spread_evenly (palette : Palette) {colors : List String} (hcolors : colors ≠ [])
    (text : String) :
    (text.toList.length * colors.length < UInt64.size →
        ∃ picks : List (Fin colors.length),
          IsEvenSpread text.toList.length colors.length (picks.map Fin.val)
            ∧ palette.characterGradient colors text
              = String.ofList (palette.colored colors picks (text.toList.map List.singleton)).flatten)
      ∧ ((text.toList.splitOn ' ').length * colors.length < UInt64.size →
        ∃ picks : List (Fin colors.length),
          IsEvenSpread (text.toList.splitOn ' ').length colors.length (picks.map Fin.val)
            ∧ palette.wordGradient colors text
              = String.ofList ([' '].intercalate
                  (palette.colored colors picks (text.toList.splitOn ' ')))) := by
  have hpos : 0 < colors.length := List.length_pos_of_ne_nil hcolors
  have hsome : ¬ colors.isEmpty = true := by simpa using hcolors
  constructor
  · intro hfits
    obtain ⟨picks, hpicks⟩ := exists_picks hcolors text.toList.length
    refine ⟨picks, hpicks ▸ isEvenSpread hpos hfits, ?_⟩
    have hitems : (text.toList.map List.singleton).length = text.toList.length := List.length_map _
    rw [← hitems] at hpicks
    rw [colored_eq hpicks, characterGradient, if_neg hsome, List.zipIdx_map, List.map_map, hitems]
    rfl
  · intro hfits
    obtain ⟨picks, hpicks⟩ := exists_picks hcolors (text.toList.splitOn ' ').length
    refine ⟨picks, hpicks ▸ isEvenSpread hpos hfits, ?_⟩
    rw [colored_eq hpicks, wordGradient, if_neg hsome, words_eq_splitOn]

/-- Five characters and three words, one of them empty, in three colors of which the palette does not have
one. -/
theorem gradients_spread_evenly_two_spaces :
    let colors := ["red", "gold", "nope"]
    (colors ≠ [] ∧ 5 * 3 < UInt64.size)
      ∧ (∃ picks : List (Fin 3), IsEvenSpread 5 3 (picks.map Fin.val)
        ∧ picks.map Fin.val = [0, 0, 1, 1, 2]
        ∧ Palette.standard.characterGradient colors "ab  c"
          = String.ofList (Palette.standard.colored colors picks
              [['a'], ['b'], [' '], [' '], ['c']]).flatten)
      ∧ ∃ picks : List (Fin 3), IsEvenSpread 3 3 (picks.map Fin.val)
        ∧ picks.map Fin.val = [0, 1, 2]
        ∧ Palette.standard.wordGradient colors "ab  c"
          = String.ofList ([' '].intercalate
              (Palette.standard.colored colors picks [['a', 'b'], [], ['c']])) := by
  intro colors
  have hcolors : colors ≠ [] := List.cons_ne_nil _ _
  obtain ⟨hcharacters, hwords⟩ := gradients_spread_evenly Palette.standard hcolors "ab  c"
  refine ⟨⟨hcolors, by decide⟩, ?_, ?_⟩
  · obtain ⟨picks, hspread, hgradient⟩ := hcharacters (by decide)
    exact ⟨picks, hspread, hspread.indices_eq.trans (by decide), hgradient⟩
  · obtain ⟨picks, hspread, hgradient⟩ := hwords (by decide)
    exact ⟨picks, hspread, hspread.indices_eq.trans (by decide), hgradient⟩

end Palette

end MessageTemplate
