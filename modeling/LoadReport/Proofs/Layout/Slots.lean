import Mathlib.Data.Set.Lattice
import Mathlib.Order.Interval.Set.LinearOrder
import Mathlib.Order.Lattice.Nat
import Mathlib.Tactic.FieldSimp
import Mathlib.Tactic.Linarith
import Mathlib.Tactic.LinearCombination
import Mathlib.Tactic.NormNum
import Mathlib.Tactic.Positivity
import Mathlib.Tactic.Ring
import LoadReport.Proofs.Layout.Elements

/-!
# Bars in their slots

The rule for bars is stated over any numbers. A layout follows it in double precision
(`Chart.bars_follow_rule`); over exact numbers, each bar of a scenario begins where the one in front of
it ends (`bar_eq`), from the left edge of the slot to the right one, so that the bars fill the slot
(`tiles`) and keep their distance from all others (`le_sub_of_mem_slots`).
-/

namespace LoadReport

open Outcomes

/-- An equation of functions, since of two numbers the kernel would compute the roundings. -/
theorem Binary64.natCast_eq_ofNat : (Nat.cast : Nat → Binary64) = ofNat :=
  rfl

namespace Slot

section

variable {α : Type} [Add α] [Sub α] [Mul α] [Div α] [NatCast α] [OfScientific α]

/-- Where the bar at an index is centred, of several around a place. -/
def barCenter (place index count : Nat) : α :=
  (place : α) + barShift index count

end

variable (place index count : Nat)

/-- Where a bar begins, half its width to the left of its centre. -/
def barBegin : ℚ :=
  barCenter place index count - barWidth count / 2

/-- Where a bar ends, half its width to the right of its centre. -/
def barEnd : ℚ :=
  barCenter place index count + barWidth count / 2

/-- What a bar covers of the axis. -/
def bar : Set ℚ :=
  Set.Icc (barBegin place index count) (barEnd place index count)

/-- What the bars of a scenario may cover of the axis. -/
def slot : Set ℚ :=
  Set.Icc (place - 2 / 5) (place + 2 / 5)

/-- Bars fill the slot of a place from left to right. Neighbours meet where the left one ends and the
right one begins, and nowhere else; no other bars meet. -/
structure Tiles (place count : Nat) : Prop where
  inside : ∀ index < count, bar place index count ⊆ slot place
  ordered : ∀ left right, left < right → right < count →
    ∀ x ∈ bar place left count, ∀ y ∈ bar place right count, x ≤ y
  adjacent : ∀ index, index + 1 < count →
    barEnd place index count = barBegin place (index + 1) count ∧
      bar place index count ∩ bar place (index + 1) count = {barEnd place index count}
  separate : ∀ left right, left + 1 < right → right < count →
    bar place left count ∩ bar place right count = ∅
  covered : (⋃ index < count, bar place index count) = slot place

/-! ## Edges -/

/-- The edges of the bars around a place: as many widths from the left edge of the slot as bars stand
in front. -/
def edge : ℚ :=
  place - 2 / 5 + index * barWidth count

theorem barWidth_eq : (barWidth count : ℚ) = 4 / 5 / count := by
  rw [barWidth, room]
  norm_num

theorem barShift_eq : (barShift index count : ℚ) = (index - count / 2 + 1 / 2) * barWidth count := by
  rw [barShift]
  norm_num

theorem edge_zero : edge place 0 count = place - 2 / 5 := by
  simp [edge]

theorem edge_succ : edge place (index + 1) count = edge place index count + barWidth count := by
  rw [edge, edge]
  push_cast
  ring

variable {count} (positive : 0 < count)
include positive

theorem barWidth_pos : 0 < (barWidth count : ℚ) := by
  rw [barWidth_eq]
  positivity

/-- All bars together are as wide as the slot. -/
theorem count_mul_barWidth : (count : ℚ) * barWidth count = 4 / 5 := by
  have some : (count : ℚ) ≠ 0 := Nat.cast_ne_zero.mpr positive.ne'
  rw [barWidth_eq]
  field_simp

theorem edge_count : edge place count count = place + 2 / 5 := by
  rw [edge, count_mul_barWidth positive]
  ring

theorem edge_strictMono : StrictMono fun index => edge place index count := by
  refine strictMono_nat_of_lt_succ fun index => ?_
  rw [edge_succ]
  exact lt_add_of_pos_right _ (barWidth_pos positive)

theorem barBegin_eq : barBegin place index count = edge place index count := by
  have whole := count_mul_barWidth positive
  rw [barBegin, edge, barCenter, barShift_eq]
  -- Half of all bars to the left is half the slot, and half a bar to the right brings the first one
  -- to the edge.
  linear_combination (-1 / 2 : ℚ) * whole

theorem barEnd_eq : barEnd place index count = edge place (index + 1) count := by
  rw [edge_succ, ← barBegin_eq place index positive, barEnd, barBegin]
  ring

/-- A bar reaches from its edge to the next one. -/
theorem bar_eq :
    bar place index count = Set.Icc (edge place index count) (edge place (index + 1) count) := by
  rw [bar, barBegin_eq place index positive, barEnd_eq place index positive]

theorem slot_eq : slot place = Set.Icc (edge place 0 count) (edge place count count) := by
  rw [slot, edge_zero, edge_count place positive]

/-! ## Tilings -/

theorem bar_subset_slot {index : Nat} (within : index < count) :
    bar place index count ⊆ slot place := by
  have edges := (edge_strictMono place positive).monotone
  rw [bar_eq place index positive, slot_eq place positive]
  exact Set.Icc_subset_Icc (edges index.zero_le) (edges (Nat.succ_le_of_lt within))

/-- From the first to the last of growing edges, every point is between neighbours. -/
theorem iUnion_Icc_succ {edges : Nat → ℚ} (grow : Monotone edges) :
    (⋃ index < count, Set.Icc (edges index) (edges (index + 1))) =
      Set.Icc (edges 0) (edges count) := by
  induction count, (positive : 1 ≤ count) using Nat.le_induction with
  | base => simp
  | succ count _ inductionHypothesis =>
    rw [Set.biUnion_lt_succ, inductionHypothesis,
      Set.Icc_union_Icc_eq_Icc (grow count.zero_le) (grow count.le_succ)]

theorem tiles : Tiles place count := by
  have rising := edge_strictMono place positive
  constructor
  case inside => exact fun index within => bar_subset_slot place positive within
  case ordered =>
    intro left right order _ x inLeft y inRight
    rw [bar_eq _ _ positive] at inLeft inRight
    calc x ≤ edge place (left + 1) count := inLeft.2
      _ ≤ edge place right count := rising.monotone (Nat.succ_le_of_lt order)
      _ ≤ y := inRight.1
  case adjacent =>
    intro index _
    rw [bar_eq _ _ positive, bar_eq _ _ positive, barEnd_eq _ _ positive, barBegin_eq _ _ positive]
    exact ⟨rfl, Set.Icc_inter_Icc_eq_singleton (rising index.lt_succ_self).le
      (rising (index + 1).lt_succ_self).le⟩
  case separate =>
    intro left right order _
    rw [bar_eq _ _ positive, bar_eq _ _ positive]
    refine Set.eq_empty_of_forall_notMem fun x inBoth => ?_
    obtain ⟨inLeft, inRight⟩ := inBoth
    exact absurd (inRight.1.trans inLeft.2) (rising order).not_ge
  case covered =>
    simp only [bar_eq _ _ positive, slot_eq place positive]
    exact iUnion_Icc_succ positive rising.monotone

omit positive in
/-- Slots leave a fifth between them. -/
theorem le_sub_of_mem_slots {place other : Nat} (order : place < other) {x y : ℚ}
    (inSlot : x ∈ slot place) (inOther : y ∈ slot other) : 1 / 5 ≤ y - x := by
  have apart : (place : ℚ) + 1 ≤ other := by exact_mod_cast order
  have right := inSlot.2
  have left := inOther.1
  linarith

end Slot

/-! ## Layouts -/

/-- A series follows the rule for bars in double precision: those of the metric at an index, of several,
around some places. -/
structure Series.FollowsRule (series : Series) (places : List Nat) (index count : Nat) : Prop where
  positions : series.positions = places.map fun place => Slot.barCenter place index count
  width : series.width? = some (Slot.barWidth count)

namespace Chart

variable {chart : Chart} {dataset : Dataset}

theorem center_of_bar (bar : chart.kind = .bar) (place index : Nat) :
    Binary64.ofNat place + chart.shift index = Slot.barCenter place index chart.metrics.length := by
  rw [shift, bar, Slot.barCenter, Binary64.natCast_eq_ofNat]

/-- The bars of a layout stand where the scenarios are that have their metric. -/
theorem bars_follow_rule (bar : chart.kind = .bar) {layout : Chart.Layout}
    (laidOut : chart.layout? dataset = some layout) :
    List.Forall₂
      (fun entry series =>
        series.FollowsRule (dataset.indices entry.1) entry.2 chart.metrics.length)
      chart.metrics.zipIdx layout.series := by
  obtain ⟨series, labels, drawn, _, rfl⟩ := (chart.layout?_eq_some_iff dataset layout).mp laidOut
  refine drawn.imp fun entry series made => ?_
  constructor
  case positions =>
    rw [(chart.series?_marks dataset made).2.1, placed_of_numbered, dataset.indices_eq, List.map_map,
      List.map_map]
    refine List.map_congr_left fun numbered _ => ?_
    rw [Function.comp_apply, Function.comp_apply, center_of_bar bar]
  case width => rw [chart.series?_width dataset made, if_pos bar, barWidth]

/-- The bars of every layout are centred and as wide as one rule says for any numbers. Over exact
numbers, any positive number of bars that follow it fill the slot of their scenario, one beside the
other, and bars of different scenarios are at least a fifth apart. -/
theorem grouped_bars_tile_slots :
    (∀ (chart : Chart) (dataset : Dataset) (layout : Chart.Layout), chart.kind = .bar →
      chart.layout? dataset = some layout →
        List.Forall₂
          (fun entry series =>
            series.FollowsRule (dataset.indices entry.1) entry.2 chart.metrics.length)
          chart.metrics.zipIdx layout.series) ∧
      ∀ count, 0 < count →
        (∀ place, Slot.Tiles place count) ∧
          ∀ place other, place ≠ other → ∀ index < count, ∀ otherIndex < count,
            ∀ x ∈ Slot.bar place index count, ∀ y ∈ Slot.bar other otherIndex count,
              1 / 5 ≤ |x - y| := by
  refine ⟨fun _ _ _ bar laidOut => bars_follow_rule bar laidOut, fun count positive => ⟨?_, ?_⟩⟩
  · exact fun place => Slot.tiles place positive
  · intro place other different index within otherIndex otherWithin x inBar y inOther
    have inSlot := Slot.bar_subset_slot place positive within inBar
    have inOtherSlot := Slot.bar_subset_slot other positive otherWithin inOther
    obtain order | order := Nat.lt_or_gt_of_ne different
    · rw [abs_sub_comm]
      exact (Slot.le_sub_of_mem_slots order inSlot inOtherSlot).trans (le_abs_self _)
    · exact (Slot.le_sub_of_mem_slots order inOtherSlot inSlot).trans (le_abs_self _)

/-- Three bars around the place of the third scenario: the first one ends at a third of the slot. -/
theorem three_bars_fill_third_slot :
    ∃ layout, repeatingChart.layout? gappyDataset = some layout ∧
      layout.series.map Series.width? = List.replicate 3 (some (Slot.barWidth 3)) ∧
      Slot.bar 2 0 3 ∩ Slot.bar 2 1 3 = {28 / 15} ∧
      (⋃ index < 3, Slot.bar 2 index 3) = Set.Icc (8 / 5) (12 / 5) ∧
      ∀ x ∈ Slot.bar 1 2 3, ∀ y ∈ Slot.bar 2 0 3, 1 / 5 ≤ |x - y| := by
  obtain ⟨layout, laidOut⟩ : ∃ layout, repeatingChart.layout? gappyDataset = some layout :=
    Option.isSome_iff_exists.mp (by decide +kernel)
  obtain ⟨rule, exactly⟩ := grouped_bars_tile_slots
  obtain ⟨tiles, apart⟩ := exactly 3 (by decide)
  have widths := (rule _ _ layout rfl laidOut).imp fun _ _ follows => follows.width.symm
  refine ⟨layout, laidOut, (map_eq_map_of_forall₂ widths).symm, ?_, ?_, ?_⟩
  · rw [((tiles 2).adjacent 0 (by decide)).2, Slot.barEnd_eq 2 0 (by decide), Slot.edge,
      Slot.barWidth_eq]
    norm_num
  · rw [(tiles 2).covered, Slot.slot]
    norm_num
  · exact apart 1 2 (by decide) 2 (by decide) 0 (by decide)

end Chart

end LoadReport
