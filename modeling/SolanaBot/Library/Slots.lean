import Mathlib.Data.List.Dedup
import Mathlib.Data.List.Sort
import Mathlib.Algebra.Order.Ring.Int
import Mathlib.Tactic.Ring

/-!
# Slots of a time line

Time is cut into slots of equal width. A chronological list of events fills some of the
slots, in ascending order. What a slot holds depends on the events of the slot alone, so two
lists that agree from the end of a slot on fill the same later slots.
-/

set_option autoImplicit false

namespace SolanaBot.Library

/-- The start of the slot that holds a time. -/
def slotOf (width t : ℤ) : ℤ := t / width * width

variable {ε : Type} {time : ε → ℤ} {width : ℤ}

/-- A slot begins at its time or before. -/
theorem slotOf_le (hwidth : 0 < width) (t : ℤ) : slotOf width t ≤ t :=
  Int.ediv_mul_le t hwidth.ne'

/-- A time is before the end of its slot. -/
theorem lt_slotOf_add (hwidth : 0 < width) (t : ℤ) : t < slotOf width t + width := by
  have h := Int.lt_ediv_add_one_mul_self t hwidth
  rwa [add_mul, one_mul] at h

/-- Later times are in later slots or the same. -/
theorem slotOf_mono (hwidth : 0 < width) {s t : ℤ} (h : s ≤ t) :
    slotOf width s ≤ slotOf width t :=
  mul_le_mul_of_nonneg_right (Int.ediv_le_ediv hwidth h) hwidth.le

/-- The slot of a later time begins at the end of the slot, or later. -/
theorem slotOf_add_le (hwidth : 0 < width) {s t : ℤ} (h : slotOf width s < slotOf width t) :
    slotOf width s + width ≤ slotOf width t := by
  unfold slotOf at h ⊢
  have hindex : s / width + 1 ≤ t / width := lt_of_mul_lt_mul_right h hwidth.le
  calc s / width * width + width = (s / width + 1) * width := by ring
    _ ≤ t / width * width := mul_le_mul_of_nonneg_right hindex hwidth.le

/-- A start of a slot is its own slot. -/
theorem slotOf_slotOf (hwidth : 0 < width) (t : ℤ) :
    slotOf width (slotOf width t) = slotOf width t := by
  unfold slotOf
  rw [Int.mul_ediv_cancel _ hwidth.ne']

/-- The slots that hold an event, each once. -/
def slots (time : ε → ℤ) (width : ℤ) (events : List ε) : List ℤ :=
  (events.map fun e => slotOf width (time e)).dedup

/-- The slots are those of the events. -/
theorem mem_slots {events : List ε} {s : ℤ} :
    s ∈ slots time width events ↔ ∃ e ∈ events, slotOf width (time e) = s := by
  unfold slots
  rw [List.mem_dedup, List.mem_map]

/-- The slots of chronological events ascend. -/
theorem slots_ascend (hwidth : 0 < width) {events : List ε}
    (h : events.Pairwise fun a b => time a ≤ time b) :
    (slots time width events).Pairwise (· < ·) := by
  have hle : (slots time width events).Pairwise (· ≤ ·) := by
    refine List.Pairwise.sublist (List.dedup_sublist _) ?_
    rw [List.pairwise_map]
    exact h.imp fun hab => slotOf_mono hwidth hab
  exact (hle.and (List.nodup_dedup _)).imp fun hab => lt_of_le_of_ne hab.1 hab.2

/-- The events of one slot. -/
def slotEvents (time : ε → ℤ) (width : ℤ) (events : List ε) (s : ℤ) : List ε :=
  events.filter fun e => slotOf width (time e) = s

/-- A slot that begins after a time begins at the end of the slot of this time, or later. -/
theorem slot_end_le (hwidth : 0 < width) {t u : ℤ} (h : t < slotOf width u) :
    slotOf width t + width ≤ slotOf width u :=
  slotOf_add_le hwidth ((slotOf_le hwidth t).trans_lt h)

section Agreement

variable {events events' : List ε} {t : ℤ}

/-- The events from the end of the slot of a time on. -/
def eventsFrom (time : ε → ℤ) (width t : ℤ) (events : List ε) : List ε :=
  events.filter fun e => slotOf width t + width ≤ time e

/-- A later slot holds events from the end of the slot on. -/
theorem slotEvents_eventsFrom (hwidth : 0 < width) {s : ℤ} (hs : t < s) :
    slotEvents time width (eventsFrom time width t events) s =
      slotEvents time width events s := by
  unfold slotEvents eventsFrom
  rw [List.filter_filter]
  refine List.filter_congr fun e _ => ?_
  rw [Bool.and_eq_left_iff_imp, decide_eq_true_eq, decide_eq_true_eq]
  rintro rfl
  exact (slot_end_le hwidth hs).trans (slotOf_le hwidth _)

/-- Lists that agree from the end of a slot on fill the same slots from there on. -/
theorem slots_agree (hwidth : 0 < width)
    (h : events.Pairwise fun a b => time a ≤ time b)
    (h' : events'.Pairwise fun a b => time a ≤ time b)
    (hagree : eventsFrom time width t events = eventsFrom time width t events') :
    (slots time width events).filter (fun s => t < s) =
      (slots time width events').filter (fun s => t < s) := by
  have hiff : ∀ e, t < slotOf width (time e) → (e ∈ events ↔ e ∈ events') := by
    intro e he
    have hlate : slotOf width t + width ≤ time e :=
      (slot_end_le hwidth he).trans (slotOf_le hwidth _)
    have hmem : ∀ l : List ε, e ∈ eventsFrom time width t l ↔ e ∈ l := by
      intro l
      unfold eventsFrom
      rw [List.mem_filter, decide_eq_true_eq, and_iff_left hlate]
    rw [← hmem events, hagree, hmem]
  refine List.Pairwise.eq_of_mem_iff ((slots_ascend hwidth h).filter _)
    ((slots_ascend hwidth h').filter _) fun s => ?_
  simp only [List.mem_filter, mem_slots, decide_eq_true_eq]
  constructor
  · rintro ⟨⟨e, he, rfl⟩, ht⟩
    exact ⟨⟨e, (hiff e ht).mp he, rfl⟩, ht⟩
  · rintro ⟨⟨e, he, rfl⟩, ht⟩
    exact ⟨⟨e, (hiff e ht).mpr he, rfl⟩, ht⟩

end Agreement

/-- In an ascending list the last element with a property is the greatest. -/
theorem reverse_find?_eq_some {l : List ℤ} (hl : l.Pairwise (· < ·)) {p : ℤ → Bool} {x : ℤ}
    (hx : x ∈ l) (hp : p x = true) (hmax : ∀ y ∈ l, p y = true → y ≤ x) :
    l.reverse.find? p = some x := by
  obtain ⟨before, after, rfl⟩ := List.append_of_mem hx
  have hafter : after.reverse.find? p = none := by
    rw [List.find?_eq_none]
    intro y hy hpy
    have hy' : y ∈ after := List.mem_reverse.mp hy
    have hlater : x < y :=
      (List.pairwise_cons.mp (List.pairwise_append.mp hl).2.1).1 y hy'
    have hle := hmax y (List.mem_append_right _ (List.mem_cons_of_mem _ hy')) hpy
    omega
  rw [List.reverse_append, List.reverse_cons, List.append_assoc, List.find?_append, hafter,
    Option.none_or, List.singleton_append, List.find?_cons_of_pos hp]

end SolanaBot.Library
