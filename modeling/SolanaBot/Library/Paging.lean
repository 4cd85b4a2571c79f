import Mathlib.Data.List.Nodup

/-!
# Lists read in pages

A list with distinct keys is read from its head in pages of bounded length. A page is asked for by a
cursor, the key of the last item read so far, and holds the items behind it. `Reading` is the invariant
of such a loop: what has been read is a first part of the list, and the cursor stands at its end.

A list that grows at its head is read again from there. Two such reads have the same items of a kind
exactly if they cover the same ones (`filter_reads_eq`).
-/

set_option autoImplicit false

namespace SolanaBot.Library

variable {α κ : Type*} [DecidableEq κ] (key : α → κ)

/-- The items behind the one with the key of the cursor, or all without a cursor. -/
def behind (items : List α) : Option κ → List α
  | none => items
  | some k => (items.dropWhile fun x => key x ≠ k).tail

/-- The page behind a cursor. -/
def pageBehind (limit : ℕ) (items : List α) (cursor : Option κ) : List α :=
  (behind key items cursor).take limit

/-- A first part of the items has been read, and the cursor stands at its end. -/
structure Reading (items read : List α) (cursor : Option κ) : Prop where
  is_prefix : read <+: items
  rest : read ++ behind key items cursor = items

variable {key}

/-- In the beginning nothing is read. -/
theorem Reading.start (items : List α) : Reading key items [] none :=
  ⟨List.nil_prefix, rfl⟩

/-- With distinct keys, the items behind the last of a first part are the rest. -/
theorem behind_append {read rest : List α} {x : α}
    (hdistinct : ((read ++ rest).map key).Nodup) (hlast : read.getLast? = some x) :
    behind key (read ++ rest) (some (key x)) = rest := by
  obtain ⟨front, rfl⟩ := List.getLast?_eq_some_iff.mp hlast
  have hfront : ∀ y ∈ front, key y ≠ key x := by
    intro y hy
    rw [List.append_assoc, List.map_append, List.nodup_append] at hdistinct
    exact hdistinct.2.2 (key y) (List.mem_map_of_mem hy) (key x) (by simp)
  have hdrop : ((front ++ [x] ++ rest).dropWhile fun y => key y ≠ key x) = x :: rest := by
    rw [List.append_assoc, List.dropWhile_append_of_pos]
    · simp
    · intro y hy
      simpa using hfront y hy
  change ((front ++ [x] ++ rest).dropWhile fun y => key y ≠ key x).tail = rest
  rw [hdrop, List.tail_cons]

/-- A run of the items behind the cursor is the page of its own length. -/
theorem pageBehind_of_prefix {items page : List α} {cursor : Option κ}
    (h : page <+: behind key items cursor) : page = pageBehind key page.length items cursor :=
  List.prefix_iff_eq_take.mp h

/-- Reading on: the page behind the cursor is appended, and the cursor goes to its last item. -/
theorem Reading.next {items read : List α} {cursor : Option κ} (h : Reading key items read cursor)
    (hdistinct : (items.map key).Nodup) {limit : ℕ} {x : α}
    (hlast : (pageBehind key limit items cursor).getLast? = some x) :
    Reading key items (read ++ pageBehind key limit items cursor) (some (key x)) := by
  have hitems : read ++ pageBehind key limit items cursor ++
      (behind key items cursor).drop limit = items := by
    rw [List.append_assoc, pageBehind, List.take_append_drop, h.rest]
  have hpage : (read ++ pageBehind key limit items cursor).getLast? = some x := by
    rw [List.getLast?_append, hlast]
    rfl
  refine ⟨⟨_, hitems⟩, ?_⟩
  have hbehind : behind key items (some (key x)) = (behind key items cursor).drop limit := by
    rw [← hitems] at hdistinct
    have hrest := behind_append hdistinct hpage
    rwa [hitems] at hrest
  rw [hbehind, hitems]

/-- What has been read together with the page is a first part of the list. -/
theorem Reading.prefix_page {items read : List α} {cursor : Option κ}
    (h : Reading key items read cursor) (limit : ℕ) :
    read ++ pageBehind key limit items cursor <+: items := by
  refine ⟨(behind key items cursor).drop limit, ?_⟩
  rw [List.append_assoc, pageBehind, List.take_append_drop, h.rest]

/-- A first part of a list without repetitions, as a filter of the whole list. -/
theorem filter_take {items : List α} [DecidableEq α] (hdistinct : items.Nodup) (p : α → Bool) (n : ℕ) :
    (items.take n).filter p = items.filter fun x => p x && decide (x ∈ items.take n) := by
  conv_lhs => rw [hdistinct.take_eq_filter_mem]
  rw [List.filter_filter]
  apply List.filter_congr
  intro x _
  rw [List.elem_eq_mem]

/-- A first part of what a list was before it has grown, as a filter of the grown list. -/
theorem filter_take_suffix {items old : List α} [DecidableEq α] (hdistinct : items.Nodup)
    (hgrown : old <:+ items) (p : α → Bool) (n : ℕ) :
    (old.take n).filter p = items.filter fun x => p x && decide (x ∈ old.take n) := by
  obtain ⟨added, rfl⟩ := hgrown
  have hsplit := List.nodup_append.mp hdistinct
  have hadded : (added.filter fun x => p x && decide (x ∈ old.take n)) = [] := by
    rw [List.filter_eq_nil_iff]
    intro x hx hkept
    rw [Bool.and_eq_true, decide_eq_true_iff] at hkept
    exact hsplit.2.2 x hx x (List.mem_of_mem_take hkept.2) rfl
  rw [List.filter_append, hadded, List.nil_append]
  exact filter_take hsplit.2.1 p n

/-- A read of a list and a read of what it was before it has grown have the same items of a kind if they
cover the same items of that kind. -/
theorem filter_reads_eq {items old : List α} [DecidableEq α] (hdistinct : items.Nodup)
    (hgrown : old <:+ items) {p : α → Bool} {n m : ℕ}
    (hcover : ∀ x ∈ items, p x = true → (x ∈ items.take n ↔ x ∈ old.take m)) :
    (items.take n).filter p = (old.take m).filter p := by
  rw [filter_take hdistinct, filter_take_suffix hdistinct hgrown]
  apply List.filter_congr
  intro x hx
  cases hp : p x with
  | false => rfl
  | true => simp only [hcover x hx hp]

end SolanaBot.Library
